import RequestBinding.Proofs.Form.UrlEncoded
import Mathlib.Data.List.Induction

/-! Written pairs as the named values they are read as. Nothing is lost: names stand in the order in which they first
appear, each with all its texts in their order. -/

namespace RequestBinding

private theorem Entries.names_update {α : Type} (name : String) (start : α) (change : α → α)
    (entries : List (String × α)) :
    (update name start change entries).map Prod.fst =
      if name ∈ entries.map Prod.fst then entries.map Prod.fst else entries.map Prod.fst ++ [name] := by
  induction entries with
  | nil => rfl
  | cons entry rest ih =>
    obtain ⟨own, old⟩ := entry
    by_cases h : name = own
    · simp [update, h]
    · rw [update, if_neg h, List.map_cons, ih]
      simp only [List.map_cons, List.mem_cons, h, false_or]
      split <;> rfl

namespace NamedValues

/-- The named values of pairs: each name where it first appears, with its texts in their order. -/
structure Groups (v : NamedValues) (pairs : List (String × String)) : Prop where
  names : v.entries.map Prod.fst = (pairs.map Prod.fst).eraseDups
  all (name : String) : v.all? name = if textsOf name pairs = [] then none else some (textsOf name pairs)
  first (name : String) : v.first? name = (textsOf name pairs).head?
  contains (name : String) : v.contains name = true ↔ ∃ text, (name, text) ∈ pairs
  size : v.texts.length = pairs.length
  multi (name : String) : v.fragments name (some .multi) = v.all? name
  single (name : String) {format : Option CollectionFormat} : format ≠ some .multi →
    v.fragments name format = (textsOf name pairs).head?.map ([·])

variable (pairs : List (String × String)) (name : String)

private theorem ofPairs_concat (text : String) : ofPairs (pairs ++ [(name, text)]) =
    (ofPairs pairs).append name text := by
  rw [ofPairs, List.foldl_concat]
  rfl

private theorem names_ofPairs : (ofPairs pairs).entries.map Prod.fst = (pairs.map Prod.fst).eraseDups := by
  induction pairs using List.reverseRecOn with
  | nil => rfl
  | append_singleton pairs pair ih =>
    obtain ⟨name, text⟩ := pair
    rw [ofPairs_concat, append, Entries.names_update, ih, List.map_append, List.eraseDups_append]
    by_cases h : name ∈ pairs.map Prod.fst
    · simp [h, List.removeAll]
    · simp [h, List.removeAll, List.eraseDups_cons]

private theorem length_texts_ofPairs : (ofPairs pairs).texts.length = pairs.length := by
  induction pairs using List.reverseRecOn with
  | nil => rfl
  | append_singleton pairs pair ih =>
    rw [ofPairs_concat, ((ofPairs pairs).texts_append _ _).length_eq, List.length_cons, ih, List.length_append]
    rfl

private theorem textsOf_eq_nil_iff : textsOf name pairs = [] ↔ ∀ text, (name, text) ∉ pairs := by
  simp only [textsOf, List.map_eq_nil_iff, List.filter_eq_nil_iff, beq_iff_eq]
  constructor
  · exact fun h text hm => h _ hm rfl
  · rintro h ⟨own, text⟩ hm rfl
    exact h text hm

/-- Grouping loses nothing of the pairs, whatever names are among them. -/
theorem groups_ofPairs : (ofPairs pairs).Groups pairs where
  names := names_ofPairs pairs
  all name := all?_ofPairs name pairs
  first name := by
    rw [first?, all?_ofPairs]
    split <;> simp_all
  contains name := by
    have hsome : (ofPairs pairs).contains name = ((ofPairs pairs).all? name).isSome := rfl
    rw [hsome, all?_ofPairs]
    split
    · next h => simpa using (textsOf_eq_nil_iff pairs name).1 h
    · next h => simpa [textsOf_eq_nil_iff] using h
  size := length_texts_ofPairs pairs
  multi name := rfl
  single name format h := by
    have hfirst : (ofPairs pairs).fragments name format = ((ofPairs pairs).all? name).bind fun all =>
        all.head?.map fun first => [first] := by
      unfold fragments
      split
      · exact absurd rfl h
      · rfl
    rw [hfirst, all?_ofPairs]
    split
    · next hnone => rw [hnone]; rfl
    · rfl

end NamedValues

namespace UrlEncoded

/-- Every percent sign in a text starts an escape in it, so that what comes after the text is read by itself. -/
def Escaped (text : List UInt8) : Prop := ∀ rest, badEscape? (text ++ rest) = badEscape? rest

theorem Escaped.nil : Escaped [] := fun _ => rfl

theorem Escaped.append {first second : List UInt8} (hf : Escaped first) (hs : Escaped second) :
    Escaped (first ++ second) := by
  intro rest
  rw [List.append_assoc, hf, hs]

theorem Escaped.byte {b : UInt8} (h : b ≠ 0x25) : Escaped [b] := by
  intro rest
  rw [List.singleton_append, badEscape?]
  · rintro high low rest rfl
    exact absurd rfl h
  · exact h

theorem Escaped.intercalate {parts : List (List UInt8)} (h : ∀ part ∈ parts, Escaped part) :
    Escaped ([0x26].intercalate parts) := by
  induction parts with
  | nil => exact .nil
  | cons part rest ih =>
    obtain ⟨hpart, hrest⟩ := List.forall_mem_cons.1 h
    cases rest with
    | nil => rwa [List.intercalate_singleton]
    | cons next rest =>
      rw [List.intercalate_cons_cons]
      exact (hpart.append (.byte (by decide))).append (ih hrest)

private theorem escaped_written {bytes text : List UInt8} (h : Written bytes text) : Escaped text := by
  induction h with
  | nil => exact .nil
  | escape hh hl _ ih =>
    intro rest
    rw [List.cons_append, List.cons_append, List.cons_append, badEscape?, escaped?_digits hh hl]
    exact ih rest
  | @itself b _ _ hb _ ih =>
    have hpercent : b ≠ 0x25 := fun he => hb (by rw [he]; decide)
    exact Escaped.append (.byte hpercent) ih
  | blank _ ih => exact Escaped.append (.byte (by decide)) ih

variable {pairs : List (String × String)} {segment text : List UInt8}

private theorem escaped_writtenPair {pair : String × String} (h : WrittenPair pair segment) : Escaped segment := by
  obtain ⟨name, value, hname, hvalue, rfl⟩ := h
  exact (escaped_written hname).append (Escaped.append (.byte (by decide)) (escaped_written hvalue))

private theorem escaped_writtenPairs (h : WrittenPairs pairs text) : Escaped text := by
  obtain ⟨segments, hsegments, rfl⟩ := h
  refine .intercalate ?_
  induction hsegments with
  | nil => simp
  | cons hpair _ ih => exact List.forall_mem_cons.2 ⟨escaped_writtenPair hpair, ih⟩

private theorem parseForm_written (h : WrittenPairs pairs text) : parseForm text = .ok (.ofPairs pairs) := by
  have hgood : badEscape? text = none := by simpa [badEscape?] using escaped_writtenPairs h []
  rw [parseForm, hgood, parse, pairs_written h]

/-- Pairs that are written, however they are escaped, are read as the named values that they are, in a form and in a
query. -/
theorem decode_written (h : WrittenPairs pairs text) : ∃ v : NamedValues, v.Groups pairs ∧ parseForm text = .ok v ∧
    ∀ query, Utf8.encode query = text → parseQuery (some query) = v := by
  refine ⟨.ofPairs pairs, NamedValues.groups_ofPairs pairs, parseForm_written h, ?_⟩
  rintro query rfl
  exact parseQuery_written h

/-- A name of two bytes in escapes of both cases and then as it is, around a pair that is empty on both sides. -/
theorem decode_written_of_mixed_escapes :
    let query := "%C3%a9=a+b&=&é=%26"
    let pairs := [("é", "a b"), ("", ""), ("é", "&")]
    WrittenPairs pairs (Utf8.encode query) ∧ ∃ v : NamedValues, v.Groups pairs ∧
      parseForm (Utf8.encode query) = .ok v ∧ parseQuery (some query) = v ∧ v.all? "é" = some ["a b", "&"] := by
  intro query pairs
  have hdigit (n : Nat) (b : UInt8) (h : (digits.any fun row => row[n]? == some b) = true) : IsDigit n b := by
    simpa [IsDigit] using h
  have hescaped : Written (Utf8.encode "é") (Utf8.encode "%C3%a9") :=
    .escape (hdigit _ _ (by decide +kernel)) (hdigit _ _ (by decide +kernel))
      (.escape (hdigit _ _ (by decide +kernel)) (hdigit _ _ (by decide +kernel)) .nil)
  have hblank : Written (Utf8.encode "a b") (Utf8.encode "a+b") :=
    .itself (by decide) (.blank (.itself (by decide) .nil))
  have hmark : Written (Utf8.encode "&") (Utf8.encode "%26") :=
    .escape (hdigit _ _ (by decide +kernel)) (hdigit _ _ (by decide +kernel)) .nil
  have hwritten : WrittenPairs pairs (Utf8.encode query) :=
    ⟨[Utf8.encode "%C3%a9=a+b", Utf8.encode "=", Utf8.encode "é=%26"],
      .cons ⟨_, _, hescaped, hblank, rfl⟩ (.cons ⟨_, _, .nil, .nil, rfl⟩
        (.cons ⟨_, _, .plain (by decide), hmark, rfl⟩ .nil)), by decide +kernel⟩
  obtain ⟨v, hgroups, hform, hquery⟩ := decode_written hwritten
  exact ⟨hwritten, v, hgroups, hform, hquery query rfl, (hgroups.all "é").trans (by decide)⟩

end UrlEncoded
end RequestBinding
