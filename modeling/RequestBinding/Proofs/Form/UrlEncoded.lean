import RequestBinding.Form.UrlEncoded
import RequestBinding.Proofs.NamedValues
import RequestBinding.Proofs.Request.MediaType
import RequestBinding.Proofs.Collection
import RequestBinding.Proofs.Text.Utf8
import Mathlib.Data.List.Forall2

/-! Pairs written in one text. However their bytes are escaped, the pairs are read again, each name and each value as
it was. -/

namespace RequestBinding.UrlEncoded

/-- The digits of base sixteen, with letters of either case. -/
def digits : List (List UInt8) := [Utf8.encode "0123456789ABCDEF", Utf8.encode "0123456789abcdef"]

def IsDigit (n : Nat) (b : UInt8) : Prop := ∃ row ∈ digits, row[n]? = some b

/-- The bytes that stand between names and values and in escapes. -/
def marks : List UInt8 := Utf8.encode "&=+%"

/-- The bytes of a text as they are written: each in an escape of two digits, or as itself if it is no mark, or as a
plus sign if it is a blank. -/
inductive Written : List UInt8 → List UInt8 → Prop
  | nil : Written [] []
  | escape {b high low bytes text} : IsDigit (b.toNat / 16) high → IsDigit (b.toNat % 16) low → Written bytes text →
      Written (b :: bytes) (0x25 :: high :: low :: text)
  | itself {b bytes text} : b ∉ marks → Written bytes text → Written (b :: bytes) (b :: text)
  | blank {bytes text} : Written bytes text → Written (0x20 :: bytes) (0x2B :: text)

/-- A name and its value as they are written, an equals sign between them. -/
def WrittenPair (pair : String × String) (text : List UInt8) : Prop :=
  ∃ name value, Written (Utf8.encode pair.1) name ∧ Written (Utf8.encode pair.2) value ∧ text = name ++ 0x3D :: value

/-- Pairs as they are written, ampersands between them. -/
def WrittenPairs (pairs : List (String × String)) (text : List UInt8) : Prop :=
  ∃ segments, List.Forall₂ WrittenPair pairs segments ∧ text = [0x26].intercalate segments

theorem isDigit_spec {n : Nat} {b : UInt8} (h : IsDigit n b) : hexValue? b = some n ∧ b ∉ marks := by
  have hall : ∀ row ∈ digits, row.length = 16 ∧ ∀ n < 16, ∀ b ∈ row[n]?, hexValue? b = some n ∧ b ∉ marks := by
    decide +kernel
  obtain ⟨row, hrow, hb⟩ := h
  obtain ⟨hlength, hdigits⟩ := hall row hrow
  exact hdigits n (hlength ▸ (List.getElem?_eq_some_iff.1 hb).1) b hb

theorem escaped?_digits {b high low : UInt8} (hh : IsDigit (b.toNat / 16) high) (hl : IsDigit (b.toNat % 16) low) :
    escaped? high low = some b := by
  rw [escaped?, (isDigit_spec hh).1, (isDigit_spec hl).1]
  simp only [Nat.div_add_mod', UInt8.ofNat_toNat]

private theorem decodeOnto_written {bytes text : List UInt8} (h : Written bytes text) (found : List UInt8) :
    decodeOnto found text = found.reverse ++ bytes := by
  induction h generalizing found with
  | nil => rw [decodeOnto, List.append_nil]
  | escape hh hl _ ih =>
    rw [decodeOnto, escaped?_digits hh hl]
    simp only [ih, List.reverse_cons, List.append_assoc, List.singleton_append]
  | @itself b bytes text hb _ ih =>
    have hpercent : b ≠ 0x25 := fun he => hb (by rw [he]; decide)
    have hplus : b ≠ 0x2B := fun he => hb (by rw [he]; decide)
    rw [decodeOnto, if_neg hplus, ih, List.reverse_cons, List.append_assoc, List.singleton_append]
    rintro high low rest rfl
    exact absurd rfl hpercent
  | blank _ ih =>
    rw [decodeOnto, if_pos rfl, ih, List.reverse_cons, List.append_assoc, List.singleton_append]
    rintro high low rest he
    cases he

/-- Bytes without marks may be written as they are. -/
theorem Written.plain {bytes : List UInt8} (h : (bytes.all fun b => !marks.contains b) = true) :
    Written bytes bytes := by
  induction bytes with
  | nil => exact .nil
  | cons b rest ih =>
    obtain ⟨hhead, hrest⟩ := Bool.and_eq_true_iff.1 h
    exact .itself (by simpa using hhead) (ih hrest)

private theorem component_written {value : String} {text : List UInt8} (h : Written (Utf8.encode value) text) :
    component text = value := by
  rw [component, decode, decodeOnto_written h, List.reverse_nil, List.nil_append, Utf8.decodeLossy_encode]

private theorem mem_written {bytes text : List UInt8} (h : Written bytes text) :
    ∀ b ∈ text, b = 0x25 ∨ b = 0x2B ∨ b ∉ marks := by
  induction h with
  | nil => simp
  | escape hh hl _ ih =>
    refine List.forall_mem_cons.2 ⟨.inl rfl, List.forall_mem_cons.2 ⟨.inr (.inr (isDigit_spec hh).2), ?_⟩⟩
    exact List.forall_mem_cons.2 ⟨.inr (.inr (isDigit_spec hl).2), ih⟩
  | itself hb _ ih => exact List.forall_mem_cons.2 ⟨.inr (.inr hb), ih⟩
  | blank _ ih => exact List.forall_mem_cons.2 ⟨.inr (.inl rfl), ih⟩

private theorem ne_of_mem_written {bytes text : List UInt8} (h : Written bytes text) {b : UInt8} (hb : b ∈ text) :
    b ≠ 0x26 ∧ b ≠ 0x3D := by
  rcases mem_written h b hb with rfl | rfl | hmarks
  · decide
  · decide
  · exact ⟨fun he => hmarks (he ▸ by decide), fun he => hmarks (he ▸ by decide)⟩

variable {pair : String × String} {pairs : List (String × String)} {segment text : List UInt8}

private theorem pair_written (h : WrittenPair pair segment) : UrlEncoded.pair segment = pair := by
  obtain ⟨name, value, hname, hvalue, rfl⟩ := h
  have hplain : ∀ b ∈ name, (b != 0x3D) = true := fun b hb => bne_iff_ne.2 (ne_of_mem_written hname hb).2
  rw [UrlEncoded.pair, takeWhile_stop hplain (by decide), dropWhile_stop hplain (by decide), List.drop_one,
    List.tail_cons, component_written hname, component_written hvalue]

private theorem writtenPair_spec (h : WrittenPair pair segment) : segment ≠ [] ∧ 0x26 ∉ segment := by
  obtain ⟨name, value, hname, hvalue, rfl⟩ := h
  refine ⟨by simp, ?_⟩
  rw [List.mem_append, List.mem_cons, not_or, not_or]
  exact ⟨fun hb => (ne_of_mem_written hname hb).1 rfl, by decide, fun hb => (ne_of_mem_written hvalue hb).1 rfl⟩

private theorem segments_written {segments : List (List UInt8)} (h : List.Forall₂ WrittenPair pairs segments) :
    segments.map UrlEncoded.pair = pairs ∧ ∀ segment ∈ segments, segment ≠ [] ∧ 0x26 ∉ segment := by
  induction h with
  | nil => exact ⟨rfl, by simp⟩
  | cons hpair _ ih =>
    rw [List.map_cons, pair_written hpair, ih.1]
    exact ⟨rfl, List.forall_mem_cons.2 ⟨writtenPair_spec hpair, ih.2⟩⟩

/-- Pairs that are written are read again, all of them and in their order. -/
theorem pairs_written (h : WrittenPairs pairs text) : UrlEncoded.pairs text = pairs := by
  obtain ⟨segments, hsegments, rfl⟩ := h
  obtain ⟨hpairs, hspec⟩ := segments_written hsegments
  have hkept : segments.filter (· ≠ []) = segments :=
    List.filter_eq_self.2 fun segment hm => by simpa using (hspec segment hm).1
  by_cases hne : segments = []
  · subst hne
    exact hpairs
  · rw [UrlEncoded.pairs, stretches_intercalate hne fun segment hm => (hspec segment hm).2, hkept, hpairs]

/-- A query in which pairs are written is read as these pairs. -/
theorem parseQuery_written {query : String} (h : WrittenPairs pairs (Utf8.encode query)) :
    parseQuery (some query) = .ofPairs pairs := by
  rw [parseQuery, parse, pairs_written h]

end RequestBinding.UrlEncoded
