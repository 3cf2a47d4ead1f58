import RequestBinding.Form.PartHeaders
import RequestBinding.Proofs.Request.MediaType
import Mathlib.Data.List.Infix

/-! The headers of a part as they are written, read again. A search for a name that starts anew behind what it
passes over can be led astray: it takes the second of two occurrences in a row for the name it looks for. -/

namespace RequestBinding.PartHeaders

section Search

variable {c : UInt8} {more skipped rest : List UInt8} {previous : Option UInt8} {fuel : Nat}

private theorem afterName_step {b : UInt8} (h : ¬ c :: more <+: b :: rest) (previous : Option UInt8) (fuel : Nat) :
    afterName (c :: more) previous (fuel + 1) (b :: rest) = afterName (c :: more) (some b) fuel rest := by
  rw [afterName, if_neg]
  rwa [List.isPrefixOf_iff_prefix]

private theorem afterName_skip (h : c ∉ skipped) (previous : Option UInt8) (fuel : Nat) :
    afterName (c :: more) previous (fuel + skipped.length) (skipped ++ rest) =
      afterName (c :: more) (skipped.getLast?.or previous) fuel rest := by
  induction skipped generalizing previous with
  | nil => simp
  | cons b skipped ih =>
    rw [List.mem_cons, not_or] at h
    rw [List.length_cons, ← Nat.add_assoc, List.cons_append,
      afterName_step fun hp => h.1 (List.cons_prefix_cons.1 hp).1, ih h.2, List.getLast?_cons]
    cases skipped.getLast? <;> rfl

private theorem afterName_counted (h : ∀ p, previous = some p → isSpace p = true ∨ p = 0x3B) (fuel : Nat) :
    afterName (c :: more) previous (fuel + 1) (c :: more ++ rest) = some rest := by
  have hyes : (c :: more).isPrefixOf (c :: (more ++ rest)) = true := by simp
  have hbehind : (c :: (more ++ rest)).drop (c :: more).length = rest := by simp
  rw [List.cons_append, afterName, if_pos hyes, hbehind]
  cases previous with
  | none => rfl
  | some p => simp [h p rfl]

private theorem afterName_passed {p : UInt8} (hs : isSpace p = false) (hp : p ≠ 0x3B) (fuel : Nat) :
    afterName (c :: more) (some p) (fuel + 1) (c :: more ++ rest) = afterName (c :: more) none fuel rest := by
  have hyes : (c :: more).isPrefixOf (c :: (more ++ rest)) = true := by simp
  have hbehind : (c :: (more ++ rest)).drop (c :: more).length = rest := by simp
  rw [List.cons_append, afterName, if_pos hyes, hbehind]
  simp [hs, hp]

end Search

private theorem readQuoted_plain {text : List UInt8} (h : ∀ b ∈ text, b ≠ 0x22 ∧ b ≠ 0x5C) {previous : UInt8}
    (hp : previous ≠ 0x5C) (found rest : List UInt8) :
    readQuoted previous found (text ++ 0x22 :: rest) = some (found.reverse ++ text) := by
  induction text generalizing previous found with
  | nil => simp [readQuoted, hp]
  | cons b text ih =>
    obtain ⟨hb, htext⟩ := List.forall_mem_cons.1 h
    rw [List.cons_append, readQuoted, if_neg hb.1, ih htext hb.2, List.reverse_cons, List.append_assoc]
    rfl

private theorem attributeValue_quoted {text : List UInt8} (h : ∀ b ∈ text, b ≠ 0x22 ∧ b ≠ 0x5C) (rest : List UInt8) :
    attributeValue (0x3D :: 0x22 :: (text ++ 0x22 :: rest)) = some text := by
  have hequals : isSpace 0x3D = false := by decide
  have hquote : isSpace 0x22 = false := by decide
  simp only [attributeValue, List.dropWhile_cons, hequals, hquote, Bool.false_eq_true, if_false]
  rw [readQuoted_plain h (by decide)]
  rfl

private theorem attributeValue_none {b : UInt8} (hs : isSpace b = false) (hb : b ≠ 0x3D) (rest : List UInt8) :
    attributeValue (b :: rest) = none := by
  simp only [attributeValue, List.dropWhile_cons, hs, Bool.false_eq_true, if_false]
  split
  · next h => exact absurd (List.cons.inj h).1 hb
  · rfl

private theorem separates_nothing {b : UInt8} (h : isTokenByte b = true) : isSpace b = false ∧ b ≠ 0x3B := by
  obtain ⟨⟨hlow, -⟩, hmem⟩ := isTokenByte_spec h
  refine ⟨?_, fun hb => hmem (by simp [hb])⟩
  have hne (k : UInt8) (hk : k.toNat ≤ 0x20) : (b == k) = false := by
    rw [beq_eq_false_iff_ne]
    rintro rfl
    omega
  simp [isSpace, hne]

section Hidden

variable {c : UInt8} {more text rest : List UInt8}

private theorem prefix_of_quoted (hq : (0x22 : UInt8) ∉ c :: more) (h : c :: more <+: text ++ 0x22 :: rest) :
    c :: more <+: text := by
  have hquoted : text ++ [0x22] <+: text ++ 0x22 :: rest := ⟨rest, by simp⟩
  rcases List.prefix_or_prefix_of_prefix h hquoted with h | h
  · rcases List.prefix_concat_iff.1 h with h | h
    · exact absurd (h ▸ by simp) hq
    · exact h
  · exact absurd (h.subset (by simp)) hq

private theorem infix_of_append {pattern before : List UInt8} (hc : c ∉ before) (h : c :: pattern <:+: before ++ text) :
    c :: pattern <:+: text := by
  induction before with
  | nil => exact h
  | cons b before ih =>
    rw [List.mem_cons, not_or] at hc
    rw [List.cons_append, List.infix_cons_iff] at h
    exact ih hc.2 (h.resolve_left fun h => hc.1 (List.cons_prefix_cons.1 h).1)

/-- A text is passed over to its end unless a name stands in it twice in a row. -/
private theorem afterName_clear (hq : (0x22 : UInt8) ∉ c :: more) (ht : ∀ b ∈ text, isTokenByte b = true)
    (hno : ¬ c :: more ++ c :: more <:+: text) {previous : Option UInt8}
    (hp : ∀ p, previous = some p → isSpace p = false ∧ p ≠ 0x3B) (hnone : previous = none → ¬ c :: more <+: text)
    (extra : Nat) :
    ∃ last fuel, extra ≤ fuel ∧
      afterName (c :: more) previous (extra + text.length) (text ++ 0x22 :: rest) =
        afterName (c :: more) last fuel (0x22 :: rest) := by
  induction hn : text.length using Nat.strong_induction_on generalizing text previous extra with
  | _ n ih =>
    subst hn
    by_cases hin : c :: more <+: text
    · -- The name counts nowhere in the text, so that the search starts anew behind it, where it does not stand again.
      obtain ⟨behind, rfl⟩ := hin
      obtain ⟨p, rfl⟩ := Option.ne_none_iff_exists'.1 fun hprevious => hnone hprevious (List.prefix_append ..)
      have hbehind : ¬ c :: more <+: behind := fun h => hno ((List.prefix_append_right_inj _).2 h).isInfix
      have hshorter : behind.length < (c :: more ++ behind).length := by
        simp only [List.length_append, List.length_cons]
        omega
      obtain ⟨last, fuel, hfuel, he⟩ := ih behind.length hshorter
        (fun b hb => ht b (List.mem_append_right _ hb)) (fun h => hno (h.trans (List.suffix_append ..).isInfix))
        (fun p (h : none = some p) => nomatch h) (fun _ => hbehind) (extra + more.length) rfl
      refine ⟨last, fuel, by omega, he ▸ ?_⟩
      have hlength : extra + (c :: more ++ behind).length = extra + more.length + behind.length + 1 := by
        simp only [List.length_append, List.length_cons]
        omega
      rw [hlength, List.append_assoc, afterName_passed (hp p rfl).1 (hp p rfl).2]
    · cases text with
      | nil => exact ⟨previous, extra, Nat.le_refl _, rfl⟩
      | cons b text =>
        obtain ⟨hb, htext⟩ := List.forall_mem_cons.1 ht
        obtain ⟨last, fuel, hfuel, he⟩ := ih text.length (by simp) htext (fun h => hno (List.infix_cons h))
          (fun p (h : some b = some p) => Option.some.inj h ▸ separates_nothing hb) (by simp) extra rfl
        refine ⟨last, fuel, hfuel, he ▸ ?_⟩
        rw [List.length_cons, ← Nat.add_assoc, List.cons_append, afterName_step]
        exact fun h => hin (prefix_of_quoted hq (by rwa [List.cons_append]))

/-- Where a name stands twice in a row in a text, the second occurrence counts, and has no value. -/
private theorem afterName_hidden (hc : c ∉ more) (hq : (0x22 : UInt8) ∉ c :: more)
    (ht : ∀ b ∈ text, isTokenByte b = true)
    {previous : Option UInt8} (hp : ∀ p, previous = some p → isSpace p = false ∧ p ≠ 0x3B)
    (h : c :: more ++ c :: more <:+: text ∨ previous = none ∧ c :: more <+: text) (fuel : Nat) :
    (afterName (c :: more) previous fuel (text ++ 0x22 :: rest)).bind attributeValue = none := by
  induction fuel generalizing text previous with
  | zero => rfl
  | succ fuel ih =>
    by_cases hin : c :: more <+: text
    · obtain ⟨behind, rfl⟩ := hin
      have hbehind : ∀ b ∈ behind, isTokenByte b = true := fun b hb => ht b (List.mem_append_right _ hb)
      rw [List.append_assoc]
      cases previous with
      | none =>
        rw [afterName_counted (by simp), Option.bind_some]
        cases behind with
        | nil => exact attributeValue_none (by decide) (by decide) _
        | cons b behind =>
          obtain ⟨hb, -⟩ := List.forall_mem_cons.1 hbehind
          exact attributeValue_none (separates_nothing hb).1 (fun h => (isTokenByte_spec hb).2 (by simp [h])) _
      | some p =>
        rw [afterName_passed (hp p rfl).1 (hp p rfl).2]
        refine ih hbehind (by simp) ?_
        rw [List.cons_append, List.cons_append, List.infix_cons_iff] at h
        rcases h.resolve_right (by simp) with h | h
        · exact .inr ⟨rfl, (List.prefix_append_right_inj (c :: more)).1 h⟩
        · exact .inl (infix_of_append hc h)
    · have htwice := h.resolve_right fun h => hin h.2
      cases text with
      | nil => simp at htwice
      | cons b text =>
        obtain ⟨hb, htext⟩ := List.forall_mem_cons.1 ht
        rw [List.cons_append, afterName_step fun h => hin (prefix_of_quoted hq (by rwa [List.cons_append]))]
        refine ih htext (fun p h => Option.some.inj h ▸ separates_nothing hb) (.inl ?_)
        exact (List.infix_cons_iff.1 htwice).resolve_left fun h => hin ((List.prefix_append ..).trans h)

end Hidden

/-- What follows the name of a part in its disposition. -/
def afterPartName : Option String → List UInt8
  | none => []
  | some file => Utf8.encode "; filename=\"" ++ Utf8.encode file ++ [0x22]

/-- The disposition of a part as it is written. -/
def disposition (name : String) (file : Option String) : List UInt8 :=
  Utf8.encode "form-data; name=\"" ++ Utf8.encode name ++ 0x22 :: afterPartName file

/-- Behind this text in the name of a part, the name of its file is not found. -/
def hidingText : List UInt8 := Utf8.encode "filenamefilename"

/-- A blank separates attributes, and a quote does not. -/
theorem separator {p : UInt8} (h : some 0x20 = some p) : isSpace p = true ∨ p = 0x3B := by
  obtain rfl := Option.some.inj h
  decide

private theorem not_separator {p : UInt8} (h : some 0x22 = some p) : isSpace p = false ∧ p ≠ 0x3B := by
  obtain rfl := Option.some.inj h
  decide

private theorem encode_filename : Utf8.encode "filename" = 0x66 :: Utf8.encode "ilename" := rfl

private theorem hidingText_eq : hidingText = 0x66 :: Utf8.encode "ilename" ++ 0x66 :: Utf8.encode "ilename" := rfl

section Attributes

variable {name : String} (hn : ∀ c ∈ name.toList, MediaType.isTokenChar c = true)
include hn

private theorem quotable : ∀ b ∈ Utf8.encode name, b ≠ 0x22 ∧ b ≠ 0x5C := by
  intro b hb
  have hmem := (isTokenByte_spec (MediaType.isTokenByte_of_mem_encode hn b hb)).2
  exact ⟨fun h => hmem (by simp [h]), fun h => hmem (by simp [h])⟩

theorem attribute?_name (file : Option String) : attribute? "name" (disposition name file) = some name := by
  have hpattern : Utf8.encode "name" = 0x6E :: [0x61, 0x6D, 0x65] := rfl
  have hlead : Utf8.encode "form-data; name=\"" = Utf8.encode "form-data; " ++ (0x6E :: [0x61, 0x6D, 0x65] ++ [0x3D, 0x22]) :=
    rfl
  have hskipped : (0x6E : UInt8) ∉ Utf8.encode "form-data; " := by decide
  have htext : disposition name file = Utf8.encode "form-data; " ++
      (0x6E :: [0x61, 0x6D, 0x65] ++ 0x3D :: 0x22 :: (Utf8.encode name ++ 0x22 :: afterPartName file)) := by
    rw [disposition, hlead]
    simp only [List.append_assoc, List.cons_append, List.nil_append]
  have hlength : (disposition name file).length + 1 =
      ((Utf8.encode name).length + (afterPartName file).length + 7) + 1 + (Utf8.encode "form-data; ").length := by
    rw [htext]
    simp only [List.length_append, List.length_cons, List.length_nil]
    omega
  rw [attribute?, hlength, htext, hpattern, afterName_skip hskipped]
  rw [afterName_counted, Option.bind_some, attributeValue_quoted (quotable hn), Option.bind_some, Utf8.decode?_encode]
  exact fun p hp => separator hp

omit hn in
private theorem afterName_disposition (file : Option String) :
    afterName (Utf8.encode "filename") none ((disposition name file).length + 1) (disposition name file) =
      afterName (Utf8.encode "filename") (some 0x22) ((afterPartName file).length + 2 + (Utf8.encode name).length)
        (Utf8.encode name ++ 0x22 :: afterPartName file) := by
  have hskipped : (0x66 : UInt8) ∉ Utf8.encode "orm-data; name=\"" := by decide
  have htext : disposition name file =
      0x66 :: (Utf8.encode "orm-data; name=\"" ++ (Utf8.encode name ++ 0x22 :: afterPartName file)) := by
    rw [disposition, List.append_assoc]
    rfl
  have hfirst : ¬ 0x66 :: Utf8.encode "ilename" <+:
      0x66 :: (Utf8.encode "orm-data; name=\"" ++ (Utf8.encode name ++ 0x22 :: afterPartName file)) := by
    intro h
    obtain ⟨rest, hrest⟩ := (List.cons_prefix_cons.1 h).2
    have hsecond : (0x69 : UInt8) = 0x6F := (List.cons.inj hrest).1
    exact absurd hsecond (by decide)
  have hlength : (disposition name file).length + 1 =
      (afterPartName file).length + 2 + (Utf8.encode name).length + (Utf8.encode "orm-data; name=\"").length + 1 := by
    rw [htext]
    simp only [List.length_append, List.length_cons]
    omega
  rw [hlength, htext, encode_filename, afterName_step hfirst, afterName_skip hskipped]
  rfl

/-- The name of a file is found behind that of its part, if that does not hide it. -/
theorem attribute?_filename (hno : ¬ hidingText <:+: Utf8.encode name) {file : Option String}
    (hf : ∀ text, file = some text → ∀ c ∈ text.toList, MediaType.isTokenChar c = true) :
    attribute? "filename" (disposition name file) = file := by
  rw [hidingText_eq] at hno
  obtain ⟨last, fuel, hfuel, hclear⟩ : ∃ last fuel, (afterPartName file).length + 2 ≤ fuel ∧
      afterName (0x66 :: Utf8.encode "ilename") (some 0x22) ((afterPartName file).length + 2 + (Utf8.encode name).length)
        (Utf8.encode name ++ 0x22 :: afterPartName file) =
      afterName (0x66 :: Utf8.encode "ilename") last fuel (0x22 :: afterPartName file) :=
    afterName_clear (by decide) (MediaType.isTokenByte_of_mem_encode hn) hno (fun _ => not_separator) (by simp) _
  rw [attribute?, afterName_disposition, encode_filename, hclear]
  cases file with
  | none =>
    have htwo : 2 ≤ fuel := Nat.le_of_add_left_le hfuel
    obtain ⟨left, rfl⟩ : ∃ left, fuel = left + 1 + 1 := ⟨fuel - 2, by omega⟩
    have hquote : ¬ 0x66 :: Utf8.encode "ilename" <+: 0x22 :: afterPartName none :=
      fun h => absurd (List.cons_prefix_cons.1 h).1 (by decide)
    rw [afterName_step hquote]
    rfl
  | some text =>
    have hskipped : (0x66 : UInt8) ∉ Utf8.encode "\"; " := by decide
    have hrest : 0x22 :: afterPartName (some text) =
        Utf8.encode "\"; " ++ (0x66 :: Utf8.encode "ilename" ++ 0x3D :: 0x22 :: (Utf8.encode text ++ [0x22])) := by
      rw [afterPartName, List.append_assoc]
      rfl
    have hlength := congrArg List.length hrest
    simp only [List.length_append, List.length_cons] at hlength
    obtain ⟨left, rfl⟩ : ∃ left, fuel = left + 1 + (Utf8.encode "\"; ").length :=
      ⟨fuel - 1 - (Utf8.encode "\"; ").length, by omega⟩
    rw [hrest, afterName_skip hskipped, afterName_counted, Option.bind_some,
      attributeValue_quoted (quotable (hf text rfl)), Option.bind_some, Utf8.decode?_encode]
    exact fun p hp => separator hp

theorem attribute?_filename_hidden (h : hidingText <:+: Utf8.encode name) (file : Option String) :
    attribute? "filename" (disposition name file) = none := by
  rw [hidingText_eq] at h
  rw [attribute?, afterName_disposition, encode_filename, afterName_hidden (by decide) (by decide)
    (MediaType.isTokenByte_of_mem_encode hn) (fun _ => not_separator) (.inl h)]
  rfl

end Attributes

private theorem isTokenByte_of_name? {name : List UInt8} {known : String} (h : Header.name? name = some known) :
    name ≠ [] ∧ ∀ b ∈ name, isTokenByte b = true := by
  unfold Header.name? at h
  split at h
  · next hall => exact ⟨hall.1, List.all_eq_true.1 hall.2.1⟩
  · cases h

private theorem afterLine_name {name : List UInt8} {known : String} (h : Header.name? name = some known)
    (rest : List UInt8) :
    afterLine (name ++ rest) = none := by
  obtain ⟨hne, htokens⟩ := isTokenByte_of_name? h
  obtain ⟨b, more, rfl⟩ := List.exists_cons_of_ne_nil hne
  have hlow := (isTokenByte_spec (htokens b List.mem_cons_self)).1.1
  have hno (k : UInt8) (hk : k.toNat ≤ 0x20) : b ≠ k := by
    rintro rfl
    omega
  unfold afterLine
  split
  · next he => exact absurd (List.cons.inj he).1 (hno 0x0A (by decide))
  · next he => exact absurd (List.cons.inj he).1 (hno 0x0D (by decide))
  · rfl

private theorem readOnto_line {name value : List UInt8} {known : String} (h : Header.name? name = some known)
    (hv : ∀ b ∈ value, isValueByte b = true) (hstart : value.dropWhile isBlank = value) (hend : trimEnd value = value)
    (found : List (String × List UInt8)) (room : Nat) (rest : List UInt8) :
    readOnto found (room + 1) (name ++ 0x3A :: 0x20 :: (value ++ 0x0D :: 0x0A :: rest)) =
      readOnto (Entries.put known value found) room rest := by
  have hname := (isTokenByte_of_name? h).2
  have hcolon : isTokenByte 0x3A = false := by decide
  have hreturn : isValueByte 0x0D = false := by decide
  have hvalue : (0x20 :: (value ++ 0x0D :: 0x0A :: rest)).dropWhile isBlank = value ++ 0x0D :: 0x0A :: rest := by
    have hblank : isBlank 0x20 = true := by decide
    have hvisible : isBlank 0x0D = false := by decide
    rw [List.dropWhile_cons_of_pos hblank, List.dropWhile_append, hstart, List.dropWhile_cons_of_neg (by simp [hvisible])]
    split
    · next hempty => rw [List.isEmpty_iff.1 hempty, List.nil_append]
    · rfl
  rw [readOnto, afterLine_name h]
  simp only [takeWhile_stop hname hcolon, dropWhile_stop hname hcolon, h, hvalue, takeWhile_stop hv hreturn,
    dropWhile_stop hv hreturn, afterLine, hend, Option.isSome_none, Bool.false_eq_true, if_false]

private theorem readOnto_end (found : List (String × List UInt8)) (room : Nat) :
    readOnto found (room + 1) [0x0D, 0x0A] = some found := rfl

private theorem trimEnd_concat {b : UInt8} (h : isBlank b = false) (value : List UInt8) :
    trimEnd (value ++ [b]) = value ++ [b] := by
  rw [trimEnd, List.reverse_append, List.reverse_singleton, List.singleton_append,
    List.dropWhile_cons_of_neg (by simp [h]), List.reverse_cons, List.reverse_reverse]

private theorem isValueByte_of_isTokenByte {b : UInt8} (h : isTokenByte b = true) : isValueByte b = true := by
  obtain ⟨⟨hlow, hhigh⟩, -⟩ := isTokenByte_spec h
  have hne : b ≠ 0x7F := by
    rintro rfl
    exact absurd hhigh (by decide)
  simp only [isValueByte, UInt8.le_iff_toNat_le, UInt8.reduceToNat, Bool.or_eq_true, Bool.and_eq_true,
    decide_eq_true_iff, bne_iff_ne]
  exact .inr ⟨by omega, hne⟩

/-- The content type that parts with a file are written with. -/
def octets : List UInt8 := Utf8.encode "application/octet-stream"

/-- The headers of a part as they are read. -/
def headersOf (name : String) : Option String → List (String × List UInt8)
  | none => [("content-disposition", disposition name none)]
  | some file => [("content-disposition", disposition name (some file)), ("content-type", octets)]

/-- The headers of a part as they are written, up to the end of their last line. -/
def writtenHeaders (name : String) : Option String → List UInt8
  | none => Utf8.encode "Content-Disposition: " ++ disposition name none
  | some file =>
    Utf8.encode "Content-Disposition: " ++ disposition name (some file) ++ Utf8.encode "\r\nContent-Type: " ++ octets

private theorem disposition_trimmed (name : String) (file : Option String) :
    (disposition name file).dropWhile isBlank = disposition name file ∧
      trimEnd (disposition name file) = disposition name file := by
  have hletter : ¬ isBlank 0x66 = true := by decide
  have hquote : isBlank 0x22 = false := by decide
  refine ⟨List.dropWhile_cons_of_neg hletter, ?_⟩
  cases file with
  | none => exact trimEnd_concat hquote _
  | some text =>
    have hend : disposition name (some text) =
        (Utf8.encode "form-data; name=\"" ++ Utf8.encode name ++ 0x22 :: (Utf8.encode "; filename=\"" ++ Utf8.encode text)) ++
          [0x22] := by
      simp only [disposition, afterPartName, List.append_assoc, List.cons_append]
    rw [hend]
    exact trimEnd_concat hquote _

section Read

variable {name : String} (hn : ∀ c ∈ name.toList, MediaType.isTokenChar c = true) {file : Option String}
  (hf : ∀ text, file = some text → ∀ c ∈ text.toList, MediaType.isTokenChar c = true)
include hn hf

theorem isValueByte_of_mem_disposition : ∀ b ∈ disposition name file, isValueByte b = true := by
  have htoken {text : String} (h : ∀ c ∈ text.toList, MediaType.isTokenChar c = true) :
      ∀ b ∈ Utf8.encode text, isValueByte b = true :=
    fun b hb => isValueByte_of_isTokenByte (MediaType.isTokenByte_of_mem_encode h b hb)
  have hlead : ∀ b ∈ Utf8.encode "form-data; name=\"", isValueByte b = true := List.all_eq_true.1 (by decide)
  have hmiddle : ∀ b ∈ Utf8.encode "; filename=\"", isValueByte b = true := List.all_eq_true.1 (by decide)
  have hquote : isValueByte 0x22 = true := by decide
  intro b hb
  simp only [disposition, List.mem_append, List.mem_cons] at hb
  rcases hb with (hb | hb) | rfl | hb
  · exact hlead b hb
  · exact htoken hn b hb
  · exact hquote
  · cases file with
    | none => cases hb
    | some text =>
      simp only [afterPartName, List.mem_append, List.mem_singleton] at hb
      rcases hb with (hb | hb) | rfl
      · exact hmiddle b hb
      · exact htoken (hf text rfl) b hb
      · exact hquote

theorem read_written : read (writtenHeaders name file ++ [0x0D, 0x0A, 0x0D, 0x0A]) = some (headersOf name file) := by
  have hdisposition : Header.name? (Utf8.encode "Content-Disposition") = some "content-disposition" := by decide
  have htype : Header.name? (Utf8.encode "Content-Type") = some "content-type" := by decide
  have hoctets : ∀ b ∈ octets, isValueByte b = true := List.all_eq_true.1 (by decide)
  have hfirst : Utf8.encode "Content-Disposition: " = Utf8.encode "Content-Disposition" ++ [0x3A, 0x20] := rfl
  have hvalue := isValueByte_of_mem_disposition hn hf
  obtain ⟨hstart, hend⟩ := disposition_trimmed name file
  cases file with
  | none =>
    have hlines : writtenHeaders name none ++ [0x0D, 0x0A, 0x0D, 0x0A] =
        Utf8.encode "Content-Disposition" ++ 0x3A :: 0x20 :: (disposition name none ++ 0x0D :: 0x0A :: [0x0D, 0x0A]) := by
      simp only [writtenHeaders, hfirst, List.append_assoc, List.cons_append, List.nil_append]
    rw [hlines, read, limit, readOnto_line hdisposition hvalue hstart hend, readOnto_end]
    rfl
  | some text =>
    have hsecond : Utf8.encode "\r\nContent-Type: " = 0x0D :: 0x0A :: (Utf8.encode "Content-Type" ++ [0x3A, 0x20]) := rfl
    have hlines : writtenHeaders name (some text) ++ [0x0D, 0x0A, 0x0D, 0x0A] =
        Utf8.encode "Content-Disposition" ++ 0x3A :: 0x20 :: (disposition name (some text) ++ 0x0D :: 0x0A ::
          (Utf8.encode "Content-Type" ++ 0x3A :: 0x20 :: (octets ++ 0x0D :: 0x0A :: [0x0D, 0x0A]))) := by
      simp only [writtenHeaders, hfirst, hsecond, List.append_assoc, List.cons_append, List.nil_append]
    rw [hlines, read, limit, readOnto_line hdisposition hvalue hstart hend, readOnto_line htype hoctets (by decide) (by decide),
      readOnto_end]
    rfl

end Read

end RequestBinding.PartHeaders
