import RequestBinding.Json.Literal
import RequestBinding.Json.Writer
import RequestBinding.Proofs.Text.Utf8
import Mathlib.Data.List.TakeWhile

/-! Numbers and strings are read back from their text: integers of 64 bits and strings of all characters, whatever
follows them in a text. -/

namespace RequestBinding

namespace Utf8

/-- Characters as bytes. -/
def bytes (text : List Char) : List UInt8 := text.flatMap String.utf8EncodeChar

theorem encode_ofList (text : List Char) : encode (String.ofList text) = bytes text := by
  rw [encode, String.toList_ofList, bytes]

@[simp] theorem bytes_cons (c : Char) (text : List Char) : bytes (c :: text) = String.utf8EncodeChar c ++ bytes text := rfl

@[simp] theorem bytes_append (first second : List Char) : bytes (first ++ second) = bytes first ++ bytes second :=
  List.flatMap_append

private theorem bytes_ascii {text : List Char} (h : ∀ c ∈ text, c.toNat < 128) :
    bytes text = text.map fun c => .ofNat c.toNat := by
  rw [← encode_ofList, encode_ascii (by simpa using h), String.toList_ofList]

private theorem toNat_of_mem_encodeChar {c : Char} {b : UInt8} (h : b ∈ String.utf8EncodeChar c) :
    c.toNat < 128 ∧ b = .ofNat c.toNat ∨ 128 ≤ b.toNat := by
  have hspells := spells_char c
  have hhigh (n : Nat) (hl : 128 ≤ n) (hg : n < 256) : 128 ≤ (UInt8.ofNat n).toNat := by
    rwa [UInt8.toNat_ofNat_of_lt' hg]
  generalize String.utf8EncodeChar c = bytes at h hspells
  generalize c.toNat = n at hspells
  cases hspells with
  | one ha => exact .inl ⟨ha, List.mem_singleton.1 h⟩
  | two ha ha' hb =>
    simp only [List.mem_cons, List.not_mem_nil, or_false] at h
    rcases h with rfl | rfl <;> exact .inr (hhigh _ (by omega) (by omega))
  | three ha hb hc _ _ =>
    simp only [List.mem_cons, List.not_mem_nil, or_false] at h
    rcases h with rfl | rfl | rfl <;> exact .inr (hhigh _ (by omega) (by omega))
  | four ha hb hc hd _ _ =>
    simp only [List.mem_cons, List.not_mem_nil, or_false] at h
    rcases h with rfl | rfl | rfl | rfl <;> exact .inr (hhigh _ (by omega) (by omega))

end Utf8

namespace Json

open Utf8 (bytes bytes_cons bytes_append bytes_ascii)

section Numbers

variable {rest : List UInt8}

/-- Nothing follows, or what may stand behind a value in an array or an object. -/
def Ends (rest : List UInt8) : Prop := ∀ b ∈ rest.head?, b = 0x2C ∨ b = 0x5D ∨ b = 0x7D

private theorem isDigit_of_ends (h : Ends rest) : ∀ b ∈ rest.head?, isDigit b = false := by
  intro b hb
  rcases h b hb with rfl | rfl | rfl <;> decide

/-- The values of the digits of a number. -/
def digitValues (n : Nat) : List Nat := (digits n).map fun c => c.toNat - 48

theorem toNat_of_mem_digits {n : Nat} {c : Char} (h : c ∈ digits n) : 48 ≤ c.toNat ∧ c.toNat ≤ 57 := by
  have hdigit := Nat.isDigit_of_mem_toDigits (by decide) (by decide) h
  simpa [Char.isDigit, UInt32.le_iff_toNat_le] using hdigit

private theorem bytes_digits (n : Nat) : bytes (digits n) = (digits n).map fun c => .ofNat c.toNat :=
  bytes_ascii fun c hc => by have := toNat_of_mem_digits hc; omega

private theorem isDigit_of_mem_bytes {n : Nat} {b : UInt8} (h : b ∈ bytes (digits n)) : isDigit b = true := by
  rw [bytes_digits] at h
  obtain ⟨c, hc, rfl⟩ := List.mem_map.1 h
  have hrange := toNat_of_mem_digits hc
  have hb : (UInt8.ofNat c.toNat).toNat = c.toNat := UInt8.toNat_ofNat_of_lt' (Nat.lt_of_le_of_lt hrange.2 (by decide))
  simp only [isDigit, UInt8.le_iff_toNat_le, hb, Bool.and_eq_true, decide_eq_true_eq, UInt8.reduceToNat]
  exact hrange

/-- A number starts with a digit. -/
theorem exists_bytes_digits (n : Nat) : ∃ b more, bytes (digits n) = b :: more ∧ isDigit b = true := by
  cases h : bytes (digits n) with
  | nil =>
    rw [bytes_digits, List.map_eq_nil_iff] at h
    exact absurd h Nat.toDigits_ne_nil
  | cons b more => exact ⟨b, more, rfl, isDigit_of_mem_bytes (h ▸ List.mem_cons_self ..)⟩

private theorem digitsOf_digits (n : Nat) (h : ∀ b ∈ rest.head?, isDigit b = false) :
    digitsOf (bytes (digits n) ++ rest) = digitValues n := by
  have hstop : rest.takeWhile isDigit = [] := by
    cases rest with
    | nil => rfl
    | cons b more => exact List.takeWhile_cons_of_neg (by simp [h b rfl])
  rw [digitsOf, List.takeWhile_append_of_pos (fun b hb => isDigit_of_mem_bytes hb), hstop, List.append_nil, bytes_digits,
    List.map_map, digitValues]
  refine List.map_congr_left fun c hc => ?_
  rw [Function.comp_apply, UInt8.toNat_ofNat_of_lt' (Nat.lt_of_le_of_lt (toNat_of_mem_digits hc).2 (by decide))]

private theorem length_digitValues (n : Nat) : (digitValues n).length = (bytes (digits n)).length := by
  rw [digitValues, bytes_digits, List.length_map, List.length_map]

private theorem foldl_digitValues (n : Nat) : (digitValues n).foldl (fun value d => value * 10 + d) 0 = n := by
  have hfold := Nat.ofDigitChars_ten_toDigits (n := n)
  rw [Nat.ofDigitChars_eq_foldl] at hfold
  rw [digitValues, List.foldl_map, digits]
  simpa only [Nat.mul_comm, show '0'.toNat = 48 from rfl] using hfold

private theorem head_digitValues {n : Nat} (h : n ≠ 0) : ∃ d more, digitValues n = d :: more ∧ d ≠ 0 := by
  induction n using Nat.strong_induction_on with
  | _ n ih =>
    by_cases hn : n < 10
    · have hone : ∀ m < 10, m.digitChar.toNat - 48 = m := by decide
      refine ⟨n, [], ?_, h⟩
      rw [digitValues, digits, Nat.toDigits_of_lt_base hn, List.map_singleton, hone n hn]
    · obtain ⟨d, more, hd, hne⟩ := ih (n / 10) (by omega) (by omega)
      refine ⟨d, more ++ [(n % 10).digitChar.toNat - 48], ?_, hne⟩
      rw [digitValues, digits, Nat.toDigits_of_base_le (by decide) (by omega), List.map_append]
      exact congrArg (· ++ [(n % 10).digitChar.toNat - 48]) hd

private theorem fill_eq (limit : Nat) (ds : List Nat) (value : Nat)
    (h : ds.foldl (fun value d => value * 10 + d) value ≤ limit) :
    fill limit value ds = (ds.foldl (fun value d => value * 10 + d) value, []) := by
  have hgrows (ds : List Nat) (value : Nat) : value ≤ ds.foldl (fun value d => value * 10 + d) value := by
    induction ds generalizing value with
    | nil => exact Nat.le_refl value
    | cons d ds ih => exact Nat.le_trans (by omega) (ih (value * 10 + d))
  induction ds generalizing value with
  | nil => rfl
  | cons d ds ih =>
    rw [List.foldl_cons] at h ⊢
    rw [fill, if_pos (Nat.le_trans (hgrows ds _) h), ih _ h]

private theorem fill_digitValues {limit n : Nat} (h : n ≤ limit) : fill limit 0 (digitValues n) = (n, []) := by
  rw [fill_eq limit _ 0 (by rwa [foldl_digitValues]), foldl_digitValues]

private theorem scanWhole_digits (n offset : Nat) (h : ∀ b ∈ rest.head?, isDigit b = false) :
    scanWhole ⟨offset, bytes (digits n) ++ rest⟩ =
      .ok (digitValues n, ⟨offset + (bytes (digits n)).length, rest⟩) := by
  have hscan : scanDigits ⟨offset, bytes (digits n) ++ rest⟩ =
      .ok (digitValues n, ⟨offset + (bytes (digits n)).length, rest⟩) := by
    have hne : digitValues n ≠ [] := by simp [digitValues, digits, Nat.toDigits_ne_nil]
    rw [scanDigits, digitsOf_digits n h, if_neg hne, Place.advance, length_digitValues, List.drop_left]
  rw [scanWhole, hscan]
  by_cases hn : n = 0
  · subst hn
    rfl
  · obtain ⟨d, more, hd, hne⟩ := head_digitValues hn
    simp only [hd, bind, Except.bind]
    split
    · next heq => exact absurd (List.cons.inj heq).1 hne
    · rfl

private theorem scanFraction_ends (offset : Nat) (h : Ends rest) :
    scanFraction ⟨offset, rest⟩ = .ok (none, ⟨offset, rest⟩) := by
  cases rest with
  | nil => rfl
  | cons b more => rcases h b rfl with rfl | rfl | rfl <;> rfl

private theorem scanExponent_ends (offset : Nat) (h : Ends rest) :
    scanExponent ⟨offset, rest⟩ = .ok (none, ⟨offset, rest⟩) := by
  cases rest with
  | nil => rfl
  | cons b more => rcases h b rfl with rfl | rfl | rfl <;> rfl

private theorem scanNumber_negative (offset : Nat) (rest : List UInt8) :
    scanNumber ⟨offset, 0x2D :: rest⟩ = (do
      let (whole, p) ← scanWhole ⟨offset + 1, rest⟩
      let (fraction, p) ← scanFraction p
      let (exponent, p) ← scanExponent p
      .ok (⟨true, whole, fraction, exponent⟩, p)) := rfl

private theorem scanNumber_positive (offset : Nat) {b : UInt8} (h : isDigit b = true) (rest : List UInt8) :
    scanNumber ⟨offset, b :: rest⟩ = (do
      let (whole, p) ← scanWhole ⟨offset, b :: rest⟩
      let (fraction, p) ← scanFraction p
      let (exponent, p) ← scanExponent p
      .ok (⟨false, whole, fraction, exponent⟩, p)) := by
  have hne : b ≠ 0x2D := by
    rintro rfl
    cases h
  simp only [scanNumber]
  split
  · next hb => exact absurd (List.cons.inj hb).1 hne
  · rfl

/-- An integer is scanned as it was written. -/
theorem scanNumber_writeInt (n : Int) (offset : Nat) (h : Ends rest) :
    scanNumber ⟨offset, bytes (writeInt n) ++ rest⟩ =
      .ok (⟨decide (n < 0), digitValues n.natAbs, none, none⟩, ⟨offset + (bytes (writeInt n)).length, rest⟩) := by
  have hdigits (offset : Nat) := scanWhole_digits n.natAbs offset (isDigit_of_ends h)
  unfold writeInt
  split_ifs with hn
  · have hlength : offset + 1 + (bytes (digits n.natAbs)).length =
        offset + (bytes ('-' :: digits n.natAbs)).length := by
      rw [bytes_cons, List.length_append, ← Nat.add_assoc]
      rfl
    have hminus : bytes ('-' :: digits n.natAbs) ++ rest = 0x2D :: (bytes (digits n.natAbs) ++ rest) := rfl
    rw [hminus, scanNumber_negative, hdigits, hlength]
    simp only [bind, Except.bind, scanFraction_ends _ h, scanExponent_ends _ h, hn, decide_true]
  · obtain ⟨b, more, hb, hdigit⟩ := exists_bytes_digits n.natAbs
    have hfirst := hdigits offset
    rw [hb, List.cons_append] at hfirst
    rw [hb, List.cons_append, scanNumber_positive offset hdigit, hfirst]
    simp only [bind, Except.bind, scanFraction_ends _ h, scanExponent_ends _ h, hn, decide_false]

/-- The literal of an integer of 64 bits has that integer as its value. -/
theorem value_writeInt (n : Whole) (stop : Nat) :
    (NumberLiteral.mk (decide (n.value < 0)) (digitValues n.value.natAbs) none none).value stop = .ok (.whole n) := by
  have hleast := n.least
  have hgreatest := n.greatest
  have hfill : fill significandLimit 0 (digitValues n.value.natAbs) = (n.value.natAbs, []) :=
    fill_digitValues (by simp only [significandLimit]; omega)
  have hsigned : (if n.value < 0 then -((n.value.natAbs : Nat) : Int) else (n.value.natAbs : Nat)) = n.value := by
    split <;> omega
  have hnumber : Number.ofInt? n.value = some (.whole n) := dif_pos ⟨hleast, hgreatest⟩
  simp only [NumberLiteral.value, hfill, Option.getD_none, fill, decide_eq_true_eq, hsigned, hnumber]
  rw [if_neg (by simp), if_neg (by omega)]

end Numbers

section Strings

/-- Bytes inside quotes that are read as others, and passed over, whatever follows them. -/
structure Steps (written read : List UInt8) : Prop where
  content (done : List UInt8) (offset : Nat) (rest : List UInt8) :
    content done offset (written ++ rest) = Json.content (read.reverse ++ done) (offset + written.length) rest
  pass (offset : Nat) (rest : List UInt8) :
    passString offset (written ++ rest) = passString (offset + written.length) rest

theorem Steps.nil : Steps [] [] := ⟨fun _ _ _ => rfl, fun _ _ => rfl⟩

theorem Steps.append {written read written' read' : List UInt8} (h : Steps written read) (h' : Steps written' read') :
    Steps (written ++ written') (read ++ read') := by
  constructor
  · intro done offset rest
    rw [List.append_assoc, h.content, h'.content, List.reverse_append, List.append_assoc, List.length_append, Nat.add_assoc]
  · intro offset rest
    rw [List.append_assoc, h.pass, h'.pass, List.length_append, Nat.add_assoc]

/-- A byte that needs no escape stands for itself. -/
theorem Steps.plain {b : UInt8} (hq : b ≠ 0x22) (hs : b ≠ 0x5C) (hc : ¬ b < 0x20) : Steps [b] [b] := by
  constructor
  · intro done offset rest
    rw [List.singleton_append, Json.content, if_neg hq, if_neg hs, if_neg hc]
    rfl
  · intro offset rest
    rw [List.singleton_append, passString, if_neg hq, if_neg hs, if_neg hc]
    rfl

private theorem Steps.plains {bs : List UInt8} (h : ∀ b ∈ bs, b ≠ 0x22 ∧ b ≠ 0x5C ∧ ¬ b < 0x20) : Steps bs bs := by
  induction bs with
  | nil => exact .nil
  | cons b bs ih =>
    obtain ⟨⟨hq, hs, hc⟩, hrest⟩ := List.forall_mem_cons.1 h
    exact (Steps.plain hq hs hc).append (ih hrest)

/-- A backslash leads to what the escape behind it stands for. -/
theorem Steps.escape {tail read : List UInt8}
    (hread : ∀ rest, unescape (tail ++ rest) = .ok (read, tail.length))
    (hpass : ∀ rest, escapeLength (tail ++ rest) = .ok tail.length) : Steps (0x5C :: tail) read := by
  have hlength (offset : Nat) : offset + 1 + tail.length = offset + (0x5C :: tail).length := by
    rw [List.length_cons, Nat.add_right_comm, Nat.add_assoc]
  constructor
  · intro done offset rest
    rw [List.cons_append, Json.content, if_neg (by decide), if_pos rfl, hread]
    simp only [List.drop_left, hlength]
  · intro offset rest
    rw [List.cons_append, passString, if_neg (by decide), if_pos rfl, hpass]
    simp only [List.drop_left, hlength]

private theorem hexUnit?_control :
    ∀ n < 32, hexUnit? 0x30 0x30 (.ofNat (hexDigit (n / 16)).toNat) (.ofNat (hexDigit (n % 16)).toNat) = some n := by
  decide

private theorem bytes_control : ∀ n < 32, bytes ['\\', 'u', '0', '0', hexDigit (n / 16), hexDigit (n % 16)] =
    [0x5C, 0x75, 0x30, 0x30, .ofNat (hexDigit (n / 16)).toNat, .ofNat (hexDigit (n % 16)).toNat] := by
  decide

theorem Steps.control {n : Nat} (h : n < 32) :
    Steps (bytes ['\\', 'u', '0', '0', hexDigit (n / 16), hexDigit (n % 16)])
      (String.utf8EncodeChar (Char.ofNat n)) := by
  have hsmall : isTrailingUnit n = false ∧ isLeadingUnit n = false := by
    simp only [isTrailingUnit, isLeadingUnit, Bool.and_eq_false_iff, decide_eq_false_iff_not]
    omega
  rw [bytes_control n h]
  apply Steps.escape
  · intro rest
    simp only [List.cons_append, List.nil_append, unescape, hexUnit?_control n h, hsmall]
    rfl
  · intro rest
    simp only [List.cons_append, List.nil_append, escapeLength, hexUnit?_control n h, Option.isSome_some, if_true]
    rfl

/-- A character is read from what is written for it. -/
private theorem steps_writeChar (c : Char) : Steps (bytes (writeChar c)) (String.utf8EncodeChar c) := by
  have hc : c = Char.ofNat c.toNat := (Char.ofNat_toNat c).symm
  unfold writeChar
  split_ifs with hquote hslash hb hf hn hr ht hcontrol
  · subst hquote
    exact .escape (fun _ => rfl) fun _ => rfl
  · subst hslash
    exact .escape (fun _ => rfl) fun _ => rfl
  · rw [hc, hb]
    exact .escape (fun _ => rfl) fun _ => rfl
  · rw [hc, hf]
    exact .escape (fun _ => rfl) fun _ => rfl
  · subst hn
    exact .escape (fun _ => rfl) fun _ => rfl
  · subst hr
    exact .escape (fun _ => rfl) fun _ => rfl
  · subst ht
    exact .escape (fun _ => rfl) fun _ => rfl
  · rw [show String.utf8EncodeChar c = String.utf8EncodeChar (Char.ofNat c.toNat) by rw [← hc]]
    exact .control hcontrol
  · have hsame : bytes [c] = String.utf8EncodeChar c := List.append_nil _
    rw [hsame]
    refine .plains fun b hb => ?_
    rcases Utf8.toNat_of_mem_encodeChar hb with ⟨hascii, rfl⟩ | hhigh
    · have hnat : (UInt8.ofNat c.toNat).toNat = c.toNat := UInt8.toNat_ofNat_of_lt' (Nat.lt_trans hascii (by decide))
      refine ⟨fun h => hquote ?_, fun h => hslash ?_, ?_⟩
      · rw [hc, ← hnat, h]
        rfl
      · rw [hc, ← hnat, h]
        rfl
      · rwa [UInt8.lt_iff_toNat_lt, hnat]
    · refine ⟨?_, ?_, ?_⟩
      · rintro rfl
        exact absurd hhigh (by decide)
      · rintro rfl
        exact absurd hhigh (by decide)
      · rw [UInt8.lt_iff_toNat_lt]
        exact fun h => absurd (Nat.lt_of_le_of_lt hhigh h) (by decide)

private theorem steps_text (text : List Char) : Steps (bytes (text.flatMap writeChar)) (bytes text) := by
  induction text with
  | nil => exact .nil
  | cons c text ih =>
    rw [List.flatMap_cons, bytes_append, bytes_cons]
    exact (steps_writeChar c).append ih

variable (s : String) (offset : Nat) (rest : List UInt8)

/-- How many bytes a string takes in a text, behind its opening quote. -/
def quotedLength (s : String) : Nat := (bytes (s.toList.flatMap writeChar)).length + 1

@[simp] theorem bytes_writeString :
    bytes (writeString s) ++ rest = 0x22 :: (bytes (s.toList.flatMap writeChar) ++ 0x22 :: rest) := by
  rw [writeString, List.cons_append, bytes_cons, bytes_append, List.append_assoc, List.append_assoc]
  rfl

theorem length_writeString : (bytes (writeString s)).length = quotedLength s + 1 := by
  rw [← List.append_nil (bytes (writeString s)), bytes_writeString, List.length_cons, List.length_append]
  rfl

/-- A string is read back from its text. -/
theorem readString_writeString :
    readString ⟨offset, bytes (s.toList.flatMap writeChar) ++ 0x22 :: rest⟩ = .ok (s, offset + quotedLength s) := by
  have hdecode : Utf8.decode? (bytes s.toList) = some s := Utf8.decode?_encode s
  have hcontent := (steps_text s.toList).content [] offset (0x22 :: rest)
  rw [Json.content, if_pos rfl, List.append_nil, List.reverse_reverse] at hcontent
  simp only [readString, hcontent, bind, Except.bind, hdecode]
  rfl

theorem passString_writeString :
    passString offset (bytes (s.toList.flatMap writeChar) ++ 0x22 :: rest) = .ok ⟨offset + quotedLength s, rest⟩ := by
  rw [(steps_text s.toList).pass, passString, if_pos rfl]
  rfl

end Strings

end Json
end RequestBinding
