import RequestBinding.Json.Writer
import RequestBinding.Number.IntegerText
import RequestBinding.Proofs.Except

/-! Integers in decimal are read as they were written, as far as they are within bounds, and nothing else is read. Digits
count by their value alone, and one that leads beyond the limit is found as soon as it does. -/

namespace RequestBinding.IntegerText

variable {limit value : Nat} {beyond : IntegerFault} {text : List Char}

private theorem digit?_of_isDigit {c : Char} (h : c.isDigit = true) : digit? c = some (c.toNat - '0'.toNat) := if_pos h

private theorem le_ofDigitChars (text : List Char) (value : Nat) : value ≤ Nat.ofDigitChars 10 text value := by
  induction text generalizing value with
  | nil => exact Nat.le_refl value
  | cons c rest ih =>
    rw [Nat.ofDigitChars_cons]
    exact Nat.le_trans (by omega) (ih _)

private theorem digitsWithin_digits (hd : ∀ c ∈ text, c.isDigit = true) (hv : value ≤ limit) :
    digitsWithin limit beyond value text =
      if Nat.ofDigitChars 10 text value ≤ limit then .ok (Nat.ofDigitChars 10 text value) else .error beyond := by
  induction text generalizing value with
  | nil => exact (if_pos hv).symm
  | cons c rest ih =>
    obtain ⟨hc, hrest⟩ := List.forall_mem_cons.1 hd
    have hvalue : value * 10 + (c.toNat - '0'.toNat) = 10 * value + (c.toNat - '0'.toNat) := by rw [Nat.mul_comm]
    rw [digitsWithin, digit?_of_isDigit hc, Nat.ofDigitChars_cons, ← hvalue]
    dsimp only
    split
    · next hle => exact ih hrest hle
    · next hgt => rw [if_neg fun hle => hgt (Nat.le_trans (le_ofDigitChars ..) hle)]

private theorem isDigit_of_digitsWithin {n : Nat} (h : digitsWithin limit beyond value text = .ok n) :
    ∀ c ∈ text, c.isDigit = true := by
  induction text generalizing value with
  | nil => simp
  | cons c rest ih =>
    rw [digitsWithin, digit?] at h
    by_cases hc : c.isDigit = true
    · simp only [if_pos hc] at h
      split at h
      · exact List.forall_mem_cons.2 ⟨hc, ih h⟩
      · cases h
    · simp only [if_neg hc] at h
      cases h

private theorem digitsWithin_eq_ok_iff {n : Nat} (hv : value ≤ limit) : digitsWithin limit beyond value text = .ok n ↔
    (∀ c ∈ text, c.isDigit = true) ∧ Nat.ofDigitChars 10 text value = n ∧ n ≤ limit := by
  constructor
  · intro h
    have hd := isDigit_of_digitsWithin h
    rw [digitsWithin_digits hd hv] at h
    split at h
    · next hle =>
      obtain rfl := Except.ok.inj h
      exact ⟨hd, rfl, hle⟩
    · cases h
  · rintro ⟨hd, rfl, hle⟩
    rw [digitsWithin_digits hd hv, if_pos hle]

/-- Digits, one at least and nothing else. -/
def AllDigits (text : List Char) : Prop := text ≠ [] ∧ ∀ c ∈ text, c.isDigit = true

private theorem unsigned_eq_ok_iff {n : Nat} : unsigned limit beyond text = .ok n ↔
    AllDigits text ∧ Nat.ofDigitChars 10 text 0 = n ∧ n ≤ limit := by
  unfold unsigned AllDigits
  split
  · exact ⟨nofun, fun h => absurd rfl h.1.1⟩
  · next hne =>
    rw [digitsWithin_eq_ok_iff (Nat.zero_le limit), and_assoc]
    exact ⟨fun h => ⟨hne, h⟩, fun h => h.2⟩

/-- The integer that a text denotes: that of its digits, behind a sign if there is one. -/
inductive Denotes : List Char → Int → Prop
  | unsigned {digits : List Char} : AllDigits digits → Denotes digits (Nat.ofDigitChars 10 digits 0)
  | plus {digits : List Char} : AllDigits digits → Denotes ('+' :: digits) (Nat.ofDigitChars 10 digits 0)
  | minus {digits : List Char} : AllDigits digits → Denotes ('-' :: digits) (-(Nat.ofDigitChars 10 digits 0 : Int))

theorem AllDigits.head {c : Char} {rest : List Char} (h : AllDigits (c :: rest)) : c.isDigit = true :=
  h.2 c (List.mem_cons_self ..)

/-- Nothing but digits and a sign stands in a text that denotes an integer. -/
theorem Denotes.isDigit {n : Int} (h : Denotes text n) {c : Char} (hc : c ∈ text) :
    c.isDigit = true ∨ c = '+' ∨ c = '-' := by
  cases h with
  | unsigned hd => exact .inl (hd.2 c hc)
  | plus hd => exact (List.mem_cons.1 hc).elim (fun he => .inr (.inl he)) fun hm => .inl (hd.2 c hm)
  | minus hd => exact (List.mem_cons.1 hc).elim (fun he => .inr (.inr he)) fun hm => .inl (hd.2 c hm)

private theorem AllDigits.head?_ne (h : AllDigits text) {c : Char} (hc : c.isDigit ≠ true) : text.head? ≠ some c := by
  intro hhead
  obtain ⟨rest, rfl⟩ := List.head?_eq_some_iff.1 hhead
  exact hc h.head

/-- A minus sign is read only where integers below zero are within the bounds. -/
private theorem read_eq_ok {low high n : Int} (hl : low ≤ 0) (hh : 0 ≤ high) :
    read low high text = .ok n ↔ Denotes text n ∧ low ≤ n ∧ n ≤ high ∧ (text.head? = some '-' → low < 0) := by
  have hplus : ('+' : Char).isDigit ≠ true := by decide
  have hminus : ('-' : Char).isDigit ≠ true := by decide
  unfold read
  split
  · constructor
    · intro h
      cases h
    · rintro ⟨⟨hd⟩, -⟩
      exact absurd rfl hd.1
  · next rest =>
    simp only [map_eq_ok, unsigned_eq_ok_iff]
    constructor
    · rintro ⟨_, ⟨hd, rfl, hle⟩, rfl⟩
      exact ⟨.plus hd, Int.le_trans hl (Int.natCast_nonneg _), (Int.le_toNat hh).1 hle, by simp⟩
    · rintro ⟨⟨hd⟩ | ⟨hd⟩, -, hle, -⟩
      · exact absurd hd.head hplus
      · exact ⟨_, ⟨hd, rfl, by omega⟩, rfl⟩
  · next rest =>
    split
    · next hlow =>
      simp only [map_eq_ok, bind_eq_ok, unsigned_eq_ok_iff]
      constructor
      · rintro ⟨_, ⟨_, ⟨hd, rfl, hle⟩, ⟨⟩⟩, rfl⟩
        exact ⟨.minus hd, by omega, by omega, fun _ => hlow⟩
      · rintro ⟨⟨hd⟩ | - | ⟨hd⟩, hle, -, -⟩
        · exact absurd hd.head hminus
        · exact ⟨_, ⟨_, ⟨hd, rfl, by omega⟩, rfl⟩, rfl⟩
    · next hlow =>
      constructor
      · intro h
        cases h
      · intro h
        exact absurd (h.2.2.2 rfl) hlow
  · next hne hnoplus hnominus =>
    simp only [map_eq_ok, unsigned_eq_ok_iff]
    constructor
    · rintro ⟨_, ⟨hd, rfl, hle⟩, rfl⟩
      exact ⟨.unsigned hd, Int.le_trans hl (Int.natCast_nonneg _), (Int.le_toNat hh).1 hle,
        fun hhead => absurd hhead (hd.head?_ne hminus)⟩
    · rintro ⟨hd | hd | hd, -, hle, -⟩
      · exact ⟨_, ⟨hd, rfl, by omega⟩, rfl⟩
      · exact absurd rfl (hnoplus _)
      · exact absurd rfl (hnominus _)

/-- Between bounds on both sides of zero exactly the texts that denote an integer within them are read, as that
integer. -/
theorem read_eq_ok_iff {low high n : Int} (hl : low < 0) (hh : 0 ≤ high) :
    read low high text = .ok n ↔ Denotes text n ∧ low ≤ n ∧ n ≤ high := by
  simp only [read_eq_ok (Int.le_of_lt hl) hh, hl, implies_true, and_true]

/-- A size is read from digits within its bound, behind a plus sign or none. -/
theorem readSize_eq_ok_iff {n : Nat} : readSize text = .ok n ↔
    ∃ sign digits, text = sign ++ digits ∧ (sign = [] ∨ sign = ['+']) ∧ AllDigits digits ∧
      Nat.ofDigitChars 10 digits 0 = n ∧ n < UInt64.size := by
  have hread (value : Int) : read 0 0xFFFFFFFFFFFFFFFF text = .ok value ↔ _ := read_eq_ok (Int.le_refl 0) (by decide)
  have hsize : UInt64.size = 0xFFFFFFFFFFFFFFFF + 1 := rfl
  simp only [readSize, map_eq_ok, hread, hsize]
  constructor
  · rintro ⟨_, ⟨hd, -, hle, hhead⟩, rfl⟩
    cases hd with
    | unsigned hd => exact ⟨[], text, rfl, .inl rfl, hd, rfl, by omega⟩
    | @plus digits hd => exact ⟨['+'], digits, rfl, .inr rfl, hd, rfl, by omega⟩
    | minus hd => exact absurd (hhead rfl) (Int.lt_irrefl 0)
  · rintro ⟨sign, digits, rfl, rfl | rfl, hd, rfl, hlt⟩
    · rw [List.nil_append]
      exact ⟨_, ⟨.unsigned hd, by omega, by omega, fun hhead => absurd hhead (hd.head?_ne (by decide))⟩, rfl⟩
    · rw [List.singleton_append]
      exact ⟨_, ⟨.plus hd, by omega, by omega, by simp⟩, rfl⟩

private theorem isDigit_of_mem_digits {n : Nat} {c : Char} (h : c ∈ Json.digits n) : c.isDigit = true :=
  Nat.isDigit_of_mem_toDigits (by decide) (by decide) h

private theorem unsigned_digits (n : Nat) :
    unsigned limit beyond (Json.digits n) = if n ≤ limit then .ok n else .error beyond := by
  have hsome : Json.digits n ≠ [] := Nat.toDigits_ne_nil
  have hvalue : Nat.ofDigitChars 10 (Json.digits n) 0 = n := by rw [Json.digits, Nat.ofDigitChars_ten_toDigits]
  unfold unsigned
  split
  · next hnil => exact absurd hnil hsome
  · rw [digitsWithin_digits (fun _ => isDigit_of_mem_digits) (Nat.zero_le limit), hvalue]

/-- Between bounds on both sides of zero an integer in decimal is read as itself, and it is too small or too large
outside of them. -/
theorem read_writeInt {low high : Int} (hl : low < 0) (hh : 0 ≤ high) (n : Int) :
    read low high (Json.writeInt n) =
      if n < low then .error .tooSmall else if high < n then .error .tooLarge else .ok n := by
  unfold Json.writeInt
  by_cases hn : n < 0
  · have hvalue : -((n.natAbs : Nat) : Int) = n := by omega
    have hnot : ¬ high < n := by omega
    rw [if_pos hn, read, if_pos hl, unsigned_digits, if_neg hnot]
    by_cases hle : n.natAbs ≤ (-low).toNat
    · rw [if_pos hle, if_neg (by omega)]
      exact congrArg Except.ok hvalue
    · rw [if_neg hle, if_pos (by omega)]
      rfl
  · have hvalue : Int.ofNat n.natAbs = n := Int.natAbs_of_nonneg (by omega)
    have hnot : ¬ n < low := by omega
    have hread : read low high (Json.digits n.natAbs) =
        (unsigned high.toNat .tooLarge (Json.digits n.natAbs)).map Int.ofNat := by
      have hdigit := fun c => isDigit_of_mem_digits (n := n.natAbs) (c := c)
      unfold read
      split
      · next hnil => exact absurd hnil Nat.toDigits_ne_nil
      · next hplus => exact absurd (hdigit '+' (hplus ▸ List.mem_cons_self ..)) (by decide)
      · next hminus => exact absurd (hdigit '-' (hminus ▸ List.mem_cons_self ..)) (by decide)
      · rfl
    rw [if_neg hn, hread, unsigned_digits, if_neg hnot]
    by_cases hle : n.natAbs ≤ high.toNat
    · rw [if_pos hle, if_neg (by omega)]
      exact congrArg Except.ok hvalue
    · rw [if_neg hle, if_pos (by omega)]
      rfl

end RequestBinding.IntegerText
