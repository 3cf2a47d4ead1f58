import RequestBinding.Calendar.Date
import RequestBinding.Proofs.Except
import RequestBinding.Proofs.Text.Blank
import Mathlib.Algebra.Order.Ring.Nat
import Mathlib.Data.List.TakeWhile

/-! Days are read back from their text, in every year that a text can name. -/

namespace RequestBinding

namespace Date

theorem isDigit_of_mem_padded {width n : Nat} {c : Char} (h : c ∈ padded width n) : c.isDigit = true := by
  rw [padded, List.mem_append] at h
  rcases h with h | h
  · rw [(List.mem_replicate.1 h).2]
    rfl
  · exact Nat.isDigit_of_mem_toDigits (by decide) (by decide) h

/-- The value of digits, as reading makes it. -/
theorem foldl_digits (digits : List Char) (value : Nat) :
    digits.foldl (fun n c => n * 10 + (c.toNat - '0'.toNat)) value = Nat.ofDigitChars 10 digits value := by
  simp only [Nat.ofDigitChars_eq_foldl, Nat.mul_comm]

theorem ofDigitChars_padded (width n : Nat) : Nat.ofDigitChars 10 (padded width n) 0 = n := by
  rw [padded, Nat.ofDigitChars_append, Nat.ofDigitChars_replicate_zero, Nat.mul_zero, Nat.ofDigitChars_ten_toDigits]

theorem foldl_padded (width n : Nat) :
    (padded width n).foldl (fun n c => n * 10 + (c.toNat - '0'.toNat)) 0 = n := by
  rw [foldl_digits, ofDigitChars_padded]

@[simp] theorem length_padded {width n : Nat} (hw : 0 < width) (h : n < 10 ^ width) : (padded width n).length = width := by
  have hle : (Nat.toDigits 10 n).length ≤ width := (Nat.length_toDigits_le_iff (by decide) hw).2 h
  rw [padded, List.length_append, List.length_replicate, Nat.sub_add_cancel hle]

private theorem padded_ne_nil (width n : Nat) : padded width n ≠ [] := by
  rw [padded]
  exact List.append_ne_nil_of_right_ne_nil _ Nat.toDigits_ne_nil

private theorem exists_padded (width n : Nat) : ∃ c more, padded width n = c :: more ∧ c.isDigit = true := by
  cases h : padded width n with
  | nil => exact absurd h (padded_ne_nil width n)
  | cons c more => exact ⟨c, more, rfl, isDigit_of_mem_padded (h ▸ List.mem_cons_self ..)⟩

/-- Nothing follows, or something that is no digit. -/
def Stops (rest : List Char) : Prop := ∀ c ∈ rest.head?, c.isDigit = false

theorem spanDigits_none {digits rest : List Char} (hd : ∀ c ∈ digits, c.isDigit = true) (hr : Stops rest) :
    spanDigits none (digits ++ rest) = (digits, rest) := by
  have hstop : rest.takeWhile Char.isDigit = [] := by
    cases rest with
    | nil => rfl
    | cons c more => exact List.takeWhile_cons_of_neg (by simp [hr c rfl])
  have htake : (digits ++ rest).takeWhile Char.isDigit = digits := by
    rw [List.takeWhile_append_of_pos hd, hstop, List.append_nil]
  simp only [spanDigits, htake, List.drop_left]

private theorem spanDigits_some {digits : List Char} (hd : ∀ c ∈ digits, c.isDigit = true) (rest : List Char) :
    spanDigits (some digits.length) (digits ++ rest) = (digits, rest) := by
  have htake : (digits ++ rest).take digits.length = digits := List.take_left
  have hall : digits.takeWhile Char.isDigit = digits := List.takeWhile_eq_self_iff.2 hd
  simp only [spanDigits, htake, hall, List.drop_left]

private theorem readDigits_span {limit : Option Nat} {width n : Nat} {rest : List Char}
    (hs : spanDigits limit (padded width n ++ rest) = (padded width n, rest)) (hn : n < 0x8000000000000000) :
    readDigits limit (padded width n ++ rest) = .ok (n, rest) := by
  have hne := padded_ne_nil width n
  unfold readDigits
  rw [hs]
  split
  · next h => exact absurd (Prod.mk.inj h).1 hne
  · next h => exact absurd (Prod.mk.inj h).1 hne
  · next h =>
    obtain ⟨rfl, rfl⟩ := Prod.mk.inj h
    simp only [foldl_padded]
    exact if_pos hn

private theorem readDigits_none (width : Nat) {n : Nat} {rest : List Char} (hr : Stops rest)
    (hn : n < 0x8000000000000000) :
    readDigits none (padded width n ++ rest) = .ok (n, rest) :=
  readDigits_span (spanDigits_none (fun _ => isDigit_of_mem_padded) hr) hn

private theorem readDigits_some {width n : Nat} (hw : 0 < width) (h : n < 10 ^ width) (hn : n < 0x8000000000000000)
    (rest : List Char) : readDigits (some width) (padded width n ++ rest) = .ok (n, rest) := by
  have hs : spanDigits (some (padded width n).length) (padded width n ++ rest) = (padded width n, rest) :=
    spanDigits_some (fun _ => isDigit_of_mem_padded) rest
  rw [length_padded hw h] at hs
  exact readDigits_span hs hn

private theorem readCount_padded {limit n : Nat} (hl : 1 ≤ n) (hg : n ≤ limit) (h : n < 100) (rest : List Char) :
    readCount limit (padded 2 n ++ rest) = .ok (n, rest) := by
  rw [readCount, readDigits_some (by decide) h (by omega)]
  exact if_pos ⟨hl, hg⟩

/-- A year that a text can name is read back from its text. -/
private theorem readYear_writeYear {year : Int} (hl : leastYear ≤ year) (hg : year ≤ greatestYear) {rest : List Char}
    (hr : Stops rest) : readYear (writeYear year ++ rest) = .ok (year, rest) := by
  simp only [leastYear, greatestYear] at hl hg
  have hrange : -0x80000000 ≤ year ∧ year < 0x80000000 := by omega
  rw [writeYear]
  split
  · next h =>
    have hread : readDigits (some 4) (padded 4 year.natAbs ++ rest) = .ok (year.natAbs, rest) :=
      readDigits_some (by decide) (by omega) (by omega) rest
    have hcast : ((year.natAbs : Nat) : Int) = year := by omega
    obtain ⟨c, more, hp, hc⟩ := exists_padded 4 year.natAbs
    rw [hp] at hread ⊢
    unfold readYear
    rw [List.cons_append] at hread ⊢
    split
    · next h =>
      obtain ⟨rfl, -⟩ := List.cons.inj h
      cases hc
    · next h =>
      obtain ⟨rfl, -⟩ := List.cons.inj h
      cases hc
    · rw [hread]
      simp only [Except.map, hcast]
      exact if_pos hrange
  · next h =>
    have hread := readDigits_none 4 (n := year.natAbs) hr (by omega)
    split
    · next hneg =>
      have hcast : -((year.natAbs : Nat) : Int) = year := by omega
      simp only [readYear, List.cons_append, hread, Except.map, hcast]
      exact if_pos hrange
    · next hpos =>
      have hcast : ((year.natAbs : Nat) : Int) = year := by omega
      simp only [readYear, List.cons_append, hread, Except.map, hcast]
      exact if_pos hrange

private theorem exists_writeYear (year : Int) :
    ∃ c more, writeYear year = c :: more ∧ Text.isBlank c = false := by
  rw [writeYear]
  split
  · obtain ⟨c, more, hp, hc⟩ := exists_padded 4 year.natAbs
    exact ⟨c, more, hp, Text.not_isBlank_of_isDigit hc⟩
  · refine ⟨_, _, rfl, ?_⟩
    split <;> decide

private theorem dropWhile_padded (width n : Nat) (rest : List Char) :
    (padded width n ++ rest).dropWhile Text.isBlank = padded width n ++ rest := by
  obtain ⟨c, more, hp, hc⟩ := exists_padded width n
  apply Text.dropWhile_isBlank
  intro c' hc'
  rw [hp] at hc'
  obtain rfl := Option.some.inj hc'
  exact Text.not_isBlank_of_isDigit hc

theorem daysInMonth_le (year : Int) (month : Nat) : daysInMonth year month ≤ 31 := by
  unfold daysInMonth
  repeat' split
  all_goals omega

theorem of?_eq (d : Date) : of? d.year d.month d.day = some d := dif_pos ⟨d.month_exists, d.day_exists⟩

theorem stops_hyphen (rest : List Char) : Stops ('-' :: rest) := by
  rintro c hc
  obtain rfl := Option.some.inj hc
  rfl

private theorem read_write {d : Date} (hl : leastYear ≤ d.year) (hg : d.year ≤ greatestYear) :
    read d.write = .ok d := by
  have hdays := daysInMonth_le d.year d.month
  obtain ⟨hm, hm'⟩ := d.month_exists
  obtain ⟨hd, hd'⟩ := d.day_exists
  have hblank : d.write.dropWhile Text.isBlank = d.write := by
    obtain ⟨c, more, hw, hc⟩ := exists_writeYear d.year
    apply Text.dropWhile_isBlank
    intro c' hc'
    rw [write, hw] at hc'
    obtain rfl := Option.some.inj hc'
    exact hc
  have hyear := readYear_writeYear hl hg (stops_hyphen (padded 2 d.month ++ '-' :: padded 2 d.day))
  have hmonth := readCount_padded hm hm' (by omega) ('-' :: padded 2 d.day)
  have hday : readCount 31 (padded 2 d.day ++ []) = .ok (d.day, []) := readCount_padded hd (by omega) (by omega) []
  have hwrite : d.write = writeYear d.year ++ '-' :: (padded 2 d.month ++ '-' :: padded 2 d.day) := by
    simp only [write, List.append_assoc, List.cons_append]
  rw [List.append_nil] at hday
  have hblank' : (padded 2 d.day).dropWhile Text.isBlank = padded 2 d.day := by
    simpa using dropWhile_padded 2 d.day []
  rw [read, hblank, hwrite, hyear]
  simp only [bind, Except.bind, readHyphen, if_true, dropWhile_padded, hblank', hmonth, hday]
  rw [if_neg (by simp), if_neg (by omega), of?_eq]

theorem of?_eq_some {year : Int} {month day : Nat} {d : Date} (h : of? year month day = some d) :
    d.year = year ∧ d.month = month ∧ d.day = day := by
  rw [of?] at h
  split at h
  · obtain rfl := Option.some.inj h
    exact ⟨rfl, rfl, rfl⟩
  · cases h

private theorem readHyphen_eq_ok {text rest : List Char} : readHyphen text = .ok rest ↔ text = '-' :: rest := by
  cases text with
  | nil => simp [readHyphen]
  | cons c more =>
    rw [readHyphen, List.cons.injEq]
    split
    · next hc => rw [Except.ok.injEq, and_iff_right hc]
    · next hc => simp [hc]

/-- What a day was read from, part by part. -/
theorem read_eq_ok {text : List Char} {d : Date} (h : read text = .ok d) : ∃ afterYear afterMonth,
    readYear (text.dropWhile Text.isBlank) = .ok (d.year, '-' :: afterYear) ∧
    readCount 12 (afterYear.dropWhile Text.isBlank) = .ok (d.month, '-' :: afterMonth) ∧
    readCount 31 (afterMonth.dropWhile Text.isBlank) = .ok (d.day, []) ∧ leastYear ≤ d.year ∧ d.year ≤ greatestYear := by
  obtain ⟨⟨year, beforeHyphen⟩, hyear, h⟩ := bind_eq_ok.1 h
  obtain ⟨afterYear, hfirst, h⟩ := bind_eq_ok.1 h
  obtain ⟨⟨month, beforeHyphen'⟩, hmonth, h⟩ := bind_eq_ok.1 h
  obtain ⟨afterMonth, hsecond, h⟩ := bind_eq_ok.1 h
  obtain ⟨⟨day, behind⟩, hday, h⟩ := bind_eq_ok.1 h
  dsimp only at hfirst hmonth hsecond hday h
  split at h
  · cases h
  · next hend =>
    split at h
    · cases h
    · next hrange =>
      split at h
      · next date hdate =>
        obtain rfl := Except.ok.inj h
        obtain ⟨rfl, rfl, rfl⟩ := of?_eq_some hdate
        obtain rfl : behind = [] := by simpa using hend
        rw [readHyphen_eq_ok.1 hfirst] at hyear
        rw [readHyphen_eq_ok.1 hsecond] at hmonth
        exact ⟨afterYear, afterMonth, hyear, hmonth, hday, by omega, by omega⟩
      · cases h

/-- Only days of years that a text can name are read. -/
theorem year_of_read {text : List Char} {d : Date} (h : read text = .ok d) :
    leastYear ≤ d.year ∧ d.year ≤ greatestYear := by
  obtain ⟨-, -, -, -, -, hrange⟩ := read_eq_ok h
  exact hrange

/-- A day that a text names is named by its own text too. -/
theorem ofText_text {text : String} {d : Date} (h : ofText text = .ok d) : ofText d.text = .ok d := by
  obtain ⟨hl, hg⟩ := year_of_read h
  rw [ofText, Date.text, String.toList_ofList]
  exact read_write hl hg

end Date
end RequestBinding
