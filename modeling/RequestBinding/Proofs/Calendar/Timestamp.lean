import RequestBinding.Calendar.Timestamp
import RequestBinding.Proofs.Calendar.Date
import Mathlib.Data.List.Basic

/-! Moments are read back from their text, with their offset, their fraction and a leap second. -/

namespace RequestBinding.Timestamp

/-- The bytes of padded digits. -/
def digitBytes (width n : Nat) : List UInt8 := (Date.padded width n).map fun c => .ofNat c.toNat

private theorem digit_spec {c : Char} (h : c.isDigit = true) :
    String.utf8EncodeChar c = [.ofNat c.toNat] ∧ digit? (.ofNat c.toNat) = some (c.toNat - '0'.toNat) := by
  have hrange : 48 ≤ c.toNat ∧ c.toNat ≤ 57 := by
    simpa [Char.isDigit, UInt32.le_iff_toNat_le] using h
  have hall : ∀ n < 10, String.utf8EncodeChar (Char.ofNat (48 + n)) = [.ofNat (48 + n)] ∧
      digit? (.ofNat (48 + n)) = some n := by decide +kernel
  have hsum : 48 + (c.toNat - 48) = c.toNat := by omega
  have hc := hall (c.toNat - 48) (by omega)
  rw [hsum, Char.ofNat_toNat] at hc
  exact hc

private theorem utf8_digits {digits : List Char} (h : ∀ c ∈ digits, c.isDigit = true) :
    digits.flatMap String.utf8EncodeChar = digits.map fun c => .ofNat c.toNat := by
  induction digits with
  | nil => rfl
  | cons c rest ih =>
    obtain ⟨hc, hrest⟩ := List.forall_mem_cons.1 h
    rw [List.flatMap_cons, (digit_spec hc).1, ih hrest]
    rfl

@[simp] private theorem utf8_padded (width n : Nat) :
    (Date.padded width n).flatMap String.utf8EncodeChar = digitBytes width n := by
  apply utf8_digits
  intro c hc
  exact Date.isDigit_of_mem_padded hc

@[simp] private theorem length_digitBytes {width n : Nat} (hw : 0 < width) (h : n < 10 ^ width) :
    (digitBytes width n).length = width := by
  rw [digitBytes, List.length_map, Date.length_padded hw h]

private theorem isSome_digit? {width n : Nat} {b : UInt8} (h : b ∈ digitBytes width n) : (digit? b).isSome = true := by
  obtain ⟨c, hc, rfl⟩ := List.mem_map.1 h
  rw [(digit_spec (Date.isDigit_of_mem_padded hc)).2]
  rfl

private theorem fixedDigits_digits (value : Nat) {digits : List Char} (h : ∀ c ∈ digits, c.isDigit = true) :
    fixedDigits value (digits.map fun c => .ofNat c.toNat) =
      .ok (digits.foldl (fun n c => n * 10 + (c.toNat - '0'.toNat)) value) := by
  induction digits generalizing value with
  | nil => rfl
  | cons c rest ih =>
    obtain ⟨hc, hrest⟩ := List.forall_mem_cons.1 h
    rw [List.map_cons, fixedDigits, (digit_spec hc).2]
    exact ih _ hrest

private theorem fixedDigits_digitBytes (width n : Nat) : fixedDigits 0 (digitBytes width n) = .ok n := by
  have hdigits : ∀ c ∈ Date.padded width n, c.isDigit = true := by
    intro c hc
    exact Date.isDigit_of_mem_padded hc
  rw [digitBytes, fixedDigits_digits 0 hdigits, Date.foldl_padded]

private theorem exists_pair {n : Nat} (h : n < 100) :
    ∃ a b, digitBytes 2 n = [a, b] ∧ fixedDigits 0 [a, b] = .ok n := by
  have hl : (digitBytes 2 n).length = 2 := length_digitBytes (by decide) h
  obtain ⟨a, b, he⟩ := List.length_eq_two.1 hl
  exact ⟨a, b, he, he ▸ fixedDigits_digitBytes 2 n⟩

private theorem exists_four {n : Nat} (h : n < 10000) :
    ∃ a b c d, digitBytes 4 n = [a, b, c, d] ∧ fixedDigits 0 [a, b, c, d] = .ok n := by
  have hl : (digitBytes 4 n).length = 4 := length_digitBytes (by decide) h
  obtain ⟨a, b, c, d, he⟩ := List.length_eq_four.1 hl
  exact ⟨a, b, c, d, he, he ▸ fixedDigits_digitBytes 4 n⟩

/-- The bytes of a day of four digits in its year. -/
def dayBytes (d : Date) : List UInt8 :=
  digitBytes 4 d.year.natAbs ++ 0x2D :: (digitBytes 2 d.month ++ 0x2D :: digitBytes 2 d.day)

/-- The bytes of hour, minute and second. -/
def clockBytes (c : Clock) : List UInt8 :=
  digitBytes 2 c.hour ++ 0x3A :: (digitBytes 2 c.minute ++ 0x3A :: digitBytes 2 c.second)

section Places

variable (before text : List UInt8)

private theorem digitsAt_behind (start count : Nat) :
    digitsAt (before ++ text) (before.length + start) count = digitsAt text start count := by
  rw [digitsAt, List.drop_length_add_append, digitsAt]

private theorem expectAt_behind (place : Nat) (allowed : List UInt8) :
    expectAt (before ++ text) (before.length + place) allowed = expectAt text place allowed := by
  rw [expectAt, List.getElem?_append_right (Nat.le_add_right ..), Nat.add_sub_cancel_left, expectAt]

end Places

private theorem length_dayBytes {d : Date} (hl : 0 ≤ d.year) (hg : d.year ≤ 9999) : (dayBytes d).length = 10 := by
  have hm := d.month_exists
  have hd := d.day_exists
  have hdays := Date.daysInMonth_le d.year d.month
  simp only [dayBytes, List.length_append, List.length_cons]
  rw [length_digitBytes (by decide) (by omega), length_digitBytes (by decide) (by omega),
    length_digitBytes (by decide) (by omega)]

private theorem readDay_dayBytes {d : Date} (hl : 0 ≤ d.year) (hg : d.year ≤ 9999) (rest : List UInt8) :
    readDay (dayBytes d ++ rest) = .ok d := by
  have hm := d.month_exists
  have hd := d.day_exists
  have hdays := Date.daysInMonth_le d.year d.month
  obtain ⟨y₁, y₂, y₃, y₄, hy, hyear⟩ := exists_four (n := d.year.natAbs) (by omega)
  obtain ⟨m₁, m₂, hmonths, hmonth⟩ := exists_pair (n := d.month) (by omega)
  obtain ⟨d₁, d₂, hds, hday⟩ := exists_pair (n := d.day) (by omega)
  have hcast : ((d.year.natAbs : Nat) : Int) = d.year := by omega
  have hbytes : dayBytes d ++ rest = y₁ :: y₂ :: y₃ :: y₄ :: 0x2D :: m₁ :: m₂ :: 0x2D :: d₁ :: d₂ :: rest := by
    simp only [dayBytes, hy, hmonths, hds, List.cons_append, List.nil_append]
  rw [hbytes, readDay]
  refine bind_eq_ok.2 ⟨d.year.natAbs, hyear, ?_⟩
  refine bind_eq_ok.2 ⟨(), rfl, ?_⟩
  refine bind_eq_ok.2 ⟨d.month, hmonth, ?_⟩
  refine bind_eq_ok.2 ⟨(), rfl, ?_⟩
  refine bind_eq_ok.2 ⟨d.day, hday, ?_⟩
  simp only [hcast, Date.of?_eq]

private theorem readTime_clockBytes {before : List UInt8} (hb : before.length = 11) (c : Clock) (rest : List UInt8) :
    readTime (before ++ (clockBytes c ++ rest)) = .ok (c.hour, c.minute, c.second) := by
  have hh := c.hour_lt
  have hm := c.minute_lt
  have hs := c.second_le
  obtain ⟨h₁, h₂, hhs, hhour⟩ := exists_pair (n := c.hour) (by omega)
  obtain ⟨m₁, m₂, hms, hminute⟩ := exists_pair (n := c.minute) (by omega)
  obtain ⟨s₁, s₂, hss, hsecond⟩ := exists_pair (n := c.second) (by omega)
  have hbytes : clockBytes c ++ rest = h₁ :: h₂ :: 0x3A :: m₁ :: m₂ :: 0x3A :: s₁ :: s₂ :: rest := by
    simp only [clockBytes, hhs, hms, hss, List.cons_append, List.nil_append]
  rw [hbytes, readTime]
  have hdigits (start : Nat) := digitsAt_behind before (h₁ :: h₂ :: 0x3A :: m₁ :: m₂ :: 0x3A :: s₁ :: s₂ :: rest) start 2
  have hexpect (place : Nat) :=
    expectAt_behind before (h₁ :: h₂ :: 0x3A :: m₁ :: m₂ :: 0x3A :: s₁ :: s₂ :: rest) place [0x3A]
  rw [hb] at hdigits hexpect
  refine bind_eq_ok.2 ⟨c.hour, (hdigits 0).trans hhour, ?_⟩
  refine bind_eq_ok.2 ⟨(), hexpect 2, ?_⟩
  refine bind_eq_ok.2 ⟨c.minute, (hdigits 3).trans hminute, ?_⟩
  refine bind_eq_ok.2 ⟨(), hexpect 5, ?_⟩
  exact bind_eq_ok.2 ⟨c.second, (hdigits 6).trans hsecond, rfl⟩

private theorem readFraction_digits {width units : Nat} (hw : 0 < width) (hw' : width ≤ 9) (hu : units < 10 ^ width)
    {rest : List UInt8} (hr : ∀ b ∈ rest.head?, digit? b = none) :
    readFraction (0x2E :: (digitBytes width units ++ rest)) = .ok (units * Nat.pow 10 (9 - width), rest) := by
  have hl := length_digitBytes hw hu
  have hstop : rest.takeWhile (fun b => (digit? b).isSome) = [] := by
    cases rest with
    | nil => rfl
    | cons b more => exact List.takeWhile_cons_of_neg (by simp [hr b rfl])
  have htake : (digitBytes width units ++ rest).takeWhile (fun b => (digit? b).isSome) = digitBytes width units := by
    rw [List.takeWhile_append_of_pos fun _ => isSome_digit?, hstop, List.append_nil]
  have hne : digitBytes width units ≠ [] := List.ne_nil_of_length_pos (hl.symm ▸ hw)
  have hkept : (digitBytes width units).take 9 = digitBytes width units := List.take_of_length_le (hl.trans_le hw')
  have hcons : digitBytes width units ++ rest ≠ [] := fun h => hne (List.append_eq_nil_iff.1 h).1
  rw [readFraction.eq_2 _ hcons]
  simp only [htake, if_neg hne, hkept, List.drop_left]
  refine bind_eq_ok.2 ⟨units, fixedDigits_digitBytes width units, ?_⟩
  rw [hl]

/-- The bytes of a fraction. -/
def fractionBytes (nanosecond : Nat) : List UInt8 := (writeFraction nanosecond).flatMap String.utf8EncodeChar

private theorem readFraction_fractionBytes {nanosecond : Nat} (h : nanosecond < 1000000000) {b : UInt8}
    {rest : List UInt8}
    (hb : b ≠ 0x2E) (hr : digit? b = none) :
    readFraction (fractionBytes nanosecond ++ b :: rest) = .ok (nanosecond, b :: rest) := by
  have hstop : ∀ b' ∈ (b :: rest).head?, digit? b' = none := by
    rintro b' hb'
    obtain rfl := Option.some.inj hb'
    exact hr
  have hdot (width units : Nat) : (('.' :: Date.padded width units).flatMap String.utf8EncodeChar) ++ b :: rest =
      0x2E :: (digitBytes width units ++ b :: rest) := by
    rw [List.flatMap_cons, utf8_padded]
    rfl
  rw [fractionBytes, writeFraction]
  split
  · next hz =>
    rw [hz, List.flatMap_nil, List.nil_append]
    unfold readFraction
    split
    · next he => exact absurd (List.cons.inj he).1 hb
    · rfl
  · split
    · rw [hdot, readFraction_digits (by decide) (by decide) (by omega) hstop]
      simp only [Nat.pow_eq]
      congr 2
      omega
    · split
      · rw [hdot, readFraction_digits (by decide) (by decide) (by omega) hstop]
        simp only [Nat.pow_eq]
        congr 2
        omega
      · rw [hdot, readFraction_digits (by decide) (by decide) (by omega) hstop]
        simp

/-- The bytes of an offset. -/
def offsetBytes (offset : Int) : List UInt8 := (writeOffset offset).flatMap String.utf8EncodeChar

private theorem readHourMinute_digits {minutes : Nat} (h : minutes < 1440) :
    readHourMinute (digitBytes 2 (minutes / 60) ++ 0x3A :: digitBytes 2 (minutes % 60)) = .ok (minutes, []) := by
  obtain ⟨h₁, h₂, hhs, hhour⟩ := exists_pair (n := minutes / 60) (by omega)
  obtain ⟨m₁, m₂, hms, hminute⟩ := exists_pair (n := minutes % 60) (by omega)
  have hsum : minutes / 60 * 60 + minutes % 60 = minutes := Nat.div_add_mod' ..
  simp only [hhs, hms, List.cons_append, List.nil_append, readHourMinute, readPair, hhour, hminute, Except.map, bind,
    Except.bind, ne_eq, not_true, if_false]
  rw [if_neg (by omega), hsum]

private theorem readOffset_offsetBytes {offset : Int} (h : offset.natAbs < 1440) :
    readOffset (offsetBytes offset) = .ok (offset, []) := by
  have hread := readHourMinute_digits h
  have hbytes (c : Char) : ((c :: Date.padded 2 (offset.natAbs / 60) ++ ':' :: Date.padded 2 (offset.natAbs % 60)).flatMap
      String.utf8EncodeChar) = String.utf8EncodeChar c ++
        (digitBytes 2 (offset.natAbs / 60) ++ 0x3A :: digitBytes 2 (offset.natAbs % 60)) := by
    rw [List.cons_append, List.flatMap_cons, List.flatMap_append, utf8_padded, List.flatMap_cons, utf8_padded]
    rfl
  rw [offsetBytes, writeOffset]
  split
  · next hz =>
    rw [hz]
    rfl
  · split
    · next hneg =>
      have hsign : String.utf8EncodeChar '-' = [0x2D] := by decide
      have hcast : -((offset.natAbs : Nat) : Int) = offset := by omega
      rw [hbytes, hsign, List.cons_append, List.nil_append, readOffset, hread]
      simp only [Except.map, hcast]
    · next hpos =>
      have hsign : String.utf8EncodeChar '+' = [0x2B] := by decide
      have hcast : ((offset.natAbs : Nat) : Int) = offset := by omega
      rw [hbytes, hsign, List.cons_append, List.nil_append, readOffset, hread]
      simp only [Except.map, hcast]

private theorem exists_offsetBytes (offset : Int) : ∃ b rest, offsetBytes offset = b ::
    rest ∧ b ≠ 0x2E ∧ digit? b = none := by
  rw [offsetBytes, writeOffset]
  split
  · exact ⟨0x5A, [], by decide, by decide, by decide⟩
  · split
    · exact ⟨0x2D, _, rfl, by decide, by decide⟩
    · exact ⟨0x2B, _, rfl, by decide, by decide⟩

private theorem length_clockBytes (c : Clock) : (clockBytes c).length = 8 := by
  have hh := c.hour_lt
  have hm := c.minute_lt
  have hs := c.second_le
  simp only [clockBytes, List.length_append, List.length_cons]
  rw [length_digitBytes (by decide) (by omega), length_digitBytes (by decide) (by omega),
    length_digitBytes (by decide) (by omega)]

private theorem encode_text {t : Timestamp} (hl : 0 ≤ t.date.year) (hg : t.date.year ≤ 9999) :
    Utf8.encode t.text =
      dayBytes t.date ++ 0x54 :: (clockBytes t.clock ++ (fractionBytes t.clock.nanosecond ++ offsetBytes t.offset)) := by
  have hhyphen : String.utf8EncodeChar '-' = [0x2D] := by decide
  have hcolon : String.utf8EncodeChar ':' = [0x3A] := by decide
  have hletter : String.utf8EncodeChar 'T' = [0x54] := by decide
  rw [Utf8.encode, text, String.toList_ofList, write, Date.write, Date.writeYear, if_pos ⟨hl, hg⟩]
  simp only [List.flatMap_append, List.flatMap_cons, utf8_padded, hhyphen, hcolon, hletter, dayBytes, clockBytes,
    fractionBytes, offsetBytes, List.append_assoc, List.cons_append, List.nil_append]

/-- A moment of a year of four digits is read back from its text. -/
private theorem ofText_text_of_year {t : Timestamp} (hl : 0 ≤ t.date.year) (hg : t.date.year ≤ 9999) :
    ofText t.text = .ok t := by
  -- The fraction stops where the offset begins, which is neither a point nor a digit.
  obtain ⟨b, rest, hoffset, hdot, hdigit⟩ := exists_offsetBytes t.offset
  have hday := length_dayBytes hl hg
  have hclock := length_clockBytes t.clock
  have hfraction : readFraction (fractionBytes t.clock.nanosecond ++ offsetBytes t.offset) =
      .ok (t.clock.nanosecond, offsetBytes t.offset) := by
    rw [hoffset]
    exact readFraction_fractionBytes t.clock.nanosecond_lt hdot hdigit
  generalize htail : fractionBytes t.clock.nanosecond ++ offsetBytes t.offset = tail at hfraction
  have hbytes : Utf8.encode t.text = dayBytes t.date ++ 0x54 :: (clockBytes t.clock ++ tail) := by
    rw [encode_text hl hg, htail]
  have hexpect : expectAt (dayBytes t.date ++ 0x54 :: (clockBytes t.clock ++ tail)) 10 [0x54, 0x74, 0x20] = .ok () := by
    have h := expectAt_behind (dayBytes t.date) (0x54 :: (clockBytes t.clock ++ tail)) 0 [0x54, 0x74, 0x20]
    rw [hday] at h
    exact h
  have hbefore : (dayBytes t.date ++ [0x54]).length = 11 := by rw [List.length_append, hday, List.length_singleton]
  have htime := readTime_clockBytes hbefore t.clock tail
  rw [List.append_assoc, List.singleton_append] at htime
  have hdrop : (dayBytes t.date ++ 0x54 :: (clockBytes t.clock ++ tail)).drop 19 = tail := by
    have hall : (dayBytes t.date ++ 0x54 :: clockBytes t.clock).length = 19 := by
      rw [List.length_append, List.length_cons, hday, hclock]
    rw [← List.cons_append, ← List.append_assoc, ← hall, List.drop_left]
  rw [ofText, read, hbytes, if_neg]
  · refine bind_eq_ok.2 ⟨t.date, readDay_dayBytes hl hg _, ?_⟩
    refine bind_eq_ok.2 ⟨(), hexpect, ?_⟩
    refine bind_eq_ok.2 ⟨_, htime, ?_⟩
    refine bind_eq_ok.2 ⟨_, hdrop.symm ▸ hfraction, ?_⟩
    have hof : Clock.of? t.clock.hour t.clock.minute t.clock.second t.clock.nanosecond = some t.clock :=
      dif_pos ⟨t.clock.hour_lt, t.clock.minute_lt, t.clock.second_le, t.clock.nanosecond_lt⟩
    simp only [hof]
    refine bind_eq_ok.2 ⟨_, readOffset_offsetBytes t.offset_lt, ?_⟩
    exact dif_pos t.offset_lt
  · simp only [List.length_append, List.length_cons, hday, hclock]
    omega

private theorem fixedDigits_lt {bytes : List UInt8} {value n : Nat} (h : fixedDigits value bytes = .ok n) :
    n < (value + 1) * 10 ^ bytes.length := by
  induction bytes generalizing value with
  | nil =>
    cases h
    simp
  | cons b rest ih =>
    rw [fixedDigits] at h
    split at h
    · next d hd =>
      have hlt : d < 10 := by
        rw [digit?] at hd
        split at hd
        · next hrange =>
          simp only [UInt8.le_iff_toNat_le] at hrange
          have : b.toNat ≤ 57 := hrange.2
          have := Option.some.inj hd
          omega
        · cases hd
      calc n < (value * 10 + d + 1) * 10 ^ rest.length := ih h
        _ ≤ ((value + 1) * 10) * 10 ^ rest.length := Nat.mul_le_mul_right _ (by omega)
        _ = (value + 1) * 10 ^ (b :: rest).length := by rw [List.length_cons, Nat.pow_succ, Nat.mul_assoc, Nat.mul_comm 10]
    · cases h

/-- Only moments of years of four digits are read. -/
theorem year_of_read {bytes : List UInt8} {t : Timestamp} (h : read bytes = .ok t) :
    0 ≤ t.date.year ∧ t.date.year ≤ 9999 := by
  rw [read] at h
  split at h
  · cases h
  · obtain ⟨date, hdate, h⟩ := bind_eq_ok.1 h
    obtain ⟨-, -, h⟩ := bind_eq_ok.1 h
    obtain ⟨⟨hour, minute, second⟩, -, h⟩ := bind_eq_ok.1 h
    obtain ⟨⟨nanosecond, rest⟩, -, h⟩ := bind_eq_ok.1 h
    have hyear : 0 ≤ date.year ∧ date.year ≤ 9999 := by
      rw [readDay] at hdate
      obtain ⟨year, hy, hdate⟩ := bind_eq_ok.1 hdate
      obtain ⟨-, -, hdate⟩ := bind_eq_ok.1 hdate
      obtain ⟨month, -, hdate⟩ := bind_eq_ok.1 hdate
      obtain ⟨-, -, hdate⟩ := bind_eq_ok.1 hdate
      obtain ⟨day, -, hdate⟩ := bind_eq_ok.1 hdate
      split at hdate
      · next found hfound =>
        cases hdate
        rw [(Date.of?_eq_some hfound).1]
        have hlt := fixedDigits_lt hy
        have hlen : ((bytes.drop 0).take 4).length ≤ 4 := List.length_take_le ..
        have hpow := Nat.pow_le_pow_right (n := 10) (by decide) hlen
        omega
      · cases hdate
    dsimp only at h
    split at h
    · cases h
    · obtain ⟨⟨offset, rest⟩, -, h⟩ := bind_eq_ok.1 h
      dsimp only at h
      split at h
      · split at h
        · cases h
          exact hyear
        · cases h
      · cases h

/-- A moment that a text names is named by its own text too. -/
theorem ofText_text {text : String} {t : Timestamp} (h : ofText text = .ok t) : ofText t.text = .ok t := by
  obtain ⟨hl, hg⟩ := year_of_read h
  exact ofText_text_of_year hl hg

end RequestBinding.Timestamp
