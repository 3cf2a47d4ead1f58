import RequestBinding.Proofs.Calendar.Date
import RequestBinding.Proofs.Number.IntegerText

/-! The spellings of a day. A day is read from every text that joins its year, its month and its day by hyphens, each
with or without leading zeros and white space before it, and from no other text. The plain spelling is that of four, two
and two digits; a day of a year of four digits is written in it. -/

namespace RequestBinding

namespace IntegerText

variable {digits : List Char}

private theorem toNat_of_isDigit {c : Char} (h : c.isDigit = true) : 48 ≤ c.toNat ∧ c.toNat ≤ 57 := by
  simpa [Char.isDigit, UInt32.le_iff_toNat_le] using h

private theorem ofDigitChars_lt (hd : ∀ c ∈ digits, c.isDigit = true) (value : Nat) :
    Nat.ofDigitChars 10 digits value < (value + 1) * 10 ^ digits.length := by
  induction digits generalizing value with
  | nil => simp
  | cons c rest ih =>
    obtain ⟨hc, hrest⟩ := List.forall_mem_cons.1 hd
    have hrange := toNat_of_isDigit hc
    have hzero : '0'.toNat = 48 := rfl
    calc Nat.ofDigitChars 10 (c :: rest) value
      _ = Nat.ofDigitChars 10 rest (10 * value + (c.toNat - '0'.toNat)) := Nat.ofDigitChars_cons
      _ < (10 * value + (c.toNat - '0'.toNat) + 1) * 10 ^ rest.length := ih hrest _
      _ ≤ ((value + 1) * 10) * 10 ^ rest.length := Nat.mul_le_mul_right _ (by omega)
      _ = (value + 1) * 10 ^ (c :: rest).length := by rw [Nat.mul_assoc, ← Nat.pow_succ', List.length_cons]

private theorem ofDigitChars_inj {others : List Char} {value other : Nat} (hd : ∀ c ∈ digits, c.isDigit = true)
    (ho : ∀ c ∈ others, c.isDigit = true) (hlength : digits.length = others.length)
    (h : Nat.ofDigitChars 10 digits value = Nat.ofDigitChars 10 others other) : value = other ∧ digits = others := by
  induction digits generalizing others value other with
  | nil =>
    obtain rfl := List.length_eq_zero_iff.1 hlength.symm
    exact ⟨h, rfl⟩
  | cons c rest ih =>
    obtain ⟨c', rest', rfl⟩ := List.exists_cons_of_length_eq_add_one hlength.symm
    obtain ⟨hc, hrest⟩ := List.forall_mem_cons.1 hd
    obtain ⟨hc', hrest'⟩ := List.forall_mem_cons.1 ho
    rw [Nat.ofDigitChars_cons, Nat.ofDigitChars_cons] at h
    obtain ⟨hvalue, rfl⟩ := ih hrest hrest' (Nat.succ.inj hlength) h
    have hrange := toNat_of_isDigit hc
    have hrange' := toNat_of_isDigit hc'
    have hzero : '0'.toNat = 48 := rfl
    have hchar : c.toNat = c'.toNat := by omega
    rw [Char.toNat_inj] at hchar
    exact ⟨by omega, by rw [hchar]⟩

end IntegerText

namespace Date

open IntegerText (AllDigits Denotes)

/-! ### Digits -/

section Digits

variable {limit : Option Nat} {text rest : List Char}

private theorem spanDigits_spec (limit : Option Nat) (text : List Char) :
    text = (spanDigits limit text).1 ++ (spanDigits limit text).2 ∧ (∀ c ∈ (spanDigits limit text).1, c.isDigit = true) ∧
      ∀ k ∈ limit, (spanDigits limit text).1.length ≤ k := by
  have hprefix : (spanDigits limit text).1 <+: text := by
    cases limit with
    | none => exact List.takeWhile_prefix _
    | some k => exact (List.takeWhile_prefix _).trans (List.take_prefix k text)
  refine ⟨(List.prefix_iff_eq_append.1 hprefix).symm, fun c hc => List.mem_takeWhile_imp hc, ?_⟩
  rintro k rfl
  exact Nat.le_trans (List.takeWhile_prefix _).length_le (List.length_take_le k text)

private theorem spanDigits_stops {digits : List Char} (hd : ∀ c ∈ digits, c.isDigit = true)
    (hl : ∀ k ∈ limit, digits.length ≤ k)
    (hr : Stops rest) : spanDigits limit (digits ++ rest) = (digits, rest) := by
  cases limit with
  | none => exact spanDigits_none hd hr
  | some k =>
    have htake : (digits ++ rest).take k = digits ++ rest.take (k - digits.length) := by
      rw [List.take_append, List.take_of_length_le (hl k rfl)]
    have hstop : (rest.take (k - digits.length)).takeWhile Char.isDigit = [] := by
      cases hrest : rest.take (k - digits.length) with
      | nil => rfl
      | cons c more =>
        have hc : rest.head? = some c := by
          have hhead := congrArg List.head? hrest
          rw [List.head?_take] at hhead
          split at hhead
          · cases hhead
          · exact hhead
        exact List.takeWhile_cons_of_neg (by simp [hr c hc])
    have hdigits : ((digits ++ rest).take k).takeWhile Char.isDigit = digits := by
      rw [htake, List.takeWhile_append_of_pos hd, hstop, List.append_nil]
    simp only [spanDigits, hdigits, List.drop_left]

private theorem readDigits_eq_ok {n : Nat} (h : readDigits limit text = .ok (n, rest)) :
    ∃ digits, text = digits ++ rest ∧ AllDigits digits ∧ (∀ k ∈ limit, digits.length ≤ k) ∧
      Nat.ofDigitChars 10 digits 0 = n := by
  obtain ⟨htext, hd, hl⟩ := spanDigits_spec limit text
  unfold readDigits at h
  split at h
  · cases h
  · cases h
  · next digits after hnil hsome hspan =>
    rw [hspan] at htext hd hl
    dsimp only at h
    split at h
    · obtain ⟨rfl, rfl⟩ := Prod.mk.inj (Except.ok.inj h)
      have hne : digits ≠ [] := by
        rintro rfl
        exact hsome rfl
      exact ⟨digits, htext, ⟨hne, hd⟩, hl, (foldl_digits digits 0).symm⟩
    · cases h

private theorem readDigits_stops (limit : Option Nat) {digits : List Char} (hd : AllDigits digits)
    (hl : ∀ k ∈ limit, digits.length ≤ k)
    (hn : Nat.ofDigitChars 10 digits 0 < 0x8000000000000000) (hr : Stops rest) :
    readDigits limit (digits ++ rest) = .ok (Nat.ofDigitChars 10 digits 0, rest) := by
  have hspan := spanDigits_stops hd.2 hl hr
  unfold readDigits
  rw [hspan]
  split
  · next h => exact absurd (Prod.mk.inj h).1 hd.1
  · next h => exact absurd (Prod.mk.inj h).1 hd.1
  · next h =>
    obtain ⟨rfl, rfl⟩ := Prod.mk.inj h
    rw [foldl_digits]
    exact if_pos hn

end Digits

/-! ### Spellings -/

/-- A text of some kind behind white space. -/
def AfterBlanks (kind : List Char → Prop) (text : List Char) : Prop :=
  ∃ blanks rest, text = blanks ++ rest ∧ (∀ c ∈ blanks, Text.isBlank c = true) ∧ kind rest

/-- A year is spelled as an integer, of at most four digits where it has no sign. -/
def SpellsYear (year : Int) (text : List Char) : Prop := Denotes text year ∧ (AllDigits text → text.length ≤ 4)

/-- A month or a day is spelled in one digit or two. -/
def SpellsCount (n : Nat) (text : List Char) : Prop :=
  AllDigits text ∧ text.length ≤ 2 ∧ Nat.ofDigitChars 10 text 0 = n

/-- The texts that a day is spelled in, in the years that a text can name. -/
inductive Spelled (d : Date) : List Char → Prop
  | joined {year month day : List Char} : leastYear ≤ d.year → d.year ≤ greatestYear →
      AfterBlanks (SpellsYear d.year) year → AfterBlanks (SpellsCount d.month) month →
      AfterBlanks (SpellsCount d.day) day → Spelled d (year ++ '-' :: (month ++ '-' :: day))

/-- Digits of a width and a value. -/
structure Digits (width n : Nat) (text : List Char) : Prop where
  length : text.length = width
  isDigit : ∀ c ∈ text, c.isDigit = true
  value : Nat.ofDigitChars 10 text 0 = n

/-- The text that spells a day in four, two and two digits, with single hyphens between and nothing else. -/
inductive Plain (d : Date) : List Char → Prop
  | joined {n : Nat} {year month day : List Char} : d.year = n → Digits 4 n year → Digits 2 d.month month →
      Digits 2 d.day day → Plain d (year ++ '-' :: (month ++ '-' :: day))

section Spellings

variable {text rest : List Char} {d : Date}

section Blanks

variable {kind : List Char → Prop}

private theorem exists_afterBlanks {body : List Char} (h : text.dropWhile Text.isBlank = body ++ rest)
    (hk : kind body) :
    ∃ piece, text = piece ++ rest ∧ AfterBlanks kind piece := by
  refine ⟨text.takeWhile Text.isBlank ++ body, ?_, _, _, rfl, fun _ => List.mem_takeWhile_imp, hk⟩
  rw [List.append_assoc, ← h, List.takeWhile_append_dropWhile]

private theorem exists_behind_blanks {piece : List Char} (h : AfterBlanks kind piece)
    (hk : ∀ body, kind body → ∃ c more, body = c :: more ∧ Text.isBlank c = false) (rest : List Char) :
    ∃ body, (piece ++ rest).dropWhile Text.isBlank = body ++ rest ∧ kind body := by
  obtain ⟨blanks, body, rfl, hblanks, hbody⟩ := h
  obtain ⟨c, more, rfl, hc⟩ := hk body hbody
  refine ⟨c :: more, ?_, hbody⟩
  rw [List.append_assoc, List.dropWhile_append_of_pos hblanks]
  exact List.dropWhile_cons_of_neg (by simp [hc])

end Blanks

private theorem exists_spelled_count (n : Nat) (body : List Char) (h : SpellsCount n body) :
    ∃ c more, body = c :: more ∧ Text.isBlank c = false := by
  obtain ⟨hd, -⟩ := h
  obtain ⟨c, more, rfl⟩ := List.exists_cons_of_ne_nil hd.1
  exact ⟨c, more, rfl, Text.not_isBlank_of_isDigit hd.head⟩

private theorem exists_spelled_year (year : Int) (body : List Char) (h : SpellsYear year body) :
    ∃ c more, body = c :: more ∧ Text.isBlank c = false := by
  obtain ⟨hdenotes, -⟩ := h
  cases hdenotes with
  | unsigned hd =>
    obtain ⟨c, more, rfl⟩ := List.exists_cons_of_ne_nil hd.1
    exact ⟨c, more, rfl, Text.not_isBlank_of_isDigit hd.head⟩
  | plus hd => exact ⟨_, _, rfl, by decide⟩
  | minus hd => exact ⟨_, _, rfl, by decide⟩

private theorem readCount_eq_ok {limit n : Nat} (h : readCount limit text = .ok (n, rest)) :
    ∃ body, text = body ++ rest ∧ SpellsCount n body := by
  obtain ⟨⟨found, after⟩, hread, h⟩ := bind_eq_ok.1 h
  dsimp only at h
  split at h
  · obtain ⟨rfl, rfl⟩ := Prod.mk.inj (Except.ok.inj h)
    obtain ⟨body, htext, hd, hl, hvalue⟩ := readDigits_eq_ok hread
    exact ⟨body, htext, hd, hl 2 rfl, hvalue⟩
  · cases h

private theorem readCount_spelled (limit : Nat) {n : Nat} {body : List Char} (h : SpellsCount n body) (hl : 1 ≤ n)
    (hg : n ≤ limit)
    (hr : Stops rest) : readCount limit (body ++ rest) = .ok (n, rest) := by
  obtain ⟨hd, hlength, rfl⟩ := h
  have hvalue := IntegerText.ofDigitChars_lt hd.2 0
  have hpower : 10 ^ body.length ≤ 10 ^ 2 := Nat.pow_le_pow_right (by decide) hlength
  rw [readCount, readDigits_stops (some 2) hd (by simpa using hlength) (by omega) hr]
  exact if_pos ⟨hl, hg⟩

private theorem signed_eq_ok (signed : Nat → Int) {limit : Option Nat} {year : Int}
    (h : ((readDigits limit text).map fun x => (signed x.1, x.2)) >>= (fun x =>
      if -0x80000000 ≤ x.1 ∧ x.1 < 0x80000000 then Except.ok (x.1, x.2) else .error .outOfRange) = .ok (year, rest)) :
    ∃ digits, text = digits ++ rest ∧ AllDigits digits ∧ (∀ k ∈ limit, digits.length ≤ k) ∧
      signed (Nat.ofDigitChars 10 digits 0) = year := by
  obtain ⟨_, hsigned, h⟩ := bind_eq_ok.1 h
  obtain ⟨⟨n, after⟩, hread, rfl⟩ := map_eq_ok.1 hsigned
  dsimp only at h
  split at h
  · obtain ⟨rfl, rfl⟩ := Prod.mk.inj (Except.ok.inj h)
    obtain ⟨digits, htext, hd, hl, rfl⟩ := readDigits_eq_ok hread
    exact ⟨digits, htext, hd, hl, rfl⟩
  · cases h

private theorem readYear_eq_ok {year : Int} (h : readYear text = .ok (year, rest)) :
    ∃ body, text = body ++ rest ∧ SpellsYear year body := by
  unfold readYear at h
  dsimp only at h
  split at h
  · obtain ⟨digits, rfl, hd, -, rfl⟩ := signed_eq_ok (fun n => -(n : Int)) h
    exact ⟨'-' :: digits, rfl, .minus hd, fun hall => absurd hall.head (by decide)⟩
  · obtain ⟨digits, rfl, hd, -, rfl⟩ := signed_eq_ok (fun n => (n : Int)) h
    exact ⟨'+' :: digits, rfl, .plus hd, fun hall => absurd hall.head (by decide)⟩
  · obtain ⟨digits, rfl, hd, hl, rfl⟩ := signed_eq_ok (fun n => (n : Int)) h
    exact ⟨digits, rfl, .unsigned hd, fun _ => hl 4 rfl⟩

private theorem readYear_spelled {year : Int} {body : List Char} (h : SpellsYear year body) (hl : leastYear ≤ year)
    (hg : year ≤ greatestYear) (hr : Stops rest) : readYear (body ++ rest) = .ok (year, rest) := by
  simp only [leastYear, greatestYear] at hl hg
  have hrange : -0x80000000 ≤ year ∧ year < 0x80000000 := by omega
  obtain ⟨hdenotes, hlength⟩ := h
  cases hdenotes with
  | unsigned hd =>
    obtain ⟨c, more, rfl⟩ := List.exists_cons_of_ne_nil hd.1
    have hread := readDigits_stops (some 4) hd (by simpa using hlength hd) (by omega) hr
    unfold readYear
    rw [List.cons_append] at hread ⊢
    split
    · next hminus => exact absurd ((List.cons.inj hminus).1 ▸ hd.head) (by decide)
    · next hplus => exact absurd ((List.cons.inj hplus).1 ▸ hd.head) (by decide)
    · simp only [hread, Except.map, bind, Except.bind, if_pos hrange]
  | plus hd =>
    have hread := readDigits_stops none hd (by simp) (by omega) hr
    simp only [readYear, List.cons_append, hread, Except.map, bind, Except.bind, if_pos hrange]
  | minus hd =>
    have hread := readDigits_stops none hd (by simp) (by omega) hr
    simp only [readYear, List.cons_append, hread, Except.map, bind, Except.bind, if_pos hrange]

private theorem spelled_of_read (h : read text = .ok d) : d.Spelled text := by
  obtain ⟨afterYear, afterMonth, hreadYear, hreadMonth, hreadDay, hl, hg⟩ := read_eq_ok h
  obtain ⟨_, hbeforeYear, hyear⟩ := readYear_eq_ok hreadYear
  obtain ⟨_, hbeforeMonth, hmonth⟩ := readCount_eq_ok hreadMonth
  obtain ⟨_, hbeforeDay, hday⟩ := readCount_eq_ok hreadDay
  obtain ⟨year, rfl, hyear⟩ := exists_afterBlanks hbeforeYear hyear
  obtain ⟨month, rfl, hmonth⟩ := exists_afterBlanks hbeforeMonth hmonth
  obtain ⟨day, rfl, hday⟩ := exists_afterBlanks hbeforeDay hday
  rw [List.append_nil]
  exact .joined hl hg hyear hmonth hday

private theorem read_of_spelled (h : d.Spelled text) : read text = .ok d := by
  obtain @⟨year, month, day, hl, hg, hyear, hmonth, hday⟩ := h
  have hdays := daysInMonth_le d.year d.month
  obtain ⟨hm, hm'⟩ := d.month_exists
  obtain ⟨hd, hd'⟩ := d.day_exists
  obtain ⟨yearBody, hfirst, hyear⟩ := exists_behind_blanks hyear (exists_spelled_year _) ('-' :: (month ++ '-' :: day))
  obtain ⟨monthBody, hsecond, hmonth⟩ := exists_behind_blanks hmonth (exists_spelled_count _) ('-' :: day)
  obtain ⟨dayBody, hthird, hday⟩ := exists_behind_blanks hday (exists_spelled_count _) []
  rw [List.append_nil] at hthird
  have hreadYear := readYear_spelled hyear hl hg (stops_hyphen (month ++ '-' :: day))
  have hreadMonth := readCount_spelled 12 hmonth hm hm' (stops_hyphen day)
  have hreadDay : readCount 31 (dayBody ++ []) = .ok (d.day, []) := readCount_spelled 31 hday hd (by omega) nofun
  rw [read, hfirst, hreadYear]
  simp only [bind, Except.bind, readHyphen, if_true, hsecond, hreadMonth, hthird, hreadDay]
  rw [if_neg (by simp), if_neg (by omega), of?_eq]

/-- The texts that a day is read from are its spellings. -/
theorem read_eq_ok_iff : read text = .ok d ↔ d.Spelled text := ⟨spelled_of_read, read_of_spelled⟩

private theorem Digits.allDigits {width n : Nat} (h : Digits width n text) (hw : 0 < width) : AllDigits text :=
  ⟨by rintro rfl; exact absurd h.length (Nat.ne_of_lt hw), h.isDigit⟩

private theorem digits_padded {width n : Nat} (hw : 0 < width) (h : n < 10 ^ width) : Digits width n (padded width n) :=
  ⟨length_padded hw h, fun _ => isDigit_of_mem_padded, ofDigitChars_padded width n⟩

private theorem Digits.eq_padded {width n : Nat} (h : Digits width n text) (hw : 0 < width) :
    text = padded width n := by
  have hlt := IntegerText.ofDigitChars_lt h.isDigit 0
  rw [Nat.zero_add, Nat.one_mul, h.length, h.value] at hlt
  have hp := digits_padded hw hlt
  exact (IntegerText.ofDigitChars_inj h.isDigit hp.isDigit (h.length.trans hp.length.symm) (h.value.trans hp.value.symm)).2

private theorem AfterBlanks.ofKind {kind : List Char → Prop} (h : kind text) : AfterBlanks kind text :=
  ⟨[], text, rfl, nofun, h⟩

private theorem Digits.spellsCount {n : Nat} (h : Digits 2 n text) : SpellsCount n text :=
  ⟨h.allDigits (by decide), Nat.le_of_eq h.length, h.value⟩

private theorem Digits.spellsYear {n : Nat} (h : Digits 4 n text) : SpellsYear n text := by
  refine ⟨?_, fun _ => Nat.le_of_eq h.length⟩
  rw [← h.value]
  exact .unsigned (h.allDigits (by decide))

/-- A day of a year of four digits is written plainly, and no other text is plain. -/
theorem plain_iff : d.Plain text ↔ text = d.write ∧ 0 ≤ d.year ∧ d.year ≤ 9999 := by
  have hdays := daysInMonth_le d.year d.month
  obtain ⟨hm, hm'⟩ := d.month_exists
  obtain ⟨hd, hd'⟩ := d.day_exists
  have hwrite : d.write = writeYear d.year ++ '-' :: (padded 2 d.month ++ '-' :: padded 2 d.day) := by
    simp only [write, List.append_assoc, List.cons_append]
  rw [hwrite]
  constructor
  · rintro @⟨n, year, month, day, hn, hyear, hmonth, hday⟩
    have hlt := IntegerText.ofDigitChars_lt hyear.isDigit 0
    rw [hyear.value, hyear.length] at hlt
    have hrange : 0 ≤ d.year ∧ d.year ≤ 9999 := by omega
    refine ⟨?_, hrange⟩
    rw [writeYear, if_pos hrange, hn, Int.natAbs_natCast, ← hyear.eq_padded (by decide), ← hmonth.eq_padded (by decide),
      ← hday.eq_padded (by decide)]
  · rintro ⟨rfl, hrange⟩
    rw [writeYear, if_pos hrange]
    exact .joined (Int.natAbs_of_nonneg hrange.1).symm (digits_padded (by decide) (by omega))
      (digits_padded (by decide) (by omega)) (digits_padded (by decide) (by omega))

/-- A day is spelled by the text that it is written in plainly. -/
theorem Plain.spelled (h : d.Plain text) : d.Spelled text := by
  obtain ⟨-, hfrom, hto⟩ := plain_iff.1 h
  obtain ⟨hn, hyear, hmonth, hday⟩ := h
  apply Spelled.joined
  · exact Int.le_trans (by decide) hfrom
  · exact Int.le_trans hto (by decide)
  · rw [hn]
    exact .ofKind hyear.spellsYear
  · exact .ofKind hmonth.spellsCount
  · exact .ofKind hday.spellsCount

end Spellings

end Date
end RequestBinding
