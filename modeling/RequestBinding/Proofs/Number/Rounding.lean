import RequestBinding.Number.Binary
import Mathlib.Algebra.Order.Field.Rat
import Mathlib.Tactic.FieldSimp
import Mathlib.Tactic.Positivity
import Mathlib.Tactic.Ring

/-! Rounding leaves alone what a precision has: the nearest number to the exact value of a finite number is that
number. -/

namespace RequestBinding.Binary

/-- The exact magnitude of a finite number. -/
def value {p : Precision} (x : Binary p) : ℚ := x.parts.1 * 2 ^ x.parts.2

private theorem roundHalfEven_mul (units : Nat) {denominator : Nat} (h : 0 < denominator) :
    roundHalfEven (units * denominator) denominator = units := by
  simp [roundHalfEven, Nat.mul_div_cancel _ h, h]

section Quotient

variable {numerator denominator : Nat}

private theorem inUnits_exact {units : Nat} {power : Int} (hd : 0 < denominator)
    (h : (numerator : ℚ) = units * 2 ^ power * denominator) : inUnits numerator denominator power = units := by
  cases power with
  | ofNat k =>
    have hn : numerator = units * (denominator * Nat.pow 2 k) := by
      have hq : (numerator : ℚ) = (units * (denominator * 2 ^ k) : Nat) := by
        rw [h, Int.ofNat_eq_natCast, zpow_natCast]
        push_cast
        ring
      exact Nat.cast_injective hq
    rw [inUnits, hn]
    exact roundHalfEven_mul units (Nat.mul_pos hd (Nat.two_pow_pos k))
  | negSucc k =>
    have hn : numerator * Nat.pow 2 (k + 1) = units * denominator := by
      have hq : ((numerator * 2 ^ (k + 1) : Nat) : ℚ) = (units * denominator : Nat) := by
        push_cast
        rw [h, zpow_negSucc]
        field_simp
      exact Nat.cast_injective hq
    rw [inUnits, hn]
    exact roundHalfEven_mul units hd

private theorem reached_iff (power : Int) :
    (match power with
      | .ofNat k => decide (denominator * Nat.pow 2 k ≤ numerator)
      | .negSucc k => decide (denominator ≤ numerator * Nat.pow 2 (k + 1))) = true ↔
      (2 : ℚ) ^ power * denominator ≤ numerator := by
  cases power with
  | ofNat k =>
    have hcast : denominator * Nat.pow 2 k ≤ numerator ↔ ((denominator * Nat.pow 2 k : Nat) : ℚ) ≤ numerator :=
      Nat.cast_le.symm
    rw [Int.ofNat_eq_natCast, zpow_natCast, decide_eq_true_iff, hcast]
    simp only [Nat.pow_eq, Nat.cast_mul, Nat.cast_pow, Nat.cast_ofNat, mul_comm]
  | negSucc k =>
    have hcast : denominator ≤ numerator * Nat.pow 2 (k + 1) ↔
        (denominator : ℚ) ≤ ((numerator * Nat.pow 2 (k + 1) : Nat) : ℚ) := Nat.cast_le.symm
    rw [zpow_negSucc, decide_eq_true_iff, hcast, inv_mul_le_iff₀ (by positivity)]
    simp only [Nat.pow_eq, Nat.cast_mul, Nat.cast_pow, Nat.cast_ofNat, mul_comm]

private theorem log2_bounds {n : Nat} (h : 0 < n) : (2 : ℚ) ^ (Nat.log2 n : Int) ≤ n ∧ (n : ℚ) < 2 ^
    ((Nat.log2 n : Int) + 1) := by
  constructor
  · rw [zpow_natCast]
    exact_mod_cast Nat.log2_self_le h.ne'
  · have hlt : n < 2 ^ (Nat.log2 n + 1) := Nat.lt_log2_self
    exact_mod_cast hlt

/-- A positive quotient lies between its power of two and the double. -/
private theorem binade_spec (hn : 0 < numerator) (hd : 0 < denominator) :
    (2 : ℚ) ^ binade numerator denominator * denominator ≤ numerator ∧
      (numerator : ℚ) < 2 ^ (binade numerator denominator + 1) * denominator := by
  obtain ⟨hnlow, hnhigh⟩ := log2_bounds hn
  obtain ⟨hdlow, hdhigh⟩ := log2_bounds hd
  have hpow (k : Int) : (0 : ℚ) < 2 ^ k := zpow_pos two_pos k
  obtain ⟨guess, hguess⟩ : ∃ guess : Int, guess = (Nat.log2 numerator : Int) - Nat.log2 denominator := ⟨_, rfl⟩
  have hb : binade numerator denominator =
      if (2 : ℚ) ^ guess * denominator ≤ numerator then guess else guess - 1 := by
    rw [hguess]
    exact if_congr (reached_iff _) rfl rfl
  rw [hb]
  split
  · next hr =>
    refine ⟨hr, ?_⟩
    calc (numerator : ℚ) < 2 ^ ((Nat.log2 numerator : Int) + 1) := hnhigh
      _ = 2 ^ (guess + 1) * 2 ^ (Nat.log2 denominator : Int) := by
        rw [← zpow_add₀ two_ne_zero]
        congr 1
        omega
      _ ≤ 2 ^ (guess + 1) * denominator := mul_le_mul_of_nonneg_left hdlow (hpow _).le
  · next hr =>
    refine ⟨?_, ?_⟩
    · calc (2 : ℚ) ^ (guess - 1) * denominator
          ≤ 2 ^ (guess - 1) * 2 ^ ((Nat.log2 denominator : Int) + 1) :=
            mul_le_mul_of_nonneg_left hdhigh.le (hpow _).le
        _ = 2 ^ (Nat.log2 numerator : Int) := by
          rw [← zpow_add₀ two_ne_zero]
          congr 1
          omega
        _ ≤ numerator := hnlow
    · rw [sub_add_cancel]
      exact lt_of_not_ge hr

private theorem le_binade {power : Int} (hn : 0 < numerator) (hd : 0 < denominator)
    (h : (2 : ℚ) ^ power * denominator ≤ numerator) : power ≤ binade numerator denominator := by
  have hd' : (0 : ℚ) < denominator := Nat.cast_pos.2 hd
  have hlt := lt_of_mul_lt_mul_right (h.trans_lt (binade_spec hn hd).2) hd'.le
  have := (zpow_lt_zpow_iff_right₀ one_lt_two).1 hlt
  omega

private theorem binade_lt {power : Int} (hn : 0 < numerator) (hd : 0 < denominator)
    (h : (numerator : ℚ) < 2 ^ power * denominator) : binade numerator denominator < power := by
  have hd' : (0 : ℚ) < denominator := Nat.cast_pos.2 hd
  have hlt := lt_of_mul_lt_mul_right ((binade_spec hn hd).1.trans_lt h) hd'.le
  exact (zpow_lt_zpow_iff_right₀ one_lt_two).1 hlt

end Quotient

section Exact

variable {p q : Precision}

private theorem parts_below {x : Binary p} (h : x.magnitude < Nat.pow 2 p.fraction) : x.parts =
    (x.magnitude, p.leastPower) := by
  rw [parts]
  simp only [Nat.div_eq_of_lt h, Nat.mod_eq_of_lt h, if_true]

private theorem parts_full {x : Binary p} {units field : Nat} (hl : Nat.pow 2 p.fraction ≤ units)
    (hu : units < Nat.pow 2 (p.fraction + 1)) (hm : x.magnitude = field * Nat.pow 2 p.fraction + units) :
    x.parts = (units, p.leastPower + field) := by
  have hdouble : Nat.pow 2 (p.fraction + 1) = Nat.pow 2 p.fraction * 2 := Nat.pow_succ ..
  obtain ⟨rest, rfl⟩ := Nat.exists_eq_add_of_le hl
  have hrest : rest < Nat.pow 2 p.fraction := by omega
  have hsplit : x.magnitude = rest + (field + 1) * Nat.pow 2 p.fraction := by
    rw [hm, Nat.add_mul]
    omega
  have hdiv : x.magnitude / Nat.pow 2 p.fraction = field + 1 := by
    have hpos : 0 < Nat.pow 2 p.fraction := Nat.two_pow_pos _
    rw [hsplit, Nat.add_mul_div_right _ _ hpos, Nat.div_eq_of_lt hrest, Nat.zero_add]
  have hmod : x.magnitude % Nat.pow 2 p.fraction = rest := by
    rw [hsplit, Nat.add_mul_mod_self_right, Nat.mod_eq_of_lt hrest]
  rw [parts]
  simp only [hdiv, hmod, Nat.succ_ne_zero, if_false, Prod.mk.injEq]
  omega

private theorem exists_full {x : Binary p} (h : Nat.pow 2 p.fraction ≤ x.magnitude) :
    ∃ units field : Nat, Nat.pow 2 p.fraction ≤ units ∧ units < Nat.pow 2 (p.fraction + 1) ∧
      x.magnitude = field * Nat.pow 2 p.fraction + units := by
  have hpos : 0 < Nat.pow 2 p.fraction := Nat.two_pow_pos _
  have hdouble : Nat.pow 2 (p.fraction + 1) = Nat.pow 2 p.fraction * 2 := Nat.pow_succ ..
  have hmod := Nat.mod_lt x.magnitude hpos
  have hsplit := Nat.div_add_mod' x.magnitude (Nat.pow 2 p.fraction)
  obtain ⟨field, hf⟩ : ∃ field, x.magnitude / Nat.pow 2 p.fraction = field + 1 :=
    ⟨_, (Nat.sub_add_cancel (Nat.div_pos h hpos)).symm⟩
  rw [hf, Nat.add_mul] at hsplit
  exact ⟨x.magnitude % Nat.pow 2 p.fraction + Nat.pow 2 p.fraction, field, by omega, by omega, by omega⟩

private theorem scaled_lt {units width : Nat} (h : units < Nat.pow 2 width) (power : Int) {d : ℚ} (hd : 0 < d) :
    (units : ℚ) * 2 ^ power * d < 2 ^ ((width : Int) + power) * d := by
  have hu : (units : ℚ) < 2 ^ width := by exact_mod_cast h
  rw [zpow_add₀ two_ne_zero, zpow_natCast]
  exact mul_lt_mul_of_pos_right (mul_lt_mul_of_pos_right hu (zpow_pos two_pos _)) hd

private theorem le_scaled {units width : Nat} (h : Nat.pow 2 width ≤ units) (power : Int) {d : ℚ} (hd : 0 < d) :
    2 ^ ((width : Int) + power) * d ≤ (units : ℚ) * 2 ^ power * d := by
  have hu : (2 : ℚ) ^ width ≤ units := by exact_mod_cast h
  rw [zpow_add₀ two_ne_zero, zpow_natCast]
  exact mul_le_mul_of_nonneg_right (mul_le_mul_of_nonneg_right hu (zpow_pos two_pos _).le) hd.le

section Nearest

variable {numerator denominator units : Nat} (hd : 0 < denominator)
include hd

private theorem nearestMagnitude_below (hu : units < Nat.pow 2 p.fraction)
    (h : (numerator : ℚ) = units * 2 ^ p.leastPower * denominator) :
    nearestMagnitude p numerator denominator = min units p.infinite := by
  have hd' : (0 : ℚ) < denominator := Nat.cast_pos.2 hd
  rcases Nat.eq_zero_or_pos numerator with hz | hn
  · have hzero : units = 0 := by
      rw [hz, Nat.cast_zero, eq_comm, mul_eq_zero, mul_eq_zero, Nat.cast_eq_zero] at h
      rcases h with (h | h) | h
      · exact h
      · exact absurd h (zpow_ne_zero _ two_ne_zero)
      · exact absurd h hd'.ne'
    rw [nearestMagnitude, if_pos hz, hzero, Nat.zero_min]
  · have hbelow := binade_lt hn hd (h.trans_lt (scaled_lt hu p.leastPower hd'))
    have hpower : max (binade numerator denominator - p.fraction) p.leastPower = p.leastPower := by omega
    rw [nearestMagnitude, if_neg hn.ne']
    dsimp only
    rw [hpower, inUnits_exact hd h, sub_self, Int.toNat_zero, Nat.zero_mul, Nat.zero_add]

private theorem nearestMagnitude_full (field : Nat) (hl : Nat.pow 2 p.fraction ≤ units)
    (hu : units < Nat.pow 2 (p.fraction + 1))
    (h : (numerator : ℚ) = units * 2 ^ (p.leastPower + field) * denominator) :
    nearestMagnitude p numerator denominator = min (field * Nat.pow 2 p.fraction + units) p.infinite := by
  have hd' : (0 : ℚ) < denominator := Nat.cast_pos.2 hd
  have hn : 0 < numerator := by
    have hpos : (0 : ℚ) < units := Nat.cast_pos.2 ((Nat.two_pow_pos _).trans_le hl)
    exact Nat.cast_pos.1 (h ▸ mul_pos (mul_pos hpos (zpow_pos two_pos _)) hd')
  have hreached := le_binade hn hd ((le_scaled hl (p.leastPower + field) hd').trans_eq h.symm)
  have hbelow := binade_lt hn hd (h.trans_lt (scaled_lt hu (p.leastPower + field) hd'))
  have hpower : max (binade numerator denominator - p.fraction) p.leastPower = p.leastPower + field := by omega
  rw [nearestMagnitude, if_neg hn.ne']
  dsimp only
  rw [hpower, inUnits_exact hd h, add_sub_cancel_left, Int.toNat_natCast]

private theorem nearestMagnitude_value {x : Binary p} (hx : x.isFinite = true)
    (h : (numerator : ℚ) = x.value * denominator) :
    nearestMagnitude p numerator denominator = x.magnitude := by
  rw [isFinite, decide_eq_true_iff] at hx
  rcases Nat.lt_or_ge x.magnitude (Nat.pow 2 p.fraction) with hlow | hhigh
  · rw [value, parts_below hlow] at h
    rw [nearestMagnitude_below hd hlow h, Nat.min_eq_left hx.le]
  · obtain ⟨units, field, hl, hu, hm⟩ := exists_full hhigh
    rw [value, parts_full hl hu hm] at h
    rw [nearestMagnitude_full hd field hl hu h, ← hm, Nat.min_eq_left hx.le]

end Nearest

private theorem nearestScaled_value {x : Binary p} (hx : x.isFinite = true) {units : Nat} {power : Int}
    (h : (units : ℚ) * 2 ^ power = x.value) : nearestScaled p x.negative units power = x := by
  cases power with
  | ofNat k =>
    have hm : nearestMagnitude p (units * Nat.pow 2 k) 1 = x.magnitude := by
      apply nearestMagnitude_value one_pos hx
      rw [← h, Int.ofNat_eq_natCast, zpow_natCast]
      push_cast
      simp
    simp only [nearestScaled, nearest, hm]
  | negSucc k =>
    have hm : nearestMagnitude p units (Nat.pow 2 (k + 1)) = x.magnitude := by
      apply nearestMagnitude_value (Nat.two_pow_pos _) hx
      rw [← h, zpow_negSucc]
      push_cast
      field_simp
    simp only [nearestScaled, nearest, hm]

private theorem convert_of_value {x : Binary p} {y : Binary q} (hx : x.isFinite = true) (hy : y.isFinite = true)
    (hs : x.negative = y.negative) (hv : x.value = y.value) : x.convert q = y := by
  rw [convert, if_pos hx, hs]
  exact nearestScaled_value hy hv

end Exact

/-- Units of a power of two are the value of a double, unless they are too many or their power too far off. -/
private theorem exists_double (negative : Bool) {units : Nat} {power : Int} (hu : units < Nat.pow 2 53)
    (hl : -1022 ≤ power) (hg : power ≤ 918) :
    ∃ y : Double, y.isFinite = true ∧ y.negative = negative ∧ y.value = units * 2 ^ power := by
  rcases Nat.eq_zero_or_pos units with rfl | hpos
  · refine ⟨⟨negative, 0, Nat.two_pow_pos _⟩, rfl, rfl, ?_⟩
    rw [value, parts_below (Nat.two_pow_pos _)]
    simp
  · have hlog : Nat.log2 units ≤ 52 := by
      have := (Nat.log2_lt hpos.ne').2 hu
      omega
    -- The units are shifted until they fill the fraction.
    obtain ⟨shift, hshift⟩ : ∃ shift, Nat.log2 units + shift = 52 := ⟨_, Nat.add_sub_of_le hlog⟩
    obtain ⟨field, hfield⟩ : ∃ field : Nat, (field : Int) = power - shift + 1074 :=
      ⟨(power - shift + 1074).toNat, Int.toNat_of_nonneg (by omega)⟩
    have hleast : Nat.pow 2 52 ≤ units * Nat.pow 2 shift := by
      rw [← hshift]
      exact (Nat.pow_add 2 _ _).trans_le (Nat.mul_le_mul_right _ (Nat.log2_self_le hpos.ne'))
    have hmost : units * Nat.pow 2 shift < Nat.pow 2 53 := by
      have hlt : units < Nat.pow 2 (Nat.log2 units + 1) := Nat.lt_log2_self
      have hsum : 53 = Nat.log2 units + 1 + shift := by omega
      rw [hsum]
      exact (Nat.mul_lt_mul_of_pos_right hlt (Nat.two_pow_pos shift)).trans_eq (Nat.pow_add 2 _ _).symm
    have hfinite : field * Nat.pow 2 52 + units * Nat.pow 2 shift < Precision.double.infinite := by
      have hbound : field ≤ 1992 := by omega
      have hinfinite : Precision.double.infinite = 2047 * Nat.pow 2 52 := by decide
      have hdouble : Nat.pow 2 53 = 2 * Nat.pow 2 52 := by decide
      rw [hinfinite]
      have := Nat.mul_le_mul_right (Nat.pow 2 52) hbound
      omega
    refine ⟨⟨negative, field * Nat.pow 2 52 + units * Nat.pow 2 shift, hfinite.trans (infinite_lt _)⟩,
      decide_eq_true hfinite, rfl, ?_⟩
    have hparts := parts_full (x := ⟨negative, field * Nat.pow 2 52 + units * Nat.pow 2 shift,
      hfinite.trans (infinite_lt _)⟩) hleast hmost rfl
    rw [value, hparts]
    have hpower : Precision.double.leastPower + field = power - shift := by
      have : Precision.double.leastPower = -1074 := by decide
      omega
    have hcast : ((Nat.pow 2 shift : Nat) : ℚ) = 2 ^ shift := Nat.cast_pow 2 shift
    rw [hpower, zpow_sub₀ two_ne_zero, zpow_natCast, Nat.cast_mul, hcast]
    field_simp

private theorem parts_single {x : Single} (hx : x.isFinite = true) :
    x.parts.1 < Nat.pow 2 24 ∧ -149 ≤ x.parts.2 ∧ x.parts.2 ≤ 105 := by
  have hleast : Precision.single.leastPower = -149 := by decide
  rcases Nat.lt_or_ge x.magnitude (Nat.pow 2 23) with hlow | hhigh
  · rw [parts_below hlow, hleast]
    have hlt : Nat.pow 2 23 < Nat.pow 2 24 := by decide
    exact ⟨hlow.trans hlt, le_refl _, by omega⟩
  · obtain ⟨units, field, hl, hu, hm⟩ := exists_full (p := .single) hhigh
    rw [parts_full hl hu hm, hleast]
    refine ⟨hu, by omega, ?_⟩
    rw [isFinite, decide_eq_true_iff] at hx
    have hinfinite : Precision.single.infinite = 255 * Nat.pow 2 23 := by decide
    have hlt : field * Nat.pow 2 23 < 255 * Nat.pow 2 23 := by
      rw [← hinfinite]
      exact (Nat.le_add_right ..).trans_lt (hm ▸ hx)
    have := Nat.lt_of_mul_lt_mul_right hlt
    omega

/-- A finite single widens to a finite double, from which it is narrowed again. -/
theorem convert_convert_single {x : Single} (hx : x.isFinite = true) :
    (x.convert .double).isFinite = true ∧ (x.convert .double).convert .single = x := by
  obtain ⟨hu, hl, hg⟩ := parts_single hx
  have hlt : Nat.pow 2 24 < Nat.pow 2 53 := by decide
  obtain ⟨y, hy, hs, hv⟩ := exists_double x.negative (hu.trans hlt) (by omega) (by omega : x.parts.2 ≤ 918)
  rw [convert_of_value hx hy hs.symm hv.symm]
  exact ⟨hy, convert_of_value hy hx hs hv⟩

end RequestBinding.Binary
