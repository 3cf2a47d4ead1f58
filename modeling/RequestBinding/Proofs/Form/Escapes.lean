import RequestBinding.Proofs.Form.Multimap

/-! Faulty escapes. A form is refused for the first of them, wherever in its bytes it stands; a form without any is read
as a query is, and a query is read in any case. -/

namespace RequestBinding.UrlEncoded

/-- A digit of base sixteen stands at a position. -/
def DigitAt (bytes : List UInt8) (i : Nat) : Prop := ∃ b n, bytes[i]? = some b ∧ IsDigit n b

/-- A percent sign stands at a position, and no two digits behind it. -/
def FaultAt (bytes : List UInt8) (i : Nat) : Prop :=
  bytes[i]? = some 0x25 ∧ ¬ (DigitAt bytes (i + 1) ∧ DigitAt bytes (i + 2))

/-- The fault at a position is the first. -/
structure FirstFault (bytes : List UInt8) (i : Nat) : Prop where
  fault : FaultAt bytes i
  first : ∀ j < i, ¬ FaultAt bytes j

private theorem exists_isDigit_iff (b : UInt8) : (∃ n, IsDigit n b) ↔ (hexValue? b).isSome = true := by
  have hall : ∀ k < 256, (hexValue? (.ofNat k)).isSome = true →
      (digits.any fun row => (List.range 16).any fun n => row[n]? == some (.ofNat k)) = true := by
    decide +kernel
  constructor
  · rintro ⟨n, hn⟩
    rw [(isDigit_spec hn).1]
    rfl
  · intro h
    have hfound := hall b.toNat b.toNat_lt
    rw [UInt8.ofNat_toNat] at hfound
    obtain ⟨row, hrow, hdigit⟩ := List.any_eq_true.1 (hfound h)
    obtain ⟨n, -, hn⟩ := List.any_eq_true.1 hdigit
    exact ⟨n, row, hrow, beq_iff_eq.1 hn⟩

private theorem escaped?_isSome_iff (high low : UInt8) :
    (escaped? high low).isSome = true ↔ (∃ n, IsDigit n high) ∧ ∃ n, IsDigit n low := by
  rw [exists_isDigit_iff, exists_isDigit_iff, escaped?]
  cases hexValue? high <;> cases hexValue? low <;> simp

variable {b high low : UInt8} {rest bytes : List UInt8} {i : Nat}

private theorem digitAt_iff (h : bytes[i]? = some b) : DigitAt bytes i ↔ ∃ n, IsDigit n b := by
  simp only [DigitAt, h, Option.some.injEq, exists_and_left, exists_eq_left']

private theorem not_digitAt (h : bytes[i]? = none) : ¬ DigitAt bytes i := by
  rintro ⟨b, n, hb, -⟩
  cases h.symm.trans hb

private theorem not_faultAt_of_ne (h : bytes[i]? = some b) (hb : b ≠ 0x25) : ¬ FaultAt bytes i :=
  fun hf => hb (Option.some.inj (h.symm.trans hf.1))

private theorem not_faultAt_digit (h : bytes[i]? = some b) (hb : ∃ n, IsDigit n b) : ¬ FaultAt bytes i := by
  obtain ⟨n, hn⟩ := hb
  refine not_faultAt_of_ne h fun he => (isDigit_spec hn).2 ?_
  rw [he]
  decide

private theorem exists_faultAt_cons (h : ¬ FaultAt (b :: rest) 0) :
    (∃ i, FaultAt (b :: rest) i) ↔ ∃ i, FaultAt rest i := by
  constructor
  · rintro ⟨_ | i, hi⟩
    · exact absurd hi h
    · exact ⟨i, hi⟩
  · rintro ⟨i, hi⟩
    exact ⟨i + 1, hi⟩

theorem FirstFault.cons (h : ¬ FaultAt (b :: rest) 0) (hi : FirstFault rest i) : FirstFault (b :: rest) (i + 1) where
  fault := hi.fault
  first
    | 0, _ => h
    | j + 1, hj => hi.first j (Nat.lt_of_succ_lt_succ hj)

theorem FirstFault.zero (h : FaultAt bytes 0) : FirstFault bytes 0 := ⟨h, fun _ hj => absurd hj (Nat.not_lt_zero _)⟩

private theorem not_faultAt_escape (rest : List UInt8) (h : (escaped? high low).isSome = true) :
    ¬ FaultAt (0x25 :: high :: low :: rest) 0 ∧ ¬ FaultAt (high :: low :: rest) 0 ∧ ¬ FaultAt (low :: rest) 0 := by
  obtain ⟨hhigh, hlow⟩ := (escaped?_isSome_iff high low).1 h
  exact ⟨fun hf => hf.2 ⟨(digitAt_iff rfl).2 hhigh, (digitAt_iff rfl).2 hlow⟩, not_faultAt_digit rfl hhigh,
    not_faultAt_digit rfl hlow⟩

/-- What is found is the first fault, with the two bytes behind it as far as they are there. -/
private theorem badEscape?_spec (bytes : List UInt8) :
    (badEscape? bytes = none → ¬ ∃ i, FaultAt bytes i) ∧
      ∀ found, badEscape? bytes = some found → ∃ i, FirstFault bytes i ∧ found = (bytes.drop i).take 3 := by
  fun_induction badEscape? bytes with
  | case1 => exact ⟨fun _ ⟨i, hi⟩ => by simp [FaultAt] at hi, nofun⟩
  | case2 high low rest byte hescape ih =>
    obtain ⟨h₀, h₁, h₂⟩ := not_faultAt_escape rest (Option.isSome_of_eq_some hescape)
    refine ⟨fun hnone => ?_, fun found hfound => ?_⟩
    · rw [exists_faultAt_cons h₀, exists_faultAt_cons h₁, exists_faultAt_cons h₂]
      exact ih.1 hnone
    · obtain ⟨i, hi, rfl⟩ := ih.2 found hfound
      exact ⟨i + 1 + 1 + 1, ((hi.cons h₂).cons h₁).cons h₀, rfl⟩
  | case3 high low rest hescape =>
    refine ⟨nofun, ?_⟩
    rintro _ ⟨⟩
    refine ⟨0, .zero ⟨rfl, fun hdigits => ?_⟩, rfl⟩
    have hsome := (escaped?_isSome_iff high low).2 ⟨(digitAt_iff rfl).1 hdigits.1, (digitAt_iff rfl).1 hdigits.2⟩
    rw [hescape] at hsome
    cases hsome
  | case4 rest hshort =>
    refine ⟨nofun, ?_⟩
    rintro _ ⟨⟩
    -- Fewer than two bytes are left behind the percent sign.
    have hlength : rest.length < 2 := by
      match rest, hshort with
      | [], _ => decide
      | [_], _ => simp
      | high :: low :: more, hshort => exact absurd rfl (hshort high low more)
    refine ⟨0, .zero ⟨rfl, fun hdigits => not_digitAt ?_ hdigits.2⟩, ?_⟩
    · exact List.getElem?_eq_none (by simp only [List.length_cons]; omega)
    · exact (List.take_of_length_le (by simp only [List.length_cons]; omega)).symm
  | case5 b rest _ hb ih =>
    have h₀ : ¬ FaultAt (b :: rest) 0 := not_faultAt_of_ne rfl hb
    refine ⟨fun hnone => ?_, fun found hfound => ?_⟩
    · rw [exists_faultAt_cons h₀]
      exact ih.1 hnone
    · obtain ⟨i, hi, rfl⟩ := ih.2 found hfound
      exact ⟨i + 1, hi.cons h₀, rfl⟩

private theorem badEscape?_eq_none_iff : badEscape? bytes = none ↔ ¬ ∃ i, FaultAt bytes i := by
  obtain ⟨hnone, hsome⟩ := badEscape?_spec bytes
  refine ⟨hnone, fun h => Option.eq_none_iff_forall_ne_some.2 fun found hfound => ?_⟩
  obtain ⟨i, hi, -⟩ := hsome found hfound
  exact h ⟨i, hi.fault⟩

/-- A form is refused exactly if at some place in it a percent sign is not followed by two digits, and the first of them
is named with the bytes behind it. Any other form is read, as the query of the same text is if it is a text. A query is
read whatever it holds, and comes to the named values of its pairs. -/
theorem parseForm_guards_parseQuery (body : List UInt8) :
    ((∃ fault, parseForm body = .error fault) ↔ ∃ i, FaultAt body i) ∧
      (∀ fault, parseForm body = .error fault → ∃ i, FirstFault body i ∧
        fault = .invalidEscape ((body.drop i).take 3) ∧
        fault.message = "invalid URL escape \"" ++ Utf8.decodeLossy ((body.drop i).take 3) ++ "\"") ∧
      ((¬ ∃ i, FaultAt body i) → ∃ v, parseForm body = .ok v ∧
        ∀ query, Utf8.encode query = body → parseQuery (some query) = v) ∧
      ∀ query, (parseQuery (some query)).Groups (pairs (Utf8.encode query)) := by
  have hgood (h : ¬ ∃ i, FaultAt body i) : parseForm body = .ok (parse body) := by
    rw [parseForm, badEscape?_eq_none_iff.2 h]
  have hbad {found : List UInt8} (h : badEscape? body = some found) :
      parseForm body = .error (.invalidEscape found) := by
    rw [parseForm, h]
  refine ⟨⟨?_, ?_⟩, ?_, fun h => ⟨parse body, hgood h, ?_⟩, fun query => NamedValues.groups_ofPairs _⟩
  · rintro ⟨fault, hfault⟩
    by_contra h
    cases (hgood h).symm.trans hfault
  · intro h
    cases hfound : badEscape? body with
    | none => exact absurd h (badEscape?_eq_none_iff.1 hfound)
    | some found => exact ⟨_, hbad hfound⟩
  · intro fault hfault
    cases hfound : badEscape? body with
    | none => cases (hgood (badEscape?_eq_none_iff.1 hfound)).symm.trans hfault
    | some found =>
      obtain ⟨i, hi, rfl⟩ := (badEscape?_spec body).2 found hfound
      cases (hbad hfound).symm.trans hfault
      exact ⟨i, hi, rfl, rfl⟩
  · rintro query rfl
    rfl

-- Behind a good escape, one that the form ends in.
example : parseForm (Utf8.encode "a=%41&b=%4") = .error (.invalidEscape (Utf8.encode "%4")) := by rfl

end RequestBinding.UrlEncoded
