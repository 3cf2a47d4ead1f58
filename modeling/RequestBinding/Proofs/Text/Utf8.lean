import RequestBinding.Text.Utf8
import Mathlib.Data.List.Basic
import Mathlib.Data.String.Basic

/-! UTF-8 as a correspondence: strict reading undoes writing, and reads nothing but what was written. -/

namespace RequestBinding.Utf8

/-- The bytes of a character, by how many there are: its bits in groups of six, the shortest way of writing them,
and none of the numbers that are no character. -/
inductive Spells : Nat → List UInt8 → Prop
  | one {a : Nat} : a < 128 → Spells a [.ofNat a]
  | two {a b : Nat} : 2 ≤ a → a < 32 → b < 64 → Spells (a * 64 + b) [.ofNat (0xC0 + a), .ofNat (0x80 + b)]
  | three {a b c : Nat} : a < 16 → b < 64 → c < 64 → (a = 0 → 32 ≤ b) → (a = 13 → b < 32) →
      Spells ((a * 64 + b) * 64 + c) [.ofNat (0xE0 + a), .ofNat (0x80 + b), .ofNat (0x80 + c)]
  | four {a b c d : Nat} : a < 5 → b < 64 → c < 64 → d < 64 → (a = 0 → 16 ≤ b) → (a = 4 → b < 16) →
      Spells (((a * 64 + b) * 64 + c) * 64 + d)
        [.ofNat (0xF0 + a), .ofNat (0x80 + b), .ofNat (0x80 + c), .ofNat (0x80 + d)]

section Lead

variable {a : Nat}

private theorem ofNat_beq {n : Nat} {b : UInt8} {p : Prop} [Decidable p] (hn : n < 256) (h : n = b.toNat ↔ p) :
    (UInt8.ofNat n == b) = decide p := by
  rw [Bool.eq_iff_iff, beq_iff_eq, decide_eq_true_iff, ← UInt8.toNat_inj, UInt8.toNat_ofNat_of_lt' hn, h]

private theorem lead_one (h : a < 128) : lead (.ofNat a) = some ⟨0, a, 0x80, 0xBF⟩ := by
  have ha : (UInt8.ofNat a).toNat = a := UInt8.toNat_ofNat_of_lt' (Nat.lt_trans h (by decide))
  simp only [lead, UInt8.lt_iff_toNat_lt, ha]
  rw [if_pos (by simpa using h)]

private theorem lead_two (h : 2 ≤ a) (h' : a < 32) : lead (.ofNat (0xC0 + a)) = some ⟨1, a, 0x80, 0xBF⟩ := by
  have ha : (UInt8.ofNat (0xC0 + a)).toNat = 0xC0 + a :=
    UInt8.toNat_ofNat_of_lt' (Nat.lt_trans (Nat.add_lt_add_left h' 0xC0) (by decide))
  have hbits : (0xC0 + a) % 32 = a := by omega
  simp only [lead, UInt8.lt_iff_toNat_lt, ha, UInt8.reduceToNat, hbits]
  rw [if_neg (by omega), if_neg (by omega), if_pos (by omega)]

private theorem lead_three (h : a < 16) : lead (.ofNat (0xE0 + a)) =
    some ⟨2, a, if a = 0 then 0xA0 else 0x80, if a = 13 then 0x9F else 0xBF⟩ := by
  have hbyte : 0xE0 + a < 256 := by omega
  have hbits : (0xE0 + a) % 16 = a := by omega
  have hlow : (UInt8.ofNat (0xE0 + a) == 0xE0) = decide (a = 0) :=
    ofNat_beq hbyte (by simp only [UInt8.reduceToNat]; omega)
  have hhigh : (UInt8.ofNat (0xE0 + a) == 0xED) = decide (a = 13) :=
    ofNat_beq hbyte (by simp only [UInt8.reduceToNat]; omega)
  simp only [lead, UInt8.lt_iff_toNat_lt, UInt8.toNat_ofNat_of_lt' hbyte, UInt8.reduceToNat, hbits, hlow, hhigh,
    decide_eq_true_iff]
  rw [if_neg (by omega), if_neg (by omega), if_neg (by omega), if_pos (by omega)]

private theorem lead_four (h : a < 5) : lead (.ofNat (0xF0 + a)) =
    some ⟨3, a, if a = 0 then 0x90 else 0x80, if a = 4 then 0x8F else 0xBF⟩ := by
  have hbyte : 0xF0 + a < 256 := by omega
  have hbits : (0xF0 + a) % 8 = a := by omega
  have hlow : (UInt8.ofNat (0xF0 + a) == 0xF0) = decide (a = 0) :=
    ofNat_beq hbyte (by simp only [UInt8.reduceToNat]; omega)
  have hhigh : (UInt8.ofNat (0xF0 + a) == 0xF4) = decide (a = 4) :=
    ofNat_beq hbyte (by simp only [UInt8.reduceToNat]; omega)
  simp only [lead, UInt8.lt_iff_toNat_lt, UInt8.toNat_ofNat_of_lt' hbyte, UInt8.reduceToNat, hbits, hlow, hhigh,
    decide_eq_true_iff]
  rw [if_neg (by omega), if_neg (by omega), if_neg (by omega), if_neg (by omega), if_pos (by omega)]

private theorem lead_eq_some {b : UInt8} {l : Lead} (h : lead b = some l) :
    (∃ a < 128, b = .ofNat a) ∨ (∃ a, 2 ≤ a ∧ a < 32 ∧ b = .ofNat (0xC0 + a)) ∨
      (∃ a < 16, b = .ofNat (0xE0 + a)) ∨ ∃ a < 5, b = .ofNat (0xF0 + a) := by
  have hb (k : Nat) (hk : k ≤ b.toNat) : b = .ofNat (k + (b.toNat - k)) := by
    rw [Nat.add_sub_cancel' hk, UInt8.ofNat_toNat]
  simp only [lead, UInt8.lt_iff_toNat_lt, UInt8.reduceToNat] at h
  split at h
  · exact .inl ⟨b.toNat, by assumption, UInt8.ofNat_toNat.symm⟩
  · split at h
    · cases h
    · split at h
      · exact .inr (.inl ⟨b.toNat - 0xC0, by omega, by omega, hb 0xC0 (by omega)⟩)
      · split at h
        · exact .inr (.inr (.inl ⟨b.toNat - 0xE0, by omega, hb 0xE0 (by omega)⟩))
        · split at h
          · exact .inr (.inr (.inr ⟨b.toNat - 0xF0, by omega, hb 0xF0 (by omega)⟩))
          · cases h

end Lead

section Follow

variable {n code b : Nat} {low high : UInt8} {rest after : List UInt8}

private theorem follow_byte (hb : b < 64) (hlow : low.toNat ≤ 0x80 + b) (hhigh : 0x80 + b ≤ high.toNat) :
    follow (n + 1) code low high (.ofNat (0x80 + b) :: rest) = follow n (code * 64 + b) 0x80 0xBF rest := by
  have h : (UInt8.ofNat (0x80 + b)).toNat = 0x80 + b :=
    UInt8.toNat_ofNat_of_lt' (Nat.lt_of_lt_of_le (Nat.add_lt_add_left hb 0x80) (by decide))
  have hbits : (0x80 + b) % 64 = b := by omega
  rw [follow, if_pos, h, hbits]
  rw [UInt8.le_iff_toNat_le, UInt8.le_iff_toNat_le, h]
  exact ⟨hlow, hhigh⟩

private theorem follow_eq_some {found : Nat} (h : follow (n + 1) code low high rest = (some found, after))
    (hlow : 0x80 ≤ low.toNat) (hhigh : high.toNat ≤ 0xBF) :
    ∃ b < 64, ∃ more, rest = .ofNat (0x80 + b) :: more ∧ low.toNat ≤ 0x80 + b ∧ 0x80 + b ≤ high.toNat ∧
      follow n (code * 64 + b) 0x80 0xBF more = (some found, after) := by
  cases rest with
  | nil => simp [follow] at h
  | cons first more =>
    rw [follow] at h
    split at h
    · next hin =>
      rw [UInt8.le_iff_toNat_le, UInt8.le_iff_toNat_le] at hin
      have hfirst : 0x80 + (first.toNat - 0x80) = first.toNat := by omega
      have hbits : first.toNat % 64 = first.toNat - 0x80 := by omega
      refine ⟨first.toNat - 0x80, by omega, more, ?_, by omega, by omega, by rw [← hbits]; exact h⟩
      rw [hfirst, UInt8.ofNat_toNat]
    · simp at h

end Follow

private theorem next_of_spells {n : Nat} {b : UInt8} {tail : List UInt8} (h : Spells n (b :: tail))
    (rest : List UInt8) :
    next b (tail ++ rest) = (some (Char.ofNat n), rest) := by
  cases h with
  | one ha => simp only [next, lead_one ha]; rfl
  | two ha ha' hb =>
    simp only [next, lead_two ha ha', List.cons_append, List.nil_append]
    rw [follow_byte hb (by simp) (by simp only [UInt8.reduceToNat]; omega)]
    rfl
  | @three a b c ha hb hc hshort hvalid =>
    simp only [next, lead_three ha, List.cons_append, List.nil_append]
    rw [follow_byte hb, follow_byte hc (by simp) (by simp only [UInt8.reduceToNat]; omega)]
    · rfl
    · split <;> simp only [UInt8.reduceToNat] <;> omega
    · split <;> simp only [UInt8.reduceToNat] <;> omega
  | @four a b c d ha hb hc hd hshort hvalid =>
    simp only [next, lead_four ha, List.cons_append, List.nil_append]
    rw [follow_byte hb, follow_byte hc (by simp) (by simp only [UInt8.reduceToNat]; omega),
      follow_byte hd (by simp) (by simp only [UInt8.reduceToNat]; omega)]
    · rfl
    · split <;> simp only [UInt8.reduceToNat] <;> omega
    · split <;> simp only [UInt8.reduceToNat] <;> omega

private theorem exists_lead {b : UInt8} {rest after : List UInt8} {c : Char} (h : next b rest = (some c, after)) :
    ∃ l n, lead b = some l ∧ follow l.following l.bits l.low l.high rest = (some n, after) ∧ c = Char.ofNat n := by
  unfold next at h
  cases hl : lead b with
  | none => simp [hl] at h
  | some l =>
    rcases hf : follow l.following l.bits l.low l.high rest with ⟨_ | n, left⟩
    · simp [hl, hf] at h
    · simp only [hl, hf, Option.map_some, Prod.mk.injEq, Option.some.injEq] at h
      obtain ⟨rfl, rfl⟩ := h
      exact ⟨l, n, rfl, hf, rfl⟩

/-- What is read as a character spells it. -/
private theorem exists_spells {b : UInt8} {rest after : List UInt8} {c : Char} (h : next b rest = (some c, after)) :
    ∃ n tail, rest = tail ++ after ∧ Spells n (b :: tail) ∧ c = Char.ofNat n := by
  obtain ⟨l, n, hl, hf, rfl⟩ := exists_lead h
  rcases lead_eq_some hl with ⟨a, ha, rfl⟩ | ⟨a, ha, ha', rfl⟩ | ⟨a, ha, rfl⟩ | ⟨a, ha, rfl⟩
  · obtain rfl := Option.some.inj (hl.symm.trans (lead_one ha))
    obtain ⟨rfl, rfl⟩ : a = n ∧ rest = after := by simpa [follow] using hf
    exact ⟨a, [], rfl, .one ha, rfl⟩
  · obtain rfl := Option.some.inj (hl.symm.trans (lead_two ha ha'))
    obtain ⟨b, hb, more, rfl, -, -, hf⟩ := follow_eq_some hf (by simp) (by simp)
    obtain ⟨rfl, rfl⟩ : a * 64 + b = n ∧ more = after := by simpa [follow] using hf
    exact ⟨_, [_], rfl, .two ha ha' hb, rfl⟩
  · obtain rfl := Option.some.inj (hl.symm.trans (lead_three ha))
    obtain ⟨b, hb, more, rfl, hlow, hhigh, hf⟩ := follow_eq_some hf (by dsimp only; split <;> simp)
      (by dsimp only; split <;> simp)
    obtain ⟨c, hc, more, rfl, -, -, hf⟩ := follow_eq_some hf (by simp) (by simp)
    obtain ⟨rfl, rfl⟩ : (a * 64 + b) * 64 + c = n ∧ more = after := by simpa [follow] using hf
    refine ⟨_, [_, _], rfl, .three ha hb hc (fun h => ?_) (fun h => ?_), rfl⟩
    · simp only [if_pos h, UInt8.reduceToNat] at hlow
      omega
    · simp only [if_pos h, UInt8.reduceToNat] at hhigh
      omega
  · obtain rfl := Option.some.inj (hl.symm.trans (lead_four ha))
    obtain ⟨b, hb, more, rfl, hlow, hhigh, hf⟩ := follow_eq_some hf (by dsimp only; split <;> simp)
      (by dsimp only; split <;> simp)
    obtain ⟨c, hc, more, rfl, -, -, hf⟩ := follow_eq_some hf (by simp) (by simp)
    obtain ⟨d, hd, more, rfl, -, -, hf⟩ := follow_eq_some hf (by simp) (by simp)
    obtain ⟨rfl, rfl⟩ : ((a * 64 + b) * 64 + c) * 64 + d = n ∧ more = after := by simpa [follow] using hf
    refine ⟨_, [_, _, _], rfl, .four ha hb hc hd (fun h => ?_) (fun h => ?_), rfl⟩
    · simp only [if_pos h, UInt8.reduceToNat] at hlow
      omega
    · simp only [if_pos h, UInt8.reduceToNat] at hhigh
      omega

private theorem Spells.toNat_ofNat {n : Nat} {bytes : List UInt8} (h : Spells n bytes) : (Char.ofNat n).toNat = n := by
  have hn : n.isValidChar := by
    rw [Nat.isValidChar]
    cases h <;> omega
  rw [Char.ofNat, dif_pos hn]
  rfl

/-- A character is written in the bytes that spell it. -/
theorem Spells.encode {c : Char} {bytes : List UInt8} (h : Spells c.toNat bytes) : String.utf8EncodeChar c = bytes := by
  unfold String.utf8EncodeChar
  rw [Char.toNat_val]
  generalize c.toNat = n at h
  cases h with
  | one ha => rw [if_pos (by omega)]
  | @two a b ha ha' hb =>
    have h0 : (a * 64 + b) / 64 % 0x20 + 0xC0 = 0xC0 + a := by omega
    have h1 : (a * 64 + b) % 0x40 + 0x80 = 0x80 + b := by omega
    dsimp only
    rw [if_neg (by omega), if_pos (by omega), h0, h1]
  | @three a b c ha hb hc hshort hvalid =>
    have h0 : ((a * 64 + b) * 64 + c) / 4096 % 0x10 + 0xE0 = 0xE0 + a := by omega
    have h1 : ((a * 64 + b) * 64 + c) / 64 % 0x40 + 0x80 = 0x80 + b := by omega
    have h2 : ((a * 64 + b) * 64 + c) % 0x40 + 0x80 = 0x80 + c := by omega
    dsimp only
    rw [if_neg (by omega), if_neg (by omega), if_pos (by omega), h0, h1, h2]
  | @four a b c d ha hb hc hd hshort hvalid =>
    have h0 : (((a * 64 + b) * 64 + c) * 64 + d) / 262144 % 0x08 + 0xF0 = 0xF0 + a := by omega
    have h1 : (((a * 64 + b) * 64 + c) * 64 + d) / 4096 % 0x40 + 0x80 = 0x80 + b := by omega
    have h2 : (((a * 64 + b) * 64 + c) * 64 + d) / 64 % 0x40 + 0x80 = 0x80 + c := by omega
    have h3 : (((a * 64 + b) * 64 + c) * 64 + d) % 0x40 + 0x80 = 0x80 + d := by omega
    dsimp only
    rw [if_neg (by omega), if_neg (by omega), if_neg (by omega), h0, h1, h2, h3]

/-- Every character is spelled somehow. -/
theorem spells_char (c : Char) : Spells c.toNat (String.utf8EncodeChar c) := by
  suffices h : ∃ bytes, Spells c.toNat bytes by
    obtain ⟨bytes, hbytes⟩ := h
    rwa [hbytes.encode]
  have hvalid : c.toNat.isValidChar := c.valid
  unfold Nat.isValidChar at hvalid
  generalize c.toNat = n at hvalid
  have hsplit (m : Nat) : m = m / 64 * 64 + m % 64 := by omega
  by_cases h1 : n < 0x80
  · exact ⟨_, .one h1⟩
  · by_cases h2 : n < 0x800
    · rw [hsplit n]
      exact ⟨_, .two (by omega) (by omega) (by omega)⟩
    · by_cases h3 : n < 0x10000
      · rw [hsplit n, hsplit (n / 64)]
        exact ⟨_, .three (by omega) (by omega) (by omega) (by omega) (by omega)⟩
      · rw [hsplit n, hsplit (n / 64), hsplit (n / 64 / 64)]
        exact ⟨_, .four (by omega) (by omega) (by omega) (by omega) (by omega) (by omega)⟩

private theorem next_eq_some_iff {b : UInt8} {rest after : List UInt8} {c : Char} :
    next b rest = (some c, after) ↔ b :: rest = String.utf8EncodeChar c ++ after := by
  constructor
  · intro h
    obtain ⟨n, tail, rfl, hn, rfl⟩ := exists_spells h
    rw [Spells.encode (hn.toNat_ofNat.symm ▸ hn), List.cons_append]
  · intro h
    have hc := spells_char c
    cases hbytes : String.utf8EncodeChar c with
    | nil => exact absurd hbytes String.utf8EncodeChar_ne_nil
    | cons first tail =>
      rw [hbytes] at hc
      rw [hbytes, List.cons_append] at h
      obtain ⟨rfl, rfl⟩ := List.cons.inj h
      rw [next_of_spells hc, Char.ofNat_toNat]

private theorem scan_eq (done : List (Option Char)) (bytes : List UInt8) : scan done bytes = scan [] bytes ++ done := by
  induction hn : bytes.length using Nat.strong_induction_on generalizing done bytes with
  | _ n ih =>
    subst hn
    cases bytes with
    | nil => simp [scan]
    | cons b rest =>
      have hshorter : (next b rest).2.length < (b :: rest).length := Nat.lt_succ_of_le (length_next_le b rest)
      rw [scan, ih _ hshorter _ _ rfl, scan, ih _ hshorter [(next b rest).1] _ rfl, List.append_assoc]
      rfl

@[simp] private theorem characters_nil : characters [] = [] := by simp [characters, scan]

private theorem characters_cons (b : UInt8) (rest : List UInt8) :
    characters (b :: rest) = (next b rest).1 :: characters (next b rest).2 := by
  rw [characters, scan, scan_eq, List.reverse_append]
  rfl

private theorem characters_eq_iff (found : List Char) (bytes : List UInt8) :
    characters bytes = found.map some ↔ found.flatMap String.utf8EncodeChar = bytes := by
  induction found generalizing bytes with
  | nil =>
    cases bytes with
    | nil => simp
    | cons b rest => simp [characters_cons]
  | cons c found ih =>
    rw [List.map_cons, List.flatMap_cons]
    constructor
    · intro h
      cases bytes with
      | nil => simp at h
      | cons b rest =>
        rw [characters_cons] at h
        obtain ⟨hfirst, hrest⟩ := List.cons.inj h
        rw [(ih _).1 hrest]
        exact (next_eq_some_iff.1 (Prod.ext hfirst rfl)).symm
    · rintro rfl
      cases hbytes : String.utf8EncodeChar c ++ found.flatMap String.utf8EncodeChar with
      | nil => exact absurd (List.append_eq_nil_iff.1 hbytes).1 String.utf8EncodeChar_ne_nil
      | cons b rest =>
        rw [characters_cons, next_eq_some_iff.2 hbytes.symm, (ih _).2 rfl]

/-- Strict reading of bytes comes to the text that is written in them, if there is one. -/
theorem decode?_eq_some_iff (bytes : List UInt8) (text : String) : decode? bytes = some text ↔ encode text = bytes := by
  rw [encode, ← characters_eq_iff, decode?]
  constructor
  · intro h
    split at h
    · next hall =>
      have hfound : characters bytes = ((characters bytes).filterMap id).map some := by
        rw [List.map_filterMap_some_eq_filter_map_isSome, List.map_id, List.filter_eq_self.2 (List.all_eq_true.1 hall)]
      rw [← Option.some.inj h, String.toList_ofList]
      exact hfound
    · cases h
  · intro h
    simp [h]

@[simp] theorem decode?_encode (text : String) : decode? (encode text) = some text := (decode?_eq_some_iff _ _).2 rfl

theorem encode_injective : Function.Injective encode := by
  intro text other h
  have hread := congrArg decode? h
  rwa [decode?_encode, decode?_encode, Option.some.injEq] at hread

@[simp] theorem decodeLossy_encode (text : String) : decodeLossy (encode text) = text := by
  have h : characters (encode text) = text.toList.map some := (characters_eq_iff _ _).2 rfl
  have hsome : (fun c : Option Char => c.getD '\uFFFD') ∘ some = id := rfl
  rw [decodeLossy, h, List.map_map, hsome, List.map_id, String.ofList_toList]

@[simp] theorem encode_append (first second : String) : encode (first ++ second) = encode first ++ encode second := by
  simp [encode]

/-- Characters of seven bits are their own bytes. -/
theorem encode_ascii {text : String} (h : ∀ c ∈ text.toList, c.toNat < 128) :
    encode text = text.toList.map fun c => .ofNat c.toNat := by
  rw [encode, List.map_eq_flatMap]
  exact List.flatMap_congr fun c hc => (Spells.one (h c hc)).encode

end RequestBinding.Utf8
