import RequestBinding.Base64
import RequestBinding.Proofs.Except
import RequestBinding.Proofs.Text.Utf8

/-! Bytes are read back from their text in base 64, and no other text stands for them. -/

namespace RequestBinding.Base64

/-- The byte of a symbol. -/
def symbolByte (n : Nat) : UInt8 := .ofNat (symbol n).toNat

private theorem symbol_spec {n : Nat} (h : n < 64) :
    String.utf8EncodeChar (symbol n) = [symbolByte n] ∧ value? (symbolByte n) = some n ∧ symbolByte n ≠ pad := by
  have hall : ∀ n < 64, String.utf8EncodeChar (symbol n) = [symbolByte n] ∧ value? (symbolByte n) = some n ∧
      symbolByte n ≠ pad := by decide +kernel
  exact hall n h

private theorem utf8EncodeChar_symbol {n : Nat} (h : n < 64) : String.utf8EncodeChar (symbol n) = [symbolByte n] :=
  (symbol_spec h).1

private theorem utf8EncodeChar_pad : String.utf8EncodeChar '=' = [pad] := by decide

private theorem first_of_sextets (a : UInt8) {n : Nat} (hn : n < 16) :
    UInt8.ofNat (a.toNat / 4 * 4 + (a.toNat % 4 * 16 + n) / 16) = a := by
  have h : a.toNat / 4 * 4 + (a.toNat % 4 * 16 + n) / 16 = a.toNat := by omega
  rw [h, UInt8.ofNat_toNat]

private theorem second_of_sextets (b : UInt8) (k : Nat) {n : Nat} (hn : n < 4) :
    UInt8.ofNat ((k * 16 + b.toNat / 16) % 16 * 16 + (b.toNat % 16 * 4 + n) / 4) = b := by
  have hb := b.toNat_lt
  have h : (k * 16 + b.toNat / 16) % 16 * 16 + (b.toNat % 16 * 4 + n) / 4 = b.toNat := by omega
  rw [h, UInt8.ofNat_toNat]

private theorem third_of_sextets (c : UInt8) (k : Nat) :
    UInt8.ofNat ((k * 4 + c.toNat / 64) % 4 * 64 + c.toNat % 64) = c := by
  have hc := c.toNat_lt
  have h : (k * 4 + c.toNat / 64) % 4 * 64 + c.toNat % 64 = c.toNat := by omega
  rw [h, UInt8.ofNat_toNat]

section Symbols

variable (offset : Nat) {x y z w : Nat} (hx : x < 64) (hy : y < 64) (hz : z < 64) (hw : w < 64)

include hx in
@[simp] private theorem valueAt_symbol : valueAt offset (symbolByte x) = .ok x := by
  rw [valueAt, (symbol_spec hx).2.1]

include hx hy hz hw in
private theorem quad_symbols :
    quad offset (symbolByte x) (symbolByte y) (symbolByte z) (symbolByte w) =
      .ok [.ofNat (x * 4 + y / 16), .ofNat (y % 16 * 16 + z / 4), .ofNat (z % 4 * 64 + w)] := by
  simp only [quad, valueAt_symbol _ hx, valueAt_symbol _ hy, valueAt_symbol _ hz, valueAt_symbol _ hw]
  rfl

include hx in
private theorem ending_symbol {found : Ending} (hp : found.pads = 0) (rest : List UInt8) :
    ending offset found (symbolByte x :: rest) = ending offset ⟨found.values ++ [x], symbolByte x, 0⟩ rest := by
  obtain ⟨-, hv, hne⟩ := symbol_spec hx
  rw [ending]
  simp only [if_neg hne, hp, ne_eq, not_true, if_false, hv]

private theorem ending_pad {found : Ending} (hc : 2 ≤ found.values.length) (rest : List UInt8) :
    ending offset found (pad :: rest) = ending offset { found with pads := found.pads + 1 } rest := by
  rw [ending]
  simp only [if_true]
  rw [if_neg (by omega)]

include hx hy hz hw in
private theorem last_four :
    last offset [symbolByte x, symbolByte y, symbolByte z, symbolByte w] =
      .ok [.ofNat (x * 4 + y / 16), .ofNat (y % 16 * 16 + z / 4), .ofNat (z % 4 * 64 + w)] := by
  have he : ending offset ⟨[], 0, 0⟩ [symbolByte x, symbolByte y, symbolByte z, symbolByte w] =
      .ok ⟨[x, y, z, w], symbolByte w, 0⟩ := by
    rw [ending_symbol _ hx rfl, ending_symbol _ hy rfl, ending_symbol _ hz rfl, ending_symbol _ hw rfl]
    rfl
  simp [last, he, bind, Except.bind]

include hx hy hz in
private theorem last_three (hleft : z % 4 = 0) :
    last offset [symbolByte x, symbolByte y, symbolByte z, pad] =
      .ok [.ofNat (x * 4 + y / 16), .ofNat (y % 16 * 16 + z / 4)] := by
  have he : ending offset ⟨[], 0, 0⟩ [symbolByte x, symbolByte y, symbolByte z, pad] =
      .ok ⟨[x, y, z], symbolByte z, 1⟩ := by
    rw [ending_symbol _ hx rfl, ending_symbol _ hy rfl, ending_symbol _ hz rfl, ending_pad _ (by simp)]
    rfl
  simp [last, he, bind, Except.bind, hleft]

include hx hy in
private theorem last_two (hleft : y % 16 = 0) :
    last offset [symbolByte x, symbolByte y, pad, pad] = .ok [.ofNat (x * 4 + y / 16)] := by
  have he : ending offset ⟨[], 0, 0⟩ [symbolByte x, symbolByte y, pad, pad] = .ok ⟨[x, y], symbolByte y, 2⟩ := by
    rw [ending_symbol _ hx rfl, ending_symbol _ hy rfl, ending_pad _ (by simp), ending_pad _ (by simp)]
    rfl
  simp [last, he, bind, Except.bind, hleft]

end Symbols

/-- The bytes of the symbols that some bytes are written in. -/
def written (bytes : List UInt8) : List UInt8 := (encode bytes).flatMap String.utf8EncodeChar

private theorem written_three (a b c : UInt8) (rest : List UInt8) :
    written (a :: b :: c :: rest) =
      symbolByte (a.toNat / 4) :: symbolByte (a.toNat % 4 * 16 + b.toNat / 16) ::
        symbolByte (b.toNat % 16 * 4 + c.toNat / 64) :: symbolByte (c.toNat % 64) :: written rest := by
  have ha := a.toNat_lt
  have hb := b.toNat_lt
  have hc := c.toNat_lt
  simp only [written, encode, List.flatMap_cons]
  rw [utf8EncodeChar_symbol (by omega), utf8EncodeChar_symbol (by omega), utf8EncodeChar_symbol (by omega),
    utf8EncodeChar_symbol (by omega)]
  rfl

private theorem written_two (a b : UInt8) :
    written [a, b] = [symbolByte (a.toNat / 4), symbolByte (a.toNat % 4 * 16 + b.toNat / 16),
      symbolByte (b.toNat % 16 * 4), pad] := by
  have ha := a.toNat_lt
  have hb := b.toNat_lt
  simp only [written, encode, List.flatMap_cons]
  rw [utf8EncodeChar_symbol (by omega), utf8EncodeChar_symbol (by omega), utf8EncodeChar_symbol (by omega),
    utf8EncodeChar_pad]
  rfl

private theorem written_one (a : UInt8) :
    written [a] = [symbolByte (a.toNat / 4), symbolByte (a.toNat % 4 * 16), pad, pad] := by
  have ha := a.toNat_lt
  simp only [written, encode, List.flatMap_cons]
  rw [utf8EncodeChar_symbol (by omega), utf8EncodeChar_symbol (by omega), utf8EncodeChar_pad]
  rfl

private theorem length_written (bytes : List UInt8) : (written bytes).length % 4 = 0 := by
  induction bytes using encode.induct with
  | case1 a b c rest ih =>
    rw [written_three]
    simp only [List.length_cons]
    omega
  | case2 a b => simp [written_two]
  | case3 a => simp [written_one]
  | case4 => rfl

private theorem written_ne_nil {bytes : List UInt8} (h : bytes ≠ []) : ∃ b more, written bytes = b :: more := by
  match bytes with
  | [] => exact absurd rfl h
  | [a] => exact ⟨_, _, written_one a⟩
  | [a, b] => exact ⟨_, _, written_two a b⟩
  | a :: b :: c :: rest => exact ⟨_, _, written_three a b c rest⟩

private theorem decodeFrom_written (offset : Nat) (bytes : List UInt8) :
    decodeFrom offset (written bytes) = .ok bytes := by
  induction bytes using encode.induct generalizing offset with
  | case1 a b c rest ih =>
    have ha := a.toNat_lt
    have hb := b.toNat_lt
    have hc := c.toNat_lt
    have hx : a.toNat / 4 < 64 := by omega
    have hy : a.toNat % 4 * 16 + b.toNat / 16 < 64 := by omega
    have hz : b.toNat % 16 * 4 + c.toNat / 64 < 64 := by omega
    have hw : c.toNat % 64 < 64 := by omega
    have hbytes := And.intro (first_of_sextets a (n := b.toNat / 16) (by omega))
      (And.intro (second_of_sextets b (a.toNat % 4) (n := c.toNat / 64) (by omega))
        (third_of_sextets c (b.toNat % 16)))
    rw [written_three]
    cases rest with
    | nil =>
      rw [show written [] = [] from rfl, decodeFrom.eq_2 _ _ (by simp), last_four _ hx hy hz hw, hbytes.1, hbytes.2.1,
        hbytes.2.2]
    | cons next more =>
      obtain ⟨e, tail, he⟩ := written_ne_nil (List.cons_ne_nil next more)
      rw [he, decodeFrom, quad_symbols _ hx hy hz hw, hbytes.1, hbytes.2.1, hbytes.2.2, ← he, ih]
      rfl
  | case2 a b =>
    have ha := a.toNat_lt
    have hb := b.toNat_lt
    have hbytes := second_of_sextets b (a.toNat % 4) (n := 0) (by omega)
    rw [written_two, decodeFrom.eq_2 _ _ (by simp),
      last_three _ (by omega) (by omega) (by omega) (Nat.mul_mod_left ..), first_of_sextets a (by omega)]
    rw [Nat.add_zero] at hbytes
    rw [hbytes]
  | case3 a =>
    have ha := a.toNat_lt
    have hbytes := first_of_sextets a (n := 0) (by omega)
    rw [written_one, decodeFrom.eq_2 _ _ (by simp), last_two _ (by omega) (by omega) (Nat.mul_mod_left ..)]
    rw [Nat.add_zero] at hbytes
    rw [hbytes]
  | case4 => rfl

/-- The text of some bytes stands for those bytes. -/
theorem ofText_text (bytes : List UInt8) : ofText (text bytes) = .ok bytes := by
  have hw : Utf8.encode (text bytes) = written bytes := by rw [Utf8.encode, text, String.toList_ofList, written]
  have hs : strayLast (written bytes) = none := by
    rw [strayLast, if_neg]
    rw [length_written]
    decide
  rw [ofText, hw, decode, hs]
  exact decodeFrom_written 0 bytes

private theorem value?_eq_some {b : UInt8} {n : Nat} (h : value? b = some n) : n < 64 ∧ symbolByte n = b := by
  have hall : ∀ k < 256, ∀ n ∈ value? (.ofNat k), n < 64 ∧ symbolByte n = .ofNat k := by decide +kernel
  have hb := hall b.toNat b.toNat_lt
  rw [UInt8.ofNat_toNat] at hb
  exact hb n h

private theorem valueAt_eq_ok {offset n : Nat} {b : UInt8} (h : valueAt offset b = .ok n) :
    n < 64 ∧ symbolByte n = b := by
  unfold valueAt at h
  split at h
  · next found hfound =>
    obtain rfl := Except.ok.inj h
    exact value?_eq_some hfound
  · cases h

section Sextets

variable {x y z w : Nat} (hx : x < 64) (hy : y < 64) (hz : z < 64) (hw : w < 64)

include hx hy in
private theorem toNat_first : (UInt8.ofNat (x * 4 + y / 16)).toNat = x * 4 + y / 16 :=
  UInt8.toNat_ofNat_of_lt' (by simp only [UInt8.size]; omega)

include hz in
private theorem toNat_second : (UInt8.ofNat (y % 16 * 16 + z / 4)).toNat = y % 16 * 16 + z / 4 :=
  UInt8.toNat_ofNat_of_lt' (by simp only [UInt8.size]; omega)

include hw in
private theorem toNat_third : (UInt8.ofNat (z % 4 * 64 + w)).toNat = z % 4 * 64 + w :=
  UInt8.toNat_ofNat_of_lt' (by simp only [UInt8.size]; omega)

include hx hy hz hw in
private theorem written_sextets (rest : List UInt8) :
    written (.ofNat (x * 4 + y / 16) :: .ofNat (y % 16 * 16 + z / 4) :: .ofNat (z % 4 * 64 + w) :: rest) =
      symbolByte x :: symbolByte y :: symbolByte z :: symbolByte w :: written rest := by
  have h1 : (x * 4 + y / 16) / 4 = x := by omega
  have h2 : (x * 4 + y / 16) % 4 * 16 + (y % 16 * 16 + z / 4) / 16 = y := by omega
  have h3 : (y % 16 * 16 + z / 4) % 16 * 4 + (z % 4 * 64 + w) / 64 = z := by omega
  have h4 : (z % 4 * 64 + w) % 64 = w := by omega
  rw [written_three, toNat_first hx hy, toNat_second hz, toNat_third hw, h1, h2, h3, h4]

include hx hy hz in
private theorem written_three_sextets (hleft : z % 4 = 0) :
    written [.ofNat (x * 4 + y / 16), .ofNat (y % 16 * 16 + z / 4)] =
      [symbolByte x, symbolByte y, symbolByte z, pad] := by
  have h1 : (x * 4 + y / 16) / 4 = x := by omega
  have h2 : (x * 4 + y / 16) % 4 * 16 + (y % 16 * 16 + z / 4) / 16 = y := by omega
  have h3 : (y % 16 * 16 + z / 4) % 16 * 4 = z := by omega
  rw [written_two, toNat_first hx hy, toNat_second hz, h1, h2, h3]

include hx hy in
private theorem written_two_sextets (hleft : y % 16 = 0) :
    written [.ofNat (x * 4 + y / 16)] = [symbolByte x, symbolByte y, pad, pad] := by
  have h1 : (x * 4 + y / 16) / 4 = x := by omega
  have h2 : (x * 4 + y / 16) % 4 * 16 = y := by omega
  rw [written_one, toNat_first hx hy, h1, h2]

end Sextets

/-- The symbols of a text come first, and behind them nothing but padding. -/
private theorem ending_eq_ok {start : Nat} {text : List UInt8} {found result : Ending}
    (h : ending start found text = .ok result) :
    ∃ values pads, text = values.map symbolByte ++ List.replicate pads pad ∧ (∀ n ∈ values, n < 64) ∧
      result.values = found.values ++ values ∧ result.pads = found.pads + pads ∧ (found.pads ≠ 0 → values = []) := by
  induction text generalizing found with
  | nil =>
    obtain rfl := Except.ok.inj h
    exact ⟨[], 0, rfl, by simp, (List.append_nil _).symm, rfl, fun _ => rfl⟩
  | cons b rest ih =>
    rw [ending] at h
    split at h
    · next hpad =>
      split at h
      · cases h
      · obtain ⟨values, pads, rfl, hsmall, hvalues, hpads, hnone⟩ := ih h
        obtain rfl : values = [] := hnone (Nat.succ_ne_zero _)
        refine ⟨[], pads + 1, ?_, by simp, hvalues, ?_, fun _ => rfl⟩
        · rw [hpad]
          rfl
        · rw [hpads, Nat.add_assoc, Nat.add_comm 1]
    · split at h
      · cases h
      · next hnone =>
        have hzero : found.pads = 0 := by simpa using hnone
        split at h
        · cases h
        · next n hvalue =>
          obtain ⟨hn, rfl⟩ := value?_eq_some hvalue
          obtain ⟨values, pads, rfl, hsmall, hvalues, hpads, -⟩ := ih h
          refine ⟨n :: values, pads, rfl, List.forall_mem_cons.2 ⟨hn, hsmall⟩, ?_, ?_, fun hne => absurd hzero hne⟩
          · rw [hvalues, List.append_assoc]
            rfl
          · rw [hpads, hzero]

/-- The last bytes of a text, four at most, are the symbols and the padding of what they stand for. -/
private theorem last_eq_ok {start : Nat} {text bytes : List UInt8} (hlength : text.length ≤ 4)
    (h : last start text = .ok bytes) :
    text = written bytes := by
  obtain ⟨found, hending, h⟩ := bind_eq_ok.1 h
  obtain ⟨values, pads, rfl, hsmall, hvalues, hpads, -⟩ := ending_eq_ok hending
  rw [List.nil_append] at hvalues
  rw [Nat.zero_add] at hpads
  rw [List.length_append, List.length_map, List.length_replicate] at hlength
  rw [hvalues, hpads] at h
  dsimp only at h
  split at h
  · cases h
  · next hcount =>
    split at h
    · cases h
    · next hwhole =>
      -- Whole groups of four symbols with their padding are one such group here, or nothing.
      have hgroup : values = [] ∧ pads = 0 ∨ 2 ≤ values.length ∧ values.length + pads = 4 := by
        by_cases hnone : values = [] ∧ pads = 0
        · exact .inl hnone
        · have htwo : 2 ≤ values.length := by
            by_contra hfew
            exact hcount ⟨by simpa using hnone, by omega⟩
          exact .inr ⟨htwo, by omega⟩
      match values, hgroup with
      | [], .inl ⟨_, hpads⟩ =>
        obtain rfl := Except.ok.inj h
        rw [hpads]
        rfl
      | [x, y], .inr ⟨_, hfour⟩ =>
        dsimp only at h
        split at h
        · next hleft =>
          obtain rfl := Except.ok.inj h
          obtain rfl : pads = 2 := Nat.add_left_cancel hfour
          obtain ⟨hx, hy, -⟩ := by simpa only [List.forall_mem_cons] using hsmall
          exact (written_two_sextets hx hy hleft).symm
        · cases h
      | [x, y, z], .inr ⟨_, hfour⟩ =>
        dsimp only at h
        split at h
        · next hleft =>
          obtain rfl := Except.ok.inj h
          obtain rfl : pads = 1 := Nat.add_left_cancel hfour
          obtain ⟨hx, hy, hz, -⟩ := by simpa only [List.forall_mem_cons] using hsmall
          exact (written_three_sextets hx hy hz hleft).symm
        · cases h
      | [x, y, z, w], .inr ⟨_, hfour⟩ =>
        obtain rfl := Except.ok.inj h
        obtain rfl : pads = 0 := by simpa using hfour
        obtain ⟨hx, hy, hz, hw, -⟩ := by simpa only [List.forall_mem_cons] using hsmall
        exact (written_sextets hx hy hz hw []).symm
      | [], .inr ⟨htwo, _⟩ | [_], .inr ⟨htwo, _⟩ => simp at htwo
      | _ :: _ :: _ :: _ :: _ :: _, .inr ⟨_, hfour⟩ => simp only [List.length_cons] at hfour; omega

private theorem quad_eq_ok {offset : Nat} {a b c d : UInt8} {bytes : List UInt8} (h : quad offset a b c d = .ok bytes)
    (more : List UInt8) : a :: b :: c :: d :: written more = written (bytes ++ more) := by
  obtain ⟨x, ha, h⟩ := bind_eq_ok.1 h
  obtain ⟨y, hb, h⟩ := bind_eq_ok.1 h
  obtain ⟨z, hc, h⟩ := bind_eq_ok.1 h
  obtain ⟨w, hd, h⟩ := bind_eq_ok.1 h
  obtain rfl := Except.ok.inj h
  obtain ⟨hx, rfl⟩ := valueAt_eq_ok ha
  obtain ⟨hy, rfl⟩ := valueAt_eq_ok hb
  obtain ⟨hz, rfl⟩ := valueAt_eq_ok hc
  obtain ⟨hw, rfl⟩ := valueAt_eq_ok hd
  exact (written_sextets hx hy hz hw more).symm

private theorem decodeFrom_eq_ok {offset : Nat} {text bytes : List UInt8} (h : decodeFrom offset text = .ok bytes) :
    text = written bytes := by
  induction offset, text using decodeFrom.induct generalizing bytes with
  | case1 offset a b c d e rest ih =>
    rw [decodeFrom] at h
    obtain ⟨first, hfirst, h⟩ := bind_eq_ok.1 h
    obtain ⟨more, hmore, h⟩ := bind_eq_ok.1 h
    obtain rfl := Except.ok.inj h
    rw [← quad_eq_ok hfirst, ih hmore]
  | case2 offset text hshort =>
    rw [decodeFrom.eq_2 _ _ hshort] at h
    apply last_eq_ok _ h
    match text, hshort with
    | [], _ | [_], _ | [_, _], _ | [_, _, _], _ | [_, _, _, _], _ => simp
    | a :: b :: c :: d :: e :: rest, hshort => exact absurd rfl (hshort a b c d e rest)

/-- Each list of bytes has one text, and no other text stands for it. -/
theorem ofText_eq_ok_iff {text : String} {bytes : List UInt8} : ofText text = .ok bytes ↔ text = Base64.text bytes := by
  constructor
  · intro h
    have hbytes : Utf8.encode text = Utf8.encode (Base64.text bytes) := by
      rw [ofText, decode] at h
      split at h
      · cases h
      · rw [decodeFrom_eq_ok h, Utf8.encode, Base64.text, String.toList_ofList, written]
    have hread := congrArg Utf8.decode? hbytes
    rw [Utf8.decode?_encode, Utf8.decode?_encode] at hread
    exact Option.some.inj hread
  · rintro rfl
    exact ofText_text bytes

end RequestBinding.Base64
