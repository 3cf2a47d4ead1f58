import RequestBinding.Proofs.Text.Utf8
import RequestBinding.Request.Basic
import Mathlib.Data.List.TakeWhile

/-! The media type of a form in parts, as it is written with its boundary. -/

namespace RequestBinding

section Tokens

variable {α : Type} {test : α → Bool} {word rest : List α} {stop : α}

theorem takeWhile_stop (hw : ∀ a ∈ word, test a = true) (hs : test stop = false) :
    (word ++ stop :: rest).takeWhile test = word := by
  rw [List.takeWhile_append_of_pos hw, List.takeWhile_cons_of_neg (by simp [hs]), List.append_nil]

theorem dropWhile_stop (hw : ∀ a ∈ word, test a = true) (hs : test stop = false) :
    (word ++ stop :: rest).dropWhile test = stop :: rest := by
  rw [List.dropWhile_append_of_pos hw, List.dropWhile_cons_of_neg (by simp [hs])]

end Tokens

private theorem Header.text?_encode {text : String} (h : ∀ c ∈ text.toList, 0x20 ≤ c.toNat ∧ c.toNat < 0x7F) :
    Header.text? (Utf8.encode text) = some text := by
  have hbytes := Utf8.encode_ascii fun c hc => Nat.lt_of_lt_of_le (h c hc).2 (by decide)
  have hchar : ∀ c ∈ text.toList, (UInt8.ofNat c.toNat).toNat = c.toNat :=
    fun c hc => UInt8.toNat_ofNat_of_lt' (Nat.lt_trans (h c hc).2 (by decide))
  rw [text?, hbytes, if_pos]
  · have hsame : text.toList.map ((fun b : UInt8 => Char.ofNat b.toNat) ∘ fun c => .ofNat c.toNat) = text.toList := by
      refine (List.map_congr_left fun c hc => ?_).trans (List.map_id _)
      rw [Function.comp_apply, hchar c hc, Char.ofNat_toNat, id_eq]
    rw [asciiText, List.map_map, hsame, String.ofList_toList]
  · rw [List.all_map, List.all_eq_true]
    intro c hc
    have := h c hc
    simp only [Function.comp_apply, isVisibleByte, UInt8.le_iff_toNat_le, UInt8.lt_iff_toNat_lt, hchar c hc,
      UInt8.reduceToNat, Bool.or_eq_true, Bool.and_eq_true, decide_eq_true_iff]
    exact .inl (by omega)

/-- Tokens have visible bytes alone, and none of those that mean something around them. -/
theorem isTokenByte_spec {b : UInt8} (h : isTokenByte b = true) :
    (0x20 < b.toNat ∧ b.toNat < 0x7F) ∧ b ∉ ([0x22, 0x2C, 0x3A, 0x3B, 0x3D, 0x5C] : List UInt8) := by
  have hall : ∀ n < 256, isTokenByte (.ofNat n) = true →
      (0x20 < n ∧ n < 0x7F) ∧ UInt8.ofNat n ∉ ([0x22, 0x2C, 0x3A, 0x3B, 0x3D, 0x5C] : List UInt8) := by
    decide +kernel
  have hb := hall b.toNat b.toNat_lt
  rw [UInt8.ofNat_toNat] at hb
  exact hb h

namespace MediaType

private theorem isTokenChar_bounds {c : Char} (h : isTokenChar c = true) : 0x20 < c.toNat ∧ c.toNat < 0x7F := by
  rw [isTokenChar, Bool.and_eq_true, decide_eq_true_iff] at h
  have hc : (UInt8.ofNat c.toNat).toNat = c.toNat := UInt8.toNat_ofNat_of_lt' (Nat.lt_trans h.1 (by decide))
  have hbounds := (isTokenByte_spec h.2).1
  rwa [hc] at hbounds

/-- The bytes of tokens are those of tokens. -/
theorem isTokenByte_of_mem_encode {text : String} (h : ∀ c ∈ text.toList, isTokenChar c = true) :
    ∀ b ∈ Utf8.encode text, isTokenByte b = true := by
  rw [Utf8.encode_ascii fun c hc => Nat.lt_trans (isTokenChar_bounds (h c hc)).2 (by decide)]
  intro b hb
  obtain ⟨c, hc, rfl⟩ := List.mem_map.1 hb
  have := h c hc
  rw [isTokenChar, Bool.and_eq_true] at this
  exact this.2

private theorem readValue_token {value : List Char} (h : ∀ c ∈ value, isTokenChar c = true) :
    readValue value = some (false, value, 0, []) := by
  have hall : value.takeWhile isTokenChar = value := List.takeWhile_eq_self_iff.2 h
  have hnone : value.dropWhile isTokenChar = [] := List.dropWhile_eq_nil_iff.2 h
  unfold readValue
  split
  · next first text =>
    have hquote : isTokenChar '"' = false := by decide
    simp [h _ List.mem_cons_self] at hquote
  · simp only [hall, hnone, if_pos]

private theorem readParameters_token {name value : List Char} (hne : name ≠ []) (hn : ∀ c ∈ name, isTokenChar c = true)
    (hv : ∀ c ∈ value, isTokenChar c = true) (fuel : Nat) :
    readParameters (fuel + 1) (' ' :: (name ++ '=' :: value)) =
      some ([⟨1, lower name, valueText (lower name) value, false, 0⟩], "") := by
  have hequals : isTokenChar '=' = false := by decide
  obtain ⟨c, more, rfl⟩ := List.exists_cons_of_ne_nil hne
  have hblank : (c == ' ') = false := by
    rw [beq_eq_false_iff_ne]
    rintro rfl
    have hspace : isTokenChar ' ' = false := by decide
    simp [hn _ List.mem_cons_self] at hspace
  have hblanks : ((' ' :: (c :: more ++ '=' :: value)).takeWhile (· == ' ')).length = 1 := by
    simp [hblank]
  rw [readParameters]
  simp only [hblanks, List.drop_one, List.tail_cons, takeWhile_stop hn hequals, dropWhile_stop hn hequals]
  rw [if_neg (by simp), if_neg (by simp), readValue_token hv]
  rfl

private theorem ofText?_form {boundary : String} (h : ∀ c ∈ boundary.toList, isTokenChar c = true) :
    ofText? ("multipart/form-data; boundary=" ++ boundary) =
      some ⟨"multipart", "form-data", none, [⟨1, "boundary", boundary, false, 0⟩], ""⟩ := by
  have htext : ("multipart/form-data; boundary=" ++ boundary).toList =
      "multipart".toList ++ '/' :: ("form-data".toList ++ ';' :: ' ' :: ("boundary".toList ++ '=' :: boundary.toList)) := by
    rw [String.toList_append]
    rfl
  have htype : ∀ c ∈ "multipart".toList, isTokenChar c = true := List.all_eq_true.1 (by decide)
  have hsubtype : ∀ c ∈ "form-data".toList, isTokenChar c = true := List.all_eq_true.1 (by decide)
  have hslash : isTokenChar '/' = false := by decide
  have hsemicolon : isTokenChar ';' = false := by decide
  have hcut : cutSuffix "form-data".toList = ("form-data".toList, none) := by decide
  unfold ofText? read
  rw [htext]
  simp only [takeWhile_stop htype hslash, dropWhile_stop htype hslash, takeWhile_stop hsubtype hsemicolon,
    dropWhile_stop hsubtype hsemicolon, hcut]
  have hname : lower "boundary".toList = "boundary" := by decide
  have hvalue : valueText "boundary" boundary.toList = boundary := by
    rw [valueText, if_neg (by decide), String.ofList_toList]
  have hboundary : ∀ c ∈ "boundary".toList, isTokenChar c = true := List.all_eq_true.1 (by decide)
  rw [if_neg (by decide), if_neg (by decide), readParameters_token (by decide) hboundary h, hname, hvalue]
  rfl

end MediaType

namespace Request

/-- The boundary that a content type names is that of the form. -/
theorem boundary_of_form {r : Request} {boundary : String} (hb : ∀ c ∈ boundary.toList, MediaType.isTokenChar c = true)
    (h : r.headers.first? "content-type" = some (Utf8.encode ("multipart/form-data; boundary=" ++ boundary))) :
    r.boundary = .ok boundary := by
  have htext : r.contentType? = some ("multipart/form-data; boundary=" ++ boundary) := by
    rw [contentType?, h, Option.bind_some, Header.text?_encode]
    intro c hc
    rw [String.toList_append, List.mem_append] at hc
    rcases hc with hc | hc
    · have hvisible : ∀ c ∈ "multipart/form-data; boundary=".toList, 0x20 ≤ c.toNat ∧ c.toNat < 0x7F := by simp
      exact hvisible c hc
    · have hbounds := MediaType.isTokenChar_bounds (hb c hc)
      omega
  rw [Request.boundary, htext]
  simp only [MediaType.ofText?_form hb]
  rfl

end Request
end RequestBinding
