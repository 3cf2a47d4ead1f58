import RequestBinding.Proofs.Json.Nesting
import RequestBinding.Proofs.Text.Utf8

/-! A JSON text of a string is longer than the string in it. No escape stands for more bytes than it takes, one of a
surrogate pair included, and the quotes stand for nothing. -/

namespace RequestBinding

private theorem Utf8.length_encode (text : String) : (encode text).length = text.utf8ByteSize := by
  rw [encode, ← List.size_toByteArray, ← List.utf8Encode, ← String.toByteArray_ofList, String.ofList_toList,
    String.utf8ByteSize]

namespace Json

private theorem trailingUnit_eq_ok {after : List UInt8} {low : Nat} (h : trailingUnit after = .ok low) :
    6 ≤ after.length := by
  unfold trailingUnit at h
  split at h <;> first | cases h | simp

private theorem length_encodeChar_le (c : Char) : (String.utf8EncodeChar c).length ≤ 4 := by
  rw [String.length_utf8EncodeChar]
  exact Char.utf8Size_le_four c

private theorem unescape_eq_ok {after bytes : List UInt8} {count : Nat} (h : unescape after = .ok (bytes, count)) :
    bytes.length ≤ count ∧ count ≤ after.length := by
  unfold unescape at h
  split at h
  · cases h
  · split at h
    · cases h
    · split_ifs at h
      · split at h
        · cases h
        · next low hlow =>
          obtain ⟨rfl, rfl⟩ := Prod.mk.inj (Except.ok.inj h)
          have := trailingUnit_eq_ok hlow
          simp only [List.length_cons]
          exact ⟨Nat.le_trans (length_encodeChar_le _) (by omega), by omega⟩
      · obtain ⟨rfl, rfl⟩ := Prod.mk.inj (Except.ok.inj h)
        simp only [List.length_cons]
        exact ⟨Nat.le_trans (length_encodeChar_le _) (by omega), by omega⟩
  · cases h
  · split at h
    · cases h
      simp
    · cases h

/-- The content of a string is shorter than what was read for it, which ends with a quote. -/
theorem length_content {done bytes read : List UInt8} {offset stop : Nat}
    (h : content done offset bytes = .ok (read, stop)) : read.length < done.length + bytes.length := by
  fun_induction content done offset bytes with
  | case1 => cases h
  | case2 done offset rest =>
    cases h
    simp
  | case3 => cases h
  | case4 done offset rest bytes count he _ ih =>
    have := unescape_eq_ok he
    have := ih h
    simp only [List.length_append, List.length_reverse, List.length_drop, List.length_cons] at *
    omega
  | case5 => cases h
  | case6 done offset b rest hq hs hc ih =>
    have := ih h
    simp only [List.length_cons] at *
    omega

private theorem length_readString {p : Place} {s : String} {stop : Nat} (h : readString p = .ok (s, stop)) :
    s.utf8ByteSize < p.rest.length := by
  obtain ⟨⟨bytes, stop⟩, hcontent, h⟩ := bind_eq_ok.1 h
  dsimp only at h
  split at h
  · next text hd =>
    cases h
    rw [← Utf8.length_encode, (Utf8.decode?_eq_some_iff ..).1 hd]
    simpa using length_content hcontent
  · cases h

variable {p start : Place} {passed : Except Fault Nat}

private theorem stringAt_start (h : (stringAt p).1 = .string start passed) : start = p.advance 1 := by
  unfold stringAt at h
  dsimp only at h
  split at h
  all_goals
    cases h
    rfl

private theorem wordAt_not_string {rest : List UInt8} {value : Nat → Outline}
    (hv : value p.offset ≠ .string start passed) :
    (wordAt p rest value).1 ≠ .string start passed := by
  unfold wordAt
  split
  · exact hv
  · exact nofun

private theorem string_of_outlineAt {fuel : Nat} (h : (outlineAt fuel p).1 = .string start passed) :
    start = p.advance 1 := by
  cases fuel with
  | zero => cases h
  | succ fuel =>
    rw [outlineAt] at h
    split at h
    · cases h
    · split_ifs at h
      · exact stringAt_start h
      · unfold numberAt at h
        split at h <;> cases h
      · exact absurd h (wordAt_not_string nofun)
      · exact absurd h (wordAt_not_string nofun)
      · exact absurd h (wordAt_not_string nofun)
      · dsimp only at h
        split at h <;> cases h
      · dsimp only at h
        split at h <;> cases h

private theorem outlineAt_value {fuel depth : Nat} {value : Json} (h : (outlineAt fuel p).1.value depth = .ok value) :
    p.rest ≠ [] := by
  intro hend
  cases fuel with
  | zero => cases h
  | succ fuel =>
    rw [outlineAt] at h
    simp only [hend] at h
    cases h

private theorem Document.root_ofBytes (text : List UInt8) :
    (ofBytes text).root = (outlineAt (2 * text.length + 2) (Place.start text).skipBlanks).1 := by
  unfold ofBytes
  dsimp only
  split <;> rfl

private theorem Outline.value_string {outline : Outline} {depth : Nat} {inner : String}
    (h : outline.value depth = .ok (.string inner)) :
    ∃ start passed stop, outline = .string start passed ∧ readString start = .ok (inner, stop) := by
  cases outline with
  | string start passed =>
    rw [Outline.value] at h
    obtain ⟨⟨s, stop⟩, hread, hs⟩ := map_eq_ok.1 h
    cases hs
    exact ⟨start, passed, stop, rfl, hread⟩
  | null start => cases h
  | bool b start => cases h
  | number start literal stop =>
    rw [Outline.value] at h
    obtain ⟨n, -, hn⟩ := map_eq_ok.1 h
    cases hn
  | array start items finish =>
    rw [Outline.value] at h
    split at h
    · cases h
    · obtain ⟨values, -, h⟩ := bind_eq_ok.1 h
      obtain ⟨_, -, h⟩ := bind_eq_ok.1 h
      cases h
  | object start members finish =>
    rw [Outline.value] at h
    split at h
    · cases h
    · obtain ⟨values, -, h⟩ := bind_eq_ok.1 h
      obtain ⟨_, -, h⟩ := bind_eq_ok.1 h
      cases h
  | broken b => cases h

/-- A JSON text of a string has more bytes than the string. -/
theorem read_string_shorter {outer inner : String} (h : read (Utf8.encode outer) = .ok (.string inner)) :
    inner.utf8ByteSize < outer.utf8ByteSize := by
  obtain ⟨hvalue, -⟩ := Document.readWith_eq_ok.1 h
  obtain ⟨start, passed, stop, hroot, hread⟩ := Outline.value_string hvalue
  obtain rfl := string_of_outlineAt ((Document.root_ofBytes _).symm.trans hroot)
  calc
    inner.utf8ByteSize < ((Place.start (Utf8.encode outer)).skipBlanks.advance 1).rest.length := length_readString hread
    _ ≤ ((Utf8.encode outer).dropWhile Place.isBlank).length := by simp [Place.advance, Place.skipBlanks, Place.start]
    _ ≤ (Utf8.encode outer).length := (List.dropWhile_suffix _).length_le
    _ = outer.utf8ByteSize := Utf8.length_encode outer

/-- The empty text is no JSON. -/
theorem read_pos {text : String} {value : Json} (h : read (Utf8.encode text) = .ok value) : 0 < text.utf8ByteSize := by
  obtain ⟨hvalue, -⟩ := Document.readWith_eq_ok.1 h
  rw [Document.root_ofBytes] at hvalue
  rw [← Utf8.length_encode, List.length_pos_iff]
  intro hnil
  exact outlineAt_value hvalue (by simp [Place.skipBlanks, Place.start, hnil])

end Json
end RequestBinding
