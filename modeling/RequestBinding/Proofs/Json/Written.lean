import RequestBinding.Proofs.Json.Literal
import RequestBinding.Proofs.Json.Nesting

/-! Text that is written for a JSON value has the layout of that value. -/

namespace RequestBinding.Json

open Utf8 (bytes bytes_cons bytes_append)

/-- All numbers are integers, which text keeps exactly. -/
inductive Exact : Json → Prop
  | null : Exact .null
  | bool (b : Bool) : Exact (.bool b)
  | whole (n : Whole) : Exact (.number (.whole n))
  | string (s : String) : Exact (.string s)
  | array {items : List Json} : (∀ item ∈ items, Exact item) → Exact (.array items)
  | object {members : List (String × Json)} : (∀ member ∈ members, Exact member.2) → Exact (.object members)

mutual

/-- A layout without faults, and the value that is laid out. Members of an object are in the order of the text. -/
inductive Outline.Shows : Outline → Json → Prop
  | null (start : Nat) : Outline.Shows (.null start) .null
  | bool (b : Bool) (start : Nat) : Outline.Shows (.bool b start) (.bool b)
  | number (start : Nat) {literal : NumberLiteral} {stop : Nat} {n : Number} : literal.value stop = .ok n →
      Outline.Shows (.number start literal stop) (.number n)
  | string {start : Place} {s : String} {stop : Nat} : readString start = .ok (s, stop) →
      Outline.Shows (.string start (.ok stop)) (.string s)
  | array (start stop : Nat) {items : List (Nat × Outline)} {values : List Json} : ItemsShow items values →
      Outline.Shows (.array start items (.closed stop)) (.array values)
  | object (start stop : Nat) {members : List (Key × Outline)} {entries : List (String × Json)} :
      MembersShow members entries → Outline.Shows (.object start members (.closed stop)) (.object entries)

inductive ItemsShow : List (Nat × Outline) → List Json → Prop
  | nil : ItemsShow [] []
  | cons (peeked : Nat) {item : Outline} {value : Json} {rest : List (Nat × Outline)} {values : List Json} :
      item.Shows value → ItemsShow rest values → ItemsShow ((peeked, item) :: rest) (value :: values)

inductive MembersShow : List (Key × Outline) → List (String × Json) → Prop
  | nil : MembersShow [] []
  | cons {key : Key} {member : Outline} {name : String} {stop : Nat} {value : Json} {rest : List (Key × Outline)}
      {entries : List (String × Json)} : readString key.start = .ok (name, stop) → member.Shows value →
      MembersShow rest entries → MembersShow ((key, member) :: rest) ((name, value) :: entries)

end

private theorem Place.skipBlanks_eq {p : Place} (h : ∀ b ∈ p.rest.head?, isBlank b = false) : p.skipBlanks = p := by
  obtain ⟨offset, rest⟩ := p
  cases rest with
  | nil => rfl
  | cons b more =>
    have hb : isBlank b = false := h b rfl
    simp only [skipBlanks, List.takeWhile_cons, List.dropWhile_cons, hb]
    rfl

private theorem exists_bytes_write {value : Json} (h : value.Exact) :
    ∃ b more, bytes (write value) = b :: more ∧ Place.isBlank b = false ∧ b ≠ 0x5D := by
  cases h with
  | null => exact ⟨0x6E, _, rfl, rfl, by decide⟩
  | bool b =>
    cases b
    · exact ⟨0x66, _, rfl, rfl, by decide⟩
    · exact ⟨0x74, _, rfl, rfl, by decide⟩
  | whole n =>
    rw [write, Number.write, writeInt]
    split
    · exact ⟨0x2D, _, rfl, rfl, by decide⟩
    · obtain ⟨b, more, hb, hdigit⟩ := exists_bytes_digits n.value.natAbs
      refine ⟨b, more, hb, ?_, ?_⟩
      · refine Bool.eq_false_iff.2 fun hblank => ?_
        simp only [Place.isBlank, Bool.or_eq_true, beq_iff_eq] at hblank
        rcases hblank with ((rfl | rfl) | rfl) | rfl <;> cases hdigit
      · rintro rfl
        cases hdigit
  | string s => exact ⟨0x22, _, rfl, rfl, by decide⟩
  | array _ => exact ⟨0x5B, _, by rw [write]; rfl, rfl, by decide⟩
  | object _ => exact ⟨0x7B, _, by rw [write]; rfl, rfl, by decide⟩

section Layout

variable {offset : Nat} {rest : List UInt8}

private theorem outlineAt_string (fuel : Nat) (s : String) :
    outlineAt (fuel + 1) ⟨offset, bytes (writeString s) ++ rest⟩ =
      (.string ⟨offset + 1, bytes (s.toList.flatMap writeChar) ++ 0x22 :: rest⟩ (.ok (offset + 1 + quotedLength s)),
        some ⟨offset + (bytes (writeString s)).length, rest⟩) := by
  rw [bytes_writeString, outlineAt]
  simp only [if_true, stringAt, Place.advance, List.drop_one, List.tail_cons, passString_writeString,
    length_writeString, Nat.add_assoc, Nat.add_comm 1]

private theorem outlineAt_whole (fuel : Nat) (n : Whole) (h : Ends rest) :
    ∃ literal, outlineAt (fuel + 1) ⟨offset, bytes (writeInt n.value) ++ rest⟩ =
      (.number offset literal (offset + (bytes (writeInt n.value)).length),
        some ⟨offset + (bytes (writeInt n.value)).length, rest⟩) ∧
      literal.value (offset + (bytes (writeInt n.value)).length) = .ok (.whole n) := by
  have hfirst : ∃ b more, bytes (writeInt n.value) = b :: more ∧ (b = 0x2D ∨ isDigit b = true) := by
    unfold writeInt
    split
    · exact ⟨0x2D, _, rfl, .inl rfl⟩
    · obtain ⟨b, more, hb, hdigit⟩ := exists_bytes_digits n.value.natAbs
      exact ⟨b, more, hb, .inr hdigit⟩
  obtain ⟨b, more, hb, hnumber⟩ := hfirst
  have hquote : b ≠ 0x22 := by
    rintro rfl
    exact absurd hnumber (by decide)
  refine ⟨_, ?_, value_writeInt n _⟩
  have hscan := scanNumber_writeInt n.value offset h
  rw [hb, List.cons_append] at hscan ⊢
  rw [outlineAt]
  simp only [if_neg hquote, if_pos hnumber, numberAt, hscan]

private theorem outlineAt_items (fuel : Nat) {b : UInt8} (tail : List UInt8) (hblank : Place.isBlank b = false)
    (hb : b ≠ 0x5D) :
    outlineAt (fuel + 1) ⟨offset, 0x5B :: b :: tail⟩ =
      (.array offset (itemsAt fuel ⟨offset + 1, b :: tail⟩).1 (itemsAt fuel ⟨offset + 1, b :: tail⟩).2.1,
        (itemsAt fuel ⟨offset + 1, b :: tail⟩).2.2) := by
  have hfirst : ((Place.mk offset (0x5B :: b :: tail)).advance 1).skipBlanks = ⟨offset + 1, b :: tail⟩ :=
    Place.skipBlanks_eq (by simpa [Place.advance] using hblank)
  rw [outlineAt]
  simp only [hfirst]
  rw [if_neg (by decide), if_neg (by decide), if_neg (by decide), if_neg (by decide), if_neg (by decide), if_pos trivial]
  split
  · next h => cases h
  · next h => exact absurd (List.cons.inj h).1 hb
  · rfl

private theorem itemsAt_last {fuel : Nat} {p : Place} {item : Outline} {stop : Nat}
    (h : outlineAt fuel p = (item, some ⟨stop, 0x5D :: rest⟩)) :
    itemsAt (fuel + 1) p = ([(p.peeked, item)], .closed (stop + 1), some ⟨stop + 1, rest⟩) := by
  rw [itemsAt, h]
  rfl

private theorem itemsAt_more {fuel : Nat} {p : Place} {item : Outline} {stop : Nat} {b : UInt8} {tail : List UInt8}
    (h : outlineAt fuel p = (item, some ⟨stop, 0x2C :: b :: tail⟩)) (hblank : Place.isBlank b = false) (hb : b ≠ 0x5D) :
    itemsAt (fuel + 1) p =
      ((p.peeked, item) :: (itemsAt fuel ⟨stop + 1, b :: tail⟩).1, (itemsAt fuel ⟨stop + 1, b :: tail⟩).2) := by
  have hcomma : (Place.mk stop (0x2C :: b :: tail)).skipBlanks = ⟨stop, 0x2C :: b :: tail⟩ :=
    Place.skipBlanks_eq (by simp; decide)
  have hnext : ((Place.mk stop (0x2C :: b :: tail)).advance 1).skipBlanks = ⟨stop + 1, b :: tail⟩ :=
    Place.skipBlanks_eq (by simpa [Place.advance] using hblank)
  rw [itemsAt, h]
  simp only [Option.map_some, hcomma, hnext]
  split
  · next heq => exact absurd (List.cons.inj heq).1 hb
  · rfl

private theorem outlineAt_members (fuel : Nat) (tail : List UInt8) :
    outlineAt (fuel + 1) ⟨offset, 0x7B :: 0x22 :: tail⟩ =
      (.object offset (membersAt fuel offset ⟨offset + 1, 0x22 :: tail⟩).1
        (membersAt fuel offset ⟨offset + 1, 0x22 :: tail⟩).2.1,
        (membersAt fuel offset ⟨offset + 1, 0x22 :: tail⟩).2.2) := by
  have hfirst : ((Place.mk offset (0x7B :: 0x22 :: tail)).advance 1).skipBlanks = ⟨offset + 1, 0x22 :: tail⟩ :=
    Place.skipBlanks_eq (by simp [Place.advance]; decide)
  rw [outlineAt]
  simp only [hfirst]
  rw [if_neg (by decide), if_neg (by decide), if_neg (by decide), if_neg (by decide), if_neg (by decide),
    if_neg (by decide), if_pos trivial]

/-- The key of a member whose name is written at an offset. -/
def writtenKey (before offset : Nat) (name : String) (tail : List UInt8) : Key :=
  ⟨before, ⟨offset + 1, bytes (name.toList.flatMap writeChar) ++ 0x22 :: tail⟩, offset + 1 + quotedLength name⟩

section Members

variable {fuel before stop : Nat} {name : String} {b : UInt8} {more : List UInt8} {member : Outline}
  (hblank : Place.isBlank b = false)
include hblank

private theorem membersAt_last
    (h : outlineAt fuel ⟨offset + 1 + quotedLength name + 1, b :: more⟩ = (member, some ⟨stop, 0x7D :: rest⟩)) :
    membersAt (fuel + 1) before ⟨offset, bytes (writeString name) ++ 0x3A :: b :: more⟩ =
      ([(writtenKey before offset name (0x3A :: b :: more), member)], .closed (stop + 1), some ⟨stop + 1, rest⟩) := by
  have hvalue (offset : Nat) : (Place.mk offset (b :: more)).skipBlanks = ⟨offset, b :: more⟩ :=
    Place.skipBlanks_eq (by simpa using hblank)
  have hcolon (offset : Nat) : (Place.mk offset (0x3A :: b :: more)).skipBlanks = ⟨offset, 0x3A :: b :: more⟩ :=
    Place.skipBlanks_eq (by simp; decide)
  rw [bytes_writeString, membersAt]
  simp only [Place.advance, List.drop_one, List.tail_cons, passString_writeString, hcolon, hvalue, h]
  rfl

private theorem membersAt_more {tail : List UInt8}
    (h : outlineAt fuel ⟨offset + 1 + quotedLength name + 1, b :: more⟩ = (member, some ⟨stop, 0x2C :: 0x22 :: tail⟩)) :
    membersAt (fuel + 1) before ⟨offset, bytes (writeString name) ++ 0x3A :: b :: more⟩ =
      ((writtenKey before offset name (0x3A :: b :: more), member) :: (membersAt fuel stop ⟨stop + 1, 0x22 :: tail⟩).1,
        (membersAt fuel stop ⟨stop + 1, 0x22 :: tail⟩).2) := by
  have hvalue (offset : Nat) : (Place.mk offset (b :: more)).skipBlanks = ⟨offset, b :: more⟩ :=
    Place.skipBlanks_eq (by simpa using hblank)
  have hcolon (offset : Nat) : (Place.mk offset (0x3A :: b :: more)).skipBlanks = ⟨offset, 0x3A :: b :: more⟩ :=
    Place.skipBlanks_eq (by simp; decide)
  rw [bytes_writeString, membersAt]
  simp only [Place.advance, List.drop_one, List.tail_cons, passString_writeString, hcolon, hvalue, h]
  rfl

end Members

end Layout

section Bytes

variable (item next : Json) (items : List Json) (name : String) (member : String × Json) (members : List (String × Json))

private theorem bytes_array : bytes (write (.array items)) = 0x5B :: bytes (writeItems items) := by
  rw [write]
  rfl

private theorem bytes_object : bytes (write (.object members)) = 0x7B :: bytes (writeMembers members) := by
  rw [write]
  rfl

private theorem bytes_last_item : bytes (writeItems [item]) = bytes (write item) ++ [0x5D] := by
  rw [writeItems, bytes_append]
  rfl

private theorem bytes_items :
    bytes (writeItems (item :: next :: items)) = bytes (write item) ++ 0x2C :: bytes (writeItems (next :: items)) := by
  rw [writeItems, bytes_append]
  · rfl
  · simp

private theorem bytes_last_member :
    bytes (writeMembers [(name, item)]) = bytes (writeString name) ++ 0x3A :: (bytes (write item) ++ [0x7D]) := by
  rw [writeMembers, bytes_append, bytes_cons, bytes_append]
  rfl

private theorem bytes_members :
    bytes (writeMembers ((name, item) :: member :: members)) =
      bytes (writeString name) ++ 0x3A :: (bytes (write item) ++ 0x2C :: bytes (writeMembers (member :: members))) := by
  rw [writeMembers, bytes_append, bytes_cons, bytes_append]
  · rfl
  · simp

private theorem exists_bytes_items {items : List Json} (hne : items ≠ []) (h : ∀ item ∈ items, item.Exact) :
    ∃ b more, bytes (writeItems items) = b :: more ∧ Place.isBlank b = false ∧ b ≠ 0x5D := by
  match items, hne with
  | item :: items, _ =>
    obtain ⟨b, more, hb, hstart⟩ := exists_bytes_write (h item (List.mem_cons_self ..))
    cases items with
    | nil => exact ⟨b, _, by rw [bytes_last_item, hb]; rfl, hstart⟩
    | cons next items => exact ⟨b, _, by rw [bytes_items, hb]; rfl, hstart⟩

private theorem exists_bytes_members {members : List (String × Json)} (hne : members ≠ []) :
    ∃ more, bytes (writeMembers members) = 0x22 :: more := by
  match members, hne with
  | [(name, item)], _ => exact ⟨_, by rw [bytes_last_member, bytes_writeString]⟩
  | (name, item) :: next :: members, _ => exact ⟨_, by rw [bytes_members, bytes_writeString]⟩

end Bytes

private theorem ends_comma (rest : List UInt8) : Ends (0x2C :: rest) := by
  rintro b ⟨⟩
  exact .inl rfl

private theorem ends_bracket (rest : List UInt8) : Ends (0x5D :: rest) := by
  rintro b ⟨⟩
  exact .inr (.inl rfl)

private theorem ends_brace (rest : List UInt8) : Ends (0x7D :: rest) := by
  rintro b ⟨⟩
  exact .inr (.inr rfl)

mutual

/-- What is written for a value is laid out as that value, whatever ends it. Every second step of the layout takes a
byte. -/
private theorem outlineAt_write : (value : Json) → value.Exact → (fuel offset : Nat) → {rest : List UInt8} → Ends rest →
    2 * (bytes (write value)).length ≤ fuel + 1 →
    ∃ outline, outlineAt (fuel + 1) ⟨offset, bytes (write value) ++ rest⟩ =
      (outline, some ⟨offset + (bytes (write value)).length, rest⟩) ∧ outline.Shows value
  | .null, _, fuel, offset, rest, _, _ => ⟨_, rfl, .null offset⟩
  | .bool true, _, fuel, offset, rest, _, _ => ⟨_, rfl, .bool true offset⟩
  | .bool false, _, fuel, offset, rest, _, _ => ⟨_, rfl, .bool false offset⟩
  | .number (.whole n), _, fuel, offset, rest, hends, _ => by
    obtain ⟨literal, hlayout, hvalue⟩ := outlineAt_whole fuel n hends
    exact ⟨_, hlayout, .number offset hvalue⟩
  | .number (.fractional x), h, _, _, _, _, _ => by cases h
  | .string s, _, fuel, offset, rest, _, _ => ⟨_, outlineAt_string fuel s, .string (readString_writeString s _ rest)⟩
  | .array [], _, fuel, offset, rest, _, _ => ⟨_, rfl, .array offset _ .nil⟩
  | .array (item :: items), .array h, fuel, offset, rest, _, hfuel => by
    obtain ⟨b, more, hb, hblank, hclose⟩ := exists_bytes_items (List.cons_ne_nil item items) h
    rw [bytes_array, List.length_cons] at hfuel ⊢
    obtain ⟨fuel, rfl⟩ : ∃ k, fuel = k + 1 := ⟨fuel - 1, by rw [hb, List.length_cons] at hfuel; omega⟩
    obtain ⟨outlines, stop, hlayout, hshow⟩ :=
      itemsAt_write (item :: items) (List.cons_ne_nil item items) h fuel (offset + 1) rest (by omega)
    refine ⟨_, ?_, .array offset stop hshow⟩
    rw [hb, List.cons_append] at hlayout
    rw [hb, List.cons_append, List.cons_append, outlineAt_items _ _ hblank hclose, hlayout, ← hb, Nat.add_assoc,
      Nat.add_comm 1]
  | .object [], _, fuel, offset, rest, _, _ => ⟨_, rfl, .object offset _ .nil⟩
  | .object (member :: members), .object h, fuel, offset, rest, _, hfuel => by
    obtain ⟨more, hb⟩ := exists_bytes_members (List.cons_ne_nil member members)
    rw [bytes_object, List.length_cons] at hfuel ⊢
    obtain ⟨fuel, rfl⟩ : ∃ k, fuel = k + 1 := ⟨fuel - 1, by rw [hb, List.length_cons] at hfuel; omega⟩
    obtain ⟨outlines, stop, hlayout, hshow⟩ :=
      membersAt_write (member :: members) (List.cons_ne_nil member members) h fuel offset (offset + 1) rest (by omega)
    refine ⟨_, ?_, .object offset stop hshow⟩
    rw [hb, List.cons_append] at hlayout
    rw [hb, List.cons_append, List.cons_append, outlineAt_members, hlayout, ← hb, Nat.add_assoc, Nat.add_comm 1]

private theorem itemsAt_write : (items : List Json) → items ≠ [] → (∀ item ∈ items, item.Exact) → (fuel offset : Nat) →
    (rest : List UInt8) → 2 * (bytes (writeItems items)).length ≤ fuel + 2 →
    ∃ outlines stop, itemsAt (fuel + 1) ⟨offset, bytes (writeItems items) ++ rest⟩ =
      (outlines, .closed stop, some ⟨offset + (bytes (writeItems items)).length, rest⟩) ∧ ItemsShow outlines items
  | [], hne, _, _, _, _, _ => absurd rfl hne
  | [item], _, h, fuel, offset, rest, hfuel => by
    have hitem : item.Exact := h item (List.mem_cons_self ..)
    obtain ⟨b, more, hb, -⟩ := exists_bytes_write hitem
    rw [bytes_last_item, List.length_append, List.length_singleton] at hfuel ⊢
    obtain ⟨fuel, rfl⟩ : ∃ k, fuel = k + 1 := ⟨fuel - 1, by rw [hb, List.length_cons] at hfuel; omega⟩
    obtain ⟨outline, hlayout, hshow⟩ := outlineAt_write item hitem fuel offset (ends_bracket rest) (by omega)
    rw [List.append_assoc, List.singleton_append, itemsAt_last hlayout]
    exact ⟨_, _, rfl, .cons _ hshow .nil⟩
  | item :: next :: items, _, h, fuel, offset, rest, hfuel => by
    obtain ⟨hitem, hitems⟩ := List.forall_mem_cons.1 h
    obtain ⟨b, more, hb, -⟩ := exists_bytes_write hitem
    obtain ⟨c, tail, hc, hblank, hclose⟩ := exists_bytes_items (List.cons_ne_nil next items) hitems
    rw [bytes_items, List.length_append, List.length_cons] at hfuel ⊢
    obtain ⟨fuel, rfl⟩ : ∃ k, fuel = k + 1 := ⟨fuel - 1, by rw [hb, List.length_cons] at hfuel; omega⟩
    obtain ⟨outline, hlayout, hshow⟩ :=
      outlineAt_write item hitem fuel offset (ends_comma (bytes (writeItems (next :: items)) ++ rest)) (by omega)
    obtain ⟨outlines, stop, hlater, hshows⟩ :=
      itemsAt_write (next :: items) (List.cons_ne_nil next items) hitems fuel
        (offset + (bytes (write item)).length + 1) rest (by omega)
    have hlength : offset + (bytes (write item)).length + 1 + (bytes (writeItems (next :: items))).length =
        offset + ((bytes (write item)).length + ((bytes (writeItems (next :: items))).length + 1)) := by omega
    rw [hlength, hc, List.cons_append] at hlater
    rw [hc, List.cons_append] at hlayout
    rw [List.append_assoc, List.cons_append, hc, List.cons_append, itemsAt_more hlayout hblank hclose, hlater]
    exact ⟨_, stop, rfl, .cons _ hshow hshows⟩

/-- Members that are written up to the end of their object. -/
private theorem membersAt_write : (members : List (String × Json)) → members ≠ [] →
    (∀ member ∈ members, member.2.Exact) →
    (fuel before offset : Nat) → (rest : List UInt8) → 2 * (bytes (writeMembers members)).length ≤ fuel + 2 →
    ∃ outlines stop, membersAt (fuel + 1) before ⟨offset, bytes (writeMembers members) ++ rest⟩ =
      (outlines, .closed stop, some ⟨offset + (bytes (writeMembers members)).length, rest⟩) ∧
        MembersShow outlines members
  | [], hne, _, _, _, _, _, _ => absurd rfl hne
  | [(name, value)], _, h, fuel, before, offset, rest, hfuel => by
    have hvalue : value.Exact := h (name, value) (List.mem_cons_self ..)
    obtain ⟨b, more, hb, hblank, -⟩ := exists_bytes_write hvalue
    have hlength : offset + 1 + quotedLength name + 1 + (bytes (write value)).length + 1 =
        offset + (bytes (writeMembers [(name, value)])).length := by
      simp only [bytes_last_member, List.length_append, List.length_cons, List.length_nil, length_writeString]
      omega
    obtain ⟨fuel, rfl⟩ : ∃ k, fuel = k + 1 := ⟨fuel - 1, by omega⟩
    obtain ⟨outline, hlayout, hshow⟩ := outlineAt_write value hvalue fuel (offset + 1 + quotedLength name + 1)
      (ends_brace rest) (by omega)
    have htext : bytes (writeMembers [(name, value)]) ++ rest =
        bytes (writeString name) ++ 0x3A :: (bytes (write value) ++ 0x7D :: rest) := by
      simp only [bytes_last_member, List.append_assoc, List.cons_append, List.nil_append]
    rw [hb, List.cons_append] at hlayout
    rw [htext, ← hlength, hb, List.cons_append, membersAt_last hblank hlayout, ← hb]
    exact ⟨_, _, rfl, .cons (readString_writeString name (offset + 1) _) hshow .nil⟩
  | (name, value) :: next :: members, _, h, fuel, before, offset, rest, hfuel => by
    obtain ⟨(hvalue : value.Exact), hmembers⟩ := List.forall_mem_cons.1 h
    obtain ⟨b, more, hb, hblank, -⟩ := exists_bytes_write hvalue
    obtain ⟨tail, htail⟩ := exists_bytes_members (List.cons_ne_nil next members)
    have hlength : offset + 1 + quotedLength name + 1 + (bytes (write value)).length + 1 +
        (bytes (writeMembers (next :: members))).length =
          offset + (bytes (writeMembers ((name, value) :: next :: members))).length := by
      simp only [bytes_members, List.length_append, List.length_cons, length_writeString]
      omega
    obtain ⟨fuel, rfl⟩ : ∃ k, fuel = k + 1 := ⟨fuel - 1, by omega⟩
    obtain ⟨outline, hlayout, hshow⟩ := outlineAt_write value hvalue fuel (offset + 1 + quotedLength name + 1)
      (ends_comma (bytes (writeMembers (next :: members)) ++ rest)) (by omega)
    obtain ⟨outlines, stop, hlater, hshows⟩ :=
      membersAt_write (next :: members) (List.cons_ne_nil next members) hmembers fuel
        (offset + 1 + quotedLength name + 1 + (bytes (write value)).length)
        (offset + 1 + quotedLength name + 1 + (bytes (write value)).length + 1) rest (by omega)
    have htext : bytes (writeMembers ((name, value) :: next :: members)) ++ rest =
        bytes (writeString name) ++ 0x3A :: (bytes (write value) ++
          0x2C :: (bytes (writeMembers (next :: members)) ++ rest)) := by
      simp only [bytes_members, List.append_assoc, List.cons_append]
    rw [hlength, htail, List.cons_append] at hlater
    rw [htail, hb, List.cons_append, List.cons_append] at hlayout
    rw [htext, htail, hb, List.cons_append, List.cons_append, membersAt_more hblank hlayout, ← hb,
      hlater]
    exact ⟨_, stop, rfl, .cons (readString_writeString name (offset + 1) _) hshow hshows⟩

end

/-- The document that the text of a value is: the value, and nothing behind it. -/
theorem Document.ofBytes_text {value : Json} (h : value.Exact) :
    (Document.ofBytes (Utf8.encode value.text)).root.Shows value ∧
      (Document.ofBytes (Utf8.encode value.text)).trailing = none := by
  obtain ⟨b, more, hb, hblank, -⟩ := exists_bytes_write h
  have hends : Ends [] := fun b hb => by cases hb
  obtain ⟨outline, hlayout, hshow⟩ := outlineAt_write value h (2 * (bytes (write value)).length + 1) 0 hends (by omega)
  rw [List.append_nil] at hlayout
  have hstart : (Place.start (bytes (write value))).skipBlanks = ⟨0, bytes (write value)⟩ :=
    Place.skipBlanks_eq (by simpa [Place.start, hb] using hblank)
  rw [text, Utf8.encode_ofList, Document.ofBytes, hstart, hlayout]
  exact ⟨hshow, rfl⟩

end RequestBinding.Json
