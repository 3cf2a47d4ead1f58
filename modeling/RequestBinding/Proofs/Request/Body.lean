import RequestBinding.Request.Basic
import RequestBinding.Proofs.Except
import Mathlib.Algebra.Order.Ring.Nat
import Mathlib.Data.List.TakeWhile

/-! Chunks of a body read to their end. All that counts is the bytes that they come to together: they are read if no
chunk is a failure and no more bytes come than the limit allows. Otherwise what comes first decides, the first failure or
the chunk that leads beyond the limit. -/

namespace RequestBinding

namespace Chunk

private theorem readOnto_pieces {limit : Nat} {done : List UInt8} (h : done.length ≤ limit)
    (pieces : List (List UInt8)) :
    readOnto limit done (pieces.map .data) =
      if (done ++ pieces.flatten).length ≤ limit then .ok (done ++ pieces.flatten) else .error (.tooLarge limit) := by
  induction pieces generalizing done with
  | nil =>
    rw [List.flatten_nil, List.append_nil, if_pos h]
    rfl
  | cons piece pieces ih =>
    rw [List.map_cons, readOnto, List.flatten_cons, ← List.append_assoc]
    split
    · next hfits => exact ih (by rwa [List.length_append])
    · next hlarge =>
      rw [if_neg]
      simp only [List.length_append] at hlarge ⊢
      omega

theorem readWithin_pieces (limit : Nat) (pieces : List (List UInt8)) :
    readWithin limit (pieces.map .data) =
      if pieces.flatten.length ≤ limit then .ok pieces.flatten else .error (.tooLarge limit) :=
  readOnto_pieces (Nat.zero_le limit) pieces

/-- What was read is all that came, without a failure in between. -/
theorem exists_pieces {limit : Nat} {done bytes : List UInt8} {chunks : List Chunk}
    (h : readOnto limit done chunks = .ok bytes) :
    ∃ pieces : List (List UInt8), chunks = pieces.map .data ∧ done ++ pieces.flatten = bytes := by
  induction chunks generalizing done with
  | nil => exact ⟨[], rfl, by rw [List.flatten_nil, List.append_nil]; exact Except.ok.inj h⟩
  | cons chunk rest ih =>
    cases chunk with
    | failure message => cases h
    | data piece =>
      rw [readOnto] at h
      split at h
      · obtain ⟨pieces, rfl, rfl⟩ := ih h
        exact ⟨piece :: pieces, rfl, by rw [List.flatten_cons, List.append_assoc]⟩
      · cases h

/-- Chunks are read exactly if none of them is a failure and all of them are within the limit. -/
theorem readWithin_eq_ok_iff {limit : Nat} {chunks : List Chunk} {bytes : List UInt8} :
    readWithin limit chunks = .ok bytes ↔
      ∃ pieces : List (List UInt8), chunks = pieces.map .data ∧ pieces.flatten = bytes ∧ bytes.length ≤ limit := by
  constructor
  · intro h
    obtain ⟨pieces, rfl, rfl⟩ := exists_pieces h
    rw [readWithin_pieces] at h
    split at h
    · next hfits => exact ⟨pieces, rfl, rfl, hfits⟩
    · cases h
  · rintro ⟨pieces, rfl, rfl, hfits⟩
    rw [readWithin_pieces, if_pos hfits]

/-- How many bytes a chunk brings. -/
def size : Chunk → Nat
  | .data bytes => bytes.length
  | .failure _ => 0

def bytes : Chunk → List UInt8
  | .data bytes => bytes
  | .failure _ => []

def failure? : Chunk → Option String
  | .data _ => none
  | .failure message => some message

/-- How many bytes come before the first failure, or altogether if there is none. -/
def sizeBeforeFailure (chunks : List Chunk) : Nat := ((chunks.takeWhile (·.failure?.isNone)).map size).sum

section Outcomes

variable {limit : Nat} {done : List UInt8}

private theorem readOnto_eq (h : done.length ≤ limit) (chunks : List Chunk) : readOnto limit done chunks =
    if done.length + sizeBeforeFailure chunks ≤ limit then
      match chunks.findSome? failure? with
      | some message => .error (.read message)
      | none => .ok (done ++ chunks.flatMap bytes)
    else .error (.tooLarge limit) := by
  induction chunks generalizing done with
  | nil =>
    rw [sizeBeforeFailure, if_pos (by simpa using h)]
    simp [readOnto]
  | cons chunk rest ih =>
    cases chunk with
    | failure message =>
      have hnone : sizeBeforeFailure (.failure message :: rest) = 0 := rfl
      rw [hnone, Nat.add_zero, if_pos h]
      rfl
    | data piece =>
      have hsize : sizeBeforeFailure (.data piece :: rest) = piece.length + sizeBeforeFailure rest := by
        rw [sizeBeforeFailure, List.takeWhile_cons_of_pos rfl, List.map_cons, List.sum_cons]
        rfl
      have hfault : (.data piece :: rest).findSome? failure? = rest.findSome? failure? := rfl
      rw [readOnto, hsize, hfault, ← Nat.add_assoc, ← List.length_append]
      split
      · next hfits => rw [ih hfits, List.flatMap_cons, List.append_assoc]; rfl
      · next hlarge => rw [if_neg (by omega)]

private theorem readOnto_append {fault : BodyFault} {front : List Chunk} (h : readOnto limit done front = .error fault)
    (back : List Chunk) : readOnto limit done (front ++ back) = .error fault := by
  induction front generalizing done with
  | nil => cases h
  | cons chunk rest ih =>
    cases chunk with
    | failure message => exact h
    | data piece =>
      rw [List.cons_append, readOnto]
      rw [readOnto] at h
      split at h
      · next hfits =>
        rw [if_pos hfits]
        exact ih h
      · next hlarge =>
        rw [if_neg hlarge]
        exact h

private theorem sizeBeforeFailure_of_none {chunks : List Chunk} (h : chunks.findSome? failure? = none) :
    sizeBeforeFailure chunks = (chunks.map size).sum := by
  have hall : chunks.takeWhile (·.failure?.isNone) = chunks := by
    apply List.takeWhile_eq_self_iff.2
    intro chunk hchunk
    exact Option.isNone_iff_eq_none.2 (List.findSome?_eq_none_iff.1 h chunk hchunk)
  rw [sizeBeforeFailure, hall]

end Outcomes

/-- Chunks are read to all of their bytes exactly if there is no failure and they are within the limit, they are too large
exactly if those before the first failure are, and the first failure is met exactly if those before it are not. What comes
behind a fault plays no part. -/
theorem readWithin_settles (limit : Nat) (chunks : List Chunk) :
    (∀ read, readWithin limit chunks = .ok read ↔
      chunks.findSome? failure? = none ∧ (chunks.map size).sum ≤ limit ∧ read = chunks.flatMap bytes) ∧
    (∀ bound, readWithin limit chunks = .error (.tooLarge bound) ↔ bound = limit ∧ limit < sizeBeforeFailure chunks) ∧
    (∀ message, readWithin limit chunks = .error (.read message) ↔
      chunks.findSome? failure? = some message ∧ sizeBeforeFailure chunks ≤ limit) ∧
    ∀ fault back, readWithin limit chunks = .error fault → readWithin limit (chunks ++ back) = .error fault := by
  have hread : readWithin limit chunks = if sizeBeforeFailure chunks ≤ limit then
      match chunks.findSome? failure? with
      | some message => .error (.read message)
      | none => .ok (chunks.flatMap bytes)
    else .error (.tooLarge limit) := by
    rw [readWithin, readOnto_eq (Nat.zero_le limit), List.length_nil, Nat.zero_add]
    rfl
  refine ⟨fun read => ?_, fun bound => ?_, fun message => ?_, fun fault back h => readOnto_append h back⟩
  · constructor
    · intro h
      rw [hread] at h
      split at h
      · next hfits =>
        split at h
        · cases h
        · next hnone =>
          rw [sizeBeforeFailure_of_none hnone] at hfits
          exact ⟨hnone, hfits, (Except.ok.inj h).symm⟩
      · cases h
    · rintro ⟨hnone, hfits, rfl⟩
      rw [← sizeBeforeFailure_of_none hnone] at hfits
      rw [hread, if_pos hfits, hnone]
  · constructor
    · intro h
      rw [hread] at h
      split at h
      · split at h <;> cases h
      · next hlarge =>
        cases h
        exact ⟨rfl, Nat.lt_of_not_le hlarge⟩
    · rintro ⟨rfl, hlarge⟩
      rw [hread, if_neg (Nat.not_le_of_lt hlarge)]
  · constructor
    · intro h
      rw [hread] at h
      split at h
      · next hfits =>
        split at h
        · next hsome =>
          cases h
          exact ⟨hsome, hfits⟩
        · cases h
      · cases h
    · rintro ⟨hsome, hfits⟩
      rw [hread, if_pos hfits, hsome]

/-- A failure right behind as many bytes as the limit allows is met, one behind a byte more is not. -/
theorem readWithin_settles_of_full_limit :
    let full := [.data [1, 2], .data [], .data [3], .failure "gone"]
    let more := [.data [1, 2, 3], .data [4]]
    full.findSome? failure? = some "gone" ∧ sizeBeforeFailure full = 3 ∧
      readWithin 3 (full ++ [.data [4]]) = .error (.read "gone") ∧
      sizeBeforeFailure more = 4 ∧ readWithin 3 (more ++ [.failure "gone"]) = .error (.tooLarge 3) := by
  intro full more
  obtain ⟨-, -, hfailure, hbehind⟩ := readWithin_settles 3 full
  obtain ⟨-, hlarge, -, hbehind'⟩ := readWithin_settles 3 more
  refine ⟨rfl, rfl, hbehind _ _ ?_, rfl, hbehind' _ _ ?_⟩
  · exact (hfailure "gone").2 ⟨rfl, by decide⟩
  · exact (hlarge 3).2 ⟨rfl, by decide⟩

end Chunk

namespace Multipart

/-- What a body that cannot be read is to the reader of a form in it. -/
def faultOf : BodyFault → PartFault
  | .tooLarge limit => .streamTooLarge limit
  | .read _ => .unreadable

/-- The reader of a form gathers the bytes of a body as they are read otherwise. -/
theorem gather_eq (limit : Nat) (read : List UInt8) (chunks : List Chunk) :
    gather limit read chunks = (Chunk.readOnto limit read chunks).mapError faultOf := by
  induction chunks generalizing read with
  | nil => rfl
  | cons chunk rest ih =>
    cases chunk with
    | failure message => rfl
    | data bytes =>
      rw [gather, Chunk.readOnto]
      split
      · exact ih _
      · rfl

theorem gather_pieces {limit : Nat} {read : List UInt8} (h : read.length ≤ limit) (pieces : List (List UInt8)) :
    gather limit read (pieces.map .data) =
      if (read ++ pieces.flatten).length ≤ limit then .ok (read ++ pieces.flatten) else .error (.streamTooLarge limit) := by
  rw [gather_eq, Chunk.readOnto_pieces h]
  split <;> rfl

end Multipart

/-- A request hands out a reader of its chunks. -/
theorem Request.multipart_eq_ok {r : Request} {limits : PartLimits} {reader : Multipart}
    (h : (r.multipart limits).1 = .ok reader) :
    ∃ boundary chunks, reader = Multipart.ofChunks boundary limits chunks := by
  unfold multipart at h
  split at h
  · cases h
  · next boundary _ =>
    split at h
    · cases h
    · rcases htake : r.takeBody with ⟨_ | chunks, after⟩
      · rw [htake] at h
        cases h
      · rw [htake] at h
        exact ⟨boundary, chunks, (Except.ok.inj h).symm⟩

end RequestBinding
