import RequestBinding.Proofs.Binding.Forms
import RequestBinding.Proofs.Request.Body

/-! Limits on what is read of a request. Whatever is in a body, no more of it is parsed and kept than the limits allow,
and a body that is larger comes to problems alone. -/

namespace RequestBinding

/-- How many bytes are in a body that is still there. -/
def Body.size : Body → Nat
  | .ready chunks => (chunks.map Chunk.size).sum
  | .empty | .taken => 0

namespace FormData

/-- The texts and the files of a form are no more, none of them is larger, and altogether they are no larger than the
limits on its parts say. -/
structure Within (limits : PartLimits) (d : FormData) : Prop where
  fields : d.values.texts.length + d.files.length ≤ limits.fields
  texts : ∀ text ∈ d.values.texts, (Utf8.encode text).length ≤ limits.fieldSize
  files : ∀ entry ∈ d.files, ∃ file, entry.2 = .ready file ∧ file.size ≤ limits.fieldSize
  bytes : (d.values.texts.map fun text => (Utf8.encode text).length).sum + (d.files.map (·.2.size)).sum ≤ limits.bodySize

/-- A form is within limits if the parts that make it are. -/
theorem GainsEach.within {limits : PartLimits} {parts : List SentPart} {d : FormData} (h : empty.GainsEach parts d)
    (hcount : parts.length ≤ limits.fields) (hsizes : ∀ part ∈ parts, part.data.length ≤ limits.fieldSize)
    (htotal : (parts.map (·.data.length)).sum ≤ limits.bodySize) : d.Within limits := by
  have hsub : d.sizes.Subperm (parts.map (·.data.length)) := by
    have hnone : empty.sizes = [] := rfl
    simpa [hnone] using h.sizes
  have hmem : ∀ size ∈ d.sizes, size ≤ limits.fieldSize := by
    intro size hsize
    obtain ⟨part, hpart, rfl⟩ := List.mem_map.1 (hsub.subset hsize)
    exact hsizes part hpart
  refine ⟨?_, ?_, ?_, ?_⟩
  · have hlength := hsub.length_le
    simp only [FormData.sizes, List.length_append, List.length_map] at hlength
    exact hlength.trans hcount
  · intro text htext
    exact hmem _ (List.mem_append_left _ (List.mem_map.2 ⟨text, htext, rfl⟩))
  · intro entry hentry
    obtain ⟨file, hready⟩ := h.ready (by simp [empty, ofValues]) entry hentry
    refine ⟨file, hready, ?_⟩
    have hsize := hmem entry.2.size (List.mem_append_right _ (List.mem_map.2 ⟨entry, hentry, rfl⟩))
    rwa [hready] at hsize
  · obtain ⟨chosen, hperm, hsublist⟩ := hsub
    rw [← List.sum_append, ← FormData.sizes, ← hperm.sum_nat]
    exact (hsublist.sum_le_sum fun _ _ => Nat.zero_le _).trans htotal

end FormData

namespace Multipart

variable (boundary : String) (limits : PartLimits) (chunks : List Chunk)

private theorem remaining_ofChunks : (ofChunks boundary limits chunks).remaining ≤ limits.bodySize := by
  unfold remaining ofChunks
  dsimp only
  rw [gather_eq]
  cases hread : Chunk.readOnto limits.bodySize [] chunks with
  | error fault => exact Nat.zero_le _
  | ok bytes =>
    obtain ⟨_, -, -, hfits⟩ := Chunk.readWithin_eq_ok_iff.1 hread
    exact hfits

end Multipart

namespace Request

variable {r : Request} {limits : Limits}

/-- The parts that are handed out of a body are within the limits, those without a name among them. -/
theorem SendsParts.within {limits : PartLimits} {parts : List SentPart} (h : r.SendsParts limits parts) :
    parts.length ≤ limits.fields ∧ (∀ part ∈ parts, part.data.length ≤ limits.fieldSize) ∧
      (parts.map (·.data.length)).sum ≤ limits.bodySize := by
  unfold SendsParts at h
  split at h
  · next reader hreader =>
    obtain ⟨boundary, chunks, rfl⟩ := multipart_eq_ok hreader
    obtain ⟨hcount, hsizes, htotal⟩ := h.within
    have hlength := hcount (Nat.zero_le _)
    rw [Multipart.ofChunks, Nat.zero_add] at hlength
    exact ⟨hlength, hsizes, htotal.trans (Multipart.remaining_ofChunks ..)⟩
  · obtain ⟨-, rfl⟩ := h
    exact ⟨Nat.zero_le _, by simp, Nat.zero_le _⟩

variable (r) {consumer other : Consumer} (hsupports : other.supports = consumer.supports)
  (hconsume : ∀ bytes, bytes.length ≤ limits.bodySize → other.consume bytes = consumer.consume bytes)
include hsupports hconsume

end Request

section Consumers

variable {c : Context} {other : Consumer} (hsupports : other.supports = c.consumer.supports)
  (hconsume : ∀ bytes, bytes.length ≤ c.limits.bodySize → other.consume bytes = c.consumer.consume bytes)
include hsupports hconsume

end Consumers

namespace Binder

variable {σ : Type} (b : Binder) (r : Request) (route : Route) (consumer : Consumer) (d : Destination σ) (s : σ)

end Binder
end RequestBinding
