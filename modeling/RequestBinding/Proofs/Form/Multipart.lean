import RequestBinding.Form.Multipart
import RequestBinding.Proofs.Form.PartHeaders

/-! Parts of a form as they are written, found again one by one. A delimiter cannot start within the data before it,
since its first byte stands nowhere else in it. -/

namespace RequestBinding

/-- A part to be written: its name, the name of its file if it is one, and its data. -/
abbrev WrittenPart := String × Option String × List UInt8

namespace Multipart

section Search

variable {c : UInt8} {pattern before data rest : List UInt8}

private theorem indexFrom_at (index : Nat) : indexFrom (c :: pattern) index (c :: pattern ++ rest) = some index := by
  rw [List.cons_append, indexFrom, if_pos]
  rw [List.isPrefixOf_iff_prefix]
  exact List.prefix_append (c :: pattern) rest

private theorem indexFrom_step {b : UInt8} (h : ¬ c :: pattern <+: b :: rest) (index : Nat) :
    indexFrom (c :: pattern) index (b :: rest) = indexFrom (c :: pattern) (index + 1) rest := by
  rw [indexFrom, if_neg]
  rwa [List.isPrefixOf_iff_prefix]

private theorem indexFrom_skip (h : c ∉ before) (index : Nat) :
    indexFrom (c :: pattern) index (before ++ rest) = indexFrom (c :: pattern) (index + before.length) rest := by
  induction before generalizing index with
  | nil => rfl
  | cons b before ih =>
    rw [List.mem_cons, not_or] at h
    rw [List.cons_append, indexFrom_step fun hp => h.1 (List.cons_prefix_cons.1 hp).1, ih h.2, List.length_cons,
      Nat.add_right_comm, Nat.add_assoc]

/-- What does not hold a pattern does not hold the start of one either that ends in a pattern behind it, where the
first byte of the pattern stands nowhere else in it. -/
private theorem indexFrom_behind (hc : c ∉ pattern) (h : ¬ c :: pattern <:+: data) (index : Nat) :
    indexFrom (c :: pattern) index (data ++ (c :: pattern ++ rest)) = some (index + data.length) := by
  induction data generalizing index with
  | nil => exact indexFrom_at index
  | cons b data ih =>
    have hno : ¬ c :: pattern <+: b :: (data ++ (c :: pattern ++ rest)) := by
      intro hp
      have hdata : b :: (data ++ [c]) <+: b :: (data ++ (c :: pattern ++ rest)) := ⟨pattern ++ rest, by simp⟩
      rcases List.prefix_or_prefix_of_prefix hp hdata with hin | hin
      · rw [← List.cons_append] at hin
        rcases List.prefix_concat_iff.1 hin with he | hin
        · exact hc ((List.cons.inj he).2 ▸ by simp)
        · exact h hin.isInfix
      · exact hc ((List.cons_prefix_cons.1 hin).2.subset (by simp))
    rw [List.cons_append, indexFrom_step hno, ih fun hin => h (List.infix_cons hin), List.length_cons,
      Nat.add_right_comm, Nat.add_assoc]

end Search

section Writing

open PartHeaders

/-- The delimiter of parts in a form with a boundary. -/
def delimiterOf (boundary : String) : List UInt8 := dashes ++ Utf8.encode boundary

private theorem encodePart_eq (boundary name : String) (file : Option String) (data : List UInt8) :
    encodePart boundary name file data =
      delimiterOf boundary ++ (lineEnd ++ (writtenHeaders name file ++ (lineEnd ++ lineEnd ++ (data ++ lineEnd)))) := by
  have hdashes : Utf8.encode "--" = dashes := rfl
  have hline : Utf8.encode "\r\n" = lineEnd := rfl
  have hlead : Utf8.encode "Content-Disposition: form-data; name=\"" =
      Utf8.encode "Content-Disposition: " ++ Utf8.encode "form-data; name=\"" := rfl
  have hquote : Utf8.encode "\"" = [0x22] := rfl
  unfold encodePart
  cases file with
  | none =>
    have hempty : Utf8.encode "\r\n\r\n" = lineEnd ++ lineEnd := rfl
    simp only [Utf8.encode_append, delimiterOf, writtenHeaders, disposition, afterPartName, List.append_assoc, hdashes,
      hline, hlead, hquote, hempty, List.cons_append, List.nil_append]
  | some text =>
    have htype : Utf8.encode "\"\r\nContent-Type: application/octet-stream\r\n\r\n" =
        [0x22] ++ Utf8.encode "\r\nContent-Type: " ++ octets ++ (lineEnd ++ lineEnd) := rfl
    simp only [Utf8.encode_append, delimiterOf, writtenHeaders, disposition, afterPartName, List.append_assoc, hdashes,
      hline, hlead, hquote, htype, List.cons_append, List.nil_append]

private theorem encode_nil (boundary : String) : encode boundary [] = delimiterOf boundary ++ (dashes ++ lineEnd) := by
  have hend : Utf8.encode "--\r\n" = dashes ++ lineEnd := rfl
  have hdashes : Utf8.encode "--" = dashes := rfl
  rw [encode, List.flatMap_nil, List.nil_append, Utf8.encode_append, Utf8.encode_append, hdashes, hend, delimiterOf,
    List.append_assoc]

private theorem encode_cons (boundary name : String) (file : Option String) (data : List UInt8)
    (parts : List WrittenPart) :
    encode boundary ((name, file, data) :: parts) =
      delimiterOf boundary ++ (lineEnd ++ (writtenHeaders name file ++ (lineEnd ++ lineEnd ++
        (data ++ (lineEnd ++ encode boundary parts))))) := by
  rw [encode, List.flatMap_cons, List.append_assoc, ← encode]
  simp only [encodePart_eq, List.append_assoc]

private theorem exists_encode (boundary : String) (parts : List WrittenPart) :
    ∃ rest, encode boundary parts = delimiterOf boundary ++ rest := by
  cases parts with
  | nil => exact ⟨_, encode_nil boundary⟩
  | cons part parts => exact ⟨_, encode_cons boundary part.1 part.2.1 part.2.2 parts⟩

theorem length_le_encode (boundary : String) (parts : List WrittenPart) :
    parts.length ≤ (encode boundary parts).length := by
  induction parts with
  | nil => exact Nat.zero_le _
  | cons part parts ih =>
    obtain ⟨name, file, data⟩ := part
    rw [encode_cons]
    have hline : lineEnd.length = 2 := rfl
    simp only [List.length_append, List.length_cons, hline]
    omega

/-- A part that can be told from what is around it: its name and that of its file are tokens, and no delimiter is in
its data. -/
structure Separable (boundary : String) (part : WrittenPart) : Prop where
  name : ∀ c ∈ part.1.toList, MediaType.isTokenChar c = true
  file : ∀ text, part.2.1 = some text → ∀ c ∈ text.toList, MediaType.isTokenChar c = true
  data : ¬ lineEnd ++ delimiterOf boundary <:+: part.2.2

/-- A search finds in the disposition of a part what the format has there: its name, and that of its file if there is
one. -/
structure Finds (find : String → List UInt8 → Option String) (part : WrittenPart) : Prop where
  name : find "name" (disposition part.1 part.2.1) = some part.1
  fileName : find "filename" (disposition part.1 part.2.1) = part.2.1

/-- The search that starts anew behind what it passes over finds both, except for a file whose part has a name with
the text in it that leads it astray. -/
theorem finds_attribute?_iff {boundary : String} {part : WrittenPart} (h : Separable boundary part) :
    Finds attribute? part ↔ (hidingText <:+: Utf8.encode part.1 → part.2.1 = none) := by
  constructor
  · intro hfinds hhidden
    rw [← hfinds.fileName, attribute?_filename_hidden h.name hhidden]
  · intro hclear
    refine ⟨attribute?_name h.name _, ?_⟩
    by_cases hhidden : hidingText <:+: Utf8.encode part.1
    · rw [attribute?_filename_hidden h.name hhidden, hclear hhidden]
    · exact attribute?_filename h.name hhidden h.file

/-- What a reader knows of a part before it reads the data. -/
def readPart (part : WrittenPart) : Part :=
  ⟨some part.1, part.2.1, part.2.1.map fun _ => ⟨"application", "octet-stream", none, [], ""⟩⟩

end Writing

section Reading

open PartHeaders

variable {boundary : String} {part : WrittenPart} {find : String → List UInt8 → Option String}

private theorem partOf_headersOf {m : Multipart} (h : Finds m.find part) :
    m.partOf (headersOf part.1 part.2.1) = readPart part := by
  obtain ⟨name, file, data⟩ := part
  have hdisposition : (Entries.get? "content-disposition" (headersOf name file)).getD [] = disposition name file := by
    cases file <;> rfl
  have htype : ((Entries.get? "content-type" (headersOf name file)).bind Header.text?).bind MediaType.ofText? =
      file.map fun _ => ⟨"application", "octet-stream", none, [], ""⟩ := by
    cases file <;> rfl
  rw [partOf, hdisposition, h.name, h.fileName, htype, readPart]

private theorem return_not_mem_disposition (h : Separable boundary part) :
    0x0D ∉ Utf8.encode "Content-Disposition: " ++ disposition part.1 part.2.1 := by
  intro hmem
  rcases List.mem_append.1 hmem with hmem | hmem
  · exact absurd hmem (by decide)
  · exact absurd (isValueByte_of_mem_disposition h.name h.file _ hmem) (by decide)

private theorem index?_writtenHeaders (h : Separable boundary part) (rest : List UInt8) :
    index? (lineEnd ++ lineEnd) (writtenHeaders part.1 part.2.1 ++ (lineEnd ++ lineEnd ++ rest)) =
      some (writtenHeaders part.1 part.2.1).length := by
  have hempty : lineEnd ++ lineEnd = 0x0D :: [0x0A, 0x0D, 0x0A] := rfl
  have hfirst := return_not_mem_disposition h
  obtain ⟨name, file, data⟩ := part
  rw [index?, hempty]
  cases file with
  | none =>
    rw [writtenHeaders, indexFrom_skip hfirst, indexFrom_at, Nat.zero_add]
  | some text =>
    have hline : Utf8.encode "\r\nContent-Type: " = 0x0D :: 0x0A :: Utf8.encode "Content-Type: " := rfl
    have hnext (more : List UInt8) :
        ¬ 0x0D :: [0x0A, 0x0D, 0x0A] <+: 0x0D :: (0x0A :: Utf8.encode "Content-Type: " ++ octets ++ more) := by
      rintro ⟨rest, hrest⟩
      have hthird : (0x0D : UInt8) = 0x43 := (List.cons.inj (List.cons.inj (List.cons.inj hrest).2).2).1
      exact absurd hthird (by decide)
    have hsecond : 0x0D ∉ 0x0A :: Utf8.encode "Content-Type: " ++ octets := by decide
    have hsplit : writtenHeaders name (some text) =
        Utf8.encode "Content-Disposition: " ++ disposition name (some text) ++
          0x0D :: (0x0A :: Utf8.encode "Content-Type: " ++ octets) := by
      rw [writtenHeaders, hline, List.append_assoc _ _ octets]
      rfl
    rw [hsplit, List.append_assoc _ (0x0D :: _), List.cons_append (a := 0x0D), indexFrom_skip hfirst,
      indexFrom_step (hnext _), indexFrom_skip hsecond, indexFrom_at]
    simp only [List.length_append, List.length_cons, Option.some.injEq]
    omega

private theorem takeHeaders_written {m : Multipart} (h : Separable boundary part) (hfinds : Finds m.find part)
    (rest : List UInt8) :
    m.takeHeaders (writtenHeaders part.1 part.2.1 ++ (lineEnd ++ lineEnd ++ rest)) = .ok (readPart part, rest) := by
  have hempty : lineEnd ++ lineEnd = [0x0D, 0x0A, 0x0D, 0x0A] := rfl
  have htake : (writtenHeaders part.1 part.2.1 ++ (lineEnd ++ lineEnd ++ rest)).take
      ((writtenHeaders part.1 part.2.1).length + 4) = writtenHeaders part.1 part.2.1 ++ [0x0D, 0x0A, 0x0D, 0x0A] := by
    rw [List.take_length_add_append]
    rfl
  have hdrop : (writtenHeaders part.1 part.2.1 ++ (lineEnd ++ lineEnd ++ rest)).drop
      ((writtenHeaders part.1 part.2.1).length + 4) = rest := by
    rw [List.drop_length_add_append]
    rfl
  unfold takeHeaders
  rw [index?_writtenHeaders h]
  simp only [htake, hdrop, read_written h.name h.file, partOf_headersOf hfinds]

/-- A reader that comes to some parts next. -/
def awaiting (boundary : String) (limits : PartLimits) (find : String → List UInt8 → Option String) (stage : PartStage)
    (count : Nat) (parts : List WrittenPart) : Multipart :=
  ⟨Utf8.encode boundary, limits, find, .ok (encode boundary parts), stage, count⟩

/-- A reader at the data of a part, behind which some parts follow. -/
def withinPart (boundary : String) (limits : PartLimits) (find : String → List UInt8 → Option String) (count : Nat)
    (part : WrittenPart) (parts : List WrittenPart) : Multipart :=
  ⟨Utf8.encode boundary, limits, find, .ok (part.2.2 ++ (lineEnd ++ encode boundary parts)), .data (some part.1) 0, count⟩

variable (limits : PartLimits) {stage : PartStage} (count : Nat) (parts : List WrittenPart)

theorem nextPart_awaiting (hstage : stage = .unopened ∨ stage = .boundary) :
    (awaiting boundary limits find stage count parts).nextPart =
      (awaiting boundary limits find stage count parts).openPart (encode boundary parts) := by
  obtain ⟨rest, hrest⟩ := exists_encode boundary parts
  have hindex :
      index? (awaiting boundary limits find .unopened count parts).delimiter (encode boundary parts) = some 0 := by
    rw [hrest]
    exact indexFrom_at 0
  rcases hstage with rfl | rfl
  · rw [nextPart]
    simp only [awaiting] at hindex ⊢
    rw [hindex]
    rfl
  · rfl

theorem openPart_nil (m : Multipart) (hm : m.boundary = Utf8.encode boundary) :
    m.openPart (encode boundary []) = .ok none := by
  have hdelimiter : m.delimiter = delimiterOf boundary := by rw [delimiter, hm, delimiterOf]
  have hleads : (delimiterOf boundary).isPrefixOf (delimiterOf boundary ++ (dashes ++ lineEnd)) = true :=
    List.isPrefixOf_iff_prefix.2 (List.prefix_append ..)
  rw [openPart, hdelimiter, encode_nil, if_pos hleads, List.drop_left]
  rfl

theorem openPart_cons (h : Separable boundary part) (hfinds : Finds find part) :
    (awaiting boundary limits find stage count (part :: parts)).openPart (encode boundary (part :: parts)) =
      .ok (some (readPart part, withinPart boundary limits find count part parts)) := by
  have hdelimiter : (awaiting boundary limits find stage count (part :: parts)).delimiter = delimiterOf boundary := rfl
  have hleads (rest : List UInt8) : (delimiterOf boundary).isPrefixOf (delimiterOf boundary ++ rest) = true :=
    List.isPrefixOf_iff_prefix.2 (List.prefix_append ..)
  have hline (rest : List UInt8) : afterDelimiter (lineEnd ++ rest) = .ok (some rest) := rfl
  have htext := encode_cons boundary part.1 part.2.1 part.2.2 parts
  rw [openPart, hdelimiter, htext, if_pos (hleads _), List.drop_left, hline]
  simp only [takeHeaders_written (m := awaiting boundary limits find stage count (part :: parts)) h hfinds]
  rfl

/-- The data of a part ends where the delimiter of the next one starts. -/
theorem takeData_withinPart (hb : ∀ c ∈ boundary.toList, MediaType.isTokenChar c = true) (h : Separable boundary part) :
    (withinPart boundary limits find count part parts).takeData (some part.1) 0
        (part.2.2 ++ (lineEnd ++ encode boundary parts)) =
      if part.2.2.length ≤ limits.fieldSize then (.ok part.2.2, awaiting boundary limits find .boundary count parts)
      else (.error (.partTooLarge (some part.1) limits.fieldSize),
        awaiting boundary limits find (.data (some part.1) part.2.2.length) count parts) := by
  have hpattern : lineEnd ++ delimiterOf boundary = 0x0D :: (0x0A :: dashes ++ Utf8.encode boundary) := rfl
  have honce : 0x0D ∉ 0x0A :: dashes ++ Utf8.encode boundary := by
    intro hmem
    rcases List.mem_append.1 hmem with hmem | hmem
    · exact absurd hmem (by decide)
    · exact absurd (isTokenByte_spec (MediaType.isTokenByte_of_mem_encode hb _ hmem)).1.1 (by decide)
  have hdata := h.data
  obtain ⟨rest, hrest⟩ := exists_encode boundary parts
  have hindex : index? (lineEnd ++ delimiterOf boundary) (part.2.2 ++ (lineEnd ++ encode boundary parts)) =
      some part.2.2.length := by
    rw [hpattern] at hdata
    rw [hrest, ← List.append_assoc lineEnd, hpattern, index?, indexFrom_behind honce hdata, Nat.zero_add]
  have hdrop : (part.2.2 ++ (lineEnd ++ encode boundary parts)).drop (part.2.2.length + 2) = encode boundary parts := by
    rw [List.drop_length_add_append]
    rfl
  have hdelimiter : (withinPart boundary limits find count part parts).delimiter = delimiterOf boundary := rfl
  have hlimits : (withinPart boundary limits find count part parts).limits = limits := rfl
  rw [takeData, hdelimiter, hindex]
  simp only [hdrop, hlimits, List.take_left, Nat.zero_add]
  rfl

end Reading

end Multipart
end RequestBinding
