import RequestBinding.Proofs.Form.Multipart
import RequestBinding.Proofs.Form.Parts
import RequestBinding.Proofs.Request.Body

/-! Reading a form in parts undoes writing it. The reader comes to the form that the parts make one after the other,
as long as no limit is in the way. -/

namespace RequestBinding

namespace Multipart

section Collecting

/-- The file that a part makes. -/
def fileOf (part : WrittenPart) : Upload := .ofBytes part.1 part.2.1 (some "application/octet-stream") part.2.2

/-- What becomes of a form with the data of a part: a file if it has the name of one, else a text. -/
def stored (form : FormData) (part : WrittenPart) : Except MultipartFault FormData :=
  match part.2.1 with
  | some _ => .ok (form.insertFile (fileOf part))
  | none =>
    match Utf8.decode? part.2.2 with
    | some text => .ok (form.append part.1 text)
    | none => .error (.invalidText part.1)

/-- What becomes of a form with some parts, within limits. -/
def storedEach (limits : PartLimits) : Nat → FormData → List WrittenPart → Except MultipartFault FormData
  | _, form, [] => .ok form
  | count, form, part :: parts =>
    if count < limits.fields then
      if part.2.2.length ≤ limits.fieldSize then
        match stored form part with
        | .error fault => .error fault
        | .ok form => storedEach limits (count + 1) form parts
      else .error (.part (.partTooLarge (some part.1) limits.fieldSize))
    else .error (.tooManyFields limits.fields)

variable {boundary : String} (hb : ∀ c ∈ boundary.toList, MediaType.isTokenChar c = true) {part : WrittenPart}
  {find : String → List UInt8 → Option String} (limits : PartLimits) (count : Nat) (parts : List WrittenPart)
include hb

private theorem bytes_withinPart (h : Separable boundary part) :
    (withinPart boundary limits find count part parts).bytes =
      if part.2.2.length ≤ limits.fieldSize then (.ok part.2.2, awaiting boundary limits find .boundary count parts)
      else (.error (.part (.partTooLarge (some part.1) limits.fieldSize)),
        awaiting boundary limits find (.data (some part.1) part.2.2.length) count parts) := by
  have hbytes : (withinPart boundary limits find count part parts).bytes =
      (((withinPart boundary limits find count part parts).takeData (some part.1) 0
        (part.2.2 ++ (lineEnd ++ encode boundary parts))).1.mapError .part,
        ((withinPart boundary limits find count part parts).takeData (some part.1) 0
        (part.2.2 ++ (lineEnd ++ encode boundary parts))).2) := bytes_eq _
  rw [hbytes, takeData_withinPart limits count parts hb h]
  split <;> rfl

omit hb in
private theorem addTo_readPart (form : FormData) (part : WrittenPart) (m : Multipart) :
    addTo form (readPart part) m = match m.bytes with
      | (.error fault, _) => .error fault
      | (.ok data, after) => (stored form (part.1, part.2.1, data)).map fun form => (form, after) := by
  obtain ⟨name, file, own⟩ := part
  rcases hbytes : m.bytes with ⟨fault | data, after⟩
  · cases file <;> simp only [readPart, addTo, Multipart.file, text, hbytes] <;> rfl
  · cases file with
    | some found =>
      have htype : MediaType.text ⟨"application", "octet-stream", none, [], ""⟩ = "application/octet-stream" := by decide
      simp only [readPart, addTo, Multipart.file, hbytes, stored, fileOf, Option.map_some, htype]
      rfl
    | none =>
      simp only [readPart, addTo, text, hbytes, stored]
      cases Utf8.decode? data <;> rfl

private theorem addTo_withinPart (h : Separable boundary part) (form : FormData) :
    addTo form (readPart part) (withinPart boundary limits find count part parts) =
      if part.2.2.length ≤ limits.fieldSize then
        (stored form part).map fun form => (form, awaiting boundary limits find .boundary count parts)
      else .error (.part (.partTooLarge (some part.1) limits.fieldSize)) := by
  rw [addTo_readPart, bytes_withinPart hb limits count parts h]
  by_cases hsize : part.2.2.length ≤ limits.fieldSize
  · simp only [if_pos hsize]
  · simp only [if_neg hsize]

private theorem collectOnto_awaiting (hp : ∀ part ∈ parts, Separable boundary part ∧ Finds find part)
    {stage : PartStage}
    (hstage : stage = .unopened ∨ stage = .boundary) (form : FormData) {fuel : Nat} (hfuel : parts.length < fuel) :
    collectOnto form fuel (awaiting boundary limits find stage count parts) = storedEach limits count form parts := by
  induction parts generalizing form fuel stage count with
  | nil =>
    obtain ⟨left, rfl⟩ : ∃ left, fuel = left + 1 := ⟨fuel - 1, by simp only [List.length_nil] at hfuel; omega⟩
    have hnext : (awaiting boundary limits find stage count []).next = .ok none := by
      rw [next, nextPart_awaiting limits count _ hstage, openPart_nil _ rfl]
    rw [collectOnto, hnext, storedEach]
  | cons part parts ih =>
    obtain ⟨hpart, hparts⟩ := List.forall_mem_cons.1 hp
    rw [List.length_cons] at hfuel
    obtain ⟨left, rfl⟩ : ∃ left, fuel = left + 1 := ⟨fuel - 1, by omega⟩
    have hnext : (awaiting boundary limits find stage count (part :: parts)).next =
        if count < limits.fields then .ok (some (readPart part, withinPart boundary limits find (count + 1) part parts))
        else .error (.tooManyFields limits.fields) := by
      rw [next, nextPart_awaiting limits count _ hstage, openPart_cons limits count parts hpart.1 hpart.2]
      rfl
    rw [collectOnto, hnext, storedEach]
    by_cases hcount : count < limits.fields
    · by_cases hsize : part.2.2.length ≤ limits.fieldSize
      · simp only [if_pos hcount, addTo_withinPart hb limits (count + 1) parts hpart.1, if_pos hsize]
        cases stored form part with
        | error fault => rfl
        | ok form => exact ih (count + 1) hparts (.inr rfl) form (by omega)
      · simp only [if_pos hcount, addTo_withinPart hb limits (count + 1) parts hpart.1, if_neg hsize]
    · simp only [if_neg hcount]

end Collecting

private theorem collect_encode {boundary : String} (hb : ∀ c ∈ boundary.toList, MediaType.isTokenChar c = true)
    (limits : PartLimits) {find : String → List UInt8 → Option String} {parts : List WrittenPart}
    (hp : ∀ part ∈ parts, Separable boundary part ∧ Finds find part) {pieces : List (List UInt8)}
    (h : pieces.flatten = encode boundary parts) :
    { ofChunks boundary limits (pieces.map .data) with find := find }.collect =
      if (encode boundary parts).length ≤ limits.bodySize then storedEach limits 0 .empty parts
      else .error (.part (.streamTooLarge limits.bodySize)) := by
  have hsource := gather_pieces (show ([] : List UInt8).length ≤ limits.bodySize from Nat.zero_le _) pieces
  rw [List.nil_append, h] at hsource
  split
  · next hfits =>
    rw [if_pos hfits] at hsource
    have hreader : { ofChunks boundary limits (pieces.map .data) with find := find } =
        awaiting boundary limits find .unopened 0 parts := by
      rw [ofChunks, hsource, awaiting]
    rw [hreader, collect]
    exact collectOnto_awaiting hb limits 0 parts hp (.inl rfl) .empty (Nat.lt_succ_of_le (length_le_encode boundary parts))
  · next hlarge =>
    rw [if_neg hlarge] at hsource
    have hreader : { ofChunks boundary limits (pieces.map .data) with find := find } =
        ⟨Utf8.encode boundary, limits, find, .error (.streamTooLarge limits.bodySize), .unopened, 0⟩ := by
      rw [ofChunks, hsource]
    rw [hreader]
    rfl

section Stored

variable {limits : PartLimits} {form final : FormData} {part : WrittenPart}

private theorem exists_stored (form : FormData) (part : WrittenPart) :
    (∃ after, stored form part = .ok after) ↔ (part.2.1 = none → ∃ text, Utf8.encode text = part.2.2) := by
  unfold stored
  cases part.2.1 with
  | some file => simp
  | none =>
    simp only [← Utf8.decode?_eq_some_iff, true_implies]
    cases Utf8.decode? part.2.2 <;> simp

private theorem storedEach_cons {count : Nat} {parts : List WrittenPart} :
    storedEach limits count form (part :: parts) = .ok final ↔
      count < limits.fields ∧ part.2.2.length ≤ limits.fieldSize ∧
        ∃ after, stored form part = .ok after ∧ storedEach limits (count + 1) after parts = .ok final := by
  rw [storedEach]
  split
  · next hroom =>
    split
    · next hsize =>
      cases stored form part <;> simp [hroom, hsize]
    · next hsize => simp [hsize]
  · next hroom => simp [hroom]

private theorem exists_storedEach (limits : PartLimits) {count : Nat} (hcount : count ≤ limits.fields) (form : FormData)
    (parts : List WrittenPart) :
    (∃ final, storedEach limits count form parts = .ok final) ↔
      count + parts.length ≤ limits.fields ∧ (∀ part ∈ parts, part.2.2.length ≤ limits.fieldSize) ∧
        ∀ part ∈ parts, part.2.1 = none → ∃ text, Utf8.encode text = part.2.2 := by
  induction parts generalizing count form with
  | nil => simp [storedEach, hcount]
  | cons part parts ih =>
    simp only [storedEach_cons, List.length_cons, List.forall_mem_cons, ← exists_stored form part]
    constructor
    · rintro ⟨final, hroom, hsize, after, hstored, hrest⟩
      obtain ⟨hcount, hsizes, htexts⟩ := (ih hroom after).1 ⟨final, hrest⟩
      exact ⟨by omega, ⟨hsize, hsizes⟩, ⟨after, hstored⟩, htexts⟩
    · rintro ⟨hcount, ⟨hsize, hsizes⟩, ⟨after, hstored⟩, htexts⟩
      have hroom : count < limits.fields := by omega
      obtain ⟨final, hrest⟩ := (ih hroom after).2 ⟨by omega, hsizes, htexts⟩
      exact ⟨final, hroom, hsize, after, hstored, hrest⟩

private theorem stored_eq_ok {after : FormData} (h : stored form part = .ok after) :
    part.2.1.isSome = true ∧ after = form.insertFile (fileOf part) ∨
      part.2.1 = none ∧ ∃ text, Utf8.encode text = part.2.2 ∧ after = form.append part.1 text := by
  unfold stored at h
  cases hf : part.2.1 with
  | some file =>
    rw [hf] at h
    exact .inl ⟨rfl, (Except.ok.inj h).symm⟩
  | none =>
    rw [hf] at h
    cases ht : Utf8.decode? part.2.2 with
    | none => simp [ht] at h
    | some text =>
      simp only [ht] at h
      exact .inr ⟨rfl, text, (Utf8.decode?_eq_some_iff _ _).1 ht, (Except.ok.inj h).symm⟩

/-- A part as it was sent, with what a reader finds of its headers. -/
def sentOf (part : WrittenPart) : SentPart := ⟨readPart part, part.2.2⟩

private theorem upload_sentOf (h : part.2.1.isSome = true) : (sentOf part).upload part.1 = fileOf part := by
  obtain ⟨file, hfile⟩ := Option.isSome_iff_exists.1 h
  have htype : MediaType.text ⟨"application", "octet-stream", none, [], ""⟩ = "application/octet-stream" := by decide
  simp only [sentOf, SentPart.upload, readPart, fileOf, hfile, Option.map_some, htype]

private theorem storedEach_gains {count : Nat} {parts : List WrittenPart}
    (h : storedEach limits count form parts = .ok final) : form.GainsEach (parts.map sentOf) final := by
  induction parts generalizing count form with
  | nil =>
    obtain rfl : form = final := Except.ok.inj h
    exact .nil form
  | cons part parts ih =>
    obtain ⟨-, -, after, hstored, hrest⟩ := storedEach_cons.1 h
    refine .cons ?_ (ih hrest)
    rcases stored_eq_ok hstored with ⟨hfile, rfl⟩ | ⟨hfile, text, htext, rfl⟩
    · rw [← upload_sentOf hfile]
      exact .file rfl hfile
    · exact .text rfl hfile htext

private theorem storedEach_texts {count : Nat} {parts : List WrittenPart}
    (h : storedEach limits count form parts = .ok final)
    (name : String) :
    ∃ texts : List String,
      texts.map Utf8.encode = (parts.filter fun part => part.1 == name && part.2.1.isNone).map (·.2.2) ∧
        final.values.all? name = if texts = [] then form.values.all? name
          else some ((form.values.all? name).getD [] ++ texts) := by
  obtain ⟨texts, htexts, hfinal⟩ := (storedEach_gains h).texts name
  refine ⟨texts, ?_, hfinal⟩
  rw [htexts, List.filter_map, List.map_map]
  rfl

private theorem storedEach_files {count : Nat} {parts : List WrittenPart}
    (h : storedEach limits count form parts = .ok final)
    (name : String) :
    Entries.get? name final.files = (Entries.get? name form.files).or
      ((parts.find? fun part => part.1 == name && part.2.1.isSome).map fun part => .ready (fileOf part)) := by
  have hsame : (·.isFileOf name) ∘ sentOf = fun part => part.1 == name && part.2.1.isSome := rfl
  rw [(storedEach_gains h).files name, List.find?_map, hsame]
  cases hfind : parts.find? fun part => part.1 == name && part.2.1.isSome with
  | none => rfl
  | some part =>
    have hfound := List.find?_some hfind
    rw [Bool.and_eq_true, beq_iff_eq] at hfound
    obtain ⟨rfl, hfile⟩ := hfound
    rw [Option.map_some, Option.map_some, Option.map_some, upload_sentOf hfile]

end Stored

section Requests

/-- A text of letters, digits and a few marks. -/
def Plain (text : String) : Prop := ∀ c ∈ text.toList, c.isAlphanum = true ∨ c ∈ ['-', '_', '.']

instance (text : String) : Decidable (Plain text) :=
  decidable_of_iff (text.toList.all fun c => c.isAlphanum || c ∈ ['-', '_', '.']) (by simp [Plain])

private theorem isTokenChar_of_isAlphanum {c : Char} (h : c.isAlphanum = true) : MediaType.isTokenChar c = true := by
  have hall : ∀ n < 128, (Char.ofNat n).isAlphanum = true → MediaType.isTokenChar (Char.ofNat n) = true := by
    decide +kernel
  have hascii : c.toNat < 128 := by
    have hranges :
        ((decide (c.val ≥ 65 ∧ c.val ≤ 90) || c.val ≥ 97 && c.val ≤ 122) || c.val ≥ 48 && c.val ≤ 57) = true := h
    simp only [Bool.or_eq_true, Bool.and_eq_true, decide_eq_true_iff, ge_iff_le, UInt32.le_iff_toNat_le,
      Char.toNat_val, UInt32.reduceToNat] at hranges
    omega
  have hc := hall c.toNat hascii
  rw [Char.ofNat_toNat] at hc
  exact hc h

theorem Plain.isTokenChar {text : String} (h : Plain text) : ∀ c ∈ text.toList, MediaType.isTokenChar c = true := by
  intro c hc
  rcases h c hc with hc | hc
  · exact isTokenChar_of_isAlphanum hc
  · have hmarks : ∀ c ∈ ['-', '_', '.'], MediaType.isTokenChar c = true := List.all_eq_true.1 (by decide)
    exact hmarks c hc

/-- A request whose body is a form that was written, in one piece or in several. -/
structure Carries (r : Request) (boundary : String) (parts : List WrittenPart) : Prop where
  contentType : r.headers.first? "content-type" = some (Utf8.encode ("multipart/form-data; boundary=" ++ boundary))
  body : ∃ pieces : List (List UInt8), r.body = .ready (pieces.map .data) ∧ pieces.flatten = encode boundary parts

/-- Forms that can be written so that the reader can tell their parts: boundary and names are plain, and in no data
stands a delimiter. -/
structure Readable (boundary : String) (parts : List WrittenPart) : Prop where
  plain : ∀ c ∈ boundary.toList, c.isAlphanum = true
  names : ∀ part ∈ parts, Plain part.1 ∧ ∀ file ∈ part.2.1, Plain file
  data : ∀ part ∈ parts, ¬ lineEnd ++ (dashes ++ Utf8.encode boundary) <:+: part.2.2

variable {r : Request} {boundary : String} {parts : List WrittenPart} {find : String → List UInt8 → Option String}

private theorem Readable.separable (h : Readable boundary parts) : ∀ part ∈ parts, Separable boundary part := by
  intro part hpart
  obtain ⟨hname, hfile⟩ := h.names part hpart
  exact ⟨hname.isTokenChar, fun text ht => (hfile text ht).isTokenChar, h.data part hpart⟩

private theorem collect_carried (h : Readable boundary parts) (hr : Carries r boundary parts) (limits : PartLimits)
    (hfinds : ∀ part ∈ parts, Finds find part) :
    ((r.multipart limits).1.bind fun reader => { reader with find := find }.collect) =
      if (encode boundary parts).length ≤ limits.bodySize then storedEach limits 0 .empty parts
      else .error (.part (.streamTooLarge limits.bodySize)) := by
  have hb : ∀ c ∈ boundary.toList, MediaType.isTokenChar c = true := fun c hc => isTokenChar_of_isAlphanum (h.plain c hc)
  have hparts : ∀ part ∈ parts, Separable boundary part ∧ Finds find part :=
    fun part hpart => ⟨h.separable part hpart, hfinds part hpart⟩
  obtain ⟨pieces, hready, hpieces⟩ := hr.body
  have hreader : (r.multipart limits).1 = .ok (ofChunks boundary limits (pieces.map .data)) := by
    rw [Request.multipart, r.boundary_of_form hb hr.contentType, Request.takeBody, hready]
    rfl
  rw [hreader, ← collect_encode hb limits hparts hpieces]
  rfl

/-- A request is read by the search that starts anew behind what it passes over. -/
theorem multipart_find (r : Request) (limits : PartLimits) :
    ((r.multipart limits).1.bind fun reader => { reader with find := PartHeaders.attribute? }.collect) =
      (r.multipart limits).1.bind collect := by
  cases hreader : (r.multipart limits).1 with
  | error fault => rfl
  | ok reader =>
    obtain ⟨boundary, chunks, rfl⟩ := Request.multipart_eq_ok hreader
    rfl

/-- Reading a form undoes writing it, for every reader that finds in the headers of the parts what the format has
there. It succeeds exactly if the number of parts, the size of each and that of the whole are within the limits, and
all parts without a file name are texts. Then the texts of each name are the data of its parts in their order, and the
file of a name is that of its first part with one: its bytes, its file name, and a content type of plain octets. -/
theorem collect_undoes_encode {boundary : String} {parts : List WrittenPart} (h : Readable boundary parts) {r : Request}
    (hr : Carries r boundary parts) (limits : PartLimits) {find : String → List UInt8 → Option String}
    (hfinds : ∀ part ∈ parts, Finds find part) :
    let answer := (r.multipart limits).1.bind fun reader => { reader with find := find }.collect
    ((∃ form, answer = .ok form) ↔
      parts.length ≤ limits.fields ∧ (∀ part ∈ parts, part.2.2.length ≤ limits.fieldSize) ∧
        (encode boundary parts).length ≤ limits.bodySize ∧
        ∀ part ∈ parts, part.2.1 = none → ∃ text, Utf8.encode text = part.2.2) ∧
    ∀ form, answer = .ok form → ∀ name,
      (∃ texts : List String,
        texts.map Utf8.encode = (parts.filter fun part => part.1 == name && part.2.1.isNone).map (·.2.2) ∧
          form.values.all? name = if texts = [] then none else some texts) ∧
      match parts.find? fun part => part.1 == name && part.2.1.isSome with
      | none => Entries.get? name form.files = none
      | some part => ∃ file, Entries.get? name form.files = some (.ready file) ∧ file.field = name ∧
          file.content = some part.2.2 ∧ file.size = part.2.2.length ∧ file.fileName = part.2.1 ∧
          file.contentType = some "application/octet-stream" := by
  intro answer
  have hanswer : answer = _ := collect_carried h hr limits hfinds
  by_cases hsize : (encode boundary parts).length ≤ limits.bodySize
  · rw [if_pos hsize] at hanswer
    refine ⟨?_, fun form hform name => ⟨?_, ?_⟩⟩
    · rw [hanswer, exists_storedEach limits (Nat.zero_le _) .empty parts, Nat.zero_add]
      simp only [hsize, true_and]
    · exact storedEach_texts (hanswer ▸ hform) name
    · have hfiles := storedEach_files (hanswer ▸ hform) name
      cases hfind : parts.find? fun part => part.1 == name && part.2.1.isSome with
      | none =>
        rw [hfind] at hfiles
        exact hfiles
      | some part =>
        rw [hfind] at hfiles
        have hnamed := List.find?_some hfind
        rw [Bool.and_eq_true, beq_iff_eq] at hnamed
        exact ⟨fileOf part, hfiles, hnamed.1, rfl, rfl, rfl, rfl⟩
  · rw [if_neg hsize] at hanswer
    refine ⟨?_, fun form hform => ?_⟩
    · rw [hanswer]
      simp [hsize]
    · rw [hanswer] at hform
      cases hform

/-- A text in two pieces, and a file with the start of a delimiter in it, read by the search that parts are read
with. -/
theorem collect_undoes_encode_of_text_and_file :
    let parts : List WrittenPart := [("note", none, Utf8.encode "hi"), ("photo", some "a.png", [0xFF, 0x0D, 0x0A, 0x2D])]
    let r : Request := ⟨"POST", .root, ⟨[("content-type", [Utf8.encode "multipart/form-data; boundary=b"])]⟩,
      .ready [.data ((encode "b" parts).take 9), .data ((encode "b" parts).drop 9)]⟩
    Readable "b" parts ∧ Carries r "b" parts ∧ (∀ part ∈ parts, Finds PartHeaders.attribute? part) ∧
      ∃ form file, (r.multipart .standard).1.bind collect = .ok form ∧ form.values.all? "note" = some ["hi"] ∧
        Entries.get? "photo" form.files = some (.ready file) ∧ file.content = some [0xFF, 0x0D, 0x0A, 0x2D] ∧
        file.fileName = some "a.png" := by
  intro parts r
  have h : Readable "b" parts := ⟨List.all_eq_true.1 (by decide), by decide, by decide⟩
  have hr : Carries r "b" parts := ⟨rfl, [(encode "b" parts).take 9, (encode "b" parts).drop 9], rfl, by simp⟩
  have hfinds : ∀ part ∈ parts, Finds PartHeaders.attribute? part := by
    intro part hpart
    refine (finds_attribute?_iff (h.separable part hpart)).2 fun hhidden => ?_
    revert part
    decide
  have hphoto : parts.find? (fun part => part.1 == "photo" && part.2.1.isSome) =
      some ("photo", some "a.png", [0xFF, 0x0D, 0x0A, 0x2D]) := by decide
  have hnotes : (parts.filter fun part => part.1 == "note" && part.2.1.isNone).map (·.2.2) = ["hi"].map Utf8.encode := by
    decide
  obtain ⟨hreads, hforms⟩ := collect_undoes_encode h hr .standard hfinds
  have htexts : ∀ part ∈ parts, part.2.1 = none → ∃ text, Utf8.encode text = part.2.2 := by
    intro part hpart hnone
    rcases List.mem_cons.1 hpart with rfl | hpart
    · exact ⟨"hi", rfl⟩
    · obtain rfl := List.mem_singleton.1 hpart
      exact absurd hnone (by decide)
  obtain ⟨form, hform⟩ := hreads.2 ⟨by decide, by decide, by decide +kernel, htexts⟩
  obtain ⟨⟨texts, hsame, hnote⟩, -⟩ := hforms form hform "note"
  rw [hnotes] at hsame
  obtain rfl := Utf8.encode_injective.list_map hsame
  obtain ⟨-, hfile⟩ := hforms form hform "photo"
  rw [hphoto] at hfile
  obtain ⟨file, hfile, -, hcontent, -, hname, -⟩ := hfile
  exact ⟨h, hr, hfinds, form, file, multipart_find r .standard ▸ hform, hnote, hfile, hcontent, hname⟩

end Requests

end Multipart
end RequestBinding
