import RequestBinding.Form.Data
import RequestBinding.Form.PartHeaders
import RequestBinding.Limits
import RequestBinding.Request.Body
import RequestBinding.Text.Quoted

/-! Forms in parts: how parts are written, and a reader that hands them out one by one within limits. -/

namespace RequestBinding

/-- Why the parts of a form cannot be read. A part without a name is called unknown. -/
inductive PartFault
  | oversized (name : String) (limit : Nat)
  | incomplete
  | headers
  | endsInPart (name : Option String)
  | partTooLarge (name : Option String) (limit : Nat)
  | streamTooLarge (limit : Nat)
  | unreadable
deriving DecidableEq, Repr

namespace PartFault

/-- All faults but one are told as those of a parser. -/
def lead : PartFault → String
  | oversized .. => ""
  | _ => "multipart parse error: "

def message : PartFault → String
  | oversized name limit => "multipart field '" ++ name ++ "' exceeds " ++ toString limit ++ " bytes"
  | incomplete => "incomplete multipart stream"
  | headers => "failed to read headers"
  | endsInPart name => "field " ++ Text.quoted (name.getD "<unknown>") ++ " received with incomplete data"
  | partTooLarge name limit =>
    "field " ++ Text.quoted (name.getD "<unknown>") ++ " exceeded the size limit: " ++ toString limit ++ " bytes"
  | streamTooLarge limit => "stream size exceeded limit: " ++ toString limit ++ " bytes"
  | unreadable => "failed to read stream"

end PartFault

inductive MultipartFault
  | missingContentType
  | notMultipart
  | bodyConsumed
  | emptyBody
  | tooManyFields (most : Nat)
  | invalidText (field : String)
  | part (fault : PartFault)
deriving DecidableEq, Repr

namespace MultipartFault

def message : MultipartFault → String
  | missingContentType => "missing Content-Type, expected multipart/form-data"
  | notMultipart => "request Content-Type is not multipart/form-data with a boundary"
  | bodyConsumed => "multipart body was already consumed"
  | emptyBody => "multipart request has no body"
  | tooManyFields most => "too many multipart fields (max " ++ toString most ++ ")"
  | invalidText field => "multipart field '" ++ field ++ "' is not valid UTF-8"
  | part fault => fault.lead ++ fault.message

/-- The content type is at fault, or a body that is gone. -/
def isMediaType : MultipartFault → Bool
  | missingContentType | notMultipart | bodyConsumed => true
  | _ => false

end MultipartFault

structure Part where
  name : Option String
  fileName : Option String
  contentType : Option MediaType
deriving DecidableEq, Repr

inductive PartStage
  | unopened
  | data (name : Option String) (counted : Nat)
  | boundary
  | ended
deriving DecidableEq, Repr

/-- A reader of a form in parts: how it finds an attribute in the disposition of a part, and the bytes that are left,
or why there are none. -/
structure Multipart where
  boundary : List UInt8
  limits : PartLimits
  find : String → List UInt8 → Option String
  source : Except PartFault (List UInt8)
  stage : PartStage
  count : Nat

namespace Multipart

def lineEnd : List UInt8 := [0x0D, 0x0A]

/-- The bytes that lead a boundary. -/
def dashes : List UInt8 := [0x2D, 0x2D]

/-- One part of a form as it is written: what leads it, its headers, its data and the end of its line. -/
def encodePart (boundary name : String) (fileName : Option String) (data : List UInt8) : List UInt8 :=
  let disposition := "Content-Disposition: form-data; name=\"" ++ name ++ "\""
  let head := match fileName with
    | some file =>
      disposition ++ "; filename=\"" ++ file ++ "\"\r\nContent-Type: application/octet-stream\r\n\r\n"
    | none => disposition ++ "\r\n\r\n"
  Utf8.encode ("--" ++ boundary ++ "\r\n" ++ head) ++ data ++ lineEnd

def encode (boundary : String) (parts : List (String × Option String × List UInt8)) : List UInt8 :=
  parts.flatMap (fun (name, fileName, data) => encodePart boundary name fileName data)
    ++ Utf8.encode ("--" ++ boundary ++ "--\r\n")

/-- The bytes of all chunks behind those read before, as long as they stay within a limit. -/
def gather (limit : Nat) (read : List UInt8) : List Chunk → Except PartFault (List UInt8)
  | [] => .ok read
  | .failure _ :: _ => .error .unreadable
  | .data bytes :: rest =>
    if read.length + bytes.length ≤ limit then gather limit (read ++ bytes) rest else .error (.streamTooLarge limit)

def ofChunks (boundary : String) (limits : PartLimits) (chunks : List Chunk) : Multipart :=
  ⟨Utf8.encode boundary, limits, PartHeaders.attribute?, gather limits.bodySize [] chunks, .unopened, 0⟩

/-- How many bytes stand before the first occurrence of a pattern, counted on from a number. -/
def indexFrom (pattern : List UInt8) (index : Nat) : List UInt8 → Option Nat
  | [] => if pattern = [] then some index else none
  | b :: rest => if pattern.isPrefixOf (b :: rest) then some index else indexFrom pattern (index + 1) rest

def index? (pattern text : List UInt8) : Option Nat := indexFrom pattern 0 text

def delimiter (m : Multipart) : List UInt8 := dashes ++ m.boundary

/-- The data of the part at hand, up to the end of a line that a boundary follows. Data beyond the limit is
passed over all the same. -/
def takeData (m : Multipart) (name : Option String) (counted : Nat) (text : List UInt8) :
    Except PartFault (List UInt8) × Multipart :=
  match index? (lineEnd ++ m.delimiter) text with
  | none => (.error (.endsInPart name), m)
  | some length =>
    let rest := text.drop (length + 2)
    if counted + length ≤ m.limits.fieldSize then
      (.ok (text.take length), { m with source := .ok rest, stage := .boundary })
    else
      (.error (.partTooLarge name m.limits.fieldSize),
        { m with source := .ok rest, stage := .data name (counted + length) })

/-- What follows what leads a part: nothing if it ends the form, else the text of the part. -/
def afterDelimiter (text : List UInt8) : Except PartFault (Option (List UInt8)) :=
  match text with
  | 0x2D :: 0x2D :: _ => .ok none
  | _ :: _ :: _ =>
    match text.dropWhile PartHeaders.isBlank with
    | 0x0D :: 0x0A :: rest => .ok (some rest)
    | _ => .error .incomplete
  | _ => .error .incomplete

def partOf (m : Multipart) (headers : List (String × List UInt8)) : Part :=
  let disposition := (Entries.get? "content-disposition" headers).getD []
  let contentType := ((Entries.get? "content-type" headers).bind Header.text?).bind MediaType.ofText?
  ⟨m.find "name" disposition, m.find "filename" disposition, contentType⟩

/-- The headers at the head of a text, up to an empty line, and what follows that line. -/
def takeHeaders (m : Multipart) (text : List UInt8) : Except PartFault (Part × List UInt8) :=
  match index? (lineEnd ++ lineEnd) text with
  | none => .error .incomplete
  | some length =>
    match PartHeaders.read (text.take (length + 4)) with
    | none => .error .headers
    | some headers => .ok (m.partOf headers, text.drop (length + 4))

def openPart (m : Multipart) (text : List UInt8) : Except PartFault (Option (Part × Multipart)) :=
  if m.delimiter.isPrefixOf text then
    match afterDelimiter (text.drop m.delimiter.length) with
    | .error fault => .error fault
    | .ok none => .ok none
    | .ok (some text) =>
      match m.takeHeaders text with
      | .error fault => .error fault
      | .ok (part, rest) => .ok (some (part, { m with source := .ok rest, stage := .data part.name 0 }))
  else .error .incomplete

/-- The next part, nothing behind the last one. What is left of the data of the part before is passed over. -/
def nextPart (m : Multipart) : Except PartFault (Option (Part × Multipart)) :=
  match m.stage, m.source with
  | .ended, _ => .ok none
  | _, .error fault => .error fault
  | .unopened, .ok text =>
    match index? m.delimiter text with
    | none => .error .incomplete
    | some length => m.openPart (text.drop length)
  | .data name counted, .ok text =>
    match m.takeData name counted text with
    | (.error fault, _) => .error fault
    | (.ok _, ⟨_, _, _, .ok rest, _, _⟩) => m.openPart rest
    | (.ok _, ⟨_, _, _, .error fault, _, _⟩) => .error fault
  | .boundary, .ok text => m.openPart text

/-- The next part, if it is not one too many. -/
def next (m : Multipart) : Except MultipartFault (Option (Part × Multipart)) :=
  match m.nextPart with
  | .error fault => .error (.part fault)
  | .ok none => .ok none
  | .ok (some (part, after)) =>
    if m.count < m.limits.fields then .ok (some (part, { after with count := m.count + 1 }))
    else .error (.tooManyFields m.limits.fields)

/-- The data of the part at hand, its size checked once more. -/
def bytes (m : Multipart) : Except MultipartFault (List UInt8) × Multipart :=
  match m.stage, m.source with
  | .data name counted, .ok text =>
    match m.takeData name counted text with
    | (.error fault, after) => (.error (.part fault), after)
    | (.ok data, after) =>
      if data.length ≤ m.limits.fieldSize then (.ok data, after)
      else (.error (.part (.oversized (name.getD "") m.limits.fieldSize)), after)
  | _, _ => (.ok [], m)

def text (m : Multipart) (part : Part) : Except MultipartFault String × Multipart :=
  match m.bytes with
  | (.error fault, after) => (.error fault, after)
  | (.ok data, after) =>
    match Utf8.decode? data with
    | some text => (.ok text, after)
    | none => (.error (.invalidText (part.name.getD "")), after)

def file (m : Multipart) (part : Part) : Except MultipartFault Upload × Multipart :=
  let (data, after) := m.bytes
  (data.map (Upload.ofBytes (part.name.getD "") part.fileName (part.contentType.map MediaType.text)), after)

/-- Adds the part at hand to a form: as a file if it has the name of one. A part without a name is passed over. -/
def addTo (form : FormData) (part : Part) (m : Multipart) : Except MultipartFault (FormData × Multipart) :=
  match part.name with
  | none => .ok (form, m)
  | some name =>
    if part.fileName.isSome then
      match m.file part with
      | (.error fault, _) => .error fault
      | (.ok file, after) => .ok (form.insertFile file, after)
    else
      match m.text part with
      | (.error fault, _) => .error fault
      | (.ok text, after) => .ok (form.append name text, after)

/-- Adds all parts to a form. Each takes some of the fuel. -/
def collectOnto (form : FormData) : Nat → Multipart → Except MultipartFault FormData
  | 0, _ => .error (.part .incomplete)
  | fuel + 1, m =>
    match m.next with
    | .error fault => .error fault
    | .ok none => .ok form
    | .ok (some (part, m)) =>
      match addTo form part m with
      | .error fault => .error fault
      | .ok (form, m) => collectOnto form fuel m

def remaining (m : Multipart) : Nat :=
  match m.source with
  | .ok text => text.length
  | .error _ => 0

/-- The form that all parts make. Every part takes at least one byte. -/
def collect (m : Multipart) : Except MultipartFault FormData := collectOnto .empty (m.remaining + 1) m

end Multipart
end RequestBinding
