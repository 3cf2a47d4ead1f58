import RequestBinding.Form.UrlEncoded
import RequestBinding.Json.Outline
import RequestBinding.Problem.Kind
import RequestBinding.Request.Basic
import RequestBinding.Request.MediaType

/-! Form and body of a request, read once for all parameters of a binding. A consumer reads the bytes of a body as a
value. -/

namespace RequestBinding

/-- A consumer says which media types it reads, and reads bytes or says what is wrong with them. -/
structure Consumer where
  supports : MediaType → Bool
  consume : List UInt8 → Except String Json

def Consumer.json : Consumer :=
  ⟨MediaType.isJson, fun bytes => (Json.read bytes).mapError fun message => "invalid JSON: " ++ message⟩

/-- Why the form or the body of a request cannot be used. -/
inductive SourceFault
  | missingContentType
  | invalidContentType (value : List UInt8)
  | noForm (mediaType : MediaType)
  | noConsumer (mediaType : MediaType)
  | formConsumed
  | bodyConsumed
  | body (fault : BodyFault)
  | urlEncoded (fault : UrlEncoded.Fault)
  | multipart (fault : MultipartFault)
  | consumer (message : String)

namespace SourceFault

def message : SourceFault → String
  | missingContentType => "missing Content-Type"
  | invalidContentType value => "invalid Content-Type '" ++ Utf8.decodeLossy value ++ "'"
  | noForm m => "Content-Type '" ++ m.text ++ "' does not carry form data"
  | noConsumer m => "no consumer for Content-Type '" ++ m.text ++ "'"
  | formConsumed => "form body was already consumed"
  | bodyConsumed => "request body was already consumed"
  | body fault => fault.message
  | urlEncoded fault => fault.message
  | multipart fault => fault.message
  | consumer message => message

/-- The kind of problem: with the media type, or with decoding. -/
def kind : SourceFault → Kind
  | missingContentType | invalidContentType _ | noForm _ | noConsumer _ | formConsumed => .unsupportedMediaType
  | multipart fault => if fault.isMediaType then .unsupportedMediaType else .decodeFailure
  | bodyConsumed | body _ | urlEncoded _ | consumer _ => .decodeFailure

end SourceFault

/-- A form as it was loaded: its data, and whether it came in parts. -/
structure LoadedForm where
  data : FormData
  inParts : Bool

namespace Request

/-- The media type of the first content type. -/
def mediaType (r : Request) : Except SourceFault MediaType :=
  match r.headers.first? "content-type" with
  | none => .error .missingContentType
  | some value =>
    match (Header.text? value).bind MediaType.ofText? with
    | some m => .ok m
    | none => .error (.invalidContentType value)

/-- The form in one text that the body is, empty without a body. -/
def urlEncodedForm (limits : Limits) (r : Request) : Except SourceFault NamedValues × Request :=
  if r.body.isTaken then (.error .formConsumed, r)
  else match r.takeBody with
    | (none, after) => (.ok .empty, after)
    | (some chunks, after) =>
      (match Chunk.readWithin limits.bodySize chunks with
        | .error fault => .error (.body fault)
        | .ok bytes => (UrlEncoded.parseForm bytes).mapError .urlEncoded, after)

/-- The form in parts that the body is, empty without a body. -/
def partsForm (limits : Limits) (r : Request) : Except SourceFault FormData × Request :=
  match r.multipart limits.parts with
  | (.ok reader, after) => (reader.collect.mapError .multipart, after)
  | (.error .emptyBody, after) => (.ok .empty, after)
  | (.error fault, after) => (.error (.multipart fault), after)

def loadForm (limits : Limits) (r : Request) : Except SourceFault LoadedForm × Request :=
  match r.mediaType with
  | .error fault => (.error fault, r)
  | .ok m =>
    if m.isUrlEncoded then
      let (values, after) := r.urlEncodedForm limits
      (values.map fun v => ⟨.ofValues v, false⟩, after)
    else if m.isMultipart then
      let (data, after) := r.partsForm limits
      (data.map fun d => ⟨d, true⟩, after)
    else (.error (.noForm m), r)

/-- The value that a consumer reads in bytes; no bytes have none, and null is none. -/
def valueOf (consumer : Consumer) (bytes : List UInt8) : Except SourceFault (Option Json) :=
  if bytes = [] then .ok none
  else match consumer.consume bytes with
    | .ok .null => .ok none
    | .ok value => .ok (some value)
    | .error message => .error (.consumer message)

def readBody (limits : Limits) (consumer : Consumer) (r : Request) : Except SourceFault (Option Json) × Request :=
  if r.body.isTaken then (.error .bodyConsumed, r)
  else if !r.body.isReady then (.ok none, r)
  else match r.mediaType with
    | .error fault => (.error fault, r)
    | .ok m =>
      if !consumer.supports m then (.error (.noConsumer m), r)
      else match r.takeBody with
        | (none, after) => (.ok none, after)
        | (some chunks, after) =>
          (match Chunk.readWithin limits.bodySize chunks with
            | .error fault => .error (.body fault)
            | .ok bytes => valueOf consumer bytes, after)

end Request

/-- A request in the course of a binding: the form is loaded by the first parameter that needs it. -/
structure Intake where
  request : Request
  form : Option (Except SourceFault LoadedForm)

namespace Intake

def ofRequest (r : Request) : Intake := ⟨r, none⟩

/-- The form, loaded now if it was not before. -/
def getForm (limits : Limits) (i : Intake) : Except SourceFault LoadedForm × Intake :=
  match i.form with
  | some loaded => (loaded, i)
  | none =>
    let (loaded, after) := i.request.loadForm limits
    (loaded, ⟨after, some loaded⟩)

def getBody (limits : Limits) (consumer : Consumer) (i : Intake) : Except SourceFault (Option Json) × Intake :=
  let (value, after) := i.request.readBody limits consumer
  (value, { i with request := after })

end Intake

end RequestBinding
