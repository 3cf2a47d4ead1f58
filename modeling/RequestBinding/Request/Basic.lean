import RequestBinding.Form.Multipart
import RequestBinding.Request.Address

/-! Requests: the parts of an HTTP request that parameters are taken from. -/

namespace RequestBinding

/-- A request whose body can be taken once. -/
structure Request where
  method : String
  address : Address
  headers : Headers
  body : Body
deriving DecidableEq, Repr

namespace Request

/-- The method of a request that names none. -/
def standardMethod : String := "GET"

def withBody (r : Request) (body : Body) : Request := { r with body := body }

/-- Hands out the body, once. -/
def takeBody (r : Request) : Option (List Chunk) × Request :=
  let (chunks, body) := r.body.take
  (chunks, { r with body := body })

def contentType? (r : Request) : Option String := (r.headers.first? "content-type").bind Header.text?

def boundary (r : Request) : Except MultipartFault String :=
  match r.contentType? with
  | none => .error .missingContentType
  | some text =>
    match MediaType.ofText? text with
    | none => .error .notMultipart
    | some m =>
      match m.isMultipart, m.parameter? "boundary" with
      | true, some boundary => .ok boundary
      | _, _ => .error .notMultipart

/-- A reader of the body as a form in parts, which takes the body. -/
def multipart (limits : PartLimits) (r : Request) : Except MultipartFault Multipart × Request :=
  match r.boundary with
  | .error fault => (.error fault, r)
  | .ok boundary =>
    if r.body.isTaken then (.error .bodyConsumed, r)
    else match r.takeBody with
      | (none, after) => (.error .emptyBody, after)
      | (some chunks, after) => (.ok (.ofChunks boundary limits chunks), after)

end Request
end RequestBinding
