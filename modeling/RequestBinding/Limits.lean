import RequestBinding.Json.ShapeValue

/-! Limits on the size of requests. -/

namespace RequestBinding

/-- Limits on a form in parts: on all bytes, on those of one part, and on the number of parts. -/
structure PartLimits where
  bodySize : Nat
  fieldSize : Nat
  fields : Nat
deriving DecidableEq, Repr

/-- Limits on a request: on the bytes of a body that is not in parts, and on one that is. -/
structure Limits where
  bodySize : Nat
  parts : PartLimits
deriving DecidableEq, Repr

structure LimitFault where
  field : String
  reason : String
deriving DecidableEq, Repr

def LimitFault.message (f : LimitFault) : String := "invalid value for '" ++ f.field ++ "': " ++ f.reason

def mebibytes (n : Nat) : Nat := n * 1024 * 1024

namespace PartLimits

def standard : PartLimits := ⟨mebibytes 50, mebibytes 10, 100⟩

def document {σ : Type} : Json.Record σ PartLimits :=
  .mk "MultipartConfig" true
    (.withDefault "max_body_size" .size standard.bodySize
      (.withDefault "max_field_size" .size standard.fieldSize
        (.withDefault "max_fields" .size standard.fields .nil)))
    fun (bodySize, fieldSize, fields, ()) => ⟨bodySize, fieldSize, fields⟩

def ofText (text : String) : Except String PartLimits := Json.Shape.readText (.record document) (Utf8.encode text)

def toJson (p : PartLimits) : Json :=
  .object [("max_body_size", .ofInt p.bodySize), ("max_field_size", .ofInt p.fieldSize),
    ("max_fields", .ofInt p.fields)]

end PartLimits

namespace Limits

def standard : Limits := ⟨mebibytes 10, .standard⟩

/-- Wide limits, for use while a service is being developed. -/
def development : Limits := ⟨mebibytes 40, ⟨mebibytes 200, mebibytes 40, 400⟩⟩

/-- Narrow limits, for use in service. -/
def production : Limits := ⟨mebibytes 1, ⟨mebibytes 20, mebibytes 5, 32⟩⟩

def document {σ : Type} : Json.Record σ Limits :=
  .mk "BinderConfig" true
    (.withDefault "max_body_size" .size standard.bodySize
      (.withDefault "multipart" (.record PartLimits.document) standard.parts .nil))
    fun (bodySize, parts, ()) => ⟨bodySize, parts⟩

def ofText (text : String) : Except String Limits := Json.Shape.readText (.record document) (Utf8.encode text)

def toJson (l : Limits) : Json :=
  .object [("max_body_size", .ofInt l.bodySize), ("multipart", l.parts.toJson)]

/-- The first limit that cannot be: no limit but that of a field may be zero, and a field is no larger than its
body. -/
def fault? (l : Limits) : Option LimitFault :=
  if l.bodySize = 0 then some ⟨"max_body_size", "must be greater than 0"⟩
  else if l.parts.bodySize = 0 then some ⟨"multipart.max_body_size", "must be greater than 0"⟩
  else if l.parts.fields = 0 then some ⟨"multipart.max_fields", "must be greater than 0"⟩
  else if l.parts.bodySize < l.parts.fieldSize then
    some ⟨"multipart.max_field_size",
      "must not exceed multipart.max_body_size (" ++ toString l.parts.bodySize ++ ")"⟩
  else none

end Limits
end RequestBinding
