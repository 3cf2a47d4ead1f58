/-! Kinds of problems that binding a request meets. -/

namespace RequestBinding

inductive Kind
  | missingRequired
  | malformedValue
  | malformedCollection
  | unsupportedMediaType
  | decodeFailure
  | configuration
deriving DecidableEq, Repr

namespace Kind

/-- The kind as it is shown. -/
def label : Kind → String
  | missingRequired => "missing-required"
  | malformedValue => "malformed-value"
  | malformedCollection => "malformed-collection"
  | unsupportedMediaType => "unsupported-media-type"
  | decodeFailure => "decode-failure"
  | configuration => "configuration-error"

/-- The kind as it stands in a document. -/
def name : Kind → String
  | missingRequired => "missing_required"
  | malformedValue => "malformed_value"
  | malformedCollection => "malformed_collection"
  | unsupportedMediaType => "unsupported_media_type"
  | decodeFailure => "decode_failure"
  | configuration => "configuration"

def variants : List (String × Kind) :=
  [missingRequired, malformedValue, malformedCollection, unsupportedMediaType, decodeFailure, configuration].map
    fun k => (k.name, k)

/-- The HTTP status of a response to the problem. -/
def status : Kind → Nat
  | missingRequired | malformedValue | malformedCollection | decodeFailure => 400
  | unsupportedMediaType => 415
  | configuration => 500

def code : Kind → String
  | missingRequired => "MISSING_PARAMETER"
  | malformedValue => "INVALID_PARAMETER"
  | malformedCollection => "INVALID_COLLECTION"
  | unsupportedMediaType => "UNSUPPORTED_MEDIA_TYPE"
  | decodeFailure => "DECODE_FAILED"
  | configuration => "BINDER_MISCONFIGURED"

end Kind
end RequestBinding
