import RequestBinding.Json.Value

/-! Uploaded files. What is known of a file stays, its content can be taken once. -/

namespace RequestBinding

/-- A file part of a form. -/
structure Upload where
  field : String
  fileName : Option String
  contentType : Option String
  size : Nat
  content : Option (List UInt8)
  length_content : ∀ bytes, content = some bytes → bytes.length = size

def Upload.ofBytes (field : String) (fileName contentType : Option String) (content : List UInt8) : Upload :=
  ⟨field, fileName, contentType, content.length, some content, by simp⟩

namespace Upload

def isConsumed (u : Upload) : Bool := u.content.isNone

/-- The content, if it is still there, and the file without it. -/
def take (u : Upload) : Option (List UInt8) × Upload := (u.content, { u with content := none, length_content := by simp })

def consumedMessage (u : Upload) : String :=
  "content of file part '" ++ u.field ++ "' was already consumed"

def optionalText : Option String → Json
  | some s => .string s
  | none => .null

def toJson (u : Upload) : Json :=
  .object [("content_type", optionalText u.contentType), ("field_name", .string u.field),
    ("file_name", optionalText u.fileName), ("size", .ofInt u.size)]

end Upload
end RequestBinding
