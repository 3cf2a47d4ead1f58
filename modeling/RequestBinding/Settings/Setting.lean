import RequestBinding.Settings.Basic
import RequestBinding.Text.UpperCase

/-! The single settings, by name: what they hold, where they stand, and how text is read as the value of one. -/

namespace RequestBinding

inductive Setting
  | bodySize
  | partsBodySize
  | partsFieldSize
  | partsFields
  | logEnabled
  | logLevel
  | logFormat
  | logSpanEvents
  | logPlaces
  | logTargets
deriving DecidableEq, Repr

namespace Setting

def all : List Setting :=
  [bodySize, partsBodySize, partsFieldSize, partsFields, logEnabled, logLevel, logFormat, logSpanEvents, logPlaces,
    logTargets]

/-- The names that lead to a setting in a document. -/
def path : Setting → List String
  | bodySize => ["binder", "max_body_size"]
  | partsBodySize => ["binder", "multipart", "max_body_size"]
  | partsFieldSize => ["binder", "multipart", "max_field_size"]
  | partsFields => ["binder", "multipart", "max_fields"]
  | logEnabled => ["logging", "enabled"]
  | logLevel => ["logging", "level"]
  | logFormat => ["logging", "format"]
  | logSpanEvents => ["logging", "span_events"]
  | logPlaces => ["logging", "file_line_info"]
  | logTargets => ["logging", "include_target"]

def Content : Setting → Type
  | bodySize | partsBodySize | partsFieldSize | partsFields => Nat
  | logEnabled | logSpanEvents | logPlaces | logTargets => Bool
  | logLevel => String
  | logFormat => LogFormat

/-- Reads a size, with white space around it or not. -/
def readSize (text : String) : Except String Nat :=
  (IntegerText.readSize (Text.trim text.toList)).mapError IntegerFault.message

/-- Reads a word for yes or no. -/
def readFlag (text : String) : Except String Bool :=
  if ["true", "1", "yes", "on"].contains text.toLower then .ok true
  else if ["false", "0", "no", "off"].contains text.toLower then .ok false
  else .error "expected a boolean"

/-- Reads the name of a format in any case. -/
def readFormat (text : String) : Except String LogFormat :=
  match Entries.get? text.toLower LogFormat.named with
  | some format => .ok format
  | none => .error "expected 'json' or 'pretty'"

def read (text : String) : (k : Setting) → Except String k.Content
  | bodySize | partsBodySize | partsFieldSize | partsFields => readSize text
  | logEnabled | logSpanEvents | logPlaces | logTargets => readFlag text
  | logLevel => .ok text
  | logFormat => readFormat text

end Setting

namespace Settings

def get (s : Settings) : (k : Setting) → k.Content
  | .bodySize => s.limits.bodySize
  | .partsBodySize => s.limits.parts.bodySize
  | .partsFieldSize => s.limits.parts.fieldSize
  | .partsFields => s.limits.parts.fields
  | .logEnabled => s.log.enabled
  | .logLevel => s.log.level
  | .logFormat => s.log.format
  | .logSpanEvents => s.log.spanEvents
  | .logPlaces => s.log.places
  | .logTargets => s.log.targets

def set (s : Settings) : (k : Setting) → k.Content → Settings
  | .bodySize, v => { s with limits.bodySize := v }
  | .partsBodySize, v => { s with limits.parts.bodySize := v }
  | .partsFieldSize, v => { s with limits.parts.fieldSize := v }
  | .partsFields, v => { s with limits.parts.fields := v }
  | .logEnabled, v => { s with log.enabled := v }
  | .logLevel, v => { s with log.level := v }
  | .logFormat, v => { s with log.format := v }
  | .logSpanEvents, v => { s with log.spanEvents := v }
  | .logPlaces, v => { s with log.places := v }
  | .logTargets, v => { s with log.targets := v }

@[simp] theorem get_set_self (s : Settings) (k : Setting) (v : k.Content) : (s.set k v).get k = v := by
  cases k <;> rfl

theorem get_set_of_ne (s : Settings) {k other : Setting} (v : k.Content) (h : other ≠ k) :
    (s.set k v).get other = s.get other := by
  cases k <;> cases other <;> first | exact absurd rfl h | rfl

end Settings
end RequestBinding
