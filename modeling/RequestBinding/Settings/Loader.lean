import RequestBinding.Binding.Event
import RequestBinding.Dotenv.Reader
import RequestBinding.Settings.Overlay
import RequestBinding.Settings.Variable
import RequestBinding.Toml.Reader

/-! Settings gathered from several places: later documents change those before them, and variables change all. -/

namespace RequestBinding

inductive FileContent
  | absent
  | directory
  | bytes (content : List UInt8)

inductive ReadFault
  | absent
  | directory
  | undecodable
deriving DecidableEq, Repr

def ReadFault.message : ReadFault → String
  | absent => "No such file or directory (os error 2)"
  | directory => "Is a directory (os error 21)"
  | undecodable => Dotenv.Fault.undecodable.message

inductive LoadFault
  | fileNotFound (path : String)
  | unreadable (path : String) (fault : ReadFault)
  | badToml
  | badJson (message : String)
  | unsupportedFormat (extension : Option String)
  | dotenvUnreadable (fault : ReadFault)
  | badDotenv (fault : Dotenv.Fault)
  | badVariable (fault : VariableFault)
  | badSetting (fault : SettingFault)

/-- What is wrong, as far as there are words for it: there are none for a fault in TOML. -/
def LoadFault.message : LoadFault → String
  | fileNotFound path => "configuration file not found: " ++ path
  | unreadable path fault => "failed to read configuration file '" ++ path ++ "': " ++ fault.message
  | badToml => ""
  | badJson message => "JSON parse error: " ++ message
  | unsupportedFormat extension => "unsupported configuration format: " ++ extension.getD "<none>"
  | dotenvUnreadable fault => "failed to load dotenv file: " ++ fault.message
  | badDotenv fault => "failed to load dotenv file: " ++ fault.message
  | badVariable fault => "failed to parse environment variable '" ++ fault.name ++ "': " ++ fault.reason
  | badSetting fault => "invalid value for '" ++ fault.field ++ "': " ++ fault.reason

inductive DocumentFormat
  | toml
  | json
deriving DecidableEq, Repr

def fileName (path : List Char) : List Char := (path.reverse.takeWhile (· != '/')).reverse

/-- What stands behind the last dot of a file's name, if something stands before the dot. -/
def extension? (path : String) : Option String :=
  let name := (fileName path.toList).reverse
  match name.dropWhile (· != '.') with
  | _ :: _ :: _ => some (String.ofList (name.takeWhile (· != '.')).reverse)
  | _ => none

/-- Settings while they are gathered: with the start of the names of the variables that count, if any do, and
variables from files. -/
structure Loader where
  settings : Settings
  start : Option String
  entries : List (String × String)

namespace Loader

def new : Loader := ⟨.standard, none, []⟩

def withSettings (l : Loader) (settings : Settings) : Loader := { l with settings := settings }

/-- Lets variables count whose names start so, in upper case. -/
def withStart (l : Loader) (start : String) : Loader := { l with start := some (Text.upperCase start) }

def documentOf (format : DocumentFormat) (text : String) : Except LoadFault Json :=
  match format with
  | .json => (Json.read (Utf8.encode text)).mapError .badJson
  | .toml =>
    match Toml.read text with
    | some document => .ok document
    | none => .error .badToml

def withText (l : Loader) (format : DocumentFormat) (text : String) : Except LoadFault Loader := do
  let document ← documentOf format text
  let settings ← (l.settings.withDocument document).mapError fun m => .badJson m.message
  .ok (l.withSettings settings)

/-- Adds the settings that a file gives, in the format that its name tells. -/
def withFile (l : Loader) (path : String) : FileContent → Except LoadFault Loader
  | .absent => .error (.fileNotFound path)
  | .directory => .error (.unreadable path .directory)
  | .bytes content =>
    match Utf8.decode? content with
    | none => .error (.unreadable path .undecodable)
    | some text =>
      match extension? path with
      | some "toml" => l.withText .toml text
      | some "json" => l.withText .json text
      | other => .error (.unsupportedFormat other)

def withOptionalFile (l : Loader) (path : String) : FileContent → Except LoadFault Loader
  | .absent => .ok l
  | found => l.withFile path found

/-- Adds the variables of a file, which may refer to those of the environment. -/
def withDotenv (l : Loader) (environment : List (String × String)) : FileContent → Except LoadFault Loader
  | .absent => .error (.dotenvUnreadable .absent)
  | .directory => .error (.dotenvUnreadable .directory)
  | .bytes content =>
    let found := Dotenv.read environment content
    match found.fault with
    | some fault => .error (.badDotenv fault)
    | none => .ok { l with entries := l.entries ++ found.entries }

/-- The settings after all variables that count: those from files, then those of the environment. -/
def loadUnchecked (l : Loader) (environment : List (String × String)) : Except LoadFault Settings :=
  match l.start with
  | none => .ok l.settings
  | some start => (l.settings.withVariables start (l.entries ++ environment)).mapError .badVariable

def load (l : Loader) (environment : List (String × String)) : Except LoadFault Settings := do
  let settings ← l.loadUnchecked environment
  match settings.fault? with
  | some fault => .error (.badSetting fault)
  | none => .ok settings

end Loader

def Settings.loadedEvent (s : Settings) : Event :=
  .settingsLoaded s.limits.bodySize s.limits.parts.fields s.log.level

end RequestBinding
