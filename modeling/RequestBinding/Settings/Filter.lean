import RequestBinding.Number.IntegerText
import RequestBinding.Collection
import RequestBinding.Text.Classes

/-! Filters of a log: which texts say what is written to it. A filter is a list of directives with commas between
them. A directive is a level; or a target, or a span in brackets with or without a target, and behind an equals sign
a level of its own. Blanks may stand around a directive only if it has no equals sign. -/

namespace RequestBinding.LogFilter

/-- A level by name in any case, or by number. No text at all is a level too. -/
def isLevel (text : List Char) : Bool :=
  match IntegerText.readSize text with
  | .ok n => n ≤ 5
  | .error _ =>
    text.isEmpty || ["trace", "debug", "info", "warn", "error", "off"].contains (String.ofList text).toLower

/-- What may stand behind a span: nothing, or a level. -/
def isBehindSpan (padded : Bool) : List Char → Bool
  | [] => true
  | '=' :: level => !padded && isLevel level
  | _ => false

/-- A span behind its opening bracket, with what may follow it: a name, and in braces a field. -/
def isSpan (padded : Bool) (text : List Char) : Bool :=
  match text.dropWhile fun c => c != ']' && c != '{' with
  | ']' :: rest => isBehindSpan padded rest
  | '{' :: rest =>
    match rest.takeWhile (· != '}'), rest.dropWhile (· != '}') with
    | _ :: _, '}' :: ']' :: after => isBehindSpan padded after
    | _, _ => false
  | _ => false

def startsTarget (c : Char) : Bool := Text.isAlphanumeric c || c == '-' || c == ':' || c == '_'

/-- A directive, without the blanks around it if it is padded. -/
def isBareDirective (padded : Bool) : List Char → Bool
  | [] => false
  | '[' :: rest => isSpan padded rest
  | c :: rest =>
    startsTarget c &&
      match rest.dropWhile fun c => c != '=' && c != '[' with
      | '=' :: level => !padded && isLevel level
      | '[' :: rest => isSpan padded rest
      | _ => true

def isDirective (text : List Char) : Bool := isBareDirective (Text.trim text != text) (Text.trim text)

/-- The text is a filter. Empty directives do not count. -/
def isFilter (text : String) : Bool :=
  (stretches ',' text.toList).all fun piece => piece.isEmpty || isDirective piece

end RequestBinding.LogFilter
