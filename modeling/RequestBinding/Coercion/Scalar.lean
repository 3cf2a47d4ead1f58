import RequestBinding.Coercion.Failure
import RequestBinding.Value

/-! Scalars from text and from JSON. -/

namespace RequestBinding.Coercion

def labelOf (type : ValueType) (format : Option Format) : String := { Schema.ofType type with format := format }.label

/-- A finite number of a precision in a text. -/
def finiteOfText (p : Precision) (text : String) : Except TextFault (Binary p) :=
  match DecimalText.read p text.toList with
  | .error fault => .error (.decimal fault)
  | .ok x => if x.isFinite then .ok x else .error .notFinite

def boolOfText (text : String) : Except TextFault Bool :=
  if text = "true" then .ok true else if text = "false" then .ok false else .error .boolean

def stringOfText (format : Option Format) (text : String) : Except TextFault Value :=
  match format with
  | some .date => ((Date.ofText text).map .date).mapError .calendar
  | some .dateTime => ((Timestamp.ofText text).map .timestamp).mapError .calendar
  | some .byte => ((Base64.ofText text).map .bytes).mapError .base64
  | _ => .ok (.string text)

def integerOfText (format : Option Format) (text : String) : Except TextFault Value :=
  match format with
  | some .int32 => ((IntegerText.readInt32 text.toList).map .int32).mapError .integer
  | _ => ((IntegerText.readInt64 text.toList).map .int64).mapError .integer

def numberOfText (format : Option Format) (text : String) : Except TextFault Value :=
  match format with
  | some .float => (finiteOfText .single text).map .float
  | _ => (finiteOfText .double text).map .double

/-- The scalar that a text stands for. No text stands for a file; arrays and objects are no scalars. -/
def scalarOfText (type : ValueType) (format : Option Format) (text : String) : Except Cause Value :=
  let typed (value : Except TextFault Value) : Except Cause Value :=
    value.mapError fun fault => .notText text (labelOf type format) fault
  match type with
  | .integer => typed (integerOfText format text)
  | .number => typed (numberOfText format text)
  | .boolean => typed ((boolOfText text).map .boolean)
  | .string => typed (stringOfText format text)
  | .file | .array | .object => .error .notFile

def integerOfNumber (format : Option Format) (number : Json.Number) : Except Cause Value :=
  match number.toInt64?, format with
  | none, _ => .error (.notInteger number (labelOf .integer format))
  | some n, some .int32 =>
    if -0x80000000 ≤ n.toInt ∧ n.toInt < 0x80000000 then .ok (.int32 (Int32.ofInt n.toInt)) else .error (.beyondInt32 n)
  | some n, _ => .ok (.int64 n)

def decimalOfNumber (format : Option Format) (number : Json.Number) : Except Cause Value :=
  let x := number.toDouble
  let beyond : Except Cause Value := .error (.beyondFloat number (labelOf .number format))
  if x.isFinite then
    match format with
    | some .float => if (x.convert .single).isFinite then .ok (.float (x.convert .single)) else beyond
    | _ => .ok (.double x)
  else beyond

/-- The scalar that a JSON value stands for. A string is read as text, except for a file. -/
def scalarOfJson (type : ValueType) (format : Option Format) (value : Json) : Except Cause Value :=
  match type, value with
  | .file, _ => .error (.mismatch (labelOf type format) value.kind)
  | _, .string text => scalarOfText type format text
  | .integer, .number n => integerOfNumber format n
  | .number, .number n => decimalOfNumber format n
  | .boolean, .bool b => .ok (.boolean b)
  | _, _ => .error (.mismatch (labelOf type format) value.kind)

end RequestBinding.Coercion
