import RequestBinding.Binding.Binder
import RequestBinding.Binding.Source
import RequestBinding.Coercion.Basic
import RequestBinding.Problem.Basic

/-! The value of one parameter, from the place that its declaration names: a variable of the route, as the router matched
it, or something of the request. -/

namespace RequestBinding

structure Route where
  entries : List (String × String)
deriving DecidableEq, Repr

namespace Route

def push (name value : String) (r : Route) : Route := ⟨r.entries ++ [(name, value)]⟩

def get? (name : String) (r : Route) : Option String := Entries.get? name r.entries

/-- The value of a path parameter. A route without the variable cannot belong to an operation that requires it. -/
def value? (r : Route) (name : String) (required : Bool) : Except Problem (Option String) :=
  match r.get? name with
  | some value => .ok (some value)
  | none =>
    if required then .error (.of .configuration .path name "route does not define this template variable")
    else .ok none

end Route

/-- What a parameter comes to: a value, nothing, or problems. -/
inductive Outcome
  | bound (value : Value)
  | absent
  | failed (problems : List Problem)

/-- What parameters are taken from beside the request. -/
structure Context where
  route : Route
  consumer : Consumer
  limits : Limits
  bodyField : Option String

namespace Parameter

def problem (p : Parameter) (kind : Kind) (details : String) : Problem := .of kind p.location p.name details

def fails (p : Parameter) (kind : Kind) (details : String) : Outcome := .failed [p.problem kind details]

def failsFor (p : Parameter) (fault : SourceFault) : Outcome := p.fails fault.kind fault.message

/-- A failure of coercion as a problem, properties named with dots behind the parameter. -/
def problemOf (p : Parameter) (failure : Coercion.Failure) : Problem :=
  let name := if failure.path = "" then p.name else p.name ++ "." ++ failure.path
  .of failure.kind p.location name failure.message

def outcomeOf (p : Parameter) (result : Except (List Coercion.Failure) Value) : Outcome :=
  match result with
  | .ok value => .bound value
  | .error failures => .failed (failures.map p.problemOf)

/-- The outcome of a parameter that has no value: absent, unless it is required. -/
def lacking (p : Parameter) : Outcome :=
  if p.required then .failed [.missing p.location p.name] else .absent

/-- The outcome of a parameter that is not given: its default, if it has one. -/
def fallback (p : Parameter) : Outcome :=
  match p.default with
  | some value => p.outcomeOf (Coercion.ofJson p.schema value)
  | none => p.lacking

def givenItems (p : Parameter) (items : List String) : Outcome :=
  if items = [] ∧ p.required then p.lacking else p.outcomeOf (Coercion.ofItems p.schema items)

/-- The outcome of a parameter given as one text. An empty text is a value for strings alone. -/
def givenText (p : Parameter) (text : String) : Outcome :=
  if text = "" ∧ p.schema.type ≠ .string then p.lacking else p.outcomeOf (Coercion.ofText p.schema text)

def given (p : Parameter) (texts : Option (List String)) : Outcome :=
  match texts with
  | none => p.fallback
  | some found =>
    if p.isArray then p.givenItems (p.schema.collectionFormat.split found) else p.givenText (found.headD "")

/-- What is wrong with a declaration, whatever the request. -/
def misdeclared? (p : Parameter) : Option Problem :=
  if !p.location.isRecognized then
    some (p.problem .configuration ("unrecognized parameter location '" ++ p.location.label ++ "'"))
  else if p.isArray ∧ p.schema.collectionFormat = .multi ∧ p.location ≠ .query then
    some (p.problem .malformedCollection "collection format 'multi' is only valid for query parameters")
  else if p.schema.type = .file ∧ p.location ≠ .form ∧ p.location ≠ .file then
    some (p.problem .configuration ("file parameters cannot be read from the " ++ p.location.label))
  else none

def fromRoute (p : Parameter) (route : Route) : Outcome :=
  match route.value? p.name p.required with
  | .error problem => .failed [problem]
  | .ok value => p.given (value.map fun text => [text])

def fromQuery (p : Parameter) (query : NamedValues) : Outcome :=
  p.given (query.fragments p.name (if p.isArray then some p.schema.collectionFormat else none))

def fromHeaders (p : Parameter) (headers : Headers) : Outcome :=
  match headers.text? p.name with
  | .error message => p.fails .malformedValue message
  | .ok value => p.given (value.map fun text => [text])

def fromForm (p : Parameter) (form : Except SourceFault LoadedForm) : Outcome :=
  match form with
  | .error fault => p.failsFor fault
  | .ok loaded => p.given ((loaded.data.values.first? p.name).map fun text => [text])

/-- The outcome of a file of a form, and the form without that file. Only a form in parts has files. -/
def fromFiles (p : Parameter) (form : Except SourceFault LoadedForm) : Outcome × Except SourceFault LoadedForm :=
  match form with
  | .error fault => (p.failsFor fault, form)
  | .ok loaded =>
    if !loaded.inParts then
      (p.fails .unsupportedMediaType "file parameters require a multipart/form-data body", form)
    else
      let (found, data) := loaded.data.takeFile p.name
      (match found with
        | .found file => .bound (.file file)
        | .textField => p.fails .malformedValue "expected a file part, found a text field"
        | .missing => .failed [.missing p.location p.name]
        | .alreadyClaimed => p.fails .configuration "file part is already bound to another parameter",
        .ok { loaded with data := data })

def fromBody (p : Parameter) (body : Except SourceFault (Option Json)) : Outcome :=
  match body with
  | .error fault => p.failsFor fault
  | .ok (some value) => p.outcomeOf (Coercion.ofJson p.schema value)
  | .ok none => p.fallback

/-- The outcome of a parameter that is bound to a field, and the request after it. -/
def resolve (p : Parameter) (c : Context) (field : String) (i : Intake) : Outcome × Intake :=
  match p.misdeclared? with
  | some problem => (.failed [problem], i)
  | none =>
    match p.location with
    | .path => (p.fromRoute c.route, i)
    | .query => (p.fromQuery (UrlEncoded.parseQuery i.request.address.query), i)
    | .header => (p.fromHeaders i.request.headers, i)
    | .form | .file =>
      let (form, i) := i.getForm c.limits
      if p.isFile then
        let (outcome, form) := p.fromFiles form
        (outcome, { i with form := some form })
      else (p.fromForm form, i)
    | .body =>
      match c.bodyField.filter (· ≠ field) with
      | some owner => (p.fails .configuration ("the request body is already bound to field '" ++ owner ++ "'"), i)
      | none =>
        let (body, i) := i.getBody c.limits c.consumer
        (p.fromBody body, i)
    | .unrecognized _ => (.absent, i)

end Parameter

end RequestBinding
