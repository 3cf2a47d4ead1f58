import RequestBinding.Proofs.Binding.Forms

/-! Absent and empty parameters. A default counts where nothing is found for a parameter, and only there; a text that is
found counts as such even if it is empty. -/

namespace RequestBinding

namespace Parameter

variable {p : Parameter}

/-- What is found for a parameter leads to one outcome. A path that lacks a variable which is required does not belong
to the declarations, with a default or without. -/
def found (p : Parameter) (texts : Option (List String)) : Outcome :=
  if texts = none ∧ p.location = .path ∧ p.required then
    p.fails .configuration "route does not define this template variable"
  else p.given texts

/-- Whatever the default is, it is of no account for texts that are found. -/
theorem found_some (p : Parameter) (texts : List String) (default : Option Json) :
    { p with default := default }.found (some texts) = p.found (some texts) := by
  simp only [found, reduceCtorEq, false_and, if_false]
  rfl

end Parameter

namespace Binder

variable {σ : Type}

/-- What is found for a text parameter in its source while a request is bound: nothing, or texts. Nothing is found or
missed in a header that is no text, or in a form that cannot be loaded. -/
inductive Finds (b : Binder) (r : Request) (route : Route) (consumer : Consumer) (d : Destination σ) (p : Parameter) :
    Option (List String) → Prop
  | path : p.location = .path → Finds b r route consumer d p ((route.get? p.name).map fun text => [text])
  | query : p.location = .query → Finds b r route consumer d p ((UrlEncoded.parseQuery r.address.query).fragments p.name
      (if p.isArray then some p.schema.collectionFormat else none))
  | header {text : Option String} : p.location = .header → r.headers.text? p.name = .ok text →
      Finds b r route consumer d p (text.map fun text => [text])
  | form {form : LoadedForm} : p.location = .form → b.loadedForm? r route consumer d = some (.ok form) →
      Finds b r route consumer d p ((form.data.values.first? p.name).map fun text => [text])

variable {b : Binder} {r : Request} {route : Route} {consumer : Consumer} {d : Destination σ} {s : σ} {x : Binding}
  {texts : Option (List String)}

end Binder
end RequestBinding
