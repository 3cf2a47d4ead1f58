import RequestBinding.Proofs.Binding.EmptyBody
import RequestBinding.Proofs.Coercion.Spelling
import RequestBinding.Proofs.Coercion.Walk
import RequestBinding.Proofs.NamedValues
import RequestBinding.Proofs.Collection

/-! Defaults. What a parameter of a query comes to by its default is what it comes to when the text of the default is
supplied. -/

namespace RequestBinding

/-- What a problem is about, and of what kind it is, however it is worded. -/
def Problem.case (e : Problem) : String × Location × Kind := (e.parameter, e.location, e.kind)

/-- Outcomes that differ in nothing but the wording of their problems. -/
inductive Outcome.Resembles : Outcome → Outcome → Prop
  | bound (value : Value) : Resembles (.bound value) (.bound value)
  | absent : Resembles .absent .absent
  | failed {problems others : List Problem} : problems.map Problem.case = others.map Problem.case →
      Resembles (.failed problems) (.failed others)

namespace NamedValues

variable {v : NamedValues} {name text : String}

private theorem fragments_absent (h : v.contains name = false) (format : Option CollectionFormat) :
    v.fragments name format = none := by
  have hnone : v.all? name = none := by simpa [contains, Entries.has, all?] using h
  unfold fragments
  split <;> simp [hnone]

private theorem fragments_first (h : v.first? name = some text) {format : Option CollectionFormat}
    (hf : format ≠ some .multi) :
    v.fragments name format = some [text] := by
  obtain ⟨all, hall, hhead⟩ := Option.bind_eq_some_iff.1 h
  unfold fragments
  split
  · exact absurd rfl hf
  · simp [hall, hhead]

end NamedValues

namespace Parameter

variable {p : Parameter} {text : String}

private theorem ofItems_split {s : Schema} (ha : s.type = .array) (hm : s.collectionFormat ≠ .multi) (text : String) :
    Coercion.ofItems s (s.collectionFormat.split [text]) = Coercion.ofText s text := by
  have hformat : s.collectionFormat.inOneText = s.collectionFormat := by
    cases hc : s.collectionFormat <;> first | exact absurd hc hm | rfl
  rw [Coercion.ofText, Coercion.coerce_array ha, Coercion.ofItems, Coercion.coerceItems_eq]
  simp only [Coercion.itemsOf, hformat, Schema.itemSchema]

private theorem split_ne_nil {format : CollectionFormat} (ht : text ≠ "") : format.split [text] ≠ [] := by
  unfold CollectionFormat.split
  split
  · next he => simp_all
  · simp_all
  · next he => cases he
  · next he =>
    obtain ⟨rfl, -⟩ := List.cons.inj he
    rw [if_neg ht, stretches_eq_splitOn]
    simp

private theorem given_text (ht : text ≠ "") (hm : p.schema.type = .array → p.schema.collectionFormat ≠ .multi) :
    p.given (some [text]) = p.outcomeOf (Coercion.ofText p.schema text) := by
  by_cases ha : p.schema.type = .array
  · have harray : p.isArray = true := beq_iff_eq.2 ha
    simp only [given, harray, if_true, givenItems, split_ne_nil ht, false_and, if_false, ofItems_split ha (hm ha)]
  · have harray : p.isArray = false := beq_eq_false_iff_ne.2 ha
    simp only [given, harray, givenText, List.headD_cons, ht, false_and, if_false]
    rfl

private theorem problemOf_here {cause : Coercion.Cause} (h : cause ≠ .missing) :
    (p.problemOf (.here cause)).case = (p.name, p.location, .malformedValue) := by
  cases cause <;> first | exact absurd rfl h | rfl

private theorem outcomeOf_atPlace {result other : Except Coercion.Cause Value}
    (hsame : result.toOption = other.toOption)
    (hresult : result ≠ .error .missing) (hother : other ≠ .error .missing) :
    (p.outcomeOf (Coercion.atPlace result)).Resembles (p.outcomeOf (Coercion.atPlace other)) := by
  cases result with
  | ok value =>
    cases other with
    | ok found =>
      obtain rfl := Option.some.inj hsame
      exact .bound value
    | error cause => cases hsame
  | error cause =>
    cases other with
    | ok found => cases hsame
    | error reason =>
      have hcause := p.problemOf_here fun h => hresult (congrArg Except.error h)
      have hreason := p.problemOf_here fun h => hother (congrArg Except.error h)
      exact .failed (congrArg (fun case => [case]) (hcause.trans hreason.symm))

private theorem outcomeOf_plain {value : Json} (htype : p.schema.type = .integer ∨ p.schema.type = .boolean)
    (hv : value.Plain) :
    (p.outcomeOf (Coercion.ofJson p.schema value)).Resembles
      (p.outcomeOf (Coercion.ofText p.schema value.text)) := by
  have ha : p.schema.type ≠ .array := by rcases htype with h | h <;> simp [h]
  have ho : p.schema.type ≠ .object := by rcases htype with h | h <;> simp [h]
  rw [Coercion.ofJson, Coercion.ofText, Coercion.coerce_scalar ha ho, Coercion.coerce_scalar ha ho]
  exact outcomeOf_atPlace (Coercion.toOption_scalarOfText htype hv p.schema.format).symm
    (Coercion.scalarOfJson_ne_missing _ _ _) (Coercion.scalarOfText_ne_missing _ _ _)

end Parameter

namespace Binder

variable {σ : Type} {b : Binder} {r : Request} {route : Route} {consumer : Consumer} {d : Destination σ} {s : σ}

private theorem outcome?_of_query {x : Binding} (hx : x ∈ (b.bind r route consumer d s).bindings)
    (hl : x.parameter.location = .query) (hs : x.parameter.Sound) :
    x.outcome? = if d.hasField x.field then
      some (x.parameter.fromQuery (UrlEncoded.parseQuery r.address.query)) else none := by
  obtain ⟨i, t, hi, hself⟩ := exists_bindOne _ d hx
  have haddress : i.request.address = r.address := by rcases hi with h | h <;> rw [h] <;> rfl
  have hresolve : (x.parameter.resolve ⟨route, consumer, b.limits, b.bodyField?⟩ x.field i).1 =
      x.parameter.fromQuery (UrlEncoded.parseQuery r.address.query) := by
    unfold Parameter.resolve
    simp only [x.parameter.misdeclared?_eq_none_iff.2 hs, hl, haddress]
  rw [hself, bindOne_outcome?, ← hself, hresolve]

private theorem fromQuery_absent {p : Parameter} {query : NamedValues} (h : query.contains p.name = false)
    (default : Json) :
    (p.withDefault default).fromQuery query = p.outcomeOf (Coercion.ofJson p.schema default) := by
  have hname : (p.withDefault default).name = p.name := rfl
  rw [Parameter.fromQuery, hname, NamedValues.fragments_absent h]
  rfl

private theorem fromQuery_first {p : Parameter} {query : NamedValues} {text : String}
    (hmulti : p.schema.type = .array → p.schema.collectionFormat ≠ .multi) (ht : text ≠ "")
    (h : query.first? p.name = some text) :
    p.fromQuery query = p.outcomeOf (Coercion.ofText p.schema text) := by
  have hformat : (if p.isArray then some p.schema.collectionFormat else none) ≠ some .multi := by
    split
    · next ha => exact fun hf => hmulti (beq_iff_eq.1 ha) (Option.some.inj hf)
    · nofun
  rw [Parameter.fromQuery, NamedValues.fragments_first h hformat, Parameter.given_text ht hmulti]

/-- A default counts as if it were supplied. Where a parameter of a query, which is no file, is not in the query of one
request, and its first text in the query of another is the string that the first binding has as its default, both
bindings come to the same: they have one and the same value for its field, or the same problems, those of this text.
An integer or a truth value in JSON as default and its text come to the same value as well, or to problems with the same
parameters, locations and kinds, if the parameter is an integer or a truth value. -/
theorem bind_default_as_supplied {p : Parameter} (hl : p.location = .query) (hfile : p.schema.type ≠ .file)
    (hmulti : p.schema.type = .array → p.schema.collectionFormat ≠ .multi) {text : String} (ht : text ≠ "")
    (default : Json) (b b' : Binder) (field : String) (hb : (field, p.withDefault default) ∈ b.parameters)
    (hb' : (field, p) ∈ b'.parameters) (r r' : Request)
    (hlacks : (UrlEncoded.parseQuery r.address.query).contains p.name = false)
    (hgives : (UrlEncoded.parseQuery r'.address.query).first? p.name = some text) (route route' : Route)
    (consumer consumer' : Consumer) (d : Destination σ) (s s' : σ) :
    ∃ x ∈ (b.bind r route consumer d s).bindings, ∃ y ∈ (b'.bind r' route' consumer' d s').bindings,
      (x.field, x.parameter) = (field, p.withDefault default) ∧ (y.field, y.parameter) = (field, p) ∧
      y.outcome? = (if d.hasField field then some (p.outcomeOf (Coercion.ofText p.schema text)) else none) ∧
      (default = .string text → x.outcome? = y.outcome?) ∧
      (p.schema.type = .integer ∨ p.schema.type = .boolean → default.Plain → text = default.text →
        Option.Rel Outcome.Resembles x.outcome? y.outcome?) := by
  rw [← bind_declarations d b r route consumer s] at hb
  rw [← bind_declarations d b' r' route' consumer' s'] at hb'
  obtain ⟨x, hx, hxdeclared⟩ := List.mem_map.1 hb
  obtain ⟨y, hy, hydeclared⟩ := List.mem_map.1 hb'
  refine ⟨x, hx, y, hy, hxdeclared, hydeclared, ?_⟩
  obtain ⟨rfl, hparameter⟩ := Prod.mk.inj hxdeclared
  obtain ⟨hfield, rfl⟩ := Prod.mk.inj hydeclared
  have hs : y.parameter.Sound := ⟨by rw [hl]; rfl, fun _ _ => hl, fun h => absurd h hfile⟩
  have hsound : (y.parameter.withDefault default).Sound := ⟨hs.recognized, hs.multi, hs.file⟩
  have hxoutcome := outcome?_of_query hx (hparameter ▸ hl) (hparameter ▸ hsound)
  have hyoutcome := outcome?_of_query hy hl hs
  rw [hparameter, fromQuery_absent hlacks default] at hxoutcome
  rw [hfield, fromQuery_first hmulti ht hgives] at hyoutcome
  refine ⟨hyoutcome, ?_, ?_⟩
  · rintro rfl
    rw [hxoutcome, hyoutcome, Coercion.ofJson, Coercion.coerce_string hfile]
    rfl
  · rintro htype hplain rfl
    rw [hxoutcome, hyoutcome]
    split
    · exact .some (Parameter.outcomeOf_plain htype hplain)
    · exact .none

/-- An integer that 32 bits cannot hold, as a default in a string and as one in JSON, fails as it does in the query. -/
theorem bind_default_as_supplied_beyond_int32 :
    let p : Parameter := (Parameter.query "limit").typed .integer (some .int32)
    let whole : Json := .number (.whole ⟨3000000000, by decide, by decide⟩)
    let b (p : Parameter) : Binder := ⟨[("Limit", p)], .standard, List.nodup_singleton _, by decide⟩
    let r (query : Option String) : Request := ⟨"GET", ⟨none, none, "/", query⟩, .empty, .empty⟩
    let bindings (p : Parameter) (query : Option String) := ((b p).bind (r query) ⟨[]⟩ .json .sorted []).bindings
    (∃ x ∈ bindings (p.withDefault (.string "3000000000")) none, ∃ y ∈ bindings p (some "limit=3000000000"),
      x.outcome? = y.outcome? ∧ y.outcome? = some (p.outcomeOf (Coercion.ofText p.schema "3000000000"))) ∧
    ∃ x ∈ bindings (p.withDefault whole) none, ∃ y ∈ bindings p (some "limit=3000000000"),
      Option.Rel Outcome.Resembles x.outcome? y.outcome? := by
  intro p whole b r bindings
  have hlacks : (UrlEncoded.parseQuery (r none).address.query).contains p.name = false := rfl
  have hgives : (UrlEncoded.parseQuery (r (some "limit=3000000000")).address.query).first? p.name = some "3000000000" := by
    decide +kernel
  have hsupplied (default : Json) := bind_default_as_supplied (p := p) rfl nofun nofun (by decide) default
    (b (p.withDefault default)) (b p) "Limit" (List.mem_singleton_self _) (List.mem_singleton_self _) (r none) _ hlacks
    hgives ⟨[]⟩ ⟨[]⟩ .json .json .sorted [] []
  constructor
  · obtain ⟨x, hx, y, hy, -, -, hown, hsame, -⟩ := hsupplied (.string "3000000000")
    exact ⟨x, hx, y, hy, hsame rfl, hown⟩
  · obtain ⟨x, hx, y, hy, -, -, -, -, hplain⟩ := hsupplied whole
    exact ⟨x, hx, y, hy, hplain (.inl rfl) (.whole _) (by decide +kernel)⟩

end Binder
end RequestBinding
