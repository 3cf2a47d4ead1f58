import RequestBinding.Proofs.Binding.Reading
import RequestBinding.Proofs.Collection
import RequestBinding.Proofs.Form.UrlEncoded

/-! Arrays in a query. In which format the items are given makes no difference, as long as no separator of any format
is in an item. -/

namespace RequestBinding

namespace NamedValues

private theorem fragments_join (name : String) (format : CollectionFormat) {items : List String} (hne : items ≠ []) :
    (ofPairs ((format.join items).map (name, ·))).fragments name (some format) = some (format.join items) := by
  have htexts : textsOf name ((format.join items).map (name, ·)) = format.join items := by
    simp [textsOf, List.filter_map, Function.comp_def]
  have hsome : format.join items ≠ [] := by
    unfold CollectionFormat.join
    split
    · exact List.cons_ne_nil _ _
    · exact hne
  have hall : (ofPairs ((format.join items).map (name, ·))).all? name = some (format.join items) := by
    rw [all?_ofPairs, htexts, if_neg hsome]
  cases format <;> simp only [fragments, hall] <;> rfl

end NamedValues

namespace Parameter

/-- The parameter with its items in another format. -/
def inFormat (p : Parameter) (format : CollectionFormat) : Parameter :=
  { p with schema := p.schema.withCollectionFormat format }

/-- What an array of items comes to, wherever they were given: a lone item that is empty stands for none. -/
def arrayOutcome (p : Parameter) (items : List String) : Outcome := p.givenItems (if items = [""] then [] else items)

variable {p : Parameter} {items : List String}

private theorem given_join (ha : p.schema.type = .array) (format : CollectionFormat) (hne : items ≠ [])
    (h : ∀ separator ∈ format.separator?, ∀ item ∈ items, separator ∉ item.toList) :
    (p.inFormat format).given (some (format.join items)) = p.arrayOutcome items := by
  have harray : (p.inFormat format).isArray = true := beq_iff_eq.2 ha
  have hformat : (p.inFormat format).schema.collectionFormat = format := rfl
  simp only [given, harray, hformat, if_true, CollectionFormat.split_join format hne h]
  rfl

private theorem sound_inFormat (hl : p.location = .query) (ha : p.schema.type = .array) (format : CollectionFormat) :
    (p.inFormat format).Sound := by
  have htype : (p.inFormat format).schema.type = .array := ha
  refine ⟨?_, fun _ _ => hl, fun hfile => ?_⟩
  · have hlocation : (p.inFormat format).location = .query := hl
    rw [hlocation]
    rfl
  · rw [htype] at hfile
    cases hfile

private theorem resolve_items (hl : p.location = .query) (ha : p.schema.type = .array) (format : CollectionFormat)
    (hne : items ≠ []) (h : ∀ separator ∈ format.separator?, ∀ item ∈ items, separator ∉ item.toList) {i : Intake}
    {query : String} (hq : i.request.address.query = some query)
    (hw : UrlEncoded.WrittenPairs ((format.join items).map (p.name, ·)) (Utf8.encode query)) (c : Context)
    (field : String) : ((p.inFormat format).resolve c field i).1 = p.arrayOutcome items := by
  have hsound := (p.inFormat format).misdeclared?_eq_none_iff.2 (sound_inFormat hl ha format)
  have hlocation : (p.inFormat format).location = .query := hl
  have harray : (p.inFormat format).isArray = true := beq_iff_eq.2 ha
  have hname : (p.inFormat format).name = p.name := rfl
  have hformat : (p.inFormat format).schema.collectionFormat = format := rfl
  unfold resolve
  simp only [hsound, hlocation, fromQuery, hq, UrlEncoded.parseQuery_written hw, harray, if_true, hname, hformat,
    NamedValues.fragments_join p.name format hne, given_join ha format hne h]

end Parameter

namespace Binder

/-- The characters that separate items in one format or another. -/
def separators : List Char := [',', ' ', '\t', '|']

private theorem mem_separators (format : CollectionFormat) :
    ∀ separator ∈ format.separator?, separator ∈ separators := by
  cases format <;> simp [separators, CollectionFormat.separator?]

/-- In which format an array is given in a query makes no difference. Where its name and its items, joined by the
separator of a format or each in a pair of its own, are all that the query holds, in any spelling, the parameter comes
to one and the same value or to the same problems, provided that no item has the separator of any format in it. -/
theorem bind_ignores_collection_format (p : Parameter) (hl : p.location = .query) (ha : p.schema.type = .array)
    {items : List String} (hne : items ≠ []) (h : ∀ item ∈ items, ∀ c ∈ item.toList, c ∉ separators) :
    let outcome := p.arrayOutcome items
    ∀ (format : CollectionFormat) (r : Request) (query : String), r.address.query = some query →
      UrlEncoded.WrittenPairs ((format.join items).map (p.name, ·)) (Utf8.encode query) →
      ∀ (b : Binder) (field : String), (field, p.inFormat format) ∈ b.parameters →
      ∀ {σ : Type} (route : Route) (consumer : Consumer) (d : Destination σ) (s : σ), d.hasField field = true →
        ∃ result, ⟨field, p.inFormat format, result⟩ ∈ (b.bind r route consumer d s).bindings ∧
          outcome.Leads result := by
  intro outcome format r query hq hw b field hdeclared σ route consumer d s hd
  have hplain : ∀ separator ∈ format.separator?, ∀ item ∈ items, separator ∉ item.toList :=
    fun separator hs item hitem hc => h item hitem separator hc (mem_separators format separator hs)
  rw [← bind_declarations d b r route consumer s] at hdeclared
  obtain ⟨x, hx, he⟩ := List.mem_map.1 hdeclared
  obtain ⟨rfl, hp⟩ := Prod.mk.inj he
  refine ⟨x.result, hp ▸ hx, ?_⟩
  have hleads := bindEach_frame ⟨route, consumer, b.limits, b.bodyField?⟩ d b.parameters (.ofRequest r) s x hx hd
  have hlocation : (p.inFormat format).location = .query := hl
  rw [hp, Parameter.resolve_items hl ha format hne hplain hq hw, Parameter.readsForm, hlocation] at hleads
  exact hleads (by decide) rfl

/-- Three items, one of them empty and one that is no integer, behind bars and in three pairs. -/
theorem bind_ignores_collection_format_of_pipes_and_multi :
    let p : Parameter := (Parameter.query "ids").collectionOf (.ofType .integer) .csv
    let b (format : CollectionFormat) : Binder :=
      ⟨[("ids", p.inFormat format)], .standard, List.nodup_singleton _, by decide⟩
    let r (query : String) : Request := ⟨"GET", ⟨none, none, "/", some query⟩, .empty, .empty⟩
    ∃ result result' : Result,
      ⟨"ids", p.inFormat .pipes, result⟩ ∈ ((b .pipes).bind (r "ids=1||b") ⟨[]⟩ .json .sorted []).bindings ∧
      ⟨"ids", p.inFormat .multi, result'⟩ ∈ ((b .multi).bind (r "ids=1&ids=&ids=b") ⟨[]⟩ .json .sorted []).bindings ∧
      (p.arrayOutcome ["1", "", "b"]).Leads result ∧ (p.arrayOutcome ["1", "", "b"]).Leads result' := by
  intro p b r
  have hjoined : UrlEncoded.WrittenPairs ((CollectionFormat.pipes.join ["1", "", "b"]).map ("ids", ·))
      (Utf8.encode "ids=1||b") := by
    have hpair : UrlEncoded.WrittenPair ("ids", "1||b") (Utf8.encode "ids=1||b") :=
      ⟨_, _, .plain (by decide), .plain (by decide), rfl⟩
    exact ⟨[Utf8.encode "ids=1||b"], .cons hpair .nil, rfl⟩
  have hname : UrlEncoded.Written (Utf8.encode "ids") (Utf8.encode "ids") := .plain (by decide)
  have hpairs : UrlEncoded.WrittenPairs ((CollectionFormat.multi.join ["1", "", "b"]).map ("ids", ·))
      (Utf8.encode "ids=1&ids=&ids=b") := by
    have hpair {text : String} (h : ((Utf8.encode text).all fun b => !UrlEncoded.marks.contains b) = true) :
        UrlEncoded.WrittenPair ("ids", text) (Utf8.encode "ids" ++ 0x3D :: Utf8.encode text) :=
      ⟨_, _, hname, .plain h, rfl⟩
    exact ⟨_, .cons (hpair (by decide)) (.cons (hpair (by decide)) (.cons (hpair (by decide)) .nil)), rfl⟩
  have hsome : ["1", "", "b"] ≠ [] := List.cons_ne_nil _ _
  have hitems : ∀ item ∈ ["1", "", "b"], ∀ c ∈ item.toList, c ∉ separators := by simp [separators]
  have hall := bind_ignores_collection_format p rfl rfl hsome hitems
  obtain ⟨result, hx, hleads⟩ := hall .pipes (r "ids=1||b") _ rfl hjoined (b .pipes) "ids" (List.mem_singleton.2 rfl)
    ⟨[]⟩ .json .sorted [] rfl
  obtain ⟨result', hx', hleads'⟩ := hall .multi (r "ids=1&ids=&ids=b") _ rfl hpairs (b .multi) "ids"
    (List.mem_singleton.2 rfl) ⟨[]⟩ .json .sorted [] rfl
  exact ⟨result, result', hx, hx', hleads, hleads'⟩

end Binder
end RequestBinding
