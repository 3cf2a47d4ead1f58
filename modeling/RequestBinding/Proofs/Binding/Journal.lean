import RequestBinding.Binding.Journal
import RequestBinding.Proofs.Binding.Calls

/-! Journals of bindings. The log is written beside the report, each line where it happens; read as a whole, it says of
every parameter what became of it, and its problems are those of the report. -/

namespace RequestBinding

variable {σ : Type}

namespace Journal

variable (problems : List Problem) (j : Journal)

private theorem recordEach_eq : j.recordEach problems =
    ⟨j.problems ++ problems, j.events ++ problems.map .problem⟩ := by
  induction problems generalizing j with
  | nil => simp [recordEach]
  | cons problem rest ih =>
    rw [recordEach, List.foldl_cons, ← recordEach, ih]
    simp [record]

/-- A journal with all that is to be said about a parameter. -/
def add (x : Binding) : Journal := ⟨j.problems ++ x.problems, j.events ++ x.events⟩

private theorem foldl_add (bindings : List Binding) :
    bindings.foldl add j = ⟨j.problems ++ bindings.flatMap Binding.problems, j.events ++ bindings.flatMap Binding.events⟩ := by
  induction bindings generalizing j with
  | nil => simp
  | cons x rest ih => simp [ih, add]

end Journal

namespace Binding

/-- What a log says about a parameter: that a value is bound, and behind it a problem if the value is refused; that the
parameter is absent; or one problem after the other. -/
inductive Logged (x : Binding) : List Event → Prop
  | assigned (value : Value) : x.calls = [⟨x.field, value, none⟩] → x.problems = [] →
      Logged x [.bound x.field x.parameter.name value.typeName]
  | refused (value : Value) (fault : FieldFault) (problem : Problem) : x.calls = [⟨x.field, value, some fault⟩] →
      x.problems = [problem] → Logged x [.bound x.field x.parameter.name value.typeName, .problem problem]
  | absent : x.result = .absent → x.calls = [] → x.problems = [] → Logged x [.absent x.field x.parameter.name]
  | failed : x.calls = [] → x.problems ≠ [] → Logged x (x.problems.map .problem)

variable {x : Binding}

private theorem Settled.logged (h : x.Settled) : x.Logged x.events := by
  obtain ⟨field, p, result⟩ := x
  cases result with
  | noField => exact .failed rfl (by simp [problems])
  | bound value => exact .assigned value rfl rfl
  | refused value fault => exact .refused value fault _ rfl rfl
  | absent => exact .absent rfl rfl rfl
  | failed found =>
    refine .failed rfl ?_
    cases h with
    | failed _ hne => exact hne
    | assigned _ hc _ => cases hc
    | refused _ _ _ hc _ => cases hc
    | absent hr _ _ => cases hr

private theorem filter_debug_events (x : Binding) :
    x.events.filter (·.severity == .debug) = x.problems.map .problem := by
  have hproblems : (x.problems.map Event.problem).filter (·.severity == .debug) = x.problems.map .problem :=
    List.filter_eq_self.2 fun e he => by
      obtain ⟨problem, -, rfl⟩ := List.mem_map.1 he
      rfl
  obtain ⟨field, p, result⟩ := x
  cases result with
  | absent => rfl
  | _ => exact hproblems

private theorem Logged.trace_or_problem {events : List Event} (h : x.Logged events) :
    (events.filter (·.severity == .trace)).length = 1 ∨ x.problems ≠ [] := by
  cases h with
  | assigned => exact .inl rfl
  | refused => exact .inl rfl
  | absent => exact .inl rfl
  | failed _ hne => exact .inr hne

end Binding

namespace Binder

variable (c : Context) (d : Destination σ)

/-- One parameter in a journal: the request and the destination are left as they are without one, and what is to be
said about the parameter is added. -/
private theorem journalOne_eq (field : String) (p : Parameter) (g : Progress σ) :
    journalOne c d field p g =
      let step := bindOne c d field p g.intake g.destination
      ⟨step.2.1, step.2.2, g.journal.add step.1⟩ := by
  obtain ⟨i, s, j⟩ := g
  cases hf : d.hasField field with
  | false => simp [journalOne, hf, bindOne_noField c d hf, Journal.record, Journal.add, Binding.problems, Binding.events]
  | true =>
    rw [bindOne_hasField c d hf]
    unfold journalOne
    simp only [hf, Bool.not_true, Bool.false_eq_true, if_false]
    cases ho : (p.resolve c field i).1 with
    | bound value =>
      cases hr : (d.assign field value s).2 with
      | none => simp [hr, Result.ofAssignment, Journal.note, Journal.add, Binding.problems, Binding.events]
      | some fault =>
        simp [hr, Result.ofAssignment, Journal.note, Journal.record, Journal.add, Binding.problems, Binding.events]
    | absent => simp [Journal.note, Journal.add, Binding.problems, Binding.events]
    | failed problems => simp [Journal.recordEach_eq, Journal.add, Binding.problems, Binding.events]

private theorem journalEach_eq (parameters : List (String × Parameter)) (g : Progress σ) :
    journalEach c d parameters g =
      let run := bindEach c d parameters g.intake g.destination
      ⟨run.2.1, run.2.2, run.1.foldl Journal.add g.journal⟩ := by
  induction parameters generalizing g with
  | nil => rfl
  | cons declaration rest ih =>
    obtain ⟨field, p⟩ := declaration
    have hcons : journalEach c d ((field, p) :: rest) g = journalEach c d rest (journalOne c d field p g) := rfl
    rw [hcons, journalOne_eq, ih, bindEach_cons]
    rfl

/-- A journal does not change what it is about: request, destination and report are those of the binding, and the log
has what is to be said about each parameter in turn, and a count. -/
private theorem bindWithJournal_eq (b : Binder) (r : Request) (route : Route) (consumer : Consumer) (s : σ) :
    b.bindWithJournal r route consumer d s =
      let bound := b.bind r route consumer d s
      ⟨bound.report, bound.bindings.flatMap Binding.events ++
        [.finished b.parameters.length bound.report.problems.length], bound.request, bound.destination⟩ := by
  simp only [bindWithJournal, journalEach_eq, Journal.foldl_add, Journal.note, Journal.empty, List.nil_append]
  rfl

/-- The log of a binding mirrors its report. It says of each parameter in turn, in the order of declaration, that a value
is bound, for every value that the destination is given, or that the parameter is absent, and what is wrong with it,
behind the value if that is refused; in the end it counts parameters and problems. What is logged for finding out what
went wrong is, in order, the text, the parameter, the location and the kind of every problem in the report, and the
count. Of no parameter nothing is said. -/
theorem log_mirrors_report {σ : Type} (b : Binder) (r : Request) (route : Route) (consumer : Consumer)
    (d : Destination σ) (s : σ) :
    let kept := b.bindWithJournal r route consumer d s
    let recorded := b.bindWithJournal r route consumer d.recording (s, [])
    let bindings := (b.bind r route consumer d s).bindings
    kept.report.problems = bindings.flatMap Binding.problems ∧
    bindings.map (fun x => (x.field, x.parameter)) = b.parameters ∧
    recorded.events = kept.events ∧
    recorded.destination = (kept.destination, bindings.flatMap Binding.calls) ∧
    kept.events = bindings.flatMap Binding.events ++ [.finished b.parameters.length kept.report.problems.length] ∧
    (∀ x ∈ bindings, x.Logged x.events ∧
      ((x.events.filter (·.severity == .trace)).length = 1 ∨ x.problems ≠ [])) ∧
    (kept.events.filter (·.severity == .debug)).map (fun e => (e.message, e.details)) =
      kept.report.problems.map (fun p => (p.message,
        [("parameter", p.parameter), ("location", p.location.label), ("kind", p.kind.label)])) ++
      [("request binding finished", [("params", toString b.parameters.length),
        ("errors", toString kept.report.problems.length)])] := by
  intro kept recorded bindings
  have hkept : kept = _ := bindWithJournal_eq d b r route consumer s
  have hrecorded : recorded = _ := bindWithJournal_eq d.recording b r route consumer (s, [])
  rw [bind_recording] at hrecorded
  have hevents : kept.events =
      bindings.flatMap Binding.events ++ [.finished b.parameters.length kept.report.problems.length] := by rw [hkept]
  have hreport : kept.report.problems = bindings.flatMap Binding.problems := by
    rw [hkept]
    rfl
  refine ⟨hreport, bind_declarations .., ?_, ?_, hevents, fun x hx => ?_, ?_⟩
  · rw [hrecorded, hkept]
    rfl
  · rw [hrecorded, hkept]
  · have hlogged := (bind_settled d b r route consumer s hx).1.logged
    exact ⟨hlogged, hlogged.trace_or_problem⟩
  · have hdebug : kept.events.filter (·.severity == .debug) =
        kept.report.problems.map .problem ++ [.finished b.parameters.length kept.report.problems.length] := by
      rw [hevents, List.filter_append, List.filter_flatMap, hreport, List.map_flatMap]
      simp only [Binding.filter_debug_events]
      rfl
    rw [hdebug, List.map_append, List.map_map]
    rfl

end Binder
end RequestBinding
