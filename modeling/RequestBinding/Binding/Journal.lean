import RequestBinding.Binding.Event

/-! Journals: the report and the log of a binding, written while its parameters are bound. -/

namespace RequestBinding

/-- What was reported and what was logged so far, each in the order in which it came up. -/
structure Journal where
  problems : List Problem
  events : List Event

namespace Journal

def empty : Journal := ⟨[], []⟩

/-- Logs an event that is no problem. -/
def note (event : Event) (j : Journal) : Journal := { j with events := j.events ++ [event] }

/-- Logs a problem and reports it. -/
def record (problem : Problem) (j : Journal) : Journal :=
  ⟨j.problems ++ [problem], j.events ++ [.problem problem]⟩

def recordEach (problems : List Problem) (j : Journal) : Journal :=
  problems.foldl (fun j problem => j.record problem) j

end Journal

/-- A binding that is under way: the request and the destination as they are by now, and what was said. -/
structure Progress (σ : Type) where
  intake : Intake
  destination : σ
  journal : Journal

namespace Binder

variable {σ : Type}

/-- Resolves one parameter and assigns its value. A value is logged before it is assigned, and a problem when it is
reported. -/
def journalOne (c : Context) (d : Destination σ) (field : String) (p : Parameter) (g : Progress σ) : Progress σ :=
  if !d.hasField field then
    { g with journal := g.journal.record (p.problem .configuration (FieldFault.unknownField field).message) }
  else
    let (outcome, intake) := p.resolve c field g.intake
    match outcome with
    | .bound value =>
      let journal := g.journal.note (.bound field p.name value.typeName)
      let (destination, refusal) := d.assign field value g.destination
      match refusal with
      | none => ⟨intake, destination, journal⟩
      | some fault =>
        ⟨intake, destination, journal.record
          ⟨p.name, p.location, fault.kind, "cannot assign field '" ++ field ++ "': " ++ fault.message⟩⟩
    | .absent => ⟨intake, g.destination, g.journal.note (.absent field p.name)⟩
    | .failed problems => ⟨intake, g.destination, g.journal.recordEach problems⟩

def journalEach (c : Context) (d : Destination σ) (parameters : List (String × Parameter)) (g : Progress σ) : Progress σ :=
  parameters.foldl (fun g (field, p) => journalOne c d field p g) g

/-- A journal that is closed, and what the binding left behind. -/
structure Journaled (σ : Type) where
  report : Report
  events : List Event
  request : Request
  destination : σ

/-- Binds a request and keeps a journal of it, which ends with a count of the parameters and of the problems. -/
def bindWithJournal (b : Binder) (r : Request) (route : Route) (consumer : Consumer) (d : Destination σ) (s : σ) : Journaled σ :=
  let g := journalEach ⟨route, consumer, b.limits, b.bodyField?⟩ d b.parameters ⟨.ofRequest r, s, .empty⟩
  let journal := g.journal.note (.finished b.parameters.length g.journal.problems.length)
  ⟨⟨journal.problems⟩, journal.events, g.intake.request, g.destination⟩

end Binder
end RequestBinding
