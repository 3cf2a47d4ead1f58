import RequestBinding.Settings.Basic

/-! Settings changed by a document that gives some of them. -/

namespace RequestBinding

namespace Json

mutual

/-- The value with the members of every object sorted by name. -/
def sorted : Json → Json
  | .array items => .array (sortedItems items)
  | .object members => .object (Entries.sorted (sortedMembers members))
  | value => value

def sortedItems : List Json → List Json
  | [] => []
  | item :: rest => item.sorted :: sortedItems rest

def sortedMembers : List (String × Json) → List (String × Json)
  | [] => []
  | (name, value) :: rest => (name, value.sorted) :: sortedMembers rest

end

mutual

/-- A value laid over another. Objects are laid over each other member by member; all else is replaced. -/
def overlay (below : Json) : Json → Json
  | .object members =>
    match below with
    | .object start => .object (overlayMembers start members)
    | _ => .object members
  | value => value

def overlayMembers (below : List (String × Json)) : List (String × Json) → List (String × Json)
  | [] => below
  | (name, value) :: rest =>
    overlayMembers (match Entries.get? name below with
      | some old => Entries.put name (overlay old value) below
      | none => Entries.insert name value below) rest

end
end Json

/-- The settings with those that a document gives. -/
def Settings.withDocument (s : Settings) (document : Json) : Except Json.Mismatch Settings :=
  Json.as (.record Settings.document) (s.toJson.sorted.overlay document)

end RequestBinding
