import GameHall.Hall
import GameHall.Text.Blank
import GameHall.Text.NormalForm

/-!
# Passing the lead

The owner of a table may make someone else there its owner: a watcher at a replay, a player at a
game. Names are compared by their normal forms, and the first that matches counts.

In the lobby the two players also exchange seats, so that the owner sits leftmost.
-/

namespace GameHall

/-- A list with the entries at two places exchanged. -/
def exchange {α : Type} (l : List α) (i j : Nat) : List α :=
  match l[i]?, l[j]? with
  | some a, some b => (l.set i b).set j a
  | _, _ => l

namespace Table

/-- Those who may lead a table, with their names. -/
def candidates (t : Table) : List (UserId × String) :=
  if t.isReplay then t.watchers.map fun s => (s.user, s.name)
  else t.seats.map fun p => (p.user, p.name)

/-- Whether a name is the same as another but for its case and blanks. -/
def sameName (a b : String) : Bool := normalForm a == normalForm b

/-- The first who may lead the table and has the name. -/
def heir? (t : Table) (name : String) : Option (UserId × String) :=
  t.candidates.find? fun p => sameName p.2 name

/-- The table after its owner passed the lead to the first player or watcher of the name. -/
def passedTo (t : Table) (name : String) (heir : UserId) : Table :=
  let seats :=
    if t.phase = .pregame then
      exchange t.seats (t.seats.findIdx fun p => p.user == t.owner)
        (t.seats.findIdx fun p => sameName p.name name)
    else t.seats
  { t with owner := heir, seats := seats }

/-- What everyone at the table is told when the lead was passed on. -/
def leadNews (t : Table) (leader : String) (heir : UserId × String) : List Delivery :=
  let line := leader ++ " has passed table ownership to: " ++ heir.2
  match t.phase with
  | .replay => t.announce (.newLeader heir.1)
  | .running => t.say line
  | .pregame => t.announce .seatsChanged ++ t.say line

end Table

namespace Hall

/-- What stands against passing the lead, or else the new leader. -/
def heirOrRejection (s : Session) (t : Table) (name : String) :
    Except Rejection (UserId × String) :=
  if isBlankText name then .error .nameless
  else if t.isSoloReplay then .error .keptReplay
  else if t.owner ≠ s.user then .error .notLeader
  else if Table.sameName name s.name then .error .leadsAlready
  else
    match t.heir? name with
    | none => .error (if t.isReplay then .notWatching name else .notSeated name)
    | some heir =>
      if t.phase = .pregame ∧ !t.hasSeat s.user then .error (.notSeated s.name) else .ok heir

/-- Makes the first player or watcher of the name the owner of a table. -/
def passLead (h : Hall) (s : Session) (id : TableId) (name : String) : Outcome Rejection Unit :=
  match h.table? id with
  | none => h.refuse (.noTable id)
  | some t =>
    match heirOrRejection s t name with
    | .error e => h.refuse e
    | .ok heir =>
      let passed := t.passedTo name heir.1
      ⟨h.put passed, passed.leadNews s.name heir, .ok ()⟩

end Hall

end GameHall
