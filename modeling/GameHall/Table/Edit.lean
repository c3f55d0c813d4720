import GameHall.Table

/-!
# Editing tables by hand

An operator may set some fields of a table directly. Nothing else at the table or in the hall
follows from it. A replay stays a replay whatever is said of its game.
-/

namespace GameHall

/-- The fields to set. -/
structure Table.Edit where
  /-- Whether the game is running. -/
  running : Option Bool
  visible : Option Bool
  owner : Option UserId
  capacity : Option Nat
  variant : Option String
deriving DecidableEq, Repr

/-- The phase of a table whose game is said to be running or not. -/
def Phase.setRunning : Phase → Bool → Phase
  | replay, _ => replay
  | _, true => running
  | _, false => pregame

/-- The table after an edit. -/
def Table.edit (t : Table) (e : Table.Edit) : Table :=
  { t with
    phase := (e.running.map t.phase.setRunning).getD t.phase
    visible := e.visible.getD t.visible
    owner := e.owner.getD t.owner
    capacity := e.capacity.getD t.capacity
    options := { t.options with variant := e.variant.getD t.options.variant } }

end GameHall
