import GameHall.Hall

/-!
# Starting a game

The owner starts the game from the lobby once enough players are seated. With character assignments
every player is dealt a different character that is eligible for their number.
-/

namespace GameHall

namespace Table

/-- Deals characters to seats from left to right. -/
def dealTo : List Nat → List Seat → List Seat
  | c :: cs, p :: ps => { p with character := some c } :: dealTo cs ps
  | _, ps => ps

/-- The table with its game running. -/
def started (t : Table) (luck : Nat) : Table :=
  let seats :=
    if t.options.characterAssignments then dealTo (deal luck t.seats.length) t.seats else t.seats
  { t with seats := seats, phase := .running }

end Table

namespace Hall

/-- What stands against starting a game. -/
def startObstacle? (h : Hall) (u : UserId) (t : Table) : Option Rejection :=
  if t.phase = .replay then some (.wrongPhase "You cannot start a replay.")
  else if t.owner ≠ u then some .notLeader
  else if t.phase = .running then some (.wrongPhase "The game has already started.")
  else if t.seats.length < h.limits.minPlayersToStart.toNat then
    some (.tooFewPlayers h.limits.minPlayersToStart.toNat)
  else none

/-- Starts the game of a table. -/
def start (h : Hall) (luck : Nat) (u : UserId) (id : TableId) : Outcome Rejection Unit :=
  match h.table? id with
  | none => h.refuse (.noTable id)
  | some t =>
    match h.startObstacle? u t with
    | some e => h.refuse e
    | none =>
      let running := t.started luck
      ⟨h.put running, running.announce .started, .ok ()⟩

end Hall

end GameHall
