import GameHall.Hall.Membership
import GameHall.Hall.Start

/-!
# Rematches

The leader of a shared replay may turn it into a new game with the same players and options.

* `Table.rematchPlayers` are the watchers who bear the name of one of the seats. There must be as
  many of them as seats.
* `Hall.rematchPlan` makes all checks. After them the rematch goes through four steps: those who
  will play leave the replay, the leader opens a table under a random name, the others take seats
  there, and the game starts. A step that fails ends the rematch; what was done before stays done.
-/

namespace GameHall

/-- The watchers who bear the name of one of the seats. -/
def Table.rematchPlayers (t : Table) : List Session :=
  t.watchers.filter fun s => t.seats.any fun p => p.name == s.name

/-- The users who end up at the new table: the players, and the leader if not among them. -/
def rematchUsers (leader : Session) (players : List Session) : List UserId :=
  let users := players.map Session.user
  if users.contains leader.user then users else users ++ [leader.user]

namespace Hall

/-- What stands against a rematch, or else the replay. -/
def rematchPlan (h : Hall) (s : Session) (id : TableId) : Except Rejection Table :=
  match h.table? id with
  | none => .error (.noTable id)
  | some t =>
    if !t.isSharedReplay then .error (.notShared id)
    else if t.owner ≠ s.user then .error .notLeader
    else if t.watchers.length < 2 then .error .tooFewWatchers
    else if t.rematchPlayers.length ≠ t.seats.length then .error .playersMissing
    else
      match h.seatingObstacle? (rematchUsers s t.rematchPlayers) with
      | some e => .error (.ofRefusal e)
      | none => .ok t

/-- Wraps what went wrong in a step. -/
def incomplete (step : RematchStep) (r : Refusal) : Rejection :=
  .cutShort step (.ofRefusal r)

/-- Whether a user who cannot stop watching is gone already. -/
def goneAlready : Refusal → Bool
  | .notWatching .. | .noTable _ => true
  | _ => false

/-- Whether a user who cannot take a seat has one already. -/
def thereAlready : Refusal → Bool
  | .alreadySeated .. => true
  | _ => false

/-- Takes users away from a replay. -/
def leaveReplay (h : Hall) (id : TableId) : List UserId → Outcome Rejection Unit
  | [] => h.done
  | u :: us =>
    (((h.stopWatching u id).forgive goneAlready).mapError (incomplete .leavingReplay)).andThen
      fun h _ => h.leaveReplay id us

/-- Seats sessions at a table. -/
def seatAll (h : Hall) (id : TableId) : List Session → Outcome Rejection Unit
  | [] => h.done
  | s :: ss =>
    (((h.join s id).forgive thereAlready).mapError (incomplete .seatingPlayers)).andThen
      fun h _ => h.seatAll id ss

/-- The steps of a rematch. -/
def playAgain (h : Hall) (luck : Luck) (s : Session) (t : Table) : Outcome Rejection TableId :=
  let players := t.rematchPlayers
  (h.leaveReplay t.id (rematchUsers s players)).andThen fun h _ =>
    ((h.openTable s (tableName luck.name) t.options).mapError
      (incomplete .openingTable)).andThen fun h id =>
        (h.seatAll id (players.filter fun p => p.user != s.user)).andThen fun h _ =>
          (((h.start luck.deal s.user id).mapError (.cutShort .startingGame)).map
            fun _ => id)

/-- Turns a shared replay into a new game. Everyone watching is sent back to the lobby first. -/
def rematch (h : Hall) (luck : Luck) (s : Session) (id : TableId) : Outcome Rejection TableId :=
  match h.rematchPlan s id with
  | .error e => h.refuse e
  | .ok t =>
    let o := h.playAgain luck s t
    ⟨o.hall, t.announce .boot ++ o.sent, o.result⟩

end Hall

end GameHall
