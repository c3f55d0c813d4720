import GameHall.Session
import GameHall.Worker

/-!
# Refusals

Why an operation did not happen.

* `Refusal` says why the hall refused a change of tables, seats or watchers.
* `Rejection` says why a user's command was rejected; `Rejection.ofRefusal` passes on what the hall
  refused. A rematch that stops part-way is rejected with the step that failed.
* `message` is the wording of either, and `Rejection.severity` how it is shown.
-/

namespace GameHall

/-- Why the hall refused. -/
inductive Refusal
  /-- The table does not exist, or no longer. -/
  | noTable (id : TableId)
  /-- The hall is winding down: no new tables or seats. -/
  | windingDown
  /-- The name of a table has nothing but blanks. -/
  | nameless
  /-- The variant is not in the rule book. -/
  | noVariant (variant : String)
  /-- Every seat is taken. -/
  | full (id : TableId)
  /-- The user already has a seat at the table. -/
  | alreadySeated (user : UserId) (id : TableId)
  /-- The user is playing at another table. -/
  | playingElsewhere (user : UserId) (id : TableId)
  /-- The user has no seat at the table. -/
  | notSeated (user : UserId) (id : TableId)
  /-- The user is already watching the table. -/
  | alreadyWatching (user : UserId) (id : TableId)
  /-- The user is not watching the table. -/
  | notWatching (user : UserId) (id : TableId)
  /-- The table is not in a phase for this. -/
  | wrongPhase (reason : String)
  /-- The named manager takes no more requests. -/
  | closed (manager : String)
  /-- The hall stopped before it answered. -/
  | noAnswer
deriving DecidableEq, Repr

namespace Refusal

/-- A user and a table with words between and behind them. -/
def userAndTable (u : UserId) (between : String) (id : TableId) : String :=
  "user " ++ u.display ++ between ++ "table " ++ id.display

/-- The wording of a refusal. -/
def message : Refusal → String
  | noTable id => "table " ++ id.display ++ " does not exist"
  | windingDown => "the server is shutting down; new games are not accepted"
  | nameless => "you must provide a table name"
  | noVariant variant => "\"" ++ variant ++ "\" is not a valid variant"
  | full id => "table " ++ id.display ++ " is full"
  | alreadySeated u id => userAndTable u " already joined " id
  | playingElsewhere u id => userAndTable u " is already seated at " id
  | notSeated u id => userAndTable u " is not joined to " id
  | alreadyWatching u id => userAndTable u " is already spectating " id
  | notWatching u id => userAndTable u " is not spectating " id
  | wrongPhase reason => "invalid table state for this operation: " ++ reason
  | closed manager => Worker.Closed.message ⟨manager⟩
  | noAnswer => "the table registry is unavailable"

end Refusal

/-- The steps of a rematch after its checks, in order. -/
inductive RematchStep
  | leavingReplay
  | openingTable
  | seatingPlayers
  | startingGame
deriving DecidableEq, Repr

/-- The wording of a step. -/
def RematchStep.display : RematchStep → String
  | leavingReplay => "leaving the replay"
  | openingTable => "creating the new table"
  | seatingPlayers => "seating the players"
  | startingGame => "starting the game"

/-- Why a command was rejected. -/
inductive Rejection
  /-- The table does not exist. -/
  | noTable (id : TableId)
  /-- No name was given for the new leader. -/
  | nameless
  /-- The lead of a replay that is kept to oneself cannot be passed on. -/
  | keptReplay
  /-- The new leader is the old one. -/
  | leadsAlready
  /-- Nobody of the name is watching the replay. -/
  | notWatching (name : String)
  /-- Nobody of the name has a seat. -/
  | notSeated (name : String)
  /-- Only the owner of the table may do this. -/
  | notLeader
  /-- The table is not a replay that others may watch. -/
  | notShared (id : TableId)
  /-- A rematch needs two watchers. -/
  | tooFewWatchers
  /-- Players of the finished game are not watching. -/
  | playersMissing
  /-- A game needs more players. -/
  | tooFewPlayers (least : Nat)
  /-- The table is not in a phase for this. -/
  | wrongPhase (reason : String)
  /-- The hall refused. -/
  | refused (refusal : Refusal)
  /-- A rematch passed its checks and stopped at a step; the steps before it stay done. -/
  | cutShort (step : RematchStep) (source : Rejection)
deriving DecidableEq, Repr

namespace Rejection

/-- Passes on a refusal. -/
def ofRefusal : Refusal → Rejection
  | .noTable id => .noTable id
  | r => .refused r

/-- The wording of a rejection. -/
def message : Rejection → String
  | noTable id => "Table " ++ toString id.val ++ " does not exist."
  | nameless =>
    "You must specify the username to pass the lead to. (e.g. \"/setleader Alice\")"
  | keptReplay => "You cannot set a new leader in a solo replay."
  | leadsAlready => "You cannot pass leadership to yourself."
  | notWatching name => "\"" ++ name ++ "\" is not spectating the shared replay."
  | notSeated name => "\"" ++ name ++ "\" is not joined to this table."
  | notLeader => "Only the table leader can do that."
  | notShared id =>
    "Table " ++ toString id.val ++ " is not a shared replay, so you cannot restart it."
  | tooFewWatchers => "You cannot restart a game unless there are at least two people in it."
  | playersMissing =>
    "Not all of the players from the original game are in the shared replay, " ++
      "so you cannot restart the game."
  | tooFewPlayers least =>
    "You need at least " ++ toString least ++ " players to start a game."
  | wrongPhase reason => reason
  | refused r => r.message
  | cutShort step source =>
    "The restart failed while " ++ step.display ++ ": " ++ source.message

/-- How a rejection is shown. Asking for what is not there, a hall that does not answer and a
rematch that stopped part-way are errors; all else is a warning. -/
def severity : Rejection → Severity
  | notWatching _ | notSeated _ | cutShort .. => .error
  | refused (.closed _) | refused .noAnswer => .error
  | _ => .warning

/-- The notice that tells a session of a rejection. -/
def notice (r : Rejection) (s : Session) : Delivery := s.notice r.severity r.message

end Rejection

end GameHall
