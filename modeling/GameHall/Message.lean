import GameHall.Identity

/-!
# Messages

Everything that a hall tells the users connected to it.

* `News` is a change at a table that those at the table have to know.
* `Message` is news of a table, a line in a chat room, or a notice to one user.
-/

namespace GameHall

/-- A change at a table. -/
inductive News
  /-- Seats were taken, given up or exchanged. -/
  | seatsChanged
  /-- Someone began or stopped watching. -/
  | watchersChanged
  /-- A replay has a new leader. -/
  | newLeader (leader : UserId)
  /-- Everyone is sent back to the lobby. -/
  | boot
  /-- The game has begun. -/
  | started
deriving DecidableEq, Repr

/-- How serious a notice is. -/
inductive Severity
  /-- A request was refused and nothing changed. -/
  | warning
  /-- What was asked for is not there, or was done in part. -/
  | error
deriving DecidableEq, Repr

/-- What a connected user is told. -/
inductive Message
  /-- A table where the user is has changed. -/
  | table (id : TableId) (news : News)
  /-- A line of the server's in a chat room. -/
  | chat (room : String) (text : String)
  /-- A word to this user alone. -/
  | notice (severity : Severity) (text : String)
deriving DecidableEq, Repr

end GameHall
