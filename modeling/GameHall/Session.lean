import GameHall.Message

/-!
# Sessions

A session is a user connected over a line. A user who connects twice has two sessions with two
lines, possibly under two names.
-/

namespace GameHall

/-- A connected user. -/
structure Session where
  user : UserId
  /-- The name that is shown for the user. -/
  name : String
  /-- The line over which the user is told. -/
  line : Nat
deriving DecidableEq, Repr, Inhabited

/-- A message on its way to a session. -/
structure Delivery where
  session : Session
  message : Message
deriving DecidableEq, Repr

/-- A notice on its way to a session. -/
def Session.notice (s : Session) (severity : Severity) (text : String) : Delivery :=
  ⟨s, .notice severity text⟩

end GameHall
