import GameHall.Wire

/-!
# The phases of a table

A table opens in the lobby, where seats are taken and given up, and moves on to its game. A replay
is a finished game under review and stays one.
-/

namespace GameHall

/-- Where a table is in its life. -/
inductive Phase
  /-- The lobby before the game. -/
  | pregame
  /-- A game in progress. -/
  | running
  /-- A finished game under review. -/
  | replay
deriving DecidableEq, Repr, Inhabited

namespace Phase

/-- Whether seats may be taken. -/
def isJoinable : Phase → Bool
  | pregame => true
  | running | replay => false

/-- Whether the table may be watched. -/
def isWatchable : Phase → Bool
  | pregame => false
  | running | replay => true

/-- The phase in print. -/
def display : Phase → String
  | pregame => "Pregame"
  | running => "Running"
  | replay => "Replay"

/-- The words for the phases. -/
def words : List (String × Phase) :=
  [pregame, running, replay].map fun p => (p.display, p)

instance : Wire Phase where
  json p := .str p.display
  read? := Json.oneOf? words

end Phase

end GameHall
