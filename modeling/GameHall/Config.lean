import GameHall.Wire

/-!
# Configuration

* `Limits` bound the number of players at every table opened for a game.
* `Config` is what a server is set up from: the directory of its rule documents and the limits.
-/

namespace GameHall

/-- How many players a table seats, and how many a game needs. -/
structure Limits where
  /-- The most seats at a table. -/
  maxPlayers : UInt64
  /-- The fewest players that a game starts with. -/
  minPlayersToStart : UInt64
deriving DecidableEq, Repr, Inhabited

namespace Limits

/-- The limits when none are configured. -/
def standard : Limits := ⟨6, 2⟩

/-- The fields on the wire, in order. -/
def fields : List String := ["max_players", "min_players_to_start"]

/-- The limits as they are written. -/
def json (l : Limits) : Json :=
  .members
    [("max_players", .nat l.maxPlayers.toNat),
      ("min_players_to_start", .nat l.minPlayersToStart.toNat)]

/-- Reads limits; both must be given. -/
def read? (v : Json) : Option Limits := do
  let field ← v.record? fields
  let maxPlayers ← required Json.word64? (field "max_players")
  let minPlayersToStart ← required Json.word64? (field "min_players_to_start")
  return ⟨maxPlayers, minPlayersToStart⟩

instance : Wire Limits := ⟨json, read?⟩

end Limits

/-- What a server is set up from. -/
structure Config where
  /-- The directory that holds the rule documents. -/
  dataDir : String
  limits : Limits
deriving DecidableEq, Repr, Inhabited

namespace Config

/-- The configuration when nothing is said. -/
def standard : Config := ⟨"data", .standard⟩

/-- The fields on the wire, in order. -/
def fields : List String := ["data_dir", "table"]

/-- The configuration as it is written. -/
def json (c : Config) : Json :=
  .members [("data_dir", .str c.dataDir), ("table", c.limits.json)]

/-- Reads a configuration; both parts must be given. -/
def read? (v : Json) : Option Config := do
  let field ← v.record? fields
  let dataDir ← required Json.text? (field "data_dir")
  let limits ← required Limits.read? (field "table")
  return ⟨dataDir, limits⟩

instance : Wire Config := ⟨json, read?⟩

end Config

end GameHall
