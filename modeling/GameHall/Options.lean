import GameHall.Wire

/-!
# Game options

The choices a game is opened with. A rematch copies them unchanged into the new game.

Only the variant must be given on the wire; everything else is off or zero when it is missing.
-/

namespace GameHall

/-- The choices a game is opened with. -/
structure Options where
  /-- The name of the variant. -/
  variant : String
  /-- Whether the players' clocks run. -/
  timed : Bool
  /-- A player's clock at the start, in seconds. -/
  baseTime : UInt32
  /-- The seconds that a player's clock gains with each turn. -/
  timePerTurn : UInt32
  speedrun : Bool
  deckPlays : Bool
  emptyClues : Bool
  /-- Whether every player is dealt a character when the game starts. -/
  characterAssignments : Bool
deriving DecidableEq, Repr, Inhabited

namespace Options

/-- The fields on the wire, in order. -/
def fields : List String :=
  ["variant", "timed", "baseTime", "timePerTurn", "speedrun", "deckPlays", "emptyClues",
    "characterAssignments"]

/-- The options as they are written. -/
def json (o : Options) : Json :=
  .members
    [("variant", .str o.variant),
      ("timed", .bool o.timed),
      ("baseTime", .nat o.baseTime.toNat),
      ("timePerTurn", .nat o.timePerTurn.toNat),
      ("speedrun", .bool o.speedrun),
      ("deckPlays", .bool o.deckPlays),
      ("emptyClues", .bool o.emptyClues),
      ("characterAssignments", .bool o.characterAssignments)]

/-- Reads options. -/
def read? (v : Json) : Option Options := do
  let field ← v.record? fields
  let variant ← required Json.text? (field "variant")
  let timed ← orElse false Json.bool? (field "timed")
  let baseTime ← orElse 0 Json.word32? (field "baseTime")
  let timePerTurn ← orElse 0 Json.word32? (field "timePerTurn")
  let speedrun ← orElse false Json.bool? (field "speedrun")
  let deckPlays ← orElse false Json.bool? (field "deckPlays")
  let emptyClues ← orElse false Json.bool? (field "emptyClues")
  let characterAssignments ← orElse false Json.bool? (field "characterAssignments")
  return ⟨variant, timed, baseTime, timePerTurn, speedrun, deckPlays, emptyClues,
    characterAssignments⟩

instance : Wire Options := ⟨json, read?⟩

end Options

end GameHall
