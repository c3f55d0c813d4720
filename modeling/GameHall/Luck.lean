/-!
# Luck

What a hall leaves to chance. Chance is a number that the caller draws; every outcome is the
outcome of some number.

* `shuffle` puts a list into the order that a number picks.
* `tableName` is a name of two words for a table that no one has named.
* `Luck` holds the numbers for one operation.
-/

namespace GameHall

/-- What chance decides in one operation. -/
structure Luck where
  /-- Picks the name of a table. -/
  name : Nat
  /-- Picks the order in which characters are dealt. -/
  deal : Nat
deriving DecidableEq, Repr, Inhabited

/-- Shuffles a list: its first entry goes into a shuffle of the others, at the place that the
remainder of `luck` picks, and the quotient picks how the others lie. -/
def shuffle {α : Type} (luck : Nat) : List α → List α
  | [] => []
  | a :: as => (shuffle (luck / (as.length + 1)) as).insertIdx (luck % (as.length + 1)) a

/-- The first words of table names. -/
def adjectives : List String :=
  ["ancient", "bold", "brave", "bright", "calm", "clever", "cosmic", "crimson", "daring", "eager",
    "fancy", "gentle", "golden", "happy", "hidden", "jolly", "lucky", "mellow", "misty", "noble",
    "quiet", "rapid", "silent", "swift", "velvet", "wild"]

/-- The second words of table names. -/
def nouns : List String :=
  ["badger", "comet", "dragon", "falcon", "forest", "galaxy", "harbor", "lantern", "meadow",
    "nebula", "otter", "phoenix", "pirate", "raven", "river", "rocket", "sparrow", "summit",
    "thunder", "tiger", "voyage", "walrus", "willow", "wizard"]

/-- The word of a list that `luck` picks. -/
def pick (words : List String) (luck : Nat) : String :=
  words.getD (luck % words.length) ""

/-- A name of two words. -/
def tableName (luck : Nat) : String :=
  pick adjectives luck ++ " " ++ pick nouns (luck / adjectives.length)

end GameHall
