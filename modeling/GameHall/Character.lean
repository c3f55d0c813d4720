import GameHall.Luck

/-!
# Characters

A character is a handicap that a player carries through a game. A game with character assignments
deals every player a different one when it starts.

* `characters` is the whole list, and `Character.byId?` finds one by its number.
* `eligible` are the characters that make sense for a number of players.
* `deal` is the order in which the eligible characters are dealt.
-/

namespace GameHall

/-- A handicap for a player. -/
structure Character where
  id : Nat
  name : String
  description : String
  emoji : String
  /-- Without meaning where there are only two players. -/
  notForTwo : Bool
deriving DecidableEq, Repr

/-- All characters. -/
def characters : List Character :=
  [⟨0, "Fuming", "Can only clue numbers and [random color]", "🌋", false⟩,
    ⟨1, "Dumbfounded", "Can only clue colors and [random number]", "🤯", false⟩,
    ⟨2, "Inept", "Cannot give any clues that touch [random color] cards", "🤔", false⟩,
    ⟨3, "Awkward", "Cannot give any clues that touch [random number]s", "😬", false⟩,
    ⟨4, "Conservative", "Can only give clues that touch a single card", "🕇", false⟩,
    ⟨5, "Greedy", "Can only give clues that touch 2+ cards", "🤑", false⟩,
    ⟨6, "Picky", "Can only clue odd numbers or odd colors", "🤢", false⟩,
    ⟨7, "Spiteful", "Cannot clue the player to their left", "😈", true⟩,
    ⟨8, "Insolent", "Cannot clue the player to their right", "😏", true⟩,
    ⟨9, "Vindictive", "Must clue if they received a clue since their last turn", "🗡️", false⟩,
    ⟨10, "Miser", "Can only clue if there are 4 or more clues available", "💰", false⟩,
    ⟨11, "Compulsive",
      "Can only clue if it touches the newest or oldest card in someone's hand",
      "📺", false⟩,
    ⟨12, "Mood Swings", "Clues given must alternate between color and number", "👧", false⟩,
    ⟨13, "Insistent",
      "Must continue to clue cards until one of them is played or discarded",
      "😣", false⟩,
    ⟨14, "Vulnerable", "Cannot receive a number 2 or number 5 clue", "🛡️", false⟩,
    ⟨15, "Color-Blind", "Cannot receive a color clue", "👓", false⟩,
    ⟨67, "Follower",
      "Cannot play a card unless two cards of the same rank have already been played",
      "👁️", false⟩,
    ⟨17, "Impulsive", "Must play slot 1 if it has been clued", "💉", false⟩,
    ⟨18, "Indolent", "Cannot play a card if they played on the last round", "💺", false⟩,
    ⟨19, "Hesitant", "Cannot play cards from slot 1", "👴🏻", false⟩,
    ⟨21, "Anxious",
      "Cannot discard if there is an even number of clues available (including 0)",
      "😰", false⟩,
    ⟨22, "Traumatized", "Cannot discard if there is an odd number of clues available", "😨", false⟩,
    ⟨23, "Wasteful", "Cannot discard if there are 2 or more clues available", "🗑️", false⟩,
    ⟨24, "Genius", "Must clue both a number and a color (uses 2 clues)", "🧠", false⟩,
    ⟨25, "Synesthetic",
      "Must clue both a number and a color of the same value (uses 1 clue)",
      "🎨", false⟩,
    ⟨26, "Panicky", "When discarding, discards twice if 4 clues or less", "😳", false⟩,
    ⟨27, "Contrarian", "Play order inverts after taking a turn, 2-turn end game", "🙅", true⟩,
    ⟨28, "Stubborn",
      "Must perform a different action type than the player that came before them",
      "😠", false⟩,
    ⟨29, "Blind Spot", "Cannot see the cards of the player to their left", "🚗", true⟩,
    ⟨30, "Oblivious", "Cannot see the cards of the player to their right", "🚂", true⟩,
    ⟨31, "Forgetful", "Hand is shuffled after discarding (but before drawing)", "🔀", false⟩]

/-- The character of a number. -/
def Character.byId? (id : Nat) : Option Character := characters.find? fun c => c.id == id

/-- The characters that make sense for a number of players. -/
def eligible (players : Nat) : List Character :=
  characters.filter fun c => decide (2 < players) || !c.notForTwo

/-- The numbers of the eligible characters, in the order in which they are dealt. -/
def deal (luck : Nat) (players : Nat) : List Nat :=
  (shuffle luck (eligible players)).map Character.id

end GameHall
