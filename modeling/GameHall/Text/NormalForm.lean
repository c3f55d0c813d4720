import GameHall.Text.Blank
import GameHall.Text.Case

/-!
# The normal form of a name

Two names count as the same when they have the same words up to case. `normalForm` writes the words
in lowercase with one space between neighbours.
-/

namespace GameHall

namespace Text

/-- Joins words by single spaces. -/
def unwords : List (List Char) → List Char
  | [] => []
  | [w] => w
  | w :: ws => w ++ ' ' :: unwords ws

/-- The normal form of a text. -/
def normalChars (cs : List Char) : List Char := lowerChars (unwords (words cs))

end Text

/-- The normal form of a name. -/
def normalForm (name : String) : String := String.ofList (Text.normalChars name.toList)

end GameHall
