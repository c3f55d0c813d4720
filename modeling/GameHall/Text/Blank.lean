import GameHall.Text.CaseContext

/-!
# Blanks and words

The blank characters are those with the Unicode property `White_Space`. They separate words and are
dropped from the ends of a text.

* `words` lists the words of a text in order.
* `trim` drops the blanks at both ends.
-/

namespace GameHall

/-- The blank characters. -/
def blankRanges : List (Nat × Nat) :=
  [(0x9, 0xD), (0x20, 0x20), (0x85, 0x85), (0xA0, 0xA0), (0x1680, 0x1680), (0x2000, 0x200A),
   (0x2028, 0x2029), (0x202F, 0x202F), (0x205F, 0x205F), (0x3000, 0x3000)]

/-- Whether a character is blank. -/
def isBlank (c : Char) : Bool := inRanges blankRanges c.toNat

namespace Text

/-- The word whose letters have been read, last first, if there are any. -/
def closeWord (word : List Char) : List (List Char) :=
  if word = [] then [] else [word.reverse]

/-- The words of a text that starts inside of a word. -/
def wordsFrom (word : List Char) : List Char → List (List Char)
  | [] => closeWord word
  | c :: cs =>
    if isBlank c then closeWord word ++ wordsFrom [] cs else wordsFrom (c :: word) cs

/-- The words of a text: its longest runs without a blank. -/
def words (cs : List Char) : List (List Char) := wordsFrom [] cs

/-- The text without the blanks at its two ends. -/
def trim (cs : List Char) : List Char :=
  ((cs.dropWhile isBlank).reverse.dropWhile isBlank).reverse

end Text

/-- The string without the blanks at its two ends. -/
def trimmed (s : String) : String := String.ofList (Text.trim s.toList)

/-- Whether a string has nothing but blanks. -/
def isBlankText (s : String) : Bool := (Text.trim s.toList).isEmpty

end GameHall
