import GameHall.Text.CaseContext
import GameHall.Text.CaseTable

/-!
# Changing case

* `lowerChars` is the lowercase form of a text. A capital sigma becomes the final small sigma at the
  end of a word and the ordinary one elsewhere; every other character is mapped on its own.
* `upperChar` is the uppercase form of one character, which may have several characters.
-/

namespace GameHall

namespace Text

/-- The partner of a character in a table of runs; the character itself when it is in none. -/
def shifted (runs : List CaseRun) (c : Char) : Char :=
  match runs.find? fun r => r.covers c.toNat with
  | some r => Char.ofNat (c.toNat + r.shift).toNat
  | none => c

/-- The lowercase form of a character on its own. -/
def lowerChar (c : Char) : List Char :=
  if c = dottedI then lowerDottedI else [shifted lowerRuns c]

/-- The uppercase form of a character. -/
def upperChar (c : Char) : List Char :=
  match upperSpecials.lookup c.toNat with
  | some ns => ns.map Char.ofNat
  | none => [shifted upperRuns c]

/-! ## Sigma -/

/-- Greek capital sigma. -/
def capitalSigma : Char := '\u03A3'

/-- Greek small sigma, as it is written inside of a word. -/
def smallSigma : Char := '\u03C3'

/-- Greek small sigma, as it is written at the end of a word. -/
def finalSigma : Char := '\u03C2'

/-- Whether the first character that casing does not look through has a case. -/
def meetsCased (cs : List Char) : Bool :=
  match cs.dropWhile isCaseIgnorable with
  | [] => false
  | c :: _ => isCased c

/-- The lowercase form of a capital sigma between two texts, the one before it given backwards. -/
def lowerSigma (before after : List Char) : Char :=
  if meetsCased before && !meetsCased after then finalSigma else smallSigma

/-! ## Texts -/

/-- The lowercase form of a text that follows another, given backwards. -/
def lowerAfter (before : List Char) : List Char → List Char
  | [] => []
  | c :: cs =>
    (if c = capitalSigma then [lowerSigma before cs] else lowerChar c)
      ++ lowerAfter (c :: before) cs

/-- The lowercase form of a text. -/
def lowerChars (cs : List Char) : List Char := lowerAfter [] cs

end Text

end GameHall
