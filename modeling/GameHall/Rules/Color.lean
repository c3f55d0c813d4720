import GameHall.Json.Record
import GameHall.Rules.Fault
import GameHall.Text.Case

/-!
# Colors

The clue colors of a rule book: what can be said about a card by color.

* `ColorEntry` is an entry as it is declared, `Color` as it is compiled.
* `ColorBook.compile` checks a list of entries one after the other: names must not be empty and
  must all differ.
-/

namespace GameHall.Rules

/-- A color as it is declared. -/
structure ColorEntry where
  name : String
  /-- The short form for notes. -/
  abbreviation : Option String
  /-- How the color is painted. -/
  fill : String
deriving DecidableEq, Repr

namespace ColorEntry

/-- The fields on the wire, in order. -/
def fields : List String := ["name", "abbreviation", "fill"]

/-- Reads an entry. -/
def read? (v : Json) : Option ColorEntry := do
  let field ← v.record? fields
  let name ← required Json.text? (field "name")
  let abbreviation ← nullable Json.text? (field "abbreviation")
  let fill ← required Json.text? (field "fill")
  return ⟨name, abbreviation, fill⟩

end ColorEntry

/-- A color. -/
structure Color where
  name : String
  abbreviation : String
  fill : String
deriving DecidableEq, Repr

/-- The uppercase form of the first letter of a name: its short form when none is declared. -/
def initial (name : String) : String :=
  match name.toList with
  | [] => ""
  | c :: _ => String.ofList (Text.upperChar c)

/-- The color that an entry declares. -/
def ColorEntry.color (r : ColorEntry) : Color :=
  ⟨r.name, r.abbreviation.getD (initial r.name), r.fill⟩

/-- The colors of a rule book, in the order of their declaration. -/
structure ColorBook where
  colors : List Color
deriving DecidableEq, Repr

namespace ColorBook

/-- The names of the colors. -/
def names (b : ColorBook) : List String := b.colors.map Color.name

/-- The color of a name. -/
def get? (b : ColorBook) (name : String) : Option Color :=
  b.colors.find? fun c => c.name == name

/-- Whether a name is the name of a color. -/
def contains (b : ColorBook) (name : String) : Bool := (b.get? name).isSome

/-- What keeps an entry out of the book. -/
def fault? (b : ColorBook) (r : ColorEntry) : Option Fault :=
  if r.name = "" then some (.nameless .color)
  else if b.contains r.name then some (.nameTaken .color r.name)
  else none

/-- Adds entries to the book, up to the first with a fault. -/
def extend (b : ColorBook) : List ColorEntry → Except Fault ColorBook
  | [] => .ok b
  | r :: rs =>
    match b.fault? r with
    | some f => .error f
    | none => extend ⟨b.colors ++ [r.color]⟩ rs

/-- The book of a list of entries. -/
def compile (rs : List ColorEntry) : Except Fault ColorBook := extend ⟨[]⟩ rs

end ColorBook

end GameHall.Rules
