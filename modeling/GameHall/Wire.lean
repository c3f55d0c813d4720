import GameHall.Json.Printer
import GameHall.Json.Reader
import GameHall.Json.Record

/-!
# Wire forms

Types whose values travel as JSON. `Wire.text` writes a value and `Wire.ofText?` reads one; a text
that does not spell a value of the type is refused without a reason.
-/

namespace GameHall

/-- A type with a JSON form. -/
class Wire (α : Type) where
  /-- The form in which a value is written. -/
  json : α → Json
  /-- The value that a form spells. -/
  read? : Json → Option α

namespace Wire

variable {α : Type} [Wire α]

/-- A value as text. -/
def text (a : α) : String := (json a).text

/-- Reads a value from a text. -/
def ofText? (s : String) : Option α := (Json.read? s).bind read?

end Wire

end GameHall
