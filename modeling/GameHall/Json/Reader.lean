import GameHall.Json.Token

/-!
# Reading JSON

A value is built from its tokens by a machine with a stack of the arrays and objects that are still
open, so a text may nest as deeply as it likes.

* `Builder.step` takes one token; `Builder.feed` takes a list of them.
* `Json.read?` reads a whole text: exactly one value, with nothing but blanks around it.
-/

namespace GameHall

/-- An array or object that is open around the value being read. -/
inductive Frame
  /-- An array with the items before the value, last first. -/
  | array (items : List Json)
  /-- An object with the members before the value, last first, and the value's name. -/
  | member (members : List (Option String × Json)) (name : Option String)

/-- What has been built and what may come next. -/
inductive Builder
  /-- A value is due. -/
  | value (frames : List Frame)
  /-- An array has just been opened: its first item or its end is due. -/
  | opened (frames : List Frame)
  /-- An array has at least one item: a comma or its end is due. -/
  | items (items : List Json) (frames : List Frame)
  /-- A name is due, or the object's end if it has just been opened. -/
  | name (opened : Bool) (members : List (Option String × Json)) (frames : List Frame)
  /-- A name has been read: its colon is due. -/
  | colon (members : List (Option String × Json)) (name : Option String) (frames : List Frame)
  /-- An object has at least one member: a comma or its end is due. -/
  | members (members : List (Option String × Json)) (frames : List Frame)
  /-- The value is complete. -/
  | done (value : Json)

namespace Builder

/-- Puts a complete value where it belongs. -/
def place (v : Json) : List Frame → Builder
  | [] => .done v
  | .array is :: fs => .items (v :: is) fs
  | .member ms n :: fs => .members ((n, v) :: ms) fs

/-- The first token of a value. -/
def begin? (fs : List Frame) : Token → Option Builder
  | .arrayOpen => some (.opened fs)
  | .objectOpen => some (.name true [] fs)
  | .null => some (place .null fs)
  | .bool b => some (place (.bool b) fs)
  | .number n => some (place (.number n) fs)
  | .string s => some (place (.string s) fs)
  | .arrayClose | .objectClose | .comma | .colon => none

/-- One step of the builder. -/
def step : Builder → Token → Option Builder
  | .value fs, t => begin? fs t
  | .opened fs, .arrayClose => some (place (.array []) fs)
  | .opened fs, t => begin? (.array [] :: fs) t
  | .items is fs, .comma => some (.value (.array is :: fs))
  | .items is fs, .arrayClose => some (place (.array is.reverse) fs)
  | .name true _ fs, .objectClose => some (place (.object []) fs)
  | .name _ ms fs, .string n => some (.colon ms n fs)
  | .colon ms n fs, .colon => some (.value (.member ms n :: fs))
  | .members ms fs, .comma => some (.name false ms fs)
  | .members ms fs, .objectClose => some (place (.object ms.reverse) fs)
  | _, _ => none

/-- Runs the builder over a list of tokens. -/
def feed (b : Builder) : List Token → Option Builder
  | [] => some b
  | t :: ts =>
    match b.step t with
    | some b' => b'.feed ts
    | none => none

/-- The value, if it is complete. -/
def finish : Builder → Option Json
  | .done v => some v
  | _ => none

end Builder

namespace Json

/-- The value that a list of tokens spells. -/
def ofTokens? (ts : List Token) : Option Json :=
  ((Builder.value []).feed ts).bind Builder.finish

/-- Reads the value that a text spells. -/
def read? (text : String) : Option Json :=
  (tokens? text.toList).bind ofTokens?

end Json

end GameHall
