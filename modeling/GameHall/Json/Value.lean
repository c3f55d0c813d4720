import GameHall.Json.Numeral

/-!
# JSON values

A JSON value keeps what its text says and nothing of how it was laid out: the members of an object
stay in order and may repeat a name, and a number keeps its digits.

`Json.string` and the names of members hold `none` for a text whose escapes contain half of a
surrogate pair: such a string is well formed, but it spells no text.
-/

namespace GameHall

/-- A JSON value. -/
inductive Json
  | null
  | bool (b : Bool)
  | number (n : Numeral)
  | string (text : Option String)
  | array (items : List Json)
  | object (members : List (Option String × Json))
deriving Inhabited

namespace Json

/-- A string value. -/
def str (s : String) : Json := .string (some s)

/-- A natural number as a value. -/
def nat (n : Nat) : Json := .number (.ofNat n)

/-- An integer as a value. -/
def int (i : Int) : Json := .number (.ofInt i)

/-- An object with the given members. -/
def members (ms : List (String × Json)) : Json :=
  .object (ms.map fun m => (some m.1, m.2))

end Json

end GameHall
