import GameHall.Json.Value

/-!
# Reading records out of JSON

How the shapes of this library's records are found in a value.

* `Json.record?` finds the fields of a record. An object gives them by name: unknown members are
  passed over, and a field given twice is an error. An array gives them by place, in the order in
  which the record lists them.
* `required`, `orElse` and `nullable` say what a missing field means.
* `Json.oneOf?` reads a value out of a closed list of words.
* The other readers are strict: a number is never read from a string, nor an integer from a numeral
  with a point, an exponent or a sign before zero.
-/

namespace GameHall

namespace Json

/-- The text of a string. -/
def text? : Json → Option String
  | .string s => s
  | _ => none

/-- The truth value. -/
def bool? : Json → Option Bool
  | .bool b => some b
  | _ => none

/-- The integer that a number spells. -/
def int? : Json → Option Int
  | .number n => n.int?
  | _ => none

/-- An integer from `low` up to but not including `high`. -/
def intWithin? (low high : Int) (v : Json) : Option Int :=
  v.int?.bind fun i => if low ≤ i ∧ i < high then some i else none

/-- An integer that fits a signed word of 32 bits. -/
def int32? : Json → Option Int := intWithin? Int32.minValue.toInt (Int32.maxValue.toInt + 1)

/-- An integer that fits a signed word of 64 bits. -/
def int64? : Json → Option Int := intWithin? Int64.minValue.toInt (Int64.maxValue.toInt + 1)

/-- A natural number below `bound`. -/
def natBelow? (bound : Nat) (v : Json) : Option Nat :=
  (v.intWithin? 0 bound).map Int.toNat

/-- A word of 32 bits. -/
def word32? (v : Json) : Option UInt32 :=
  (v.natBelow? UInt32.size).map UInt32.ofNat

/-- A word of 64 bits. -/
def word64? (v : Json) : Option UInt64 :=
  (v.natBelow? UInt64.size).map UInt64.ofNat

/-- A list, each of whose items `read` accepts. -/
def list? {α : Type} (read : Json → Option α) : Json → Option (List α)
  | .array items => items.mapM read
  | _ => none

/-- One of the words of a closed list. The word may also be the name of a single empty member. -/
def oneOf? {α : Type} (words : List (String × α)) : Json → Option α
  | .string (some s) => words.lookup s
  | .object [(some s, .null)] => words.lookup s
  | _ => none

/-! ## Records -/

/-- The members of an object with their names read, if every name spells a text. -/
def named? : List (Option String × Json) → Option (List (String × Json))
  | [] => some []
  | (some n, v) :: ms => (named? ms).map ((n, v) :: ·)
  | (none, _) :: _ => none

/-- Whether no name in `fields` is the name of two members. -/
def givenOnce (fields : List String) (ms : List (String × Json)) : Bool :=
  fields.all fun f => decide (ms.countP (fun m => m.1 == f) ≤ 1)

/-- The fields of a record that stands in an object. -/
def objectFields? (fields : List String) (ms : List (Option String × Json)) :
    Option (String → Option Json) :=
  match named? ms with
  | none => none
  | some ms => if givenOnce fields ms then some fun f => ms.lookup f else none

/-- The fields of a record, found by name in an object or by place in an array. -/
def record? (fields : List String) : Json → Option (String → Option Json)
  | .object ms => objectFields? fields ms
  | .array items =>
    if items.length ≤ fields.length then some fun f => items[fields.idxOf f]? else none
  | _ => none

end Json

/-- A field that must be given. -/
def required {α : Type} (read : Json → Option α) (field : Option Json) : Option α :=
  field.bind read

/-- A field that means `default` when it is missing. -/
def orElse {α : Type} (default : α) (read : Json → Option α) (field : Option Json) : Option α :=
  match field with
  | none => some default
  | some v => read v

/-- A field that may be missing or null, which mean the same. -/
def nullable {α : Type} (read : Json → Option α) (field : Option Json) : Option (Option α) :=
  match field with
  | none => some none
  | some .null => some none
  | some v => (read v).map some

end GameHall
