import GameHall.Json.Value

/-!
# Writing JSON

The compact form of a value: no blanks, members in their order, and in a string only what has to be
escaped: quotes, backslashes and the control characters below U+0020.

* `Json.chars` is the written form of a value, and `Json.text` the same as a `String`.
-/

namespace GameHall

/-- The lowercase hexadecimal digit of a value below sixteen. -/
def hexDigit (n : Nat) : Char :=
  if n < 10 then Char.ofNat (48 + n) else Char.ofNat (87 + n)

/-- A character as it is written in a string. -/
def escape (c : Char) : List Char :=
  match c with
  | '"' => ['\\', '"']
  | '\\' => ['\\', '\\']
  | '\x08' => ['\\', 'b']
  | '\x0c' => ['\\', 'f']
  | '\n' => ['\\', 'n']
  | '\r' => ['\\', 'r']
  | '\t' => ['\\', 't']
  | c =>
    if c.toNat < 0x20 then
      ['\\', 'u', '0', '0', hexDigit (c.toNat / 16), hexDigit (c.toNat % 16)]
    else [c]

/-- A string in quotes. A string that spells no text is written as the half of a pair. -/
def quote : Option String → List Char
  | some s => '"' :: s.toList.flatMap escape ++ ['"']
  | none => ['"', '\\', 'u', 'd', '8', '0', '0', '"']

/-- The decimal digits of a natural number. -/
def decimal (n : Nat) : List Char := Nat.toDigits 10 n

namespace Numeral

/-- The digits after the point, with the point, if there are any. -/
def fractionChars : List (Fin 10) → List Char
  | [] => []
  | ds => '.' :: ds.map fun (d : Fin 10) => Char.ofNat (48 + d.val)

/-- The exponent, if there is one. -/
def exponentChars : Option Int → List Char
  | none => []
  | some e => 'e' :: (if e < 0 then ['-'] else []) ++ decimal e.natAbs

/-- The numeral as it is written. -/
def chars (n : Numeral) : List Char :=
  (if n.negative then ['-'] else []) ++ decimal n.whole ++ fractionChars n.fraction
    ++ exponentChars n.exponent

end Numeral

namespace Json

mutual

/-- The written form of a value. -/
def chars : Json → List Char
  | .null => ['n', 'u', 'l', 'l']
  | .bool true => ['t', 'r', 'u', 'e']
  | .bool false => ['f', 'a', 'l', 's', 'e']
  | .number n => n.chars
  | .string s => quote s
  | .array [] => ['[', ']']
  | .array (v :: vs) => '[' :: chars v ++ itemChars vs ++ [']']
  | .object [] => ['\x7b', '\x7d']
  | .object ((n, v) :: ms) =>
    '\x7b' :: quote n ++ ':' :: chars v ++ memberChars ms ++ ['\x7d']

/-- The items after the first, each behind a comma. -/
def itemChars : List Json → List Char
  | [] => []
  | v :: vs => ',' :: chars v ++ itemChars vs

/-- The members after the first, each behind a comma. -/
def memberChars : List (Option String × Json) → List Char
  | [] => []
  | (n, v) :: ms => ',' :: quote n ++ ':' :: chars v ++ memberChars ms

end

/-- The written form of a value, as a string. -/
def text (v : Json) : String := String.ofList v.chars

end Json

end GameHall
