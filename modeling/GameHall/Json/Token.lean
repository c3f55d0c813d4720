import GameHall.Json.Value

/-!
# JSON tokens

A text is cut into tokens by a machine that takes one character at a time.

* `Quoted` gathers the characters of a string and joins the halves of surrogate pairs.
* `Numeral.Scan` gathers the digits of a number.
* `Scanner.step` is the machine's step; `Scanner.feed` runs it over a text, and `tokens?` is the
  list of tokens of a text, if every character of it belongs to one or is blank.

Blanks are the four that JSON knows: space, tab, line feed and carriage return.
-/

namespace GameHall

/-- The tokens of a JSON text. -/
inductive Token
  | arrayOpen
  | arrayClose
  | objectOpen
  | objectClose
  | comma
  | colon
  | null
  | bool (b : Bool)
  | number (n : Numeral)
  | string (text : Option String)
deriving DecidableEq, Repr

/-- The value of a decimal digit. -/
def digit? (c : Char) : Option (Fin 10) :=
  if h : '0' ≤ c ∧ c ≤ '9' then
    some ⟨c.toNat - 48, by
      have : c.toNat ≤ 57 := h.2
      omega⟩
  else none

/-- The value of a hexadecimal digit of either case. -/
def hexDigit? (c : Char) : Option Nat :=
  if '0' ≤ c ∧ c ≤ '9' then some (c.toNat - 48)
  else if 'a' ≤ c ∧ c ≤ 'f' then some (c.toNat - 87)
  else if 'A' ≤ c ∧ c ≤ 'F' then some (c.toNat - 55)
  else none

/-! ## Strings -/

/-- The part of a string that has been read. -/
structure Quoted where
  /-- The characters so far, last first; `none` once half of a surrogate pair stood alone. -/
  text : Option (List Char)
  /-- The first half of a surrogate pair whose second half is due. -/
  half : Option Nat
deriving DecidableEq, Repr

namespace Quoted

/-- Nothing read yet. -/
def start : Quoted := ⟨some [], none⟩

/-- Adds a character. -/
def push (q : Quoted) (c : Char) : Quoted :=
  match q.half with
  | some _ => ⟨none, none⟩
  | none => ⟨q.text.map (c :: ·), none⟩

/-- The character that two halves of a surrogate pair stand for. -/
def pair (high low : Nat) : Char :=
  Char.ofNat (0x10000 + (high - 0xD800) * 0x400 + (low - 0xDC00))

/-- Adds a 16-bit unit written as an escape. -/
def pushUnit (q : Quoted) (u : Nat) : Quoted :=
  match q.half with
  | some high =>
    if 0xDC00 ≤ u ∧ u ≤ 0xDFFF then ⟨q.text.map (pair high u :: ·), none⟩ else ⟨none, none⟩
  | none =>
    if 0xD800 ≤ u ∧ u ≤ 0xDBFF then ⟨q.text, some u⟩
    else if 0xDC00 ≤ u ∧ u ≤ 0xDFFF then ⟨none, none⟩
    else ⟨q.text.map (Char.ofNat u :: ·), none⟩

/-- The text of the string, if it spells one. -/
def close (q : Quoted) : Option String :=
  match q.half with
  | some _ => none
  | none => q.text.map fun cs => String.ofList cs.reverse

end Quoted

/-- Where in a string the next character stands. -/
inductive QuotedPart
  /-- Outside of escapes. -/
  | plain
  /-- After a backslash. -/
  | escape
  /-- In a numbered escape that is `due` digits short. -/
  | hex (due : Nat) (value : Nat)
deriving DecidableEq, Repr

/-- The character that a one-letter escape stands for. -/
def escaped? : Char → Option Char
  | '"' => some '"'
  | '\\' => some '\\'
  | '/' => some '/'
  | 'b' => some '\x08'
  | 'f' => some '\x0c'
  | 'n' => some '\n'
  | 'r' => some '\r'
  | 't' => some '\t'
  | _ => none

/-! ## Numbers -/

namespace Numeral

/-- The part of a numeral that the last character belongs to. -/
inductive Part
  /-- The minus sign. -/
  | sign
  /-- A leading zero, which no digit may follow. -/
  | zero
  | whole
  /-- The decimal point. -/
  | point
  | fraction
  /-- The letter before the exponent. -/
  | mark
  /-- The sign of the exponent. -/
  | markSign
  | exponent
deriving DecidableEq, Repr

/-- The part of a numeral that has been read. -/
structure Scan where
  part : Part
  negative : Bool
  whole : Nat
  /-- The digits after the point, last first. -/
  fraction : List (Fin 10)
  exponentNegative : Bool
  exponent : Nat
deriving DecidableEq, Repr

namespace Scan

/-- Begins a numeral with its first character. -/
def start? (c : Char) : Option Scan :=
  if c = '-' then some ⟨.sign, true, 0, [], false, 0⟩
  else match digit? c with
    | none => none
    | some d => some ⟨if d = 0 then .zero else .whole, false, d, [], false, 0⟩

/-- The scan after the letter of an exponent. -/
def toMark? (s : Scan) (c : Char) : Option Scan :=
  if c = 'e' ∨ c = 'E' then some { s with part := .mark } else none

/-- The scan after a digit of the exponent. -/
def toExponent? (s : Scan) (c : Char) : Option Scan :=
  (digit? c).map fun d => { s with part := .exponent, exponent := 10 * s.exponent + d }

/-- The scan after a point or the letter of an exponent. -/
def toPoint? (s : Scan) (c : Char) : Option Scan :=
  if c = '.' then some { s with part := .point } else s.toMark? c

/-- The scan after one more character, if the character continues the numeral. -/
def next? (s : Scan) (c : Char) : Option Scan :=
  match s.part with
  | .sign => (digit? c).map fun d =>
      { s with part := if d = 0 then .zero else .whole, whole := d }
  | .zero => s.toPoint? c
  | .whole =>
    match digit? c with
    | some d => some { s with whole := 10 * s.whole + d }
    | none => s.toPoint? c
  | .point => (digit? c).map fun d => { s with part := .fraction, fraction := d :: s.fraction }
  | .fraction =>
    match digit? c with
    | some d => some { s with fraction := d :: s.fraction }
    | none => s.toMark? c
  | .mark =>
    if c = '+' then some { s with part := .markSign }
    else if c = '-' then some { s with part := .markSign, exponentNegative := true }
    else s.toExponent? c
  | .markSign => s.toExponent? c
  | .exponent => s.toExponent? c

/-- The exponent that has been read. -/
def exponentValue (s : Scan) : Int :=
  if s.exponentNegative then -s.exponent else s.exponent

/-- The numeral, if it may end here. -/
def numeral? (s : Scan) : Option Numeral :=
  match s.part with
  | .zero | .whole => some ⟨s.negative, s.whole, [], none⟩
  | .fraction => some ⟨s.negative, s.whole, s.fraction.reverse, none⟩
  | .exponent => some ⟨s.negative, s.whole, s.fraction.reverse, some s.exponentValue⟩
  | .sign | .point | .mark | .markSign => none

end Scan

end Numeral

/-! ## The machine -/

/-- What the scanner is in the middle of. -/
inductive Mode
  /-- Between tokens. -/
  | between
  /-- In a fixed word, with the letters still due. -/
  | word (token : Token) (due : List Char)
  | number (scan : Numeral.Scan)
  | quoted (text : Quoted) (part : QuotedPart)
deriving DecidableEq, Repr

/-- The scanner's state: what it is in the middle of, and the tokens before that, last first. -/
structure Scanner where
  mode : Mode
  tokens : List Token
deriving DecidableEq, Repr

namespace Scanner

/-- The state before the first character. -/
def start : Scanner := ⟨.between, []⟩

/-- Adds a finished token. -/
def emit (s : Scanner) (t : Token) : Scanner := ⟨.between, t :: s.tokens⟩

/-- A character between tokens: a blank, a mark of punctuation, or the start of a longer token. -/
def begin? (s : Scanner) (c : Char) : Option Scanner :=
  match c with
  | ' ' | '\t' | '\n' | '\r' => some { s with mode := .between }
  | '[' => some (s.emit .arrayOpen)
  | ']' => some (s.emit .arrayClose)
  | '\x7b' => some (s.emit .objectOpen)
  | '\x7d' => some (s.emit .objectClose)
  | ',' => some (s.emit .comma)
  | ':' => some (s.emit .colon)
  | '"' => some { s with mode := .quoted .start .plain }
  | 'n' => some { s with mode := .word .null ['u', 'l', 'l'] }
  | 't' => some { s with mode := .word (.bool true) ['r', 'u', 'e'] }
  | 'f' => some { s with mode := .word (.bool false) ['a', 'l', 's', 'e'] }
  | c => (Numeral.Scan.start? c).map fun n => { s with mode := .number n }

/-- A character inside a string. -/
def quote? (s : Scanner) (q : Quoted) (part : QuotedPart) (c : Char) : Option Scanner :=
  match part with
  | .plain =>
    if c = '"' then some (s.emit (.string q.close))
    else if c = '\\' then some { s with mode := .quoted q .escape }
    else if c.toNat < 0x20 then none
    else some { s with mode := .quoted (q.push c) .plain }
  | .escape =>
    if c = 'u' then some { s with mode := .quoted q (.hex 4 0) }
    else (escaped? c).map fun e => { s with mode := .quoted (q.push e) .plain }
  | .hex due value =>
    (hexDigit? c).map fun d =>
      if due ≤ 1 then { s with mode := .quoted (q.pushUnit (16 * value + d)) .plain }
      else { s with mode := .quoted q (.hex (due - 1) (16 * value + d)) }

/-- One step of the scanner. A number ends at the first character that does not continue it, and
that character then starts what follows. -/
def step (s : Scanner) (c : Char) : Option Scanner :=
  match s.mode with
  | .between => s.begin? c
  | .word token due =>
    match due with
    | [] => none
    | [d] => if c = d then some (s.emit token) else none
    | d :: ds => if c = d then some { s with mode := .word token ds } else none
  | .number scan =>
    match scan.next? c with
    | some scan' => some { s with mode := .number scan' }
    | none =>
      match scan.numeral? with
      | some n => (s.emit (.number n)).begin? c
      | none => none
  | .quoted q part => s.quote? q part c

/-- Runs the scanner over a text. -/
def feed (s : Scanner) : List Char → Option Scanner
  | [] => some s
  | c :: cs =>
    match s.step c with
    | some s' => s'.feed cs
    | none => none

/-- The tokens read, if the text may end here. -/
def finish (s : Scanner) : Option (List Token) :=
  match s.mode with
  | .between => some s.tokens.reverse
  | .number scan => scan.numeral?.map fun n => (Token.number n :: s.tokens).reverse
  | .word .. | .quoted .. => none

end Scanner

/-- The tokens of a text. -/
def tokens? (text : List Char) : Option (List Token) :=
  (Scanner.start.feed text).bind Scanner.finish

end GameHall
