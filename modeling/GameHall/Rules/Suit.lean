import GameHall.Rules.Color

/-!
# Suits

The suits of a rule book. An entry may ask for a reversed twin, which is the same suit played from
the top down.

* `SuitEntry` is an entry as it is declared, `Suit` as it is compiled.
* `SuitEntry.clueColors?` settles by which colors a suit can be clued.
* `SuitBook.compile` checks a list of entries one after the other: names must not be empty, colors
  must be known, and the names of suits and twins must all differ.
-/

namespace GameHall.Rules

/-- What stands behind the name of a suit in the name of its reversed twin. -/
def reversedSuffix : String := " Reversed"

/-- A suit as it is declared. -/
structure SuitEntry where
  name : String
  abbreviation : Option String
  /-- The colors that touch the suit; by default the color of its name. -/
  clueColors : Option (List String)
  /-- Every color touches the suit. -/
  allClueColors : Bool
  /-- No color touches the suit. -/
  noClueColors : Bool
  allClueRanks : Bool
  noClueRanks : Bool
  /-- There is only one card of each rank. -/
  oneOfEach : Bool
  /-- The suit has a reversed twin. -/
  createReversed : Bool
deriving DecidableEq, Repr

namespace SuitEntry

/-- The fields on the wire, in order. -/
def fields : List String :=
  ["name", "abbreviation", "clueColors", "allClueColors", "noClueColors", "allClueRanks",
    "noClueRanks", "oneOfEach", "createReversed"]

/-- Reads an entry. -/
def read? (v : Json) : Option SuitEntry := do
  let field ← v.record? fields
  let name ← required Json.text? (field "name")
  let abbreviation ← nullable Json.text? (field "abbreviation")
  let clueColors ← nullable (Json.list? Json.text?) (field "clueColors")
  let allClueColors ← orElse false Json.bool? (field "allClueColors")
  let noClueColors ← orElse false Json.bool? (field "noClueColors")
  let allClueRanks ← orElse false Json.bool? (field "allClueRanks")
  let noClueRanks ← orElse false Json.bool? (field "noClueRanks")
  let oneOfEach ← orElse false Json.bool? (field "oneOfEach")
  let createReversed ← orElse false Json.bool? (field "createReversed")
  return ⟨name, abbreviation, clueColors, allClueColors, noClueColors, allClueRanks, noClueRanks,
    oneOfEach, createReversed⟩

end SuitEntry

/-- A suit. -/
structure Suit where
  name : String
  abbreviation : String
  clueColors : List String
  allClueColors : Bool
  noClueColors : Bool
  allClueRanks : Bool
  noClueRanks : Bool
  oneOfEach : Bool
  /-- Played from the top down. -/
  reversed : Bool
deriving DecidableEq, Repr

/-- The reversed twin of a suit. -/
def Suit.twin (s : Suit) : Suit :=
  { s with name := s.name ++ reversedSuffix, reversed := true }

namespace SuitEntry

/-- The colors that touch a declared suit. -/
def clueColors? (r : SuitEntry) (colors : ColorBook) : Except Fault (List String) :=
  match r.clueColors with
  | some explicit =>
    match explicit.find? fun c => !colors.contains c with
    | some c => .error (.noSuchColor r.name c)
    | none => .ok explicit
  | none =>
    if r.allClueColors || r.noClueColors then .ok []
    else if colors.contains r.name then .ok [r.name]
    else .error (.noSuchColor r.name r.name)

/-- The suit that an entry declares, given the colors that touch it. -/
def suit (r : SuitEntry) (clueColors : List String) : Suit where
  name := r.name
  abbreviation := r.abbreviation.getD (initial r.name)
  clueColors := clueColors
  allClueColors := r.allClueColors
  noClueColors := r.noClueColors
  allClueRanks := r.allClueRanks
  noClueRanks := r.noClueRanks
  oneOfEach := r.oneOfEach
  reversed := false

/-- The suits that an entry declares: the suit itself and, if it has one, its twin. -/
def suits (r : SuitEntry) (clueColors : List String) : List Suit :=
  if r.createReversed then [r.suit clueColors, (r.suit clueColors).twin]
  else [r.suit clueColors]

end SuitEntry

/-- The suits of a rule book, in the order of their declaration, twins behind their suits. -/
structure SuitBook where
  suits : List Suit
deriving DecidableEq, Repr

namespace SuitBook

/-- The names of the suits. -/
def names (b : SuitBook) : List String := b.suits.map Suit.name

/-- The suit of a name. -/
def get? (b : SuitBook) (name : String) : Option Suit :=
  b.suits.find? fun s => s.name == name

/-- Whether a name is the name of a suit. -/
def contains (b : SuitBook) (name : String) : Bool := (b.get? name).isSome

/-- Adds suits to the book, up to the first whose name is taken. -/
def insertAll (b : SuitBook) : List Suit → Except Fault SuitBook
  | [] => .ok b
  | s :: ss =>
    if b.contains s.name then .error (.nameTaken .suit s.name)
    else insertAll ⟨b.suits ++ [s]⟩ ss

/-- Adds an entry to the book. -/
def insertEntry (b : SuitBook) (colors : ColorBook) (r : SuitEntry) : Except Fault SuitBook :=
  if r.name = "" then .error (.nameless .suit)
  else
    match r.clueColors? colors with
    | .error f => .error f
    | .ok clueColors => b.insertAll (r.suits clueColors)

/-- Adds entries to the book, up to the first with a fault. -/
def extend (b : SuitBook) (colors : ColorBook) : List SuitEntry → Except Fault SuitBook
  | [] => .ok b
  | r :: rs =>
    match b.insertEntry colors r with
    | .error f => .error f
    | .ok b' => b'.extend colors rs

/-- The book of a list of entries. -/
def compile (rs : List SuitEntry) (colors : ColorBook) : Except Fault SuitBook :=
  extend ⟨[]⟩ colors rs

end SuitBook

end GameHall.Rules
