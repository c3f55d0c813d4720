import GameHall.Rules.Suit

/-!
# Variants

The variants of a rule book: the sets of suits and special rules that can be played.

* `VariantEntry` is an entry as it is declared, `Variant` as it is compiled.
* `VariantEntry.variant?` compiles one entry on its own.
* `VariantBook.compile` checks a list of entries one after the other: names and numbers must all
  differ, and every entry must compile. Then the numbers must be those from zero up to the last,
  and there must be a variant of the name `defaultName`.
-/

namespace GameHall.Rules

/-- The variant that every rule book must have. -/
def defaultName : String := "No Variant"

/-- How the name of a variant with start cards begins. -/
def upOrDown : String := "Up or Down"

/-- The rank of a start card. -/
def startRank : Int := 7

/-- The ranks of the cards of a suit, and the ranks that can be clued. -/
def ordinaryRanks : List Int := [1, 2, 3, 4, 5]

/-- The special rank of a variant that has none. -/
def noSpecialRank : Int := -1

/-- What a suit is worth when it is played to the end. -/
def pointsPerSuit : Nat := 5

/-- The rules of a variant that are either on or off. -/
structure Twists where
  colorCluesTouchNothing : Bool
  rankCluesTouchNothing : Bool
  specialAllClueColors : Bool
  specialAllClueRanks : Bool
  specialNoClueColors : Bool
  specialNoClueRanks : Bool
  specialDeceptive : Bool
  oddsAndEvens : Bool
  funnels : Bool
  chimneys : Bool
deriving DecidableEq, Repr

/-- A variant as it is declared. -/
structure VariantEntry where
  name : String
  id : Int
  suits : List String
  /-- The colors that can be clued; by default those that touch some of the suits. -/
  clueColors : Option (List String)
  clueRanks : Option (List Int)
  specialRank : Option Int
  twists : Twists
  showSuitNames : Bool
deriving DecidableEq, Repr

namespace VariantEntry

/-- The fields on the wire, in order. -/
def fields : List String :=
  ["name", "id", "suits", "clueColors", "clueRanks", "specialRank", "colorCluesTouchNothing",
    "rankCluesTouchNothing", "specialAllClueColors", "specialAllClueRanks", "specialNoClueColors",
    "specialNoClueRanks", "specialDeceptive", "oddsAndEvens", "funnels", "chimneys",
    "showSuitNames"]

/-- Reads the rules that are on or off. -/
def twists? (field : String → Option Json) : Option Twists := do
  let colorCluesTouchNothing ← orElse false Json.bool? (field "colorCluesTouchNothing")
  let rankCluesTouchNothing ← orElse false Json.bool? (field "rankCluesTouchNothing")
  let specialAllClueColors ← orElse false Json.bool? (field "specialAllClueColors")
  let specialAllClueRanks ← orElse false Json.bool? (field "specialAllClueRanks")
  let specialNoClueColors ← orElse false Json.bool? (field "specialNoClueColors")
  let specialNoClueRanks ← orElse false Json.bool? (field "specialNoClueRanks")
  let specialDeceptive ← orElse false Json.bool? (field "specialDeceptive")
  let oddsAndEvens ← orElse false Json.bool? (field "oddsAndEvens")
  let funnels ← orElse false Json.bool? (field "funnels")
  let chimneys ← orElse false Json.bool? (field "chimneys")
  return ⟨colorCluesTouchNothing, rankCluesTouchNothing, specialAllClueColors,
    specialAllClueRanks, specialNoClueColors, specialNoClueRanks, specialDeceptive, oddsAndEvens,
    funnels, chimneys⟩

/-- Reads an entry. -/
def read? (v : Json) : Option VariantEntry := do
  let field ← v.record? fields
  let name ← required Json.text? (field "name")
  let id ← required Json.int64? (field "id")
  let suits ← required (Json.list? Json.text?) (field "suits")
  let clueColors ← nullable (Json.list? Json.text?) (field "clueColors")
  let clueRanks ← nullable (Json.list? Json.int32?) (field "clueRanks")
  let specialRank ← nullable Json.int32? (field "specialRank")
  let twists ← twists? field
  let showSuitNames ← orElse false Json.bool? (field "showSuitNames")
  return ⟨name, id, suits, clueColors, clueRanks, specialRank, twists, showSuitNames⟩

end VariantEntry

/-- A variant. -/
structure Variant where
  name : String
  id : Nat
  suits : List Suit
  /-- The ranks of the cards. -/
  ranks : List Int
  clueColors : List String
  clueRanks : List Int
  /-- The rank with rules of its own, or `noSpecialRank`. -/
  specialRank : Int
  twists : Twists
  showSuitNames : Bool
  /-- Some suit is touched by several colors. -/
  offsetCornerElements : Bool
  maxScore : Nat
deriving DecidableEq, Repr

/-- Whether a name is that of a variant with start cards. -/
def startsUpOrDown (name : String) : Bool := upOrDown.toList.isPrefixOf name.toList

namespace Variant

/-- Whether the variant has a special rank. -/
def hasSpecialRank (v : Variant) : Bool := v.specialRank != noSpecialRank

/-- Whether the variant has start cards. -/
def isUpOrDown (v : Variant) : Bool := startsUpOrDown v.name

end Variant

namespace VariantEntry

/-- The suits that an entry names. -/
def suits? (r : VariantEntry) (suits : SuitBook) : List String → Except Fault (List Suit)
  | [] => .ok []
  | n :: ns =>
    match suits.get? n with
    | none => .error (.noSuchSuit r.name n)
    | some s =>
      match r.suits? suits ns with
      | .error f => .error f
      | .ok ss => .ok (s :: ss)

/-- The colors that touch some of the suits, in the order in which they first appear. Suits that
every color touches do not count. -/
def derivedColors (suits : List Suit) : List String :=
  ((suits.filter fun s => !s.allClueColors).flatMap Suit.clueColors).eraseDups

/-- The colors that can be clued. -/
def clueColors? (r : VariantEntry) (suits : List Suit) (colors : ColorBook) :
    Except Fault (List String) :=
  match r.clueColors with
  | none => .ok (derivedColors suits)
  | some explicit =>
    match explicit.find? fun c => !colors.contains c with
    | some c => .error (.noSuchColor r.name c)
    | none => .ok explicit

/-- The special rank. Zero stands for none. -/
def specialRank? (r : VariantEntry) : Except Fault Int :=
  match r.specialRank with
  | none => .ok noSpecialRank
  | some rank =>
    if rank = 0 then .ok noSpecialRank
    else if rank < noSpecialRank then .error (.rankTooLow r.name rank)
    else .ok rank

/-- The variant that an entry declares, once its parts are settled. -/
def assemble (r : VariantEntry) (id : Nat) (suits : List Suit) (clueColors : List String)
    (specialRank : Int) : Variant where
  name := r.name
  id := id
  suits := suits
  ranks := if startsUpOrDown r.name then ordinaryRanks ++ [startRank] else ordinaryRanks
  clueColors := clueColors
  clueRanks := r.clueRanks.getD ordinaryRanks
  specialRank := specialRank
  twists := r.twists
  showSuitNames := r.showSuitNames || suits.any Suit.reversed
  offsetCornerElements := suits.any fun s => decide (1 < s.clueColors.length)
  maxScore := suits.length * pointsPerSuit

/-- Compiles an entry on its own, under the given number. -/
def variant? (r : VariantEntry) (id : Nat) (suits : SuitBook) (colors : ColorBook) :
    Except Fault Variant :=
  if r.suits = [] then .error (.noSuits r.name)
  else
    match r.suits? suits r.suits with
    | .error f => .error f
    | .ok ss =>
      match r.clueColors? ss colors with
      | .error f => .error f
      | .ok clueColors =>
        match r.specialRank? with
        | .error f => .error f
        | .ok rank => .ok (r.assemble id ss clueColors rank)

end VariantEntry

/-! ## The book -/

/-- The variant of a name among those of a list. -/
def byName? (vs : List Variant) (name : String) : Option Variant :=
  vs.find? fun v => v.name == name

/-- The variant of a number among those of a list. -/
def byId? (vs : List Variant) (id : Nat) : Option Variant :=
  vs.find? fun v => v.id == id

/-- The variants of a rule book, in the order of their declaration. -/
structure VariantBook where
  variants : List Variant
  /-- The variant of the name `defaultName`. -/
  default : Variant
deriving DecidableEq, Repr

namespace VariantBook

/-- The names of the variants. -/
def names (b : VariantBook) : List String := b.variants.map Variant.name

/-- The variant of a name. -/
def byName? (b : VariantBook) (name : String) : Option Variant := Rules.byName? b.variants name

/-- The variant of a number. -/
def byId? (b : VariantBook) (id : Nat) : Option Variant := Rules.byId? b.variants id

/-- Whether a name is the name of a variant. -/
def contains (b : VariantBook) (name : String) : Bool := (b.byName? name).isSome

/-- Compiles an entry behind the variants compiled before it. -/
def next? (before : List Variant) (suits : SuitBook) (colors : ColorBook) (r : VariantEntry) :
    Except Fault Variant :=
  if r.name = "" then .error (.nameless .variant)
  else if (Rules.byName? before r.name).isSome then .error (.nameTaken .variant r.name)
  else if r.id < 0 ∨ UInt32.size ≤ r.id then .error (.idOutOfRange r.name r.id)
  else if (Rules.byId? before r.id.toNat).isSome then .error (.idTaken r.id.toNat)
  else r.variant? r.id.toNat suits colors

/-- Compiles entries behind the variants compiled before them, up to the first with a fault. -/
def extend (before : List Variant) (suits : SuitBook) (colors : ColorBook) :
    List VariantEntry → Except Fault (List Variant)
  | [] => .ok before
  | r :: rs =>
    match next? before suits colors r with
    | .error f => .error f
    | .ok v => extend (before ++ [v]) suits colors rs

/-- The first number that the variants of a list leave out, counting from zero up to their number in
words of 32 bits. -/
def missingId? (vs : List Variant) : Option Nat :=
  ((List.range vs.length).map (· % UInt32.size)).find? fun id => (Rules.byId? vs id).isNone

/-- The book of a list of entries. -/
def compile (rs : List VariantEntry) (suits : SuitBook) (colors : ColorBook) :
    Except Fault VariantBook :=
  match extend [] suits colors rs with
  | .error f => .error f
  | .ok vs =>
    match missingId? vs with
    | some id => .error (.idMissing id)
    | none =>
      match Rules.byName? vs defaultName with
      | none => .error (.defaultMissing defaultName)
      | some v => .ok ⟨vs, v⟩

end VariantBook

end GameHall.Rules
