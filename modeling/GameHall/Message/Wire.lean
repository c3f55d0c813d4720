import GameHall.Message

/-!
# Messages on the wire

A message is an object with its kind under `type` and its contents under `data`; news of a table is
one object with its kind under `type` beside its own fields.

* Writing puts the kind first.
* A reader that meets the contents before the kind holds them back until it knows the kind, and so
  does a reader of news with all members but the kind. What is held back must be `holdable`: nested
  no deeper than a text may be in all, with finite numbers and strings that spell a text.
* Contents that were held back are read a little more freely, as `Arrival.heldBack` says.
-/

namespace GameHall

/-- Whether a value can be held back: strings and names spell texts, numbers are finite, and arrays
and objects are nested at most `depth` levels. -/
def Json.holdable : Nat → Json → Bool
  | _, .null | _, .bool _ => true
  | _, .number n => n.isFinite
  | _, .string s => s.isSome
  | 0, .array _ | 0, .object _ => false
  | depth + 1, .array items => items.all (holdable depth)
  | depth + 1, .object ms => ms.all fun m => m.1.isSome && holdable depth m.2

/-- The levels of nesting that a whole text may have where something is held back. -/
def maxNesting : Nat := 127

/-- How the contents of a message reach their reader. -/
inductive Arrival
  /-- After their kind. -/
  | inOrder
  /-- Before their kind, so that they had to wait. The kind of news may then be given by its number
  in the list, and a severity may hold an empty object. -/
  | heldBack
deriving DecidableEq, Repr

/-! ## Severities -/

namespace Severity

/-- The word for a severity. -/
def display : Severity → String
  | warning => "warning"
  | error => "error"

/-- The words for the severities. -/
def words : List (String × Severity) :=
  [warning, error].map fun s => (s.display, s)

/-- Reads a severity. -/
def read? : Arrival → Json → Option Severity
  | .heldBack, .object [(some s, .object [])] => words.lookup s
  | _, v => Json.oneOf? words v

instance : Wire Severity where
  json s := .str s.display
  read? := read? .inOrder

end Severity

/-! ## News -/

namespace News

/-- The kinds of news. -/
inductive Kind
  | seatsChanged
  | watchersChanged
  | newLeader
  | boot
  | started
deriving DecidableEq, Repr

/-- The words for the kinds, in the order that numbers them. -/
def kinds : List (String × Kind) :=
  [("PlayerChange", .seatsChanged),
    ("SpectatorChange", .watchersChanged),
    ("ReplayLeader", .newLeader),
    ("Boot", .boot),
    ("GameStarted", .started)]

/-- News as it is written. -/
def json : News → Json
  | .seatsChanged => .members [("type", .str "PlayerChange")]
  | .watchersChanged => .members [("type", .str "SpectatorChange")]
  | .newLeader leader =>
    .members [("type", .str "ReplayLeader"), ("leader", .nat leader.val.toNat)]
  | .boot => .members [("type", .str "Boot")]
  | .started => .members [("type", .str "GameStarted")]

/-- Reads a kind of news: a word, or a number where it was held back. -/
def kind? : Arrival → Json → Option Kind
  | _, .string (some s) => kinds.lookup s
  | .heldBack, .number n => (Json.natBelow? kinds.length (.number n)).bind fun i =>
      kinds[i]?.map Prod.snd
  | _, _ => none

/-- News of a kind, with its leader if the kind has one. -/
def ofKind? (leader : Option Json) : Kind → Option News
  | .seatsChanged => some .seatsChanged
  | .watchersChanged => some .watchersChanged
  | .newLeader => (required Json.word64? leader).map fun u => .newLeader ⟨u⟩
  | .boot => some .boot
  | .started => some .started

/-- Reads news from the members of an object, whose values may be nested to the given depth. -/
def ofMembers? (arrival : Arrival) (depth : Nat) (ms : List (String × Json)) : Option News :=
  if !Json.givenOnce ["type"] ms then none
  else if !ms.all (fun m => m.1 == "type" || m.2.holdable depth) then none
  else (ms.lookup "type").bind fun tag =>
    (kind? arrival tag).bind fun kind =>
      if kind = .newLeader ∧ !Json.givenOnce ["leader"] ms then none
      else ofKind? (ms.lookup "leader") kind

/-- Reads news that stands `level` levels deep in its text. In an array the kind comes first, and
the leader second if the kind has one. -/
def read? (arrival : Arrival) (level : Nat) : Json → Option News
  | .object ms => (Json.named? ms).bind (ofMembers? arrival (maxNesting - (level + 1)))
  | .array [tag] => (kind? arrival tag).bind (ofKind? none)
  | .array [tag, leader] => (kind? arrival tag).bind fun kind =>
      if kind = .newLeader then ofKind? (some leader) kind else none
  | _ => none

instance : Wire News := ⟨json, read? .inOrder 0⟩

end News

/-! ## Messages -/

namespace Message

/-- The kinds of messages. -/
inductive Kind
  | table
  | chat
  | notice
deriving DecidableEq, Repr

/-- The words for the kinds. -/
def kinds : List (String × Kind) :=
  [("Table", .table), ("Chat", .chat), ("Notice", .notice)]

/-- A message as it is written. -/
def json : Message → Json
  | .table id news =>
    .members
      [("type", .str "Table"),
        ("data", .members [("table_id", .nat id.val), ("event", news.json)])]
  | .chat room text =>
    .members
      [("type", .str "Chat"),
        ("data", .members [("room", .str room), ("text", .str text)])]
  | .notice severity text =>
    .members
      [("type", .str "Notice"),
        ("data", .members [("severity", .str severity.display), ("text", .str text)])]

/-- Reads the contents of a message. The news of a table stands two levels deep in its text. -/
def ofData? (arrival : Arrival) (kind : Kind) (data : Json) : Option Message :=
  match data with
  | .object ms =>
    match kind with
    | .table => do
      let field ← Json.objectFields? ["table_id", "event"] ms
      let id ← required (Json.natBelow? UInt64.size) (field "table_id")
      let news ← required (News.read? arrival 2) (field "event")
      return .table ⟨id⟩ news
    | .chat => do
      let field ← Json.objectFields? ["room", "text"] ms
      let room ← required Json.text? (field "room")
      let text ← required Json.text? (field "text")
      return .chat room text
    | .notice => do
      let field ← Json.objectFields? ["severity", "text"] ms
      let severity ← required (Severity.read? arrival) (field "severity")
      let text ← required Json.text? (field "text")
      return .notice severity text
  | _ => none

/-- How the contents arrive among the members of an object. -/
def arrival (ms : List (String × Json)) : Arrival :=
  if ms.findIdx (·.1 == "type") < ms.findIdx (·.1 == "data") then .inOrder else .heldBack

/-- Reads a message from the members of an object. -/
def ofMembers? (ms : List (String × Json)) : Option Message :=
  if !Json.givenOnce ["type", "data"] ms then none
  else (ms.lookup "type").bind fun tag =>
    (Json.oneOf? kinds tag).bind fun kind =>
      (ms.lookup "data").bind fun data =>
        if arrival ms = .heldBack ∧ !data.holdable (maxNesting - 1) then none
        else ofData? (arrival ms) kind data

/-- Reads a message. In an array the kind comes first, as a plain word, and the contents second. -/
def read? : Json → Option Message
  | .object ms => (Json.named? ms).bind ofMembers?
  | .array [.string (some tag), data] => (kinds.lookup tag).bind fun kind =>
      ofData? .inOrder kind data
  | _ => none

instance : Wire Message := ⟨json, read?⟩

end Message

end GameHall
