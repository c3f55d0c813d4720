import GameHall.Character
import GameHall.Options
import GameHall.Phase
import GameHall.Session

/-!
# Tables

A table has seats and watchers. At a table for a game the seats are the players', and a seat whose
user lost the connection in the middle of a game stays. At a replay the seats are those of the
finished game, with nobody connected to them, and everyone there is watching.

* `Table.lobby` and `Table.review` are new tables.
* `Table.isPresent` says who is at a table: its watchers, and the connected players of a game.
* `Table.announce` and `Table.say` tell everyone at the table something.
* The owner leads the table. `Table.unseat` and `Table.dropWatcher` hand the lead on when the owner
  goes.
-/

namespace GameHall

/-- A list with the first entry that passes a test changed. -/
def changeFirst {α : Type} (test : α → Bool) (change : α → α) : List α → List α
  | [] => []
  | a :: as => if test a then change a :: as else a :: changeFirst test change as

/-- A seat at a table. -/
structure Seat where
  user : UserId
  /-- The name under which the seat was taken. -/
  name : String
  /-- The session connected to the seat, if there is one. -/
  session : Option Session
  /-- The number of the character that the player was dealt. -/
  character : Option Nat
deriving DecidableEq, Repr

namespace Seat

/-- A seat that a session takes. -/
def taken (s : Session) : Seat := ⟨s.user, s.name, some s, none⟩

/-- A seat of a finished game. -/
def past (u : UserId) (name : String) : Seat := ⟨u, name, none, none⟩

/-- Whether a session is connected to the seat. -/
def isConnected (p : Seat) : Bool := p.session.isSome

end Seat

/-- A table. -/
structure Table where
  id : TableId
  name : String
  /-- The user who leads the table. -/
  owner : UserId
  /-- The seats from left to right. -/
  seats : List Seat
  /-- Those watching, in the order of their arrival. -/
  watchers : List Session
  phase : Phase
  /-- Whether others may watch; only a replay can be kept to oneself. -/
  visible : Bool
  options : Options
  /-- The most seats. -/
  capacity : Nat
deriving DecidableEq, Repr

namespace Table

/-- A new table for a game, with its creator in the first seat. -/
def lobby (id : TableId) (name : String) (creator : Session) (options : Options)
    (capacity : Nat) : Table where
  id := id
  name := name
  owner := creator.user
  seats := [.taken creator]
  watchers := []
  phase := .pregame
  visible := true
  options := options
  capacity := capacity

/-- A new replay of a game with the given seats, watched by its creator. -/
def review (id : TableId) (name : String) (roster : List (UserId × String)) (creator : Session)
    (options : Options) (visible : Bool) : Table where
  id := id
  name := name
  owner := creator.user
  seats := roster.map fun p => .past p.1 p.2
  watchers := [creator]
  phase := .replay
  visible := visible
  options := options
  capacity := roster.length

/-! ## Who is there -/

/-- Whether the table is a replay. -/
def isReplay (t : Table) : Bool := t.phase == .replay

/-- Whether the table is a replay that others may watch. -/
def isSharedReplay (t : Table) : Bool := t.isReplay && t.visible

/-- Whether the table is a replay that only its owner may watch. -/
def isSoloReplay (t : Table) : Bool := t.isReplay && !t.visible

/-- The place of a user's seat. -/
def seatIndex? (t : Table) (u : UserId) : Option Nat := t.seats.findIdx? fun p => p.user == u

/-- The place of a user among the watchers. -/
def watcherIndex? (t : Table) (u : UserId) : Option Nat := t.watchers.findIdx? fun s => s.user == u

/-- Whether a user has a seat. -/
def hasSeat (t : Table) (u : UserId) : Bool := t.seats.any fun p => p.user == u

/-- Whether a user is watching. -/
def isWatching (t : Table) (u : UserId) : Bool := t.watchers.any fun s => s.user == u

/-- Whether a user has a seat at a game and is connected to it. -/
def isConnected (t : Table) (u : UserId) : Bool :=
  !t.isReplay && t.seats.any fun p => p.user == u && p.isConnected

/-- Whether a user has a seat at a game and lost the connection to it. -/
def isDetached (t : Table) (u : UserId) : Bool :=
  !t.isReplay && t.seats.any fun p => p.user == u && !p.isConnected

/-- Whether all seats are taken. -/
def isFull (t : Table) : Bool := decide (t.capacity ≤ t.seats.length)

/-- Whether nobody is left: no watcher, and no connected player of a game. -/
def isDeserted (t : Table) : Bool :=
  t.watchers.isEmpty && !(!t.isReplay && t.seats.any Seat.isConnected)

/-- Whether a user is at the table. -/
def isPresent (t : Table) (u : UserId) : Bool := t.isWatching u || t.isConnected u

/-- Whether the characters dealt to the players are eligible for their number and all differ. -/
def charactersFit (t : Table) : Bool :=
  let dealt := t.seats.filterMap Seat.character
  dealt.all (fun c => (eligible t.seats.length).any fun e => e.id == c) &&
    decide (dealt.eraseDups.length = dealt.length)

/-! ## Telling everyone -/

/-- The sessions at the table, players first. -/
def sessions (t : Table) : List Session := t.seats.filterMap Seat.session ++ t.watchers

/-- Tells everyone at the table that it has changed. -/
def announce (t : Table) (news : News) : List Delivery :=
  t.sessions.map fun s => ⟨s, .table t.id news⟩

/-- Says something in the table's chat room. -/
def say (t : Table) (text : String) : List Delivery :=
  t.sessions.map fun s => ⟨s, .chat t.id.room text⟩

/-! ## Coming and going -/

/-- The table with one more seat. -/
def seat (t : Table) (s : Session) : Table := { t with seats := t.seats ++ [.taken s] }

/-- The table without a user's seat. If the user led the table, the leftmost player takes over. -/
def unseat (t : Table) (u : UserId) : Table :=
  let seats := t.seats.eraseP fun p => p.user == u
  let owner := if t.owner = u then (seats.head?.map Seat.user).getD t.owner else t.owner
  { t with seats := seats, owner := owner }

/-- The table with one more watcher. -/
def addWatcher (t : Table) (s : Session) : Table := { t with watchers := t.watchers ++ [s] }

/-- The table without a watcher. If the watcher led a replay, the first of the others takes over. -/
def dropWatcher (t : Table) (u : UserId) : Table :=
  let watchers := t.watchers.eraseP fun s => s.user == u
  let owner :=
    if t.isReplay ∧ t.owner = u then (watchers.head?.map Session.user).getD t.owner else t.owner
  { t with watchers := watchers, owner := owner }

/-- Whether the lead of a replay passes on when a watcher goes. -/
def leadMoves (t : Table) (u : UserId) : Bool :=
  t.isReplay && t.owner == u && !(t.dropWatcher u).watchers.isEmpty

/-- The table with a user's seat kept and its connection forgotten. -/
def detach (t : Table) (u : UserId) : Table :=
  { t with
    seats := t.seats |> changeFirst (fun p => p.user == u) fun p => { p with session := none } }

/-- The table with a session connected to its user's seat, where the connection was lost. -/
def reattach (t : Table) (s : Session) : Table :=
  { t with
    seats := t.seats |> changeFirst (fun p => p.user == s.user && !p.isConnected) fun p =>
      { p with session := some s } }

/-- The table without a user whose connection closed, and the news of it. The last of several
changes is the one announced. -/
def withdraw (t : Table) (u : UserId) : Table × Option News :=
  let unwatched : Table × Option News :=
    if t.isWatching u then
      (t.dropWatcher u,
        some (if t.leadMoves u then .newLeader (t.dropWatcher u).owner else .watchersChanged))
    else (t, none)
  match t.phase with
  | .replay => unwatched
  | .running =>
    if (t.seats.find? fun p => p.user == u).any Seat.isConnected then
      (unwatched.1.detach u, some .seatsChanged)
    else unwatched
  | .pregame =>
    if t.hasSeat u then (unwatched.1.unseat u, some .seatsChanged) else unwatched

end Table

/-! ## Listings -/

/-- What a listing shows of a table. -/
structure Listing where
  id : TableId
  name : String
  owner : UserId
  phase : Phase
  visible : Bool
  /-- The names of the players in seat order. -/
  players : List String
  /-- The number of watchers. -/
  watchers : Nat
  capacity : Nat
  variant : String
deriving DecidableEq, Repr

/-- What a listing shows of a table. -/
def Table.listing (t : Table) : Listing where
  id := t.id
  name := t.name
  owner := t.owner
  phase := t.phase
  visible := t.visible
  players := t.seats.map Seat.name
  watchers := t.watchers.length
  capacity := t.capacity
  variant := t.options.variant

end GameHall
