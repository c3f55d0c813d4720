import GameHall.Hall
import GameHall.Text.Blank

/-!
# Opening tables, taking seats, watching

The operations by which users come to tables and go from them. Each first looks for an obstacle, in
a fixed order, and changes nothing when it finds one.

* `Hall.openTable` and `Hall.openReplay` open tables.
* `Hall.join` takes a seat in a lobby, or the user's own seat at a running game again, which is
  possible even while the hall is winding down. `Hall.leave` gives up a seat in a lobby.
* `Hall.watch` and `Hall.stopWatching` are the same for watchers.
* `Hall.disconnect` takes a user away from everywhere.
* `Hall.windDown` is the begin of a shutdown that lets running games finish.
-/

namespace GameHall

namespace Hall

/-! ## New tables -/

/-- What stands against a new table. -/
def openingObstacle? (h : Hall) (name : String) (options : Options) : Option Refusal :=
  if h.windingDown then some .windingDown
  else if isBlankText name then some .nameless
  else if !h.variants.contains options.variant then some (.noVariant options.variant)
  else none

/-- Opens a table for a game, with its creator in the first seat. -/
def openTable (h : Hall) (creator : Session) (name : String) (options : Options) :
    Outcome Refusal TableId :=
  match h.openingObstacle? name options with
  | some e => h.refuse e
  | none =>
    match h.otherGame? creator.user none with
    | some other => h.refuse (.playingElsewhere creator.user other)
    | none =>
      h.add creator
        (.lobby ⟨h.nextId⟩ (trimmed name) creator options h.limits.maxPlayers.toNat)

/-- Opens a replay of a finished game with the given seats, watched by its creator. -/
def openReplay (h : Hall) (creator : Session) (name : String) (roster : List (UserId × String))
    (options : Options) (visible : Bool) : Outcome Refusal TableId :=
  match h.openingObstacle? name options with
  | some e => h.refuse e
  | none =>
    if roster.isEmpty then h.refuse (.wrongPhase "a replay needs the original players")
    else h.add creator (.review ⟨h.nextId⟩ (trimmed name) roster creator options visible)

/-! ## Seats -/

/-- The first of several users who is playing at some table, with the table. -/
def firstSeated? (h : Hall) : List UserId → Option (UserId × TableId)
  | [] => none
  | u :: us =>
    match h.otherGame? u none with
    | some id => some (u, id)
    | none => h.firstSeated? us

/-- What stands against seating several users at a new table. -/
def seatingObstacle? (h : Hall) (users : List UserId) : Option Refusal :=
  if h.windingDown then some .windingDown
  else (h.firstSeated? users).map fun p => .playingElsewhere p.1 p.2

/-- Checks that a new table could be opened and several users seated there. -/
def checkSeating (h : Hall) (users : List UserId) : Outcome Refusal Unit :=
  match h.seatingObstacle? users with
  | some e => h.refuse e
  | none => h.done

/-- What stands against a new seat at a table. -/
def joinObstacle? (h : Hall) (u : UserId) (t : Table) : Option Refusal :=
  if h.windingDown then some .windingDown
  else
    match h.otherGame? u (some t.id) with
    | some other => some (.playingElsewhere u other)
    | none =>
      if t.phase = .replay then some (.wrongPhase "cannot join a replay")
      else if t.phase = .running then some (.wrongPhase "the game has already started")
      else if t.hasSeat u then some (.alreadySeated u t.id)
      else if t.isFull then some (.full t.id)
      else none

/-- Takes a seat, or takes one's own seat at a running game again. -/
def join (h : Hall) (s : Session) (id : TableId) : Outcome Refusal Unit :=
  match h.table? id with
  | none => h.refuse (.noTable id)
  | some t =>
    if t.phase = .running ∧ t.isDetached s.user then
      match h.otherGame? s.user (some id) with
      | some other => h.refuse (.playingElsewhere s.user other)
      | none => h.arrive s.user (t.reattach s) .seatsChanged
    else
      match h.joinObstacle? s.user t with
      | some e => h.refuse e
      | none => h.arrive s.user (t.seat s) .seatsChanged

/-- What stands against giving up a seat. -/
def leaveObstacle? (u : UserId) (t : Table) : Option Refusal :=
  match t.phase with
  | .replay => some (.wrongPhase "leave a replay by no longer spectating it")
  | .running => some (.wrongPhase "the game has already started")
  | .pregame => if t.hasSeat u then none else some (.notSeated u t.id)

/-- Gives up a seat in a lobby. -/
def leave (h : Hall) (u : UserId) (id : TableId) : Outcome Refusal Unit :=
  match h.table? id with
  | none => h.refuse (.noTable id)
  | some t =>
    match leaveObstacle? u t with
    | some e => h.refuse e
    | none => h.depart u (t.unseat u) [.seatsChanged]

/-! ## Watching -/

/-- What stands against watching a table. -/
def watchObstacle? (u : UserId) (t : Table) : Option Refusal :=
  if !t.phase.isWatchable then some (.wrongPhase "the game has not started yet")
  else if t.isSoloReplay ∧ t.owner ≠ u then some (.wrongPhase "that replay is private")
  else if !t.isReplay ∧ t.hasSeat u then some (.alreadySeated u t.id)
  else if t.isWatching u then some (.alreadyWatching u t.id)
  else none

/-- Begins to watch a running game or a replay. -/
def watch (h : Hall) (s : Session) (id : TableId) : Outcome Refusal Unit :=
  match h.table? id with
  | none => h.refuse (.noTable id)
  | some t =>
    match watchObstacle? s.user t with
    | some e => h.refuse e
    | none => h.arrive s.user (t.addWatcher s) .watchersChanged

/-- Stops watching. -/
def stopWatching (h : Hall) (u : UserId) (id : TableId) : Outcome Refusal Unit :=
  match h.table? id with
  | none => h.refuse (.noTable id)
  | some t =>
    if t.isWatching u then
      h.depart u (t.dropWatcher u)
        (.watchersChanged ::
          if t.leadMoves u then [.newLeader (t.dropWatcher u).owner] else [])
    else h.refuse (.notWatching u id)

/-! ## Going from everywhere -/

/-- Takes a user away from a table. -/
def withdraw (h : Hall) (u : UserId) (id : TableId) : Outcome Refusal Unit :=
  match h.table? id with
  | none => h.done
  | some t => h.depart u (t.withdraw u).1 (t.withdraw u).2.toList

/-- Takes a user away from several tables, one after the other. -/
def withdrawAll (h : Hall) (u : UserId) : List TableId → Outcome Refusal Unit
  | [] => h.done
  | id :: ids => (h.withdraw u id).andThen fun h _ => h.withdrawAll u ids

/-- Takes a user away from everywhere. A seat at a running game stays, without its connection. -/
def disconnect (h : Hall) (u : UserId) : Outcome Refusal Unit := h.withdrawAll u (h.tablesOf u)

/-- Refuses new tables and seats from now on. The answer is the number of running games. -/
def windDown (h : Hall) : Outcome Refusal Nat where
  hall := { h with windingDown := true }
  sent := []
  result := .ok (h.tables.countP fun t => t.phase == .running)

end Hall

end GameHall
