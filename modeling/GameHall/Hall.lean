import GameHall.Config
import GameHall.Hall.Refusal
import GameHall.Presence
import GameHall.Table

/-!
# Halls

A hall keeps the tables, the index of where users are, and the number of the next table.

* `Hall.otherGame?` looks through a user's tables for one where the user is playing.
* An operation on a hall gives an `Outcome`: the hall afterwards, what was sent on the way, and an
  answer or an error. `Outcome.andThen` goes on with a second operation if the first succeeded.
* `Hall.arrive`, `Hall.depart` and `Hall.add` are the changes from which the operations are built;
  each keeps the index in step with the tables.
-/

namespace GameHall

/-- A hall. -/
structure Hall where
  /-- The tables in ascending order of their numbers. -/
  tables : List Table
  /-- Where the users are. -/
  presence : Presence
  /-- The number of the next table. -/
  nextId : Nat
  /-- Whether new tables and seats are refused. -/
  windingDown : Bool
  limits : Limits
  /-- The names of the variants that can be played. -/
  variants : List String
deriving DecidableEq, Repr

namespace Hall

/-- A hall without tables. -/
def fresh (limits : Limits) (variants : List String) : Hall where
  tables := []
  presence := .empty
  nextId := 1
  windingDown := false
  limits := limits
  variants := variants

/-- The table of a number. -/
def table? (h : Hall) (id : TableId) : Option Table := h.tables.find? fun t => t.id == id

/-- The tables where a user is, in ascending order. -/
def tablesOf (h : Hall) (u : UserId) : List TableId := h.presence.tablesOf u

/-- What a listing of the hall shows. -/
def listings (h : Hall) : List Listing := h.tables.map Table.listing

/-- A table where a user is playing, other than an excepted one. -/
def otherGame? (h : Hall) (u : UserId) (except : Option TableId) : Option TableId :=
  (h.tablesOf u).find? fun id =>
    decide (some id ≠ except) && (h.table? id).any fun t => t.isConnected u

/-! ## Changes -/

/-- The hall with a table replaced by another of the same number. -/
def put (h : Hall) (t : Table) : Hall :=
  { h with tables := h.tables.map fun x => if x.id = t.id then t else x }

/-- The hall with a user noted at a table. -/
def note (h : Hall) (u : UserId) (id : TableId) : Hall :=
  { h with presence := h.presence.insert u id }

/-- The hall with a user no longer noted at a table. -/
def forget (h : Hall) (u : UserId) (id : TableId) : Hall :=
  { h with presence := h.presence.erase u id }

/-- The hall without a table. -/
def remove (h : Hall) (id : TableId) : Hall :=
  { h with
    tables := h.tables.filter fun t => t.id != id
    presence := h.presence.eraseTable id }

end Hall

/-! ## Outcomes -/

/-- What an operation on a hall does. -/
structure Outcome (ε α : Type) where
  /-- The hall afterwards. -/
  hall : Hall
  /-- What was sent, in order. -/
  sent : List Delivery
  result : Except ε α

namespace Outcome

variable {ε δ α β : Type}

/-- Changes the error. -/
def mapError (f : ε → δ) (o : Outcome ε α) : Outcome δ α :=
  ⟨o.hall, o.sent, o.result.mapError f⟩

/-- Changes the answer. -/
def map (f : α → β) (o : Outcome ε α) : Outcome ε β := ⟨o.hall, o.sent, o.result.map f⟩

/-- Goes on with a second operation if the first succeeded. -/
def andThen (o : Outcome ε α) (next : Hall → α → Outcome ε β) : Outcome ε β :=
  match o.result with
  | .error e => ⟨o.hall, o.sent, .error e⟩
  | .ok a =>
    let p := next o.hall a
    ⟨p.hall, o.sent ++ p.sent, p.result⟩

/-- Takes some errors for success. -/
def forgive (harmless : ε → Bool) (o : Outcome ε Unit) : Outcome ε Unit :=
  match o.result with
  | .ok () => o
  | .error e => if harmless e then ⟨o.hall, o.sent, .ok ()⟩ else o

end Outcome

namespace Hall

variable {ε : Type}

/-- Nothing happens and nothing is sent. -/
def refuse {α : Type} (h : Hall) (e : ε) : Outcome ε α := ⟨h, [], .error e⟩

/-- Nothing happens, successfully. -/
def done (h : Hall) : Outcome ε Unit := ⟨h, [], .ok ()⟩

/-- A new table opens and its creator is there. -/
def add (h : Hall) (creator : Session) (t : Table) : Outcome ε TableId where
  hall :=
    { h with
      tables := h.tables ++ [t]
      presence := h.presence.insert creator.user t.id
      nextId := h.nextId + 1 }
  sent := []
  result := .ok t.id

/-- A user arrives at a table, which becomes `t`, and everyone there is told. -/
def arrive (h : Hall) (u : UserId) (t : Table) (news : News) : Outcome ε Unit where
  hall := (h.put t).note u t.id
  sent := t.announce news
  result := .ok ()

/-- A user departs from a table, which becomes `t`. A table with nobody left is removed; otherwise
everyone there is told. -/
def depart (h : Hall) (u : UserId) (t : Table) (news : List News) : Outcome ε Unit :=
  if t.isDeserted then ⟨(h.forget u t.id).remove t.id, [], .ok ()⟩
  else ⟨(h.put t).forget u t.id, news.flatMap t.announce, .ok ()⟩

end Hall

end GameHall
