import GameHall.Identity

/-!
# Presence

An index of where each user is, so that a user's tables are found without looking at all of them.

Users and tables stand in ascending order, and a user who is nowhere has no entry. `tablesOf` is the
view through which the operations are described.
-/

namespace GameHall

/-- Where users are: each user who is somewhere, with the tables. -/
structure Presence where
  entries : List (UserId × List TableId)
deriving DecidableEq, Repr

namespace Presence

/-- Nobody is anywhere. -/
def empty : Presence := ⟨[]⟩

/-- The tables of a user. -/
def tablesOf (p : Presence) (u : UserId) : List TableId := (p.entries.lookup u).getD []

/-- Adds a table to an ascending list. -/
def insertTable (t : TableId) : List TableId → List TableId
  | [] => [t]
  | x :: xs => if t < x then t :: x :: xs else if t = x then x :: xs else x :: insertTable t xs

/-- Adds a table to the entry of a user. -/
def insertEntry (u : UserId) (t : TableId) :
    List (UserId × List TableId) → List (UserId × List TableId)
  | [] => [(u, [t])]
  | e :: es =>
    if u < e.1 then (u, [t]) :: e :: es
    else if u = e.1 then (u, insertTable t e.2) :: es
    else e :: insertEntry u t es

/-- Notes that a user is at a table. -/
def insert (p : Presence) (u : UserId) (t : TableId) : Presence := ⟨insertEntry u t p.entries⟩

/-- An entry without a table, unless nothing is left of it. -/
def without (t : TableId) (e : UserId × List TableId) : Option (UserId × List TableId) :=
  match e.2.filter fun x => x != t with
  | [] => none
  | ts => some (e.1, ts)

/-- Notes that a user is no longer at a table. -/
def erase (p : Presence) (u : UserId) (t : TableId) : Presence :=
  ⟨p.entries.filterMap fun e => if e.1 = u then without t e else some e⟩

/-- Forgets a table. -/
def eraseTable (p : Presence) (t : TableId) : Presence := ⟨p.entries.filterMap (without t)⟩

end Presence

end GameHall
