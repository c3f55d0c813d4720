import GameHall.Wire

/-!
# Users and tables

* `UserId` is a word of 64 bits that the accounts give out; `U-7` in print.
* `TableId` counts the tables of a hall from one; `T-5` in print. On the wire it is a word of
  64 bits. Every table has a chat room, `room`.
-/

namespace GameHall

/-- A user account. -/
structure UserId where
  val : UInt64
deriving DecidableEq, Repr, Inhabited

namespace UserId

instance : LT UserId := ⟨fun a b => a.val < b.val⟩

instance (a b : UserId) : Decidable (a < b) := inferInstanceAs (Decidable (a.val < b.val))

/-- The printed form. -/
def display (u : UserId) : String := "U-" ++ toString u.val.toNat

instance : Wire UserId where
  json u := .nat u.val.toNat
  read? v := v.word64?.map UserId.mk

end UserId

/-- A table of a hall. -/
structure TableId where
  val : Nat
deriving DecidableEq, Repr, Inhabited

namespace TableId

instance : LT TableId := ⟨fun a b => a.val < b.val⟩

instance (a b : TableId) : Decidable (a < b) := inferInstanceAs (Decidable (a.val < b.val))

/-- The printed form. -/
def display (t : TableId) : String := "T-" ++ toString t.val

/-- The chat room of the table. -/
def room (t : TableId) : String := "table" ++ toString t.val

instance : Wire TableId where
  json t := .nat t.val
  read? v := (v.natBelow? UInt64.size).map TableId.mk

end TableId

end GameHall
