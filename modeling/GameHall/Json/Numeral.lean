/-!
# JSON numbers

A number is kept as it is written: its sign, its digits on either side of the point and its power of
ten.

* `Numeral.int?` is the integer that a numeral spells, if it spells one.
* `Numeral.isFinite` says whether the numeral is read as a finite double. A double is made in three
  roundings: of the leading digits, of the power of ten, and of the product of the two.
-/

namespace GameHall

/-- A number as it is written. -/
structure Numeral where
  /-- Whether a minus sign stands in front. -/
  negative : Bool
  /-- The digits before the point. -/
  whole : Nat
  /-- The digits after the point; empty when there is no point. -/
  fraction : List (Fin 10)
  /-- The power of ten, when one is written. -/
  exponent : Option Int
deriving DecidableEq, Repr

namespace Numeral

/-- The numeral of a natural number. -/
def ofNat (n : Nat) : Numeral := ⟨false, n, [], none⟩

/-- The numeral of an integer. -/
def ofInt (i : Int) : Numeral := ⟨decide (i < 0), i.natAbs, [], none⟩

/-- The integer that the numeral spells. A numeral with a point or an exponent spells none, and
neither does zero with a minus sign. -/
def int? (n : Numeral) : Option Int :=
  if n.fraction ≠ [] ∨ n.exponent ≠ none then none
  else if !n.negative then some n.whole
  else if n.whole = 0 then none
  else some (-n.whole)

/-! ## Reading a numeral as a double -/

/-- The numbers that count as leading digits: those that a word of 64 bits holds. -/
def leadingBound : Nat := UInt64.size

/-- The leading digits of a whole number, and the number of digits behind them. -/
def leading (n : Nat) : Nat × Nat :=
  if n < leadingBound then (n, 0)
  else
    let p := leading (n / 10)
    (p.1, p.2 + 1)
termination_by n
decreasing_by
  simp only [leadingBound, UInt64.size] at *
  omega

/-- Appends digits to `n` up to the first that would make it too large to be leading digits. The
second part is the number of digits appended. -/
def appendLeading (n : Nat) : List (Fin 10) → Nat × Nat
  | [] => (n, 0)
  | d :: ds =>
    if 10 * n + d < leadingBound then
      let p := appendLeading (10 * n + d) ds
      (p.1, p.2 + 1)
    else (n, 0)

/-- The leading digits of the numeral, and the power of ten that goes with them. Digits after the
point are appended also when digits before it were left off. -/
def scaled (n : Numeral) : Nat × Int :=
  let whole := leading n.whole
  let all := appendLeading whole.1 n.fraction
  (all.1, whole.2 - all.2 + n.exponent.getD 0)

/-- The number of at most 53 binary digits, behind which there may be zeros, that is nearest to `n`.
Of two that are equally near it is the one whose last digit is zero. -/
def nearestDouble (n : Nat) : Nat :=
  let unit := Nat.pow 2 (n.log2 - 52)
  let below := n / unit
  let rest := n % unit
  if 2 * rest < unit ∨ (2 * rest = unit ∧ below % 2 = 0) then below * unit
  else (below + 1) * unit

/-- The least size that rounds to no finite double: half a unit above the greatest one. -/
def overflow : Nat := Nat.pow 2 1024 - Nat.pow 2 970

/-- The greatest power of ten that is a finite double. -/
def maxPower : Int := 308

/-- Whether the numeral is read as a finite double. -/
def isFinite (n : Numeral) : Bool :=
  let (digits, power) := n.scaled
  if digits = 0 ∨ power < 0 then true
  else if maxPower < power then false
  else decide (nearestDouble digits * nearestDouble (Nat.pow 10 power.toNat) < overflow)

end Numeral

end GameHall
