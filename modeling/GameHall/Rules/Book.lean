import GameHall.Json.Reader
import GameHall.Rules.Variant

/-!
# Rule books

A rule book is compiled from three documents: colors first, then suits, then variants, each against
those before it.

* `Book.compile` compiles lists of entries, `Book.ofTexts` JSON texts, and `Book.load` the files of
  a directory. A text must hold at least one entry, and all files are read before any is compiled.
-/

namespace GameHall.Rules

/-- Colors, suits and variants. -/
structure Book where
  colors : ColorBook
  suits : SuitBook
  variants : VariantBook
deriving DecidableEq, Repr

/-- The entries of a document, given as text. -/
def entries {α : Type} (doc : Document) (read? : Json → Option α) (text : String) :
    Except Fault (List α) :=
  match (Json.read? text).bind (Json.list? read?) with
  | none => .error (.malformed doc)
  | some [] => .error (.empty doc)
  | some es => .ok es

/-- What is found in the place of a file. -/
inductive FileContents
  /-- There is no file. -/
  | missing
  | bytes (contents : ByteArray)

/-- The text of a file. -/
def FileContents.text (doc : Document) : FileContents → Except Fault String
  | missing => .error (.unreadable doc .notFound)
  | bytes contents =>
    match String.fromUTF8? contents with
    | none => .error (.unreadable doc .invalidData)
    | some s => .ok s

namespace Book

/-- The book of three lists of entries. -/
def compile (colors : List ColorEntry) (suits : List SuitEntry)
    (variants : List VariantEntry) : Except Fault Book := do
  let colors ← ColorBook.compile colors
  let suits ← SuitBook.compile suits colors
  let variants ← VariantBook.compile variants suits colors
  return ⟨colors, suits, variants⟩

/-- The book of three JSON texts. Each is read only when those before it have compiled. -/
def ofTexts (colors suits variants : String) : Except Fault Book := do
  let colors ← (entries .color ColorEntry.read? colors).bind ColorBook.compile
  let suits ← (entries .suit SuitEntry.read? suits).bind (SuitBook.compile · colors)
  let variants ← (entries .variant VariantEntry.read? variants).bind
    (VariantBook.compile · suits colors)
  return ⟨colors, suits, variants⟩

/-- The book of the files of a directory. -/
def load (files : Document → FileContents) : Except Fault Book := do
  let colors ← (files .color).text .color
  let suits ← (files .suit).text .suit
  let variants ← (files .variant).text .variant
  ofTexts colors suits variants

end Book

end GameHall.Rules
