/-!
# Faults of a rule book

What can be wrong with the three documents that a rule book is compiled from. A server does not
start on a book with a fault.

* `Document` names the documents, in the order in which they are compiled.
* `Fault.message` is the wording of a fault.
-/

namespace GameHall.Rules

/-- The documents of a rule book. -/
inductive Document
  | color
  | suit
  | variant
deriving DecidableEq, Repr

namespace Document

/-- The word for an entry of the document. -/
def word : Document → String
  | color => "color"
  | suit => "suit"
  | variant => "variant"

/-- The file that holds the document. -/
def file (d : Document) : String := d.word ++ "s.json"

end Document

/-- Why a file gives no text. -/
inductive ReadFailure
  /-- There is no such file. -/
  | notFound
  /-- Its bytes are not UTF-8. -/
  | invalidData
deriving DecidableEq, Repr

/-- What is wrong with a rule book. -/
inductive Fault
  /-- A file gives no text. -/
  | unreadable (doc : Document) (why : ReadFailure)
  /-- A text is not a list of the document's entries. -/
  | malformed (doc : Document)
  /-- A document has no entries. -/
  | empty (doc : Document)
  /-- An entry has an empty name. -/
  | nameless (doc : Document)
  /-- Two entries share a name. -/
  | nameTaken (doc : Document) (name : String)
  /-- The number of a variant is negative or too large. -/
  | idOutOfRange (name : String) (id : Int)
  /-- Two variants share a number. -/
  | idTaken (id : Nat)
  /-- A variant has no suits. -/
  | noSuits (variant : String)
  /-- A variant names a suit that there is not. -/
  | noSuchSuit (variant : String) (suit : String)
  /-- A suit or variant names a color that there is not. -/
  | noSuchColor (owner : String) (color : String)
  /-- A special rank is below the one that stands for none. -/
  | rankTooLow (variant : String) (rank : Int)
  /-- The numbers of the variants leave one out. -/
  | idMissing (id : Nat)
  /-- The variant that every book must have is not there. -/
  | defaultMissing (name : String)
deriving DecidableEq, Repr

namespace Fault

/-- A text in double quotes. -/
def quoted (s : String) : String := "\"" ++ s ++ "\""

/-- The wording of a fault. -/
def message : Fault → String
  | unreadable doc .notFound => "failed to read " ++ quoted doc.file ++ ": not found"
  | unreadable doc .invalidData => "failed to read " ++ quoted doc.file ++ ": not UTF-8"
  | malformed doc => "failed to parse the " ++ doc.word ++ " catalog"
  | empty doc => "the " ++ doc.word ++ " catalog does not have any entries"
  | nameless doc => "there is a " ++ doc.word ++ " with an empty name"
  | nameTaken doc name =>
    "there are two " ++ doc.word ++ "s with the name of: " ++ name
  | idOutOfRange name id =>
    "the variant " ++ quoted name ++ " has an invalid ID of " ++ toString id
  | idTaken id => "there are two variants with the ID of: " ++ toString id
  | noSuits variant => "the variant " ++ quoted variant ++ " does not have at least one suit"
  | noSuchSuit variant suit =>
    "the suit " ++ quoted suit ++ " in variant " ++ quoted variant ++ " does not exist"
  | noSuchColor owner color =>
    quoted owner ++ " has a clue color of " ++ quoted color ++ ", but that color does not exist"
  | rankTooLow variant rank =>
    "the variant " ++ quoted variant ++ " has an invalid special rank of " ++ toString rank
  | idMissing id =>
    "there is no variant with an ID of " ++ toString id ++ " (variant IDs must be sequential)"
  | defaultMissing name => "failed to find the default variant of: " ++ name

end Fault

end GameHall.Rules
