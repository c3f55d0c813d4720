import GameHall.Hall.Lead
import GameHall.Hall.Rematch

/-!
# Operations

Everything that can be done to a hall, as data.

* `Command` is what a connected user may ask for; `Hall.obey` does it.
* `Operation` adds what the server does on its own; `Hall.perform` does it, and `Hall.run` does a
  list of operations one after the other.
* `Hall.Reachable` holds of the halls that operations lead to from a fresh one.
-/

namespace GameHall

/-- What a connected user may ask for. -/
inductive Command
  | openTable (name : String) (options : Options)
  | join (id : TableId)
  | leave (id : TableId)
  | watch (id : TableId)
  | stopWatching (id : TableId)
  | passLead (id : TableId) (name : String)
  | start (id : TableId)
  | rematch (id : TableId)
deriving DecidableEq, Repr

/-- What can be done to a hall. -/
inductive Operation
  /-- A session asks for something. -/
  | command (session : Session) (command : Command)
  /-- A finished game is opened for review. -/
  | openReplay (creator : Session) (name : String) (roster : List (UserId × String))
      (options : Options) (visible : Bool)
  /-- A user's connection closed. -/
  | disconnect (user : UserId)
  /-- Asks whether users could be seated at a new table. -/
  | checkSeating (users : List UserId)
  /-- A shutdown begins. -/
  | windDown
deriving DecidableEq, Repr

/-- What an operation answers when it succeeds. -/
inductive Answer
  | done
  /-- A table was opened. -/
  | opened (id : TableId)
  /-- So many games are running. -/
  | running (games : Nat)
deriving DecidableEq, Repr

/-- An outcome as a command has it: a refusal is passed on, and the answer is put in common terms. -/
def Outcome.passOn {α : Type} (answer : α → Answer) (o : Outcome Refusal α) :
    Outcome Rejection Answer :=
  (o.mapError .ofRefusal).map answer

namespace Hall

/-- Does what a session asks for. -/
def obey (h : Hall) (luck : Luck) (s : Session) : Command → Outcome Rejection Answer
  | .openTable name options => (h.openTable s name options).passOn .opened
  | .join id => (h.join s id).passOn fun _ => .done
  | .leave id => (h.leave s.user id).passOn fun _ => .done
  | .watch id => (h.watch s id).passOn fun _ => .done
  | .stopWatching id => (h.stopWatching s.user id).passOn fun _ => .done
  | .passLead id name => (h.passLead s id name).map fun _ => .done
  | .start id => (h.start luck.deal s.user id).map fun _ => .done
  | .rematch id => (h.rematch luck s id).map .opened

/-- Does an operation. -/
def perform (h : Hall) (luck : Luck) : Operation → Outcome Rejection Answer
  | .command s c => h.obey luck s c
  | .openReplay s name roster options visible =>
    (h.openReplay s name roster options visible).passOn .opened
  | .disconnect u => (h.disconnect u).passOn fun _ => .done
  | .checkSeating users => (h.checkSeating users).passOn fun _ => .done
  | .windDown => h.windDown.passOn .running

/-- Does operations one after the other, whether they succeed or not. -/
def run (h : Hall) : List (Luck × Operation) → Hall
  | [] => h
  | (luck, op) :: ops => run (h.perform luck op).hall ops

/-- The halls that operations lead to from a fresh one. -/
inductive Reachable : Hall → Prop
  | fresh (limits : Limits) (variants : List String) : Reachable (Hall.fresh limits variants)
  | step {h : Hall} (luck : Luck) (op : Operation) :
      Reachable h → Reachable (h.perform luck op).hall

end Hall

end GameHall
