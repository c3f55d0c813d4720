import GameHall.Visit

/-!
# The desk of a server

Which tables there are and who is at them is known to a worker. What it is asked for is queued at
the desk of the server, and whoever asks waits for the answer. A table that was found may be gone
to without asking again. Visitors come one after the other.

* `Desk.call` asks for one thing. It fails when the worker takes no more requests.
* An `Errand` is what is done for one visitor: it may ask several times and go on with the answers,
  and it may go to a table that was found. `Desk.obey` runs the errands of a session's commands,
  `Desk.handle` also tells the session when it is rejected.
* `Desk.shutdown` has the worker stop and waits for it.

A server that only notes whether it was shut down answers the same; that is `Server.visit`.
-/

namespace GameHall

/-- The desk of a server. -/
structure Desk where
  hall : Hall
  /-- The worker that asks the hall. -/
  worker : Worker
  /-- How many requests the worker has accepted. -/
  accepted : Nat
  /-- Everything that was sent so far, in order. -/
  sent : List Delivery
deriving DecidableEq, Repr

/-- What is done at a desk for one visitor. -/
abbrev Errand (ε α : Type) := ExceptT ε (StateM Desk) α

namespace Errand

variable {ε δ α : Type}

/-- Changes the error. -/
def mapError (f : ε → δ) (e : Errand ε α) : Errand δ α := ExceptT.adapt f e

/-- Takes some errors for success. -/
def forgive (harmless : ε → Bool) (e : Errand ε Unit) : Errand ε Unit :=
  tryCatch e fun x => if harmless x then return () else throw x

end Errand

namespace Desk

/-- The desk of a server that keeps a hall, with a new worker. -/
def ofHall (h : Hall) : Desk := ⟨h, .start hallManager, 0, []⟩

/-- What comes of an errand, and the desk afterwards. -/
def attend {ε α : Type} (d : Desk) (e : Errand ε α) : Except ε α × Desk := e.run.run d

variable {ε : Type}

/-! ## Asking -/

/-- Asks the hall for something. The request is queued under its number, and the worker notes the
number when it comes to the request and has the hall do what is asked for. A worker that stops
before leaves the request without an answer. -/
def call (r : HallRequest) : Errand Refusal r.Result := fun d =>
  match d.worker.submit (.record d.accepted) with
  | .error closed => (.error (.closed closed.name), d)
  | .ok queued =>
    let w := queued.settle.1
    if (d.accepted : Int) ∈ w.seen then
      let o := d.hall.serve r
      (o.result, ⟨o.hall, w, d.accepted + 1, d.sent ++ o.sent⟩)
    else (.error .noAnswer, { d with worker := w, accepted := d.accepted + 1 })

/-- Asks on behalf of a command. -/
def ask (r : HallRequest) : Errand Rejection r.Result := (call r).mapError .ofRefusal

/-- Does something at the tables without asking. -/
def inPerson {α : Type} (op : Hall → Outcome ε α) : Errand ε α := fun d =>
  let o := op d.hall
  (o.result, { d with hall := o.hall, sent := d.sent ++ o.sent })

/-- Sends something. -/
def send (m : List Delivery) : Errand ε Unit := inPerson fun h => ⟨h, m, .ok ()⟩

/-- The table that was found, if there is one. -/
def found (id : TableId) : Option Table → Errand Rejection Table
  | some t => return t
  | none => throw (.noTable id)

/-- Asks for a table. -/
def lookUp (id : TableId) : Errand Rejection Table := ask (.find id) >>= found id

/-! ## Commands -/

/-- Asks for a table and passes the lead there. -/
def passLead (s : Session) (id : TableId) (name : String) : Errand Rejection Unit := do
  discard (lookUp id)
  inPerson fun h => h.passLead s id name

/-- Asks for a table and starts the game there. -/
def start (luck : Nat) (u : UserId) (id : TableId) : Errand Rejection Unit := do
  discard (lookUp id)
  inPerson fun h => h.start luck u id

/-- What stands against a rematch at the replay itself. -/
def rematchObstacle? (s : Session) (id : TableId) (t : Table) : Option Rejection :=
  if !t.isSharedReplay then some (.notShared id)
  else if t.owner ≠ s.user then some .notLeader
  else if t.watchers.length < 2 then some .tooFewWatchers
  else if t.rematchPlayers.length ≠ t.seats.length then some .playersMissing
  else none

/-- Takes users away from a replay, asking for one after the other. -/
def leaveReplay (id : TableId) (users : List UserId) : Errand Rejection Unit :=
  users.forM fun u =>
    ((call (.stopWatching u id)).forgive Hall.goneAlready).mapError
      (Hall.incomplete .leavingReplay)

/-- Seats sessions at a table, asking for one after the other. -/
def seatAll (id : TableId) (sessions : List Session) : Errand Rejection Unit :=
  sessions.forM fun s =>
    ((call (.join s id)).forgive Hall.thereAlready).mapError (Hall.incomplete .seatingPlayers)

/-- The steps of a rematch, request by request. -/
def playAgain (luck : Luck) (s : Session) (id : TableId) (options : Options)
    (players : List Session) : Errand Rejection TableId := do
  leaveReplay id (rematchUsers s players)
  let new ← (call (.openTable s (tableName luck.name) options)).mapError
    (Hall.incomplete .openingTable)
  seatAll new (players.filter fun p => p.user != s.user)
  (start luck.deal s.user new).mapError (.cutShort .startingGame)
  return new

/-- Turns a table into a new game, if it is a replay that may be played again. -/
def rematchAt (luck : Luck) (s : Session) (id : TableId) (t : Table) : Errand Rejection TableId :=
  match rematchObstacle? s id t with
  | some e => throw e
  | none => do
    ask (.checkSeating (rematchUsers s t.rematchPlayers))
    send (t.announce .boot)
    playAgain luck s id t.options t.rematchPlayers

/-- Asks for a shared replay and turns it into a new game. -/
def rematch (luck : Luck) (s : Session) (id : TableId) : Errand Rejection TableId :=
  lookUp id >>= rematchAt luck s id

/-- Does what a session asks for. -/
def obey (luck : Luck) (s : Session) : Command → Errand Rejection Answer
  | .openTable name options => .opened <$> ask (.openTable s name options)
  | .join id => (fun _ => .done) <$> ask (.join s id)
  | .leave id => (fun _ => .done) <$> ask (.leave s.user id)
  | .watch id => (fun _ => .done) <$> ask (.watch s id)
  | .stopWatching id => (fun _ => .done) <$> ask (.stopWatching s.user id)
  | .passLead id name => (fun _ => .done) <$> passLead s id name
  | .start id => (fun _ => .done) <$> start luck.deal s.user id
  | .rematch id => .opened <$> rematch luck s id

/-- Does an operation. -/
def perform (luck : Luck) : Operation → Errand Rejection Answer
  | .command s c => obey luck s c
  | .openReplay s name roster options visible =>
    .opened <$> ask (.openReplay s name roster options visible)
  | .disconnect u => (fun _ => .done) <$> ask (.disconnect u)
  | .checkSeating users => (fun _ => .done) <$> ask (.checkSeating users)
  | .windDown => .running <$> ask .windDown

/-- Does what a session asks for, and tells the session when it is rejected. -/
def handle (luck : Luck) (s : Session) (c : Command) : Errand Rejection Unit :=
  tryCatch (discard (obey luck s c)) fun e => do
    send [e.notice s]
    throw e

/-! ## Visits -/

/-- Has the worker stop once it has served what is queued, and waits for it. -/
def shutdown (d : Desk) : Worker.Answer × Desk :=
  let o := d.worker.shutdown.step .wait
  (o.answer, { d with worker := o.worker })

/-- Answers a visit. -/
def visit (d : Desk) : Visit → Response × Desk
  | .handle luck s c => (d.attend (handle luck s c)).map .handled id
  | .perform luck op => (d.attend (perform luck op)).map .performed id
  | .call r => (d.attend (call r)).map (.called r) id
  | .shutdown => d.shutdown.map .shutdown id

/-- Answers visits one after the other. -/
def run (d : Desk) : List Visit → Desk
  | [] => d
  | v :: vs => run (d.visit v).2 vs

end Desk

end GameHall
