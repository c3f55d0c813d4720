/-!
# Workers

A worker serves requests from a queue, one after the other and in the order in which they came. A
request that fails or crashes is noted in the log and does not stop the worker.

* `Worker.submit` only queues a request; the worker goes on when it is given time, in
  `Worker.settle`, until the queue is empty or a request holds it up.
* `Worker.close` refuses new requests. `Worker.shutdown` also queues a sign to stop, so that the
  worker stops when it has served what was queued before.
* The requests that hold the worker up are numbered in the order in which they were accepted, and
  `Worker.release` lets the next of them pass, whether or not the worker has come to it.
-/

namespace GameHall

/-- What a crash leaves behind. -/
inductive Payload
  /-- A text that says what went wrong. -/
  | text (s : String)
  /-- Something that is no text. -/
  | other
deriving DecidableEq, Repr

/-- What a crash is called in the log. -/
def Payload.display : Payload → String
  | text s => s
  | other => "unknown panic"

/-- What a worker can be asked to do. -/
inductive Request
  /-- Note a number. -/
  | record (n : Int)
  /-- Fail with a text. -/
  | fail (text : String)
  /-- Crash. -/
  | crash (payload : Payload)
  /-- Wait to be released. -/
  | hold
deriving DecidableEq, Repr

/-- An entry of a worker's queue. -/
inductive Queued
  | record (n : Int)
  | fail (text : String)
  | crash (payload : Payload)
  /-- A request that waits for its number to be released. -/
  | hold (ticket : Nat)
  /-- The sign to stop. -/
  | stop
deriving DecidableEq, Repr

/-- What a worker writes into its log. -/
inductive LogEntry
  | failed (error : String)
  | crashed (panic : String)
deriving DecidableEq, Repr

/-- The message of a log entry. -/
def LogEntry.message : LogEntry → String
  | failed _ => "request failed"
  | crashed _ => "request handler panicked"

/-- A worker. -/
structure Worker where
  name : String
  /-- What has not been served, in order. -/
  queue : List Queued
  /-- Whether new requests are refused. -/
  closed : Bool
  /-- Whether the worker has stopped. -/
  exited : Bool
  /-- The numbers noted so far. -/
  seen : List Int
  /-- How many holding requests were accepted. -/
  holds : Nat
  /-- How many of them were released. -/
  released : Nat
deriving DecidableEq, Repr

namespace Worker

/-- A new worker. -/
def start (name : String) : Worker := ⟨name, [], false, false, [], 0, 0⟩

/-- Why a request was not queued: the worker of this name takes no more. -/
structure Closed where
  name : String
deriving DecidableEq, Repr

/-- The wording of a refused request. -/
def Closed.message (c : Closed) : String := c.name ++ " manager is closed to new requests"

/-! ## Queueing -/

/-- The entry for a request when `holds` holding requests were accepted before. -/
def enqueued (holds : Nat) : Request → Queued
  | .record n => .record n
  | .fail text => .fail text
  | .crash payload => .crash payload
  | .hold => .hold holds

/-- Queues a request. -/
def submit (w : Worker) (r : Request) : Except Closed Worker :=
  if w.closed then .error ⟨w.name⟩
  else .ok { w with
    queue := w.queue ++ [enqueued w.holds r]
    holds := if r = .hold then w.holds + 1 else w.holds }

/-- Refuses new requests. -/
def close (w : Worker) : Worker := { w with closed := true }

/-- Refuses new requests and queues the sign to stop, unless the worker has stopped already. -/
def shutdown (w : Worker) : Worker :=
  if w.exited then w else { w with closed := true, queue := w.queue ++ [.stop] }

/-- Releases the oldest holding request that is not released, if there is one. -/
def release (w : Worker) : Option Worker :=
  if w.released < w.holds then some { w with released := w.released + 1 } else none

/-! ## Serving -/

/-- How far a worker comes with a queue. -/
structure Progress where
  /-- What is left of the queue. -/
  rest : List Queued
  /-- The numbers noted on the way. -/
  seen : List Int
  log : List LogEntry
  /-- Whether the sign to stop was reached. -/
  stopped : Bool
deriving DecidableEq, Repr

/-- Serves a queue as far as possible, when the first `released` holding requests may pass. At the
sign to stop, the rest of the queue is dropped. -/
def serve (released : Nat) : List Queued → Progress
  | [] => ⟨[], [], [], false⟩
  | .record n :: qs =>
    let p := serve released qs
    { p with seen := n :: p.seen }
  | .fail text :: qs =>
    let p := serve released qs
    { p with log := .failed text :: p.log }
  | .crash payload :: qs =>
    let p := serve released qs
    { p with log := .crashed payload.display :: p.log }
  | .hold ticket :: qs =>
    if ticket < released then serve released qs else ⟨.hold ticket :: qs, [], [], false⟩
  | .stop :: _ => ⟨[], [], [], true⟩

/-- Gives the worker time to come as far as it can. The second part is what it logs. -/
def settle (w : Worker) : Worker × List LogEntry :=
  if w.exited then (w, [])
  else
    let p := serve w.released w.queue
    ({ w with queue := p.rest, exited := p.stopped, seen := w.seen ++ p.seen }, p.log)

/-! ## Steps -/

/-- What can be done with a worker. -/
inductive Step
  | submit (r : Request)
  | release
  | settle
  | close
  | shutdown
  /-- Gives the worker time and asks whether it has stopped. -/
  | wait
deriving DecidableEq, Repr

/-- What a step answers. -/
inductive Answer
  | queued
  | refused (c : Closed)
  | released
  | nothingHeld
  | settled
  | done
  | exited
  | running
deriving DecidableEq, Repr

/-- What a step does: the worker afterwards, the answer, and what was logged. -/
structure Outcome where
  worker : Worker
  answer : Answer
  log : List LogEntry
deriving DecidableEq, Repr

/-- Takes a step. -/
def step (w : Worker) : Step → Outcome
  | .submit r =>
    match w.submit r with
    | .ok w' => ⟨w', .queued, []⟩
    | .error c => ⟨w, .refused c, []⟩
  | .release =>
    match w.release with
    | some w' => ⟨w', .released, []⟩
    | none => ⟨w, .nothingHeld, []⟩
  | .settle => ⟨w.settle.1, .settled, w.settle.2⟩
  | .close => ⟨w.close, .done, []⟩
  | .shutdown => ⟨w.shutdown, .done, []⟩
  | .wait =>
    ⟨w.settle.1, if w.settle.1.exited then .exited else .running, w.settle.2⟩

/-- Takes steps one after the other and keeps what each of them does. -/
def trace (w : Worker) : List Step → List Outcome
  | [] => []
  | s :: ss =>
    let o := w.step s
    o :: trace o.worker ss

/-- Takes steps one after the other. -/
def run (w : Worker) : List Step → Worker
  | [] => w
  | s :: ss => run (w.step s).worker ss

end Worker

end GameHall
