import Mathlib.Data.List.Count
import GameHall.Proofs.Worker.Rounds

/-!
# The order in which requests are handled

`Ledger` follows a worker from outside. It keeps which submissions were answered with `queued`, how
many releases were answered with `released`, what the worker took from its queue to handle, and all
that was logged. Between two steps the worker may go any number of rounds of its own.

The invariant `Ledger.Orderly` says that what was accepted is what was handled followed by what waits
in the queue, and that the sign to stop, if it is queued, comes last. One case for each step and for
a round, it gives `first_come_first_served`: what is handled is a prefix of what was accepted, what
was noted and logged can be read off it, and a worker that has settled is held up by nothing but a
request that is not released.
-/

namespace GameHall

/-- The requests before the first holding one that is not among the first `n` of its kind. -/
def Request.beforeHeld : Nat → List Request → List Request
  | _, [] => []
  | 0, .hold :: _ => []
  | n + 1, .hold :: rs => .hold :: beforeHeld n rs
  | n, r :: rs => r :: beforeHeld n rs

namespace Worker

/-- A worker, and what was seen of it since it was new. -/
structure Ledger where
  worker : Worker
  /-- The submissions that were accepted, in order. -/
  accepted : List Request
  /-- The requests that were handled, in order. -/
  handled : List Request
  /-- How many releases succeeded. -/
  released : Nat
  log : List LogEntry
deriving DecidableEq, Repr

/-- What happens to a worker: someone takes a step, or it is given time for some rounds. -/
inductive Move
  | step (s : Step)
  | work (rounds : Nat)
deriving DecidableEq, Repr

/-- The request that is accepted when a step is answered. -/
def accepts : Step → Answer → List Request
  | .submit r, .queued => [r]
  | _, _ => []

/-- The requests that are handled while a step is taken. -/
def handles (w : Worker) : Step → List Request
  | .settle | .wait => (w.rounds w.queue.length).handled
  | _ => []

namespace Ledger

/-- The ledger of a new worker. -/
def start (name : String) : Ledger := ⟨Worker.start name, [], [], 0, []⟩

/-- The ledger after a step. -/
def step (l : Ledger) (s : Step) : Ledger :=
  let o := l.worker.step s
  { worker := o.worker
    accepted := l.accepted ++ accepts s o.answer
    handled := l.handled ++ l.worker.handles s
    released := if o.answer = .released then l.released + 1 else l.released
    log := l.log ++ o.log }

/-- The ledger when the worker has done something of its own. -/
def add (l : Ledger) (a : Shift) : Ledger :=
  { l with worker := a.worker, handled := l.handled ++ a.handled, log := l.log ++ a.log }

/-- The ledger after the worker went some rounds. -/
def work (l : Ledger) (n : Nat) : Ledger := l.add (l.worker.rounds n)

def move (l : Ledger) : Move → Ledger
  | .step s => l.step s
  | .work n => l.work n

/-- The ledger after some moves. -/
def run (l : Ledger) (ms : List Move) : Ledger := ms.foldl move l

end Ledger

variable {l : Ledger} {r : Request} {rs waiting : List Request} {s : Step} {qs : List Queued}
  {ticket m n stops : Nat}

/-! ## Queues of requests -/

theorem enqueued_ne_stop (n : Nat) (r : Request) : enqueued n r ≠ .stop := by
  cases r <;> exact nofun

theorem enqueued_inj {r' : Request} (h : enqueued m r = enqueued n r') :
    r = r' ∧ (r = .hold → m = n) := by
  cases r <;> cases r' <;> simp_all [enqueued]

/-- The entries for requests that are queued one after the other. -/
def entries : Nat → List Request → List Queued
  | _, [] => []
  | holds, r :: rs => enqueued holds r :: entries (holds + [r].count .hold) rs

theorem count_cons_eq (r : Request) (rs : List Request) :
    (r :: rs).count .hold = [r].count .hold + rs.count .hold := by
  rw [← List.singleton_append, List.count_append]

theorem entries_append (n : Nat) (rs rs' : List Request) :
    entries n (rs ++ rs') = entries n rs ++ entries (n + rs.count .hold) rs' := by
  induction rs generalizing n with
  | nil => rfl
  | cons r rs ih => simp only [List.cons_append, entries, ih, count_cons_eq r rs, Nat.add_assoc]

theorem beforeHeld_cons (h : [r].count .hold ≤ n) :
    Request.beforeHeld n (r :: rs) = r :: Request.beforeHeld (n - [r].count .hold) rs := by
  cases r with
  | hold =>
    cases n with
    | zero => exact absurd h (by decide)
    | succ n => rfl
  | _ => cases n <;> rfl

/-- What is handled reaches to the first request that is held up, if each of its holding requests is
released and what comes next, if anything does, is one that is not. -/
theorem beforeHeld_append (enough : rs.count .hold ≤ n)
    (held : waiting = [] ∨ waiting.head? = some .hold ∧ n ≤ rs.count .hold) :
    Request.beforeHeld n (rs ++ waiting) = rs := by
  induction rs generalizing n with
  | nil =>
    cases waiting with
    | nil => cases n <;> rfl
    | cons r waiting =>
      obtain hnil | ⟨hhead, hn⟩ := held
      · exact absurd hnil (List.cons_ne_nil _ _)
      · obtain rfl : r = .hold := Option.some.inj hhead
        obtain rfl : n = 0 := Nat.le_zero.1 hn
        rfl
  | cons r rs ih =>
    rw [count_cons_eq] at enough held
    rw [List.cons_append, beforeHeld_cons (by omega),
      ih (by omega) (held.imp_right fun h => ⟨h.1, by omega⟩)]

namespace Ledger

/-! ## Moves -/

theorem step_submit_of_open (h : l.worker.closed = false) :
    l.step (.submit r) =
      { l with
        worker := { l.worker with
          queue := l.worker.queue ++ [enqueued l.worker.holds r]
          holds := if r = .hold then l.worker.holds + 1 else l.worker.holds }
        accepted := l.accepted ++ [r] } := by
  simp [step, Worker.step, submit, h, accepts, handles]

theorem step_submit_of_closed (h : l.worker.closed = true) : l.step (.submit r) = l := by
  simp [step, Worker.step, submit, h, accepts, handles]

theorem step_close : l.step .close = { l with worker := l.worker.close } := by
  simp [step, Worker.step, accepts, handles]

theorem step_shutdown : l.step .shutdown = { l with worker := l.worker.shutdown } := by
  simp [step, Worker.step, accepts, handles]

theorem step_release_of_held (h : l.worker.released < l.worker.holds) :
    l.step .release =
      { l with
        worker := { l.worker with released := l.worker.released + 1 }
        released := l.released + 1 } := by
  simp [step, Worker.step, release, h, accepts, handles]

theorem step_release_of_not_held (h : ¬l.worker.released < l.worker.holds) :
    l.step .release = l := by
  simp [step, Worker.step, release, h, accepts, handles]

/-- A worker that is given time goes as many rounds as its queue has entries. -/
theorem step_settle (h : s = .settle ∨ s = .wait) :
    l.step s = l.work l.worker.queue.length := by
  have hsettle := (rounds_of_length_le (w := l.worker) (Nat.le_refl _)).2
  obtain rfl | rfl := h
  · simp [step, Worker.step, work, add, accepts, handles, hsettle]
  · have hanswer : (l.worker.step .wait).answer ≠ .released := by
      simp only [Worker.step]
      split <;> exact nofun
    simp only [step, hanswer, if_false]
    simp [Worker.step, work, add, accepts, handles, hsettle]

theorem add_append (l : Ledger) (a b : Shift) : l.add (a.append b) = (l.add a).add b := by
  simp [add, Shift.append]

theorem add_idle (l : Ledger) : l.add (.idle l.worker) = l := by
  simp [add, Shift.idle]

/-- A ledger follows the steps of its worker. -/
theorem run_map_step (l : Ledger) (ss : List Step) :
    (l.run (ss.map .step)).worker = l.worker.run ss ∧
      (l.run (ss.map .step)).log = l.log ++ (l.worker.trace ss).flatMap Outcome.log := by
  induction ss generalizing l with
  | nil => exact ⟨rfl, (List.append_nil _).symm⟩
  | cons s ss ih =>
    obtain ⟨hworker, hlog⟩ := ih (l.step s)
    refine ⟨hworker, ?_⟩
    rw [trace, List.flatMap_cons, ← List.append_assoc]
    exact hlog

/-! ## The invariant -/

/-- What holds of a worker at every moment, when `waiting` are the requests in its queue and `stops`
signs to stop come behind them. -/
structure Awaits (l : Ledger) (waiting : List Request) (stops : Nat) : Prop where
  accepted : l.accepted = l.handled ++ waiting
  queue : l.worker.queue = entries (l.handled.count .hold) waiting ++ List.replicate stops .stop
  holds : l.worker.holds = l.accepted.count .hold
  released : l.worker.released = l.released
  handled_le : l.handled.count .hold ≤ l.released
  /-- The sign to stop is the last thing to be queued. -/
  closed : 0 < stops ∨ l.worker.exited = true → l.worker.closed = true
  exited : l.worker.exited = true → waiting = []
  seen : l.worker.seen = l.handled.filterMap Request.number?
  log : l.log = l.handled.filterMap Request.complaint?

/-- What holds of a worker at every moment. -/
def Orderly (l : Ledger) : Prop := ∃ waiting stops, l.Awaits waiting stops

theorem orderly_start (name : String) : (start name).Orderly :=
  ⟨[], 0, rfl, rfl, rfl, rfl, Nat.le_refl _, by simp [start, Worker.start], fun _ => rfl, rfl, rfl⟩

theorem Awaits.submit (h : l.Awaits waiting stops) (accepting : l.worker.closed = false) :
    (l.step (.submit r)).Awaits (waiting ++ [r]) stops := by
  have hopen : ¬(0 < stops ∨ l.worker.exited = true) := fun hclosed =>
    absurd ((h.closed hclosed).symm.trans accepting) Bool.noConfusion
  rw [not_or] at hopen
  obtain rfl : stops = 0 := by omega
  have hholds : l.worker.holds = l.handled.count .hold + waiting.count .hold := by
    rw [h.holds, h.accepted, List.count_append]
  rw [step_submit_of_open accepting]
  exact {
    accepted := by simp [h.accepted]
    queue := by simp [h.queue, entries_append, entries, hholds]
    holds := by
      simp only [h.holds, List.count_append]
      by_cases hr : r = .hold <;> simp [hr]
    released := h.released
    handled_le := h.handled_le
    closed := fun hclosed => absurd hclosed (not_or.2 hopen)
    exited := fun hexited => absurd hexited hopen.2
    seen := h.seen
    log := h.log }

theorem Awaits.release (h : l.Awaits waiting stops) : (l.step .release).Awaits waiting stops := by
  by_cases held : l.worker.released < l.worker.holds
  · rw [step_release_of_held held]
    exact { h with
      released := congrArg (· + 1) h.released
      handled_le := Nat.le_succ_of_le h.handled_le }
  · rwa [step_release_of_not_held held]

theorem Awaits.close (h : l.Awaits waiting stops) : (l.step .close).Awaits waiting stops := by
  rw [step_close]
  exact { h with closed := fun _ => rfl }

theorem Awaits.shutdown (h : l.Awaits waiting stops) : (l.step .shutdown).Orderly := by
  rw [step_shutdown]
  unfold Worker.shutdown
  split
  · exact ⟨waiting, stops, h⟩
  · rename_i running
    exact ⟨waiting, stops + 1, { h with
      queue := by simp [h.queue, List.replicate_succ']
      closed := fun _ => rfl
      exited := fun hexited => absurd hexited running }⟩

/-- The next entry of the queue is the first request that waits. -/
theorem Awaits.next_request (h : l.Awaits waiting stops)
    (hq : l.worker.queue = enqueued ticket r :: qs) :
    ∃ rest, waiting = r :: rest ∧ (r = .hold → ticket = l.handled.count .hold) ∧
      qs = entries (l.handled.count .hold + [r].count .hold) rest ++
        List.replicate stops .stop := by
  have hqueue := h.queue
  rw [hq] at hqueue
  cases waiting with
  | nil =>
    cases stops with
    | zero => exact absurd hqueue (List.cons_ne_nil _ _)
    | succ stops => exact absurd (List.cons.inj hqueue).1 (enqueued_ne_stop ticket r)
  | cons r' rest =>
    obtain ⟨hentry, hrest⟩ := List.cons.inj hqueue
    obtain ⟨rfl, hticket⟩ := enqueued_inj hentry
    exact ⟨rest, rfl, hticket, hrest⟩

/-- When the next entry of the queue is a sign to stop, nothing waits. -/
theorem Awaits.next_stop (h : l.Awaits waiting stops) (hq : l.worker.queue = .stop :: qs) :
    waiting = [] ∧ 0 < stops := by
  have hqueue := h.queue
  rw [hq] at hqueue
  cases waiting with
  | nil =>
    cases stops with
    | zero => exact absurd hqueue (List.cons_ne_nil _ _)
    | succ stops => exact ⟨rfl, Nat.succ_pos stops⟩
  | cons r rest => exact absurd (List.cons.inj hqueue).1.symm (enqueued_ne_stop _ r)

/-- The first request that waits is handled, as nothing holds it up. -/
theorem Awaits.handle (h : l.Awaits (r :: waiting) stops) (running : l.worker.exited = false)
    (passes : r = .hold → l.handled.count .hold < l.worker.released) :
    (l.add ⟨l.worker.afterHandling r (entries (l.handled.count .hold + [r].count .hold) waiting ++
      List.replicate stops .stop), [r], r.complaint?.toList⟩).Awaits waiting stops where
  accepted := by simp [add, h.accepted]
  queue := by simp [add, afterHandling, List.count_append]
  holds := h.holds
  released := h.released
  handled_le := by
    have hle := h.handled_le
    simp only [add, List.count_append]
    by_cases hr : r = .hold
    · have hlt := passes hr
      rw [h.released] at hlt
      simp only [hr, List.count_singleton_self]
      omega
    · simpa [hr] using hle
  closed := h.closed
  exited := fun hexited => absurd (hexited.symm.trans running) Bool.noConfusion
  seen := by
    simp only [add, afterHandling, h.seen, List.filterMap_append]
    cases hr : r.number? <;> simp [hr]
  log := by
    simp only [add, h.log, List.filterMap_append]
    cases hr : r.complaint? <;> simp [hr]

/-- The sign to stop is reached when nothing waits before it. -/
theorem Awaits.stop (h : l.Awaits [] stops) (hstops : 0 < stops) :
    (l.add ⟨{ l.worker with queue := [], exited := true }, [], []⟩).Awaits [] 0 where
  accepted := by simpa [add] using h.accepted
  queue := rfl
  holds := h.holds
  released := h.released
  handled_le := by simpa [add] using h.handled_le
  closed := fun _ => h.closed (.inl hstops)
  exited := fun _ => rfl
  seen := by simpa [add] using h.seen
  log := by simpa [add] using h.log

/-- In a round, the first request that waits is handled, or the worker stops and nothing waits. -/
theorem Awaits.round (h : l.Awaits waiting stops) : (l.add l.worker.round).Orderly := by
  obtain ⟨-, hround⟩ | ⟨ticket, r, qs, running, hq, passes, hround⟩ | ⟨qs, -, hq, hround⟩ :=
    l.worker.round_cases
  · rw [hround, add_idle]
    exact ⟨waiting, stops, h⟩
  · obtain ⟨rest, rfl, hticket, rfl⟩ := h.next_request hq
    rw [hround]
    exact ⟨rest, stops, h.handle running fun hr => hticket hr ▸ passes hr⟩
  · obtain ⟨rfl, hstops⟩ := h.next_stop hq
    rw [hround]
    exact ⟨[], 0, h.stop hstops⟩

theorem Orderly.work (h : l.Orderly) (n : Nat) : (l.work n).Orderly := by
  induction n generalizing l with
  | zero => rwa [Ledger.work, rounds, add_idle]
  | succ n ih =>
    obtain ⟨waiting, stops, h⟩ := h
    rw [Ledger.work, rounds, add_append]
    exact ih h.round

theorem Orderly.step (h : l.Orderly) (s : Step) : (l.step s).Orderly := by
  have ⟨waiting, stops, hl⟩ := h
  cases s with
  | submit r =>
    by_cases hclosed : l.worker.closed = true
    · rw [step_submit_of_closed hclosed]
      exact ⟨waiting, stops, hl⟩
    · exact ⟨waiting ++ [r], stops, hl.submit (eq_false_of_ne_true hclosed)⟩
  | release => exact ⟨waiting, stops, hl.release⟩
  | close => exact ⟨waiting, stops, hl.close⟩
  | shutdown => exact hl.shutdown
  | settle =>
    rw [step_settle (.inl rfl)]
    exact h.work _
  | wait =>
    rw [step_settle (.inr rfl)]
    exact h.work _

theorem orderly_run (h : l.Orderly) (ms : List Move) : (l.run ms).Orderly := by
  induction ms generalizing l with
  | nil => exact h
  | cons m ms ih =>
    cases m with
    | step s => exact ih (h.step s)
    | work n => exact ih (h.work n)

/-! ## What the ledger says -/

/-- What an idle worker has handled reaches to the first request that is not released. -/
theorem Orderly.handled_of_isIdle (h : l.Orderly) (idle : l.worker.IsIdle) :
    l.handled = Request.beforeHeld l.released l.accepted := by
  obtain ⟨waiting, stops, h⟩ := h
  rw [h.accepted]
  refine (beforeHeld_append h.handled_le ?_).symm
  obtain hexited | hnil | ⟨ticket, qs, hq, held⟩ := idle
  · exact .inl (h.exited hexited)
  · cases waiting with
    | nil => exact .inl rfl
    | cons r rest => exact absurd (h.queue.symm.trans hnil) (List.cons_ne_nil _ _)
  · obtain ⟨rest, rfl, hticket, -⟩ := h.next_request (r := .hold) hq
    rw [h.released, hticket rfl] at held
    exact .inr ⟨rfl, held⟩

/-- A worker that was given all the time it needs has handled what it could, and nothing else was
accepted or released meanwhile. -/
theorem Orderly.settled (h : l.Orderly) (hs : s = .settle ∨ s = .wait) :
    (l.step s).accepted = l.accepted ∧
      (l.step s).handled = Request.beforeHeld l.released l.accepted := by
  have hidle := (rounds_of_length_le (w := l.worker) (Nat.le_refl _)).1
  rw [step_settle hs]
  exact ⟨rfl, (h.work _).handled_of_isIdle hidle⟩

theorem step_of_refused {c : Closed} (h : (l.worker.step (.submit r)).answer = .refused c) :
    l.step (.submit r) = l := by
  by_cases hclosed : l.worker.closed = true
  · exact step_submit_of_closed hclosed
  · simp [Worker.step, submit, hclosed] at h

end Ledger

open Ledger

/-- **First come, first served.** Take any moves of a new worker, rounds of its own among them.

* What was handled is a prefix of what was accepted.
* The numbers noted and the log are those of the requests handled, in order.
* Once the worker has settled, everything was handled that was accepted before the first request
  which still holds it up, and everything if there is none.
* A submission that is refused leaves nothing behind. -/
theorem first_come_first_served (name : String) (ms : List Move) :
    let l := (Ledger.start name).run ms
    l.handled <+: l.accepted ∧
    l.worker.seen = l.handled.filterMap Request.number? ∧
    l.log = l.handled.filterMap Request.complaint? ∧
    (∀ s, s = .settle ∨ s = .wait →
      (l.step s).accepted = l.accepted ∧
        (l.step s).handled = Request.beforeHeld l.released l.accepted) ∧
    ∀ r c, (l.worker.step (.submit r)).answer = .refused c → l.step (.submit r) = l := by
  intro l
  have horderly : l.Orderly := orderly_run (orderly_start name) ms
  have ⟨waiting, stops, h⟩ := horderly
  exact ⟨⟨waiting, h.accepted.symm⟩, h.seen, h.log, fun _ => horderly.settled,
    fun _ _ => step_of_refused⟩

/-- A request that is not released holds up a crash, a failure and a number behind it, and what is
queued before the sign to stop is handled all the same. -/
example :
    let queued : List Request := [.record 1, .hold, .crash .other, .fail "no such table", .record 2]
    let l := (Ledger.start "registry").run
      (queued.map (.step ∘ .submit) ++
        [.work 1, .step .shutdown, .step (.submit (.record 3)), .step .settle])
    let l' := l.run [.step .release, .work 2, .step .wait]
    l.accepted = queued ∧ l.handled = [.record 1] ∧ l.log = [] ∧ l'.handled = queued ∧
      l'.log = [.crashed "unknown panic", .failed "no such table"] ∧ l'.worker.seen = [1, 2] := by
  decide

end Worker

end GameHall
