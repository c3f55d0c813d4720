import GameHall.Proofs.Worker.Order

/-!
# The life of a worker

A worker is open until it is closed or shut down, and it runs until it comes to the sign to stop
that a shutdown leaves in its queue.

`Ledger.Recalls` reads off the moves made so far whether the worker is closed and whether the sign
to stop was given; every move keeps it, the worker's own rounds among them. Together with the order
of the queue it settles when a worker that was given time has stopped: after a shutdown, once every
request that could hold it up is released (`Ledger.Orderly.exited_iff`). From then on no move changes
anything (`Ledger.Orderly.run_of_exited`), which gives `lifecycle_of_worker`.
-/

namespace GameHall

namespace Worker

/-- The sign to stop was given: it is in the queue, or the worker has come to it. -/
def IsStopping (w : Worker) : Prop := w.exited = true ∨ .stop ∈ w.queue

variable {l : Ledger} {name : String} {m : Move} {ms : List Move}

/-! ## What rounds leave alone -/

theorem round_keeps (w : Worker) :
    w.round.worker.name = w.name ∧ w.round.worker.closed = w.closed ∧
      (w.round.worker.IsStopping ↔ w.IsStopping) := by
  obtain ⟨-, hround⟩ | ⟨ticket, r, qs, running, hq, -, hround⟩ | ⟨qs, -, hq, hround⟩ :=
    w.round_cases
  · rw [hround]
    exact ⟨rfl, rfl, Iff.rfl⟩
  · rw [hround]
    refine ⟨rfl, rfl, ?_⟩
    simp [IsStopping, afterHandling, hq, (enqueued_ne_stop ticket r).symm]
  · rw [hround]
    refine ⟨rfl, rfl, ?_⟩
    simp [IsStopping, hq]

theorem rounds_keep (w : Worker) (n : Nat) :
    (w.rounds n).worker.name = w.name ∧ (w.rounds n).worker.closed = w.closed ∧
      ((w.rounds n).worker.IsStopping ↔ w.IsStopping) := by
  induction n generalizing w with
  | zero => exact ⟨rfl, rfl, Iff.rfl⟩
  | succ n ih =>
    obtain ⟨hname, hclosed, hstopping⟩ := w.round_keeps
    obtain ⟨hname', hclosed', hstopping'⟩ := ih w.round.worker
    exact ⟨hname'.trans hname, hclosed'.trans hclosed, hstopping'.trans hstopping⟩

namespace Ledger

/-! ## What the moves tell of a worker -/

/-- What the moves that were made tell of a worker of this name. -/
structure Recalls (l : Ledger) (name : String) (ms : List Move) : Prop where
  name_eq : l.worker.name = name
  closed_iff : l.worker.closed = true ↔ .step .close ∈ ms ∨ .step .shutdown ∈ ms
  isStopping_iff : l.worker.IsStopping ↔ .step .shutdown ∈ ms

theorem recalls_start (name : String) : (start name).Recalls name [] where
  name_eq := rfl
  closed_iff := by simp [start, Worker.start]
  isStopping_iff := by simp [start, Worker.start, IsStopping]

theorem Recalls.snoc (h : l.Recalls name ms) (hclose : m ≠ .step .close)
    (hshut : m ≠ .step .shutdown) : l.Recalls name (ms ++ [m]) where
  name_eq := h.name_eq
  closed_iff := by simp [h.closed_iff, hclose.symm, hshut.symm]
  isStopping_iff := by simp [h.isStopping_iff, hshut.symm]

theorem Recalls.submit (h : l.Recalls name ms) (r : Request) :
    (l.step (.submit r)).Recalls name ms := by
  by_cases hclosed : l.worker.closed = true
  · rwa [step_submit_of_closed hclosed]
  · rw [step_submit_of_open (eq_false_of_ne_true hclosed)]
    exact {
      name_eq := h.name_eq
      closed_iff := h.closed_iff
      isStopping_iff := by
        simpa [IsStopping, (enqueued_ne_stop l.worker.holds r).symm] using h.isStopping_iff }

theorem Recalls.release (h : l.Recalls name ms) : (l.step .release).Recalls name ms := by
  by_cases held : l.worker.released < l.worker.holds
  · rw [step_release_of_held held]
    exact ⟨h.name_eq, h.closed_iff, h.isStopping_iff⟩
  · rwa [step_release_of_not_held held]

theorem Recalls.work (h : l.Recalls name ms) (n : Nat) : (l.work n).Recalls name ms := by
  obtain ⟨hname, hclosed, hstopping⟩ := l.worker.rounds_keep n
  exact {
    name_eq := hname.trans h.name_eq
    closed_iff := by
      rw [← h.closed_iff, ← hclosed]
      rfl
    isStopping_iff := hstopping.trans h.isStopping_iff }

theorem Recalls.close (h : l.Recalls name ms) :
    (l.step .close).Recalls name (ms ++ [.step .close]) := by
  rw [step_close]
  exact {
    name_eq := h.name_eq
    closed_iff := by simp [Worker.close]
    isStopping_iff := by simpa [Worker.close, IsStopping] using h.isStopping_iff }

theorem Recalls.shutdown (h : l.Recalls name ms) :
    (l.step .shutdown).Recalls name (ms ++ [.step .shutdown]) := by
  rw [step_shutdown]
  unfold Worker.shutdown
  split
  · rename_i exited
    -- The worker came to a sign to stop, so that this is not the first shutdown.
    have hshut : .step .shutdown ∈ ms := h.isStopping_iff.1 (.inl exited)
    exact {
      name_eq := h.name_eq
      closed_iff := by simp [h.closed_iff, hshut]
      isStopping_iff := by simp [h.isStopping_iff, hshut] }
  · exact {
      name_eq := h.name_eq
      closed_iff := by simp
      isStopping_iff := by simp [IsStopping] }

theorem Recalls.move (h : l.Recalls name ms) (m : Move) : (l.move m).Recalls name (ms ++ [m]) := by
  cases m with
  | work n => exact (h.work n).snoc nofun nofun
  | step s =>
    cases s with
    | submit r => exact (h.submit r).snoc nofun nofun
    | release => exact h.release.snoc nofun nofun
    | close => exact h.close
    | shutdown => exact h.shutdown
    | settle =>
      have hwork := (h.work l.worker.queue.length).snoc (m := .step .settle) nofun nofun
      rwa [← step_settle (.inl rfl)] at hwork
    | wait =>
      have hwork := (h.work l.worker.queue.length).snoc (m := .step .wait) nofun nofun
      rwa [← step_settle (.inr rfl)] at hwork

theorem Recalls.run (h : l.Recalls name ms) (ms' : List Move) :
    (l.run ms').Recalls name (ms ++ ms') := by
  induction ms' generalizing l ms with
  | nil => rwa [List.append_nil]
  | cons m ms' ih =>
    have hrun := ih (h.move m)
    rwa [List.append_assoc] at hrun

/-! ## Answers -/

theorem answer_submit (w : Worker) (r : Request) :
    (w.step (.submit r)).answer = if w.closed = true then .refused ⟨w.name⟩ else .queued := by
  by_cases hclosed : w.closed = true <;> simp [Worker.step, Worker.submit, hclosed]

theorem answer_wait (l : Ledger) :
    (l.worker.step .wait).answer =
      if (l.step .wait).worker.exited = true then .exited else .running := rfl

/-! ## Stopping -/

/-- An idle worker has stopped if and only if the sign to stop was given and every request that
could hold it up is released. -/
theorem Orderly.exited_iff (h : l.Orderly) (idle : l.worker.IsIdle) :
    l.worker.exited = true ↔
      l.worker.IsStopping ∧ l.accepted.count .hold ≤ l.released := by
  obtain ⟨waiting, stops, h⟩ := h
  constructor
  · intro exited
    obtain rfl := h.exited exited
    refine ⟨.inl exited, ?_⟩
    rw [h.accepted, List.append_nil]
    exact h.handled_le
  · rintro ⟨exited | hstop, enough⟩
    · exact exited
    · obtain exited | hnil | ⟨ticket, qs, hq, held⟩ := idle
      · exact exited
      · exact absurd (hnil ▸ hstop) List.not_mem_nil
      · -- The request that holds the worker up was accepted, but not released.
        obtain ⟨rest, rfl, hticket, -⟩ := h.next_request (r := .hold) hq
        rw [h.released, hticket rfl] at held
        rw [h.accepted, List.count_append, List.count_cons_self] at enough
        omega

/-- A worker that was given time has stopped if and only if the sign to stop was given and every
request that could hold it up is released. -/
theorem Orderly.exited_wait_iff (h : l.Orderly) :
    (l.step .wait).worker.exited = true ↔
      l.worker.IsStopping ∧ l.accepted.count .hold ≤ l.released := by
  have hidle := (rounds_of_length_le (w := l.worker) (Nat.le_refl _)).1
  have hstopping := (l.worker.rounds_keep l.worker.queue.length).2.2
  rw [step_settle (.inr rfl)]
  exact ((h.work _).exited_iff hidle).trans (and_congr_left' hstopping)

/-! ## After the end -/

/-- A worker that has stopped has handled all that was accepted. -/
theorem Orderly.handled_of_exited (h : l.Orderly) (exited : l.worker.exited = true) :
    l.handled = l.accepted := by
  obtain ⟨waiting, stops, h⟩ := h
  rw [h.accepted, h.exited exited, List.append_nil]

/-- No move changes anything once the worker has stopped. -/
theorem Orderly.move_of_exited (h : l.Orderly) (exited : l.worker.exited = true) (m : Move) :
    l.move m = l := by
  obtain ⟨waiting, stops, ha⟩ := id h
  have hclosed : l.worker.closed = true := ha.closed (.inr exited)
  have idle : l.worker.IsIdle := .inl exited
  have hwork (n : Nat) : l.work n = l := by rw [Ledger.work, idle.rounds_eq, add_idle]
  cases m with
  | work n => exact hwork n
  | step s =>
    cases s with
    | submit r => exact step_submit_of_closed hclosed
    | release =>
      have hreleased : l.worker.holds ≤ l.worker.released := by
        rw [ha.holds, ha.released]
        exact ((h.exited_iff idle).1 exited).2
      exact step_release_of_not_held (Nat.not_lt.2 hreleased)
    | close =>
      have hsame : l.worker.close = l.worker := by simp [Worker.ext_iff, Worker.close, hclosed]
      rw [move, step_close, hsame]
    | shutdown =>
      have hsame : l.worker.shutdown = l.worker := if_pos exited
      rw [move, step_shutdown, hsame]
    | settle => exact (step_settle (.inl rfl)).trans (hwork _)
    | wait => exact (step_settle (.inr rfl)).trans (hwork _)

theorem Orderly.run_of_exited (h : l.Orderly) (exited : l.worker.exited = true) (ms : List Move) :
    l.run ms = l := by
  induction ms with
  | nil => rfl
  | cons m ms ih =>
    have hsame : l.run (m :: ms) = (l.move m).run ms := rfl
    rw [hsame, h.move_of_exited exited m, ih]

end Ledger

open Ledger

/-- **The life of a worker.** Take any moves of a new worker, rounds of its own among them.

* It is closed if and only if it was closed or shut down, and then, and only then, a request is
  refused, under the worker's name.
* Given time, it has stopped if and only if it was shut down and every request accepted that could
  hold it up was released.
* A worker that has stopped was shut down and has handled all that was accepted, and whatever is
  done with it, nothing changes any more. -/
theorem lifecycle_of_worker (name : String) (ms : List Move) :
    let l := (Ledger.start name).run ms
    (l.worker.closed = true ↔ .step .close ∈ ms ∨ .step .shutdown ∈ ms) ∧
    (∀ r, (l.worker.step (.submit r)).answer =
      if .step .close ∈ ms ∨ .step .shutdown ∈ ms then .refused ⟨name⟩ else .queued) ∧
    ((l.worker.step .wait).answer =
      if .step .shutdown ∈ ms ∧ l.accepted.count .hold ≤ l.released then .exited else .running) ∧
    (l.worker.exited = true →
      .step .shutdown ∈ ms ∧ l.handled = l.accepted ∧ ∀ ms', l.run ms' = l) := by
  intro l
  have horderly : l.Orderly := orderly_run (orderly_start name) ms
  have hrecalls : l.Recalls name ms := (recalls_start name).run ms
  refine ⟨hrecalls.closed_iff, fun r => ?_, ?_, fun exited => ⟨?_, ?_, ?_⟩⟩
  · rw [answer_submit, hrecalls.name_eq]
    exact if_congr hrecalls.closed_iff rfl rfl
  · rw [answer_wait]
    refine if_congr ?_ rfl rfl
    rw [horderly.exited_wait_iff, hrecalls.isStopping_iff]
  · exact hrecalls.isStopping_iff.1 (.inl exited)
  · exact horderly.handled_of_exited exited
  · exact horderly.run_of_exited exited

/-- However often it is shut down, a worker runs until the request that holds it up is released. -/
example :
    let l := (Ledger.start "registry").run
      [.step (.submit .hold), .step .close, .step .shutdown, .step .shutdown, .work 3]
    (l.worker.step .wait).answer = .running ∧
      ((l.run [.step .release]).worker.step .wait).answer = .exited := by
  decide

end Worker

end GameHall
