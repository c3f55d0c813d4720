import GameHall.Worker

/-!
# Rounds of a worker

`Worker.settle` says how far a worker comes when it has all the time it needs. Underneath, a worker
goes in rounds: `Worker.round` takes the next entry from the queue, serves it and writes into the log
what there is to complain about.

What a round can do is said once, in `round_cases`. A worker that settles goes as many rounds as its
queue has entries, and is idle then (`rounds_of_length_le`).
-/

namespace GameHall

/-- The number that is noted when a request is handled. -/
def Request.number? : Request → Option Int
  | record n => some n
  | _ => none

/-- What is logged when a request is handled: one entry for a request that fails, with its text, and
one for a request that crashes, with the text that it left behind if it left one. -/
def Request.complaint? : Request → Option LogEntry
  | fail text => some (.failed text)
  | crash (.text s) => some (.crashed s)
  | crash .other => some (.crashed "unknown panic")
  | _ => none

namespace Worker

attribute [ext] Worker

/-- What a worker does in some time: how it is afterwards, which requests it handled, in order, and
what it logged. -/
structure Shift where
  worker : Worker
  handled : List Request
  log : List LogEntry
deriving DecidableEq, Repr

/-- Some time in which a worker does nothing. -/
def Shift.idle (w : Worker) : Shift := ⟨w, [], []⟩

/-- One shift, and then another. -/
def Shift.append (a b : Shift) : Shift := ⟨b.worker, a.handled ++ b.handled, a.log ++ b.log⟩

/-- One round: the next entry of the queue is taken and served. Nothing happens when the worker has
stopped, when the queue is empty, and when the next entry is a request that is not released. -/
def round (w : Worker) : Shift :=
  if w.exited then .idle w
  else
    match w.queue with
    | [] => .idle w
    | .record n :: qs => ⟨{ w with queue := qs, seen := w.seen ++ [n] }, [.record n], []⟩
    | .fail text :: qs => ⟨{ w with queue := qs }, [.fail text], [.failed text]⟩
    | .crash payload :: qs =>
      ⟨{ w with queue := qs }, [.crash payload], [.crashed payload.display]⟩
    | .hold ticket :: qs =>
      if ticket < w.released then ⟨{ w with queue := qs }, [.hold], []⟩ else .idle w
    | .stop :: _ => ⟨{ w with queue := [], exited := true }, [], []⟩

/-- Some rounds, one after the other. -/
def rounds : Nat → Worker → Shift
  | 0, w => .idle w
  | n + 1, w => w.round.append (rounds n w.round.worker)

/-- A worker is idle when it has stopped, when its queue is empty, or when a request that is not
released holds it up. -/
def IsIdle (w : Worker) : Prop :=
  w.exited = true ∨ w.queue = [] ∨ ∃ ticket qs, w.queue = .hold ticket :: qs ∧ w.released ≤ ticket

variable {w : Worker} {r : Request} {qs : List Queued} {ticket n : Nat}

/-! ## One round -/

/-- How a worker is when it has handled a request, and `qs` is left of its queue. -/
def afterHandling (w : Worker) (r : Request) (qs : List Queued) : Worker :=
  { w with queue := qs, seen := w.seen ++ r.number?.toList }

/-- What a round can do: nothing, or handle a request which nothing holds up, or stop. -/
theorem round_cases (w : Worker) :
    (w.IsIdle ∧ w.round = .idle w) ∨
    (∃ ticket r qs, w.exited = false ∧ w.queue = enqueued ticket r :: qs ∧
      (r = .hold → ticket < w.released) ∧
      w.round = ⟨w.afterHandling r qs, [r], r.complaint?.toList⟩) ∨
    ∃ qs, w.exited = false ∧ w.queue = .stop :: qs ∧
      w.round = ⟨{ w with queue := [], exited := true }, [], []⟩ := by
  unfold round
  split
  · exact .inl ⟨.inl ‹_›, rfl⟩
  · rename_i running
    rw [Bool.not_eq_true] at running
    split <;> rename_i hq
    · exact .inl ⟨.inr (.inl hq), rfl⟩
    · exact .inr (.inl ⟨0, .record _, _, running, hq, nofun, rfl⟩)
    · refine .inr (.inl ⟨0, .fail _, _, running, hq, nofun, ?_⟩)
      simp [afterHandling, Request.number?, Request.complaint?]
    · rename_i payload qs
      refine .inr (.inl ⟨0, .crash payload, qs, running, hq, nofun, ?_⟩)
      cases payload <;>
        simp [afterHandling, Request.number?, Request.complaint?, Payload.display]
    · split
      · refine .inr (.inl ⟨_, .hold, _, running, hq, fun _ => ‹_›, ?_⟩)
        simp [afterHandling, Request.number?, Request.complaint?]
      · exact .inl ⟨.inr (.inr ⟨_, _, hq, Nat.le_of_not_lt ‹_›⟩), rfl⟩
    · exact .inr (.inr ⟨_, running, hq, rfl⟩)

theorem not_isIdle_of_request (running : w.exited = false) (hq : w.queue = enqueued ticket r :: qs)
    (passes : r = .hold → ticket < w.released) : ¬w.IsIdle := by
  rintro (h | h | ⟨ticket', qs', h, held⟩)
  · exact absurd (h.symm.trans running) Bool.noConfusion
  · exact absurd (hq.symm.trans h) (List.cons_ne_nil _ _)
  · cases r <;> simp_all [enqueued]
    omega

theorem not_isIdle_of_stop (running : w.exited = false) (hq : w.queue = .stop :: qs) :
    ¬w.IsIdle := by
  simp [IsIdle, running, hq]

theorem IsIdle.round_eq (h : w.IsIdle) : w.round = .idle w := by
  obtain ⟨-, hround⟩ | ⟨ticket, r, qs, running, hq, passes, -⟩ | ⟨qs, running, hq, -⟩ :=
    w.round_cases
  · exact hround
  · exact absurd h (not_isIdle_of_request running hq passes)
  · exact absurd h (not_isIdle_of_stop running hq)

theorem IsIdle.rounds_eq (h : w.IsIdle) (n : Nat) : w.rounds n = .idle w := by
  induction n with
  | zero => rfl
  | succ n ih =>
    rw [rounds, h.round_eq]
    exact ih

/-- A round that does something takes an entry from the queue. -/
theorem length_queue_round_lt (h : ¬w.IsIdle) : w.round.worker.queue.length < w.queue.length := by
  obtain ⟨idle, -⟩ | ⟨ticket, r, qs, -, hq, -, hround⟩ | ⟨qs, -, hq, hround⟩ := w.round_cases
  · exact absurd idle h
  · simp [hround, hq, afterHandling]
  · simp [hround, hq]

/-! ## Settling -/

theorem serve_enqueued (released : Nat) (passes : r = .hold → ticket < released) :
    serve released (enqueued ticket r :: qs) =
      { serve released qs with
        seen := r.number?.toList ++ (serve released qs).seen
        log := r.complaint?.toList ++ (serve released qs).log } := by
  cases r with
  | crash payload => cases payload <;> rfl
  | hold => exact if_pos (passes rfl)
  | _ => rfl

theorem IsIdle.settle_eq (h : w.IsIdle) : w.settle = (w, []) := by
  unfold settle
  split
  · rfl
  · rename_i running
    obtain h | h | ⟨ticket, qs, h, held⟩ := h
    · exact absurd h running
    · simp [Worker.ext_iff, serve, h, running]
    · simp [Worker.ext_iff, serve, h, running, Nat.not_lt_of_le held]

/-- A worker settles in the same way when it goes one round before. -/
theorem settle_eq_settle_round (w : Worker) :
    w.settle = (w.round.worker.settle.1, w.round.log ++ w.round.worker.settle.2) := by
  obtain ⟨-, hround⟩ | ⟨ticket, r, qs, running, hq, passes, hround⟩ | ⟨qs, running, hq, hround⟩ :=
    w.round_cases
  · rw [hround]
    rfl
  · simp [hround, settle, running, hq, serve_enqueued _ passes, afterHandling]
  · simp [hround, settle, running, hq, serve]

/-- **Settling is going rounds.** After as many rounds as there are entries in its queue, a worker
is idle, and it has come as far and logged the same as when it settles. -/
theorem rounds_of_length_le (h : w.queue.length ≤ n) :
    (w.rounds n).worker.IsIdle ∧ w.settle = ((w.rounds n).worker, (w.rounds n).log) := by
  induction n generalizing w with
  | zero =>
    have idle : w.IsIdle := .inr (.inl (List.eq_nil_of_length_eq_zero (by omega)))
    exact ⟨idle, idle.settle_eq⟩
  | succ n ih =>
    by_cases idle : w.IsIdle
    · rw [idle.rounds_eq]
      exact ⟨idle, idle.settle_eq⟩
    · have hlt := length_queue_round_lt idle
      obtain ⟨hidle, hsettle⟩ := ih (w := w.round.worker) (by omega)
      refine ⟨hidle, ?_⟩
      rw [settle_eq_settle_round, hsettle]
      rfl

end Worker

end GameHall
