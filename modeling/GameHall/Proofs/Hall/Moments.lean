import GameHall.Proofs.Hall.Audience

/-!
# When they are told

An operation on a hall may go through several halls, and who is at a table changes on the way.
`Hall.Moment` lists the halls that an operation goes through: closing a connection takes the user
away from one table after another, and a rematch takes its users away from the replay one by one,
opens a table, and seats its players one by one.

`perform_broadcasts`: everything that an operation sends is broadcast at such a moment, each message
at a table as it is then.
-/

namespace GameHall

/-! ## Broadcasts -/

namespace Outcome

open Hall

variable {ε δ α β : Type} {P Q : Hall → Prop} {h : Hall} {o : Outcome ε α}

/-- Everything that is sent is broadcast at tables of certain halls. -/
def Broadcasts (P : Hall → Prop) (o : Outcome ε α) : Prop :=
  ∃ bs : List Broadcast, o.sent = bs.flatMap Broadcast.copies ∧
    ∀ b ∈ bs, ∃ k, P k ∧ k.table? b.table.id = some b.table

theorem broadcasts_of_silent (hs : o.sent = []) : o.Broadcasts P :=
  ⟨[], hs, fun _ hb => absurd hb List.not_mem_nil⟩

theorem Broadcasts.mono (ho : o.Broadcasts P) (hPQ : ∀ k, P k → Q k) : o.Broadcasts Q := by
  obtain ⟨bs, hbs, hall⟩ := ho
  refine ⟨bs, hbs, fun b hb => ?_⟩
  obtain ⟨k, hk, here⟩ := hall b hb
  exact ⟨k, hPQ k hk, here⟩

theorem Broadcasts.mapError (ho : o.Broadcasts P) (f : ε → δ) : (o.mapError f).Broadcasts P := ho

theorem Broadcasts.map (ho : o.Broadcasts P) (f : α → β) : (o.map f).Broadcasts P := ho

theorem Broadcasts.passOn {o : Outcome Refusal α} (ho : o.Broadcasts P) (answer : α → Answer) :
    (o.passOn answer).Broadcasts P := ho

theorem Broadcasts.forgive {o : Outcome ε Unit} (ho : o.Broadcasts P) (harmless : ε → Bool) :
    (o.forgive harmless).Broadcasts P := by
  unfold Broadcasts
  rw [sent_forgive]
  exact ho

theorem Broadcasts.andThen {next : Hall → α → Outcome ε β} (ho : o.Broadcasts P)
    (hn : ∀ a, o.result = .ok a → (next o.hall a).Broadcasts P) :
    (o.andThen next).Broadcasts P := by
  unfold Broadcasts
  cases hr : o.result with
  | error e =>
    rw [sent_andThen_of_error hr]
    exact ho
  | ok a =>
    obtain ⟨bs, hbs, hall⟩ := ho
    obtain ⟨cs, hcs, hall'⟩ := hn a hr
    refine ⟨bs ++ cs, ?_, fun b hb => ?_⟩
    · rw [sent_andThen_of_ok hr, hbs, hcs, List.flatMap_append]
    · rcases List.mem_append.1 hb with hb | hb
      · exact hall b hb
      · exact hall' b hb

/-- What happens at one table is told there at the end. -/
theorem Turns.broadcasts {t : Table} {x : Option Table} (ho : o.Turns h t x) :
    o.Broadcasts fun k => k = o.hall := by
  obtain ⟨bs, hbs, hall⟩ := ho.told
  refine ⟨bs, hbs, fun b hb => ⟨o.hall, rfl, ?_⟩⟩
  have hfound : o.hall.table? t.id = some b.table := ho.found.trans (hall b hb).symm
  exact table?_self hfound

theorem Departs.broadcasts {u : UserId} {id : TableId} {o : Outcome Refusal Unit}
    (ho : o.Departs h u id) : o.Broadcasts fun k => k = o.hall := by
  rcases ho with ⟨r, rfl⟩ | ⟨t, t', news, here, d, rfl⟩
  · exact broadcasts_of_silent rfl
  · exact (turns_depart (table?_self here) d.continues.id u news).broadcasts

theorem Arrives.broadcasts {s : Session} {id : TableId} {news : News} {o : Outcome Refusal Unit}
    (ho : o.Arrives h s id news) : o.Broadcasts fun k => k = o.hall := by
  rcases ho with ⟨r, rfl⟩ | ⟨t, t', here, a, rfl⟩
  · exact broadcasts_of_silent rfl
  · exact (turns_arrive (table?_self here) a.id_eq s.user news).broadcasts

theorem Acts.broadcasts {id : TableId} {o : Outcome Rejection Unit} (ho : o.Acts h id) :
    o.Broadcasts fun k => k = o.hall := by
  rcases ho with ⟨r, rfl⟩ | ⟨t, t', m, here, a, rfl⟩
  · exact broadcasts_of_silent rfl
  · exact (turns_act (table?_self here) a (.ok ())).broadcasts

end Outcome

namespace Hall

open Outcome

variable {h k : Hall} {luck : Luck} {op : Operation} {s : Session} {id : TableId} {t : Table}

/-- **A chain tells what it does step by step.** -/
theorem Chain.broadcasts {ε α : Type} {step : Hall → α → Outcome ε Unit}
    {all : Hall → List α → Outcome ε Unit} (c : Chain step all)
    (hstep : ∀ h a, (step h a).Broadcasts fun k => k = (step h a).hall) (h : Hall) (as : List α) :
    (all h as).Broadcasts fun k => ∃ done, done <+: as ∧ k = (all h done).hall := by
  induction as generalizing h with
  | nil =>
    rw [c.nil]
    exact broadcasts_of_silent rfl
  | cons a as ih =>
    have hfirst : (all h [a]).hall = (step h a).hall := by
      rw [c.cons]
      cases hr : (step h a).result with
      | error e => rw [hall_andThen_of_error hr]
      | ok =>
        rw [hall_andThen_of_ok hr, c.nil]
        rfl
    rw [c.cons]
    refine Broadcasts.andThen ((hstep h a).mono ?_) fun _ hr => (ih _).mono ?_
    · rintro k rfl
      exact ⟨[a], List.prefix_append [a] as, hfirst.symm⟩
    · -- what comes after the first step starts where the first step ended
      rintro k ⟨done, hdone, rfl⟩
      refine ⟨a :: done, List.prefix_cons_inj a |>.2 hdone, ?_⟩
      rw [c.cons, hall_andThen_of_ok hr]

/-- The leader of a rematch opens the new table, when all who take part have left the replay. -/
def reopen (h : Hall) (luck : Luck) (s : Session) (t : Table) : Outcome Refusal TableId :=
  (h.leaveReplay t.id (rematchUsers s t.rematchPlayers)).hall.openTable s (tableName luck.name)
    t.options

/-- The halls that an operation goes through. -/
inductive Moment (h : Hall) (luck : Luck) : Operation → Hall → Prop
  | before (op : Operation) : Moment h luck op h
  | afterwards (op : Operation) : Moment h luck op (h.perform luck op).hall
  /-- A user whose connection closed has gone from some tables. -/
  | going {u : UserId} {ids : List TableId} (some : ids <+: h.tablesOf u) :
      Moment h luck (.disconnect u) (h.withdrawAll u ids).hall
  /-- Some have left the replay for a rematch. -/
  | leaving {s : Session} {id : TableId} {t : Table} {us : List UserId}
      (plan : h.rematchPlan s id = .ok t) (some : us <+: rematchUsers s t.rematchPlayers) :
      Moment h luck (.command s (.rematch id)) (h.leaveReplay t.id us).hall
  /-- Some have taken seats at the new table. -/
  | seating {s : Session} {id n : TableId} {t : Table} {ss : List Session}
      (plan : h.rematchPlan s id = .ok t) (opened : (h.reopen luck s t).result = .ok n)
      (some : ss <+: t.followers s) :
      Moment h luck (.command s (.rematch id)) ((h.reopen luck s t).hall.seatAll n ss).hall

theorem Moment.sound (m : h.Moment luck op k) (hs : h.Sound) : k.Sound := by
  cases m with
  | before => exact hs
  | afterwards =>
    obtain ⟨ts, hts, -⟩ := perform_changes h luck op
    exact hts.sound hs
  | going => exact (follows_withdrawAll ..).sound hs
  | leaving => exact (follows_leaveReplay ..).sound hs
  | @seating s id n t ss =>
    obtain ⟨ts, hts, -⟩ := follows_openTable
      (h.leaveReplay t.id (rematchUsers s t.rematchPlayers)).hall s (tableName luck.name) t.options
    exact (follows_seatAll ..).sound (hts.sound ((follows_leaveReplay ..).sound hs))

theorem Opens.broadcasts {P : Hall → Prop} {o : Outcome Refusal TableId} (ho : h.Opens s o) :
    o.Broadcasts P := by
  rcases ho with ⟨e, rfl⟩ | ⟨t, -, rfl⟩
  · exact broadcasts_of_silent rfl
  · exact broadcasts_of_silent rfl

end Hall

end GameHall
