import GameHall.Proofs.Rematch.Outcome

/-!
# Under which names users are known

A table knows its players and watchers under the names that their sessions bore when they came. Those
who may lead it (`Table.candidates`) are found by these names, so `Hall.Knows Q` says of all of them
that user and name are related as `Q` says.

Whoever comes to a table comes with the session that asked for it, or follows the leader of a replay
to the rematch, and then the name was known at the replay. So if the sessions that ask for anything
are named as `Q` says, all candidates are (`knows_after`).
-/

namespace GameHall

/-- A user and the name that the user goes by. -/
abbrev Named : Type := UserId × String

/-- The user of a session, with the name that the session bears. -/
def Session.named (s : Session) : Named := (s.user, s.name)

/-- The session that asks for an operation, if one does. -/
def Operation.session? : Operation → Option Session
  | .command s _ => some s
  | .openReplay s .. => some s
  | .disconnect _ | .checkSeating _ | .windDown => none

/-! ## Candidates -/

namespace Table

variable {t t' : Table} {s : Session} {u : UserId} {l : List Named}

/-- The user of a seat, with the name under which the seat was taken. -/
def seatNames (t : Table) : List Named := t.seats.map fun p => (p.user, p.name)

/-- The users watching, with their names. -/
def watcherNames (t : Table) : List Named := t.watchers.map Session.named

theorem candidates_of_replay (h : t.phase = .replay) : t.candidates = t.watcherNames :=
  if_pos (isReplay_iff.2 h)

theorem candidates_of_game (h : t.phase ≠ .replay) : t.candidates = t.seatNames :=
  if_neg (mt isReplay_iff.1 h)

/-- Changes of seats and watchers that do not end in another kind of table. -/
theorem candidates_subset (hphase : t'.phase = .replay ↔ t.phase = .replay)
    (hseats : t'.seatNames ⊆ l ++ t.seatNames) (hwatchers : t'.watcherNames ⊆ l ++ t.watcherNames) :
    t'.candidates ⊆ l ++ t.candidates := by
  by_cases h : t.phase = .replay
  · rw [candidates_of_replay h, candidates_of_replay (hphase.2 h)]
    exact hwatchers
  · rw [candidates_of_game h, candidates_of_game (mt hphase.1 h)]
    exact hseats

theorem candidates_seat (t : Table) (s : Session) :
    (t.seat s).candidates ⊆ [s.named] ++ t.candidates := by
  refine candidates_subset Iff.rfl ?_ (List.subset_append_right _ _)
  simp [seatNames, Table.seat, Seat.taken, Session.named]

theorem candidates_addWatcher (t : Table) (s : Session) :
    (t.addWatcher s).candidates ⊆ [s.named] ++ t.candidates := by
  refine candidates_subset Iff.rfl (List.subset_append_right _ _) ?_
  simp [watcherNames, Table.addWatcher]

/-- A seat is taken up again under its old name. -/
theorem candidates_reattach (t : Table) (s : Session) :
    (t.reattach s).candidates ⊆ t.candidates := by
  have hseats : (t.reattach s).seatNames = t.seatNames := map_changeFirst fun _ => rfl
  exact candidates_subset (l := []) Iff.rfl (List.Perm.of_eq hseats).subset (List.Subset.refl _)

theorem candidates_unseat (t : Table) (u : UserId) : (t.unseat u).candidates ⊆ t.candidates :=
  candidates_subset (l := []) Iff.rfl (List.map_subset _ List.eraseP_subset) (List.Subset.refl _)

theorem candidates_dropWatcher (t : Table) (u : UserId) :
    (t.dropWatcher u).candidates ⊆ t.candidates :=
  candidates_subset (l := []) Iff.rfl (List.Subset.refl _) (List.map_subset _ List.eraseP_subset)

theorem candidates_detach (t : Table) (u : UserId) : (t.detach u).candidates ⊆ t.candidates := by
  have hseats : (t.detach u).seatNames = t.seatNames := map_changeFirst fun _ => rfl
  exact candidates_subset (l := []) Iff.rfl (List.Perm.of_eq hseats).subset (List.Subset.refl _)

theorem candidates_withdraw (t : Table) (u : UserId) :
    (t.withdraw u).1.candidates ⊆ t.candidates :=
  withdraw_induction t u (List.Subset.refl _) (candidates_dropWatcher t u)
    (fun x _ hx => List.Subset.trans (candidates_detach x u) hx)
    (fun x _ hx => List.Subset.trans (candidates_unseat x u) hx)

theorem candidates_passedTo (t : Table) (name : String) (heir : UserId) :
    (t.passedTo name heir).candidates ⊆ t.candidates :=
  candidates_subset (l := []) Iff.rfl (List.map_subset _ (seats_passedTo_perm name heir).subset)
    (List.Subset.refl _)

theorem candidates_started (h : t.phase = .pregame) (luck : Nat) :
    (t.started luck).candidates ⊆ t.candidates := by
  have hseats : (t.started luck).seatNames = t.seatNames := map_seats_started (fun _ _ => rfl) luck
  refine candidates_subset (l := []) ?_ (List.Perm.of_eq hseats).subset (List.Subset.refl _)
  rw [h]
  exact ⟨nofun, nofun⟩

end Table

/-! ## Changes of a hall -/

namespace Hall

open Outcome

variable {h : Hall} {s : Session} {u : UserId} {id : TableId} {t t' : Table} {m : List Delivery}
  {Q : Named → Prop}

theorem Opening.candidates_eq (o : h.Opening s t) : t.candidates = [s.named] := by
  cases o with
  | lobby => rfl
  | review => rfl

theorem Arrival.candidates_subset {news : News} (a : h.Arrival s t news t') :
    t'.candidates ⊆ [s.named] ++ t.candidates := by
  cases a with
  | seat => exact t.candidates_seat s
  | reattach => exact List.Subset.trans (t.candidates_reattach s) (List.subset_append_right _ _)
  | watch => exact t.candidates_addWatcher s

theorem Departure.candidates_subset {news : List News} (d : Departure u t news t') :
    t'.candidates ⊆ t.candidates := by
  cases d with
  | leave => exact t.candidates_unseat u
  | stopWatching => exact t.candidates_dropWatcher u
  | withdraw => exact t.candidates_withdraw u

theorem Act.candidates_subset (a : h.Act t m t') : t'.candidates ⊆ t.candidates := by
  cases a with
  | passLead => exact t.candidates_passedTo ..
  | start phase => exact Table.candidates_started phase _

/-- All who may lead a table are users under names as `Q` says. -/
def Knows (Q : Named → Prop) (h : Hall) : Prop :=
  ∀ t ∈ h.tables, ∀ c ∈ t.candidates, Q c

theorem Knows.of_table (hk : h.Knows Q) (here : h.table? id = some t) : ∀ c ∈ t.candidates, Q c :=
  hk t (List.mem_of_find?_eq_some here)

theorem Knows.put (hk : h.Knows Q) (ht : ∀ c ∈ t.candidates, Q c) : (h.put t).Knows Q := by
  intro r hr
  obtain ⟨x, hx, rfl⟩ := List.mem_map.1 hr
  split
  · exact ht
  · exact hk x hx

/-- Nobody becomes known but as `Q` says. -/
def Introduces (Q : Named → Prop) (h : Hall) (_ : List Delivery) (h' : Hall) : Prop :=
  h.Knows Q → h'.Knows Q

theorem composes_introduces (Q : Named → Prop) : Composes (Introduces Q) where
  nothing := fun _ hk => hk
  append := fun hm hn hk => hn (hm hk)

theorem Opens.introduces {o : Outcome Refusal TableId} (ho : h.Opens s o) (hs : Q s.named) :
    o.Meets (Introduces Q) h := by
  rcases ho with ⟨e, rfl⟩ | ⟨t, o, rfl⟩
  · exact (composes_introduces Q).refuse e
  · intro hk r hr
    rcases List.mem_append.1 hr with hr | hr
    · exact hk r hr
    · obtain rfl := List.mem_singleton.1 hr
      rw [o.candidates_eq]
      exact List.forall_mem_singleton.2 hs

end Hall

namespace Outcome

open Hall

variable {h : Hall} {s : Session} {u : UserId} {id : TableId} {Q : Named → Prop}

theorem Arrives.introduces {news : News} {o : Outcome Refusal Unit} (ho : o.Arrives h s id news)
    (hs : Q s.named) : o.Meets (Introduces Q) h := by
  rcases ho with ⟨r, rfl⟩ | ⟨t, t', here, a, rfl⟩
  · exact (composes_introduces Q).nothing h
  · intro hk
    refine hk.put fun c hc => ?_
    rcases List.mem_append.1 (a.candidates_subset hc) with hc | hc
    · obtain rfl := List.mem_singleton.1 hc
      exact hs
    · exact hk.of_table here c hc

theorem Departs.introduces {o : Outcome Refusal Unit} (ho : o.Departs h u id) :
    o.Meets (Introduces Q) h := by
  rcases ho with ⟨r, rfl⟩ | ⟨t, t', news, here, d, rfl⟩
  · exact (composes_introduces Q).nothing h
  · intro hk
    unfold depart
    split
    · exact fun r hr => hk r (List.mem_of_mem_filter hr)
    · exact hk.put fun c hc => hk.of_table here c (d.candidates_subset hc)

theorem Acts.introduces {o : Outcome Rejection Unit} (ho : o.Acts h id) :
    o.Meets (Introduces Q) h := by
  rcases ho with ⟨r, rfl⟩ | ⟨t, t', m, here, a, rfl⟩
  · exact (composes_introduces Q).nothing h
  · exact fun hk => hk.put fun c hc => hk.of_table here c (a.candidates_subset hc)

end Outcome

/-! ## Operations -/

namespace Hall

open Outcome

variable {h : Hall} {s : Session} {id : TableId} {t : Table} {Q : Named → Prop}

/-- The followers of the leader are known at the replay under the names of their sessions. -/
theorem Knows.of_follower (hk : h.Knows Q) (hplan : h.rematchPlan s id = .ok t) :
    ∀ w ∈ t.followers s, Q w.named := by
  intro w hw
  obtain ⟨here, hshared, -⟩ := rematchPlan_eq_ok hplan
  refine hk.of_table here w.named ?_
  rw [Table.candidates_of_replay (Table.isSharedReplay_iff.1 hshared).1]
  exact List.mem_map_of_mem (List.mem_of_mem_filter hw)

theorem Knows.rematch (hk : h.Knows Q) (hs : Q s.named) (luck : Luck) (id : TableId) :
    (h.rematch luck s id).hall.Knows Q := by
  cases hplan : h.rematchPlan s id with
  | error e =>
    rw [rematch_eq_refuse hplan]
    exact hk
  | ok t =>
    have hplays : (h.playAgain luck s t).Meets (Introduces Q) h :=
      (composes_introduces Q).playAgain
        (fun w hw h id => (arrives_join h w id).introduces (hk.of_follower hplan w hw))
        (fun h u id => (acts_start h luck.deal u id).introduces)
        (fun h u id => (departs_stopWatching h u id).introduces)
        (fun h name options => (opens_openTable h s name options).introduces hs) h
    rw [rematch_eq_andThen hplan, hall_andThen_of_ok rfl]
    exact hplays hk

/-- One operation introduces at most the session that asks for it. -/
theorem Knows.perform (hk : h.Knows Q) (luck : Luck) (op : Operation)
    (hop : ∀ s, op.session? = some s → Q s.named) : (h.perform luck op).hall.Knows Q := by
  cases op with
  | command s c =>
    have hs : Q s.named := hop s rfl
    cases c with
    | openTable name options => exact (opens_openTable h s name options).introduces hs hk
    | join id => exact (arrives_join h s id).introduces hs hk
    | leave id => exact (departs_leave h s.user id).introduces hk
    | watch id => exact (arrives_watch h s id).introduces hs hk
    | stopWatching id => exact (departs_stopWatching h s.user id).introduces hk
    | passLead id name => exact (acts_passLead h s id name).introduces hk
    | start id => exact (acts_start h luck.deal s.user id).introduces hk
    | rematch id => exact hk.rematch hs luck id
  | openReplay s name roster options visible =>
    exact (opens_openReplay h s name roster options visible).introduces (hop s rfl) hk
  | disconnect u =>
    exact (composes_introduces Q).withdrawAll
      (fun h id => (departs_withdraw h u id).introduces) h _ hk
  | checkSeating users =>
    obtain ⟨r, hr⟩ := checkSeating_eq h users
    change (h.checkSeating users).hall.Knows Q
    rwa [hr]
  | windDown => exact hk

/-- A run introduces at most the sessions that ask for something. -/
theorem Knows.run (hk : h.Knows Q) {ops : List (Luck × Operation)}
    (hops : ∀ op ∈ ops, ∀ s, op.2.session? = some s → Q s.named) : (h.run ops).Knows Q := by
  induction ops generalizing h with
  | nil => exact hk
  | cons op ops ih =>
    obtain ⟨hop, hops⟩ := List.forall_mem_cons.1 hops
    exact ih (hk.perform op.1 op.2 hop) hops

/-- **Users are known under the names of their sessions.** -/
theorem knows_after (limits : Limits) (variants : List String) {ops : List (Luck × Operation)}
    (hops : ∀ op ∈ ops, ∀ s, op.2.session? = some s → Q s.named) :
    (after limits variants ops).Knows Q :=
  Knows.run (fun _ ht => absurd ht List.not_mem_nil) hops

end Hall

end GameHall
