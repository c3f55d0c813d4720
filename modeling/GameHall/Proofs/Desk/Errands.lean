import GameHall.Desk
import GameHall.Proofs.Hall.Change

/-!
# Errands at a desk

Between two visits the worker of a desk rests: nothing is queued, and every request that was
accepted was done (`Desk.rested`). What an errand does then depends on whether the worker has
stopped.

* At an open desk, an errand does what an operation does to the hall (`Errand.Does`), however many
  requests it makes on the way.
* At a desk whose worker has stopped, an errand fails with its first request and does nothing
  (`Errand.TurnedAway`).

Both are shown for a single request and carried from the parts of an errand to the whole, command by
command (`does_obey`, `turnedAway_obey`).
-/

namespace GameHall

namespace Desk

/-- The worker of a desk between two visits, when `n` requests were accepted. -/
def rested (stopped : Bool) (n : Nat) : Worker :=
  ⟨hallManager, [], stopped, stopped, (List.range n).map Nat.cast, 0, 0⟩

/-- The desk is between two visits. -/
def Rests (d : Desk) (stopped : Bool) : Prop := d.worker = rested stopped d.accepted

variable {d : Desk} {h : Hall} {n : Nat} {stopped : Bool}

theorem rests_ofHall (h : Hall) : (ofHall h).Rests false := rfl

/-! ## Single requests -/

theorem submit_rested (n : Nat) :
    (rested false n).submit (.record n) =
      .ok { rested false n with queue := [.record n] } := rfl

theorem settle_queued (n : Nat) :
    ({ rested false n with queue := [.record n] } : Worker).settle.1 = rested false (n + 1) := by
  simp [Worker.settle, Worker.serve, rested, List.range_succ]

theorem mem_seen_rested (n : Nat) : (n : Int) ∈ (rested stopped (n + 1)).seen := by
  simp [rested, List.range_succ]

/-- The worker of an open desk comes to every request that it accepts. -/
theorem attend_call (hd : d.Rests false) (r : HallRequest) :
    d.attend (call r) =
      ((d.hall.serve r).result,
        ⟨(d.hall.serve r).hall, rested false (d.accepted + 1), d.accepted + 1,
          d.sent ++ (d.hall.serve r).sent⟩) := by
  have hcall : d.attend (call r) = call r d := rfl
  rw [hcall, call, hd, submit_rested]
  simp only [settle_queued, mem_seen_rested, if_true]

/-- A worker that has stopped accepts nothing. -/
theorem attend_call_of_stopped (hd : d.Rests true) (r : HallRequest) :
    d.attend (call r) = (.error (.closed hallManager), d) := by
  have hcall : d.attend (call r) = call r d := rfl
  rw [hcall, call, hd]
  rfl

/-- A shutdown finds the worker with nothing left to do, or stopped already. -/
theorem shutdown_eq (hd : d.Rests stopped) :
    d.shutdown = (.exited, { d with worker := rested true d.accepted }) := by
  rw [shutdown, hd]
  cases stopped <;> simp [Worker.shutdown, Worker.step, Worker.settle, Worker.serve, rested]

end Desk

namespace Outcome

variable {ε α : Type}

/-- Goes on with a second operation if the first failed. -/
def onError (o : Outcome ε α) (next : Hall → ε → Outcome ε α) : Outcome ε α :=
  match o.result with
  | .ok a => ⟨o.hall, o.sent, .ok a⟩
  | .error x =>
    let p := next o.hall x
    ⟨p.hall, o.sent ++ p.sent, p.result⟩

theorem forgive_eq_onError (harmless : ε → Bool) (o : Outcome ε Unit) :
    o.forgive harmless = o.onError fun h x => if harmless x then h.done else h.refuse x := by
  obtain ⟨h, m, _ | _⟩ := o
  · simp only [forgive, onError]
    split <;> simp [Hall.done, Hall.refuse]
  · rfl

theorem andThen_tell {β : Type} (o : Outcome ε α) (b : β) :
    (o.andThen fun h _ => h.tell b) = o.map fun _ => b := by
  obtain ⟨h, m, _ | _⟩ := o
  · rfl
  · simp only [Outcome.andThen, Outcome.map, Hall.tell, List.append_nil]
    rfl

end Outcome

/-- Tells of the table that was found, if there is one. -/
def Hall.found (h : Hall) (id : TableId) : Option Table → Outcome Rejection Table
  | some t => h.tell t
  | none => h.refuse (.noTable id)

/-- The table of a number, or that there is none. -/
def Hall.lookUp (h : Hall) (id : TableId) : Outcome Rejection Table := h.found id (h.table? id)

/-- What becomes of a rematch when the table was found. -/
def Hall.rematchAt (h : Hall) (luck : Luck) (s : Session) (id : TableId) (t : Table) :
    Outcome Rejection TableId :=
  match Desk.rematchObstacle? s id t with
  | some e => h.refuse e
  | none =>
    ((h.checkSeating (rematchUsers s t.rematchPlayers)).mapError .ofRefusal).andThen fun h _ =>
      (⟨h, t.announce .boot, .ok ()⟩ : Outcome Rejection Unit).andThen fun h _ =>
        h.playAgain luck s t

theorem Hall.lookUp_of_none {h : Hall} {id : TableId} (here : h.table? id = none) :
    h.lookUp id = h.refuse (.noTable id) := by
  rw [lookUp, here]
  rfl

theorem Hall.lookUp_of_some {h : Hall} {id : TableId} {t : Table} (here : h.table? id = some t) :
    h.lookUp id = h.tell t := by
  rw [lookUp, here]
  rfl

theorem Hall.id_of_lookUp {id : TableId} {t : Table}
    (h : ∃ k : Hall, (k.lookUp id).result = .ok t) : t.id = id := by
  obtain ⟨k, hk⟩ := h
  cases here : k.table? id with
  | none =>
    rw [lookUp_of_none here] at hk
    cases hk
  | some t' =>
    rw [lookUp_of_some here] at hk
    cases hk
    exact table?_id here

theorem Hall.rematchPlan_eq {h : Hall} {s : Session} {id : TableId} {t : Table}
    (here : h.table? id = some t) :
    h.rematchPlan s id =
      match Desk.rematchObstacle? s id t with
      | some e => .error e
      | none =>
        match h.seatingObstacle? (rematchUsers s t.rematchPlayers) with
        | some e => .error (.ofRefusal e)
        | none => .ok t := by
  simp only [rematchPlan, here, Desk.rematchObstacle?]
  split_ifs <;> rfl

theorem Hall.rematch_eq_rematchAt (h : Hall) (luck : Luck) (s : Session) (id : TableId) :
    h.rematch luck s id = (h.lookUp id).andThen fun h t => h.rematchAt luck s id t := by
  cases here : h.table? id with
  | none => simp only [rematch, rematchPlan, lookUp_of_none here, here, Outcome.andThen, refuse]
  | some t =>
    simp only [rematch, rematchPlan_eq here, lookUp_of_some here, Outcome.andThen, tell, rematchAt]
    cases Desk.rematchObstacle? s id t with
    | some e => rfl
    | none =>
      simp only [checkSeating]
      cases h.seatingObstacle? (rematchUsers s t.rematchPlayers) <;> rfl

open Desk Outcome

namespace Errand

variable {ε δ α β : Type} {d : Desk}

/-! ## The parts of an errand -/

theorem attend_bind (d : Desk) (e : Errand ε α) (k : α → Errand ε β) :
    d.attend (e >>= k) =
      match d.attend e with
      | (.ok a, d') => d'.attend (k a)
      | (.error x, d') => (.error x, d') := by
  have hrun : d.attend (e >>= k) = ExceptT.bindCont k (d.attend e).1 (d.attend e).2 := rfl
  rw [hrun]
  rcases d.attend e with ⟨_ | _, _⟩ <;> rfl

theorem attend_mapError (d : Desk) (f : ε → δ) (e : Errand ε α) :
    d.attend (e.mapError f) = ((d.attend e).1.mapError f, (d.attend e).2) := rfl

theorem attend_map (d : Desk) (f : α → β) (e : Errand ε α) :
    d.attend (f <$> e) = ((d.attend e).1.map f, (d.attend e).2) := by
  have hrun : d.attend (f <$> e) =
      (match (d.attend e).1 with
        | .ok a => (pure (.ok (f a)) : StateM Desk (Except ε β))
        | .error x => pure (.error x)) (d.attend e).2 := rfl
  rw [hrun]
  rcases d.attend e with ⟨_ | _, _⟩ <;> rfl

theorem attend_tryCatch (d : Desk) (e : Errand ε α) (k : ε → Errand ε α) :
    d.attend (tryCatch e k) =
      match d.attend e with
      | (.ok a, d') => (.ok a, d')
      | (.error x, d') => d'.attend (k x) := by
  have hrun : d.attend (tryCatch e k) =
      (match (d.attend e).1 with
        | .ok a => (pure (.ok a) : StateM Desk (Except ε α))
        | .error x => (k x).run) (d.attend e).2 := rfl
  rw [hrun]
  rcases d.attend e with ⟨_ | _, _⟩ <;> rfl

/-! ## At an open desk -/

/-- An open desk after an operation of the hall, when `n` requests were accepted. -/
def afterwards (d : Desk) (n : Nat) (o : Outcome ε α) : Desk :=
  ⟨o.hall, rested false n, n, d.sent ++ o.sent⟩

/-- At an open desk, an errand does what an operation does to the hall. -/
def Does (e : Errand ε α) (op : Hall → Outcome ε α) : Prop :=
  ∀ d : Desk, d.Rests false →
    ∃ n, d.attend e = ((op d.hall).result, afterwards d n (op d.hall))

variable {e : Errand ε α} {op : Hall → Outcome ε α}

theorem does_inPerson (op : Hall → Outcome ε α) : (inPerson op).Does op :=
  fun d hd => ⟨d.accepted, by rw [afterwards, ← hd]; rfl⟩

theorem does_call (r : HallRequest) : (call r).Does fun h => h.serve r :=
  fun d hd => ⟨d.accepted + 1, attend_call hd r⟩

theorem Does.mapError (he : e.Does op) (f : ε → δ) :
    (e.mapError f).Does fun h => (op h).mapError f := fun d hd => by
  obtain ⟨n, hn⟩ := he d hd
  exact ⟨n, by rw [attend_mapError, hn]; rfl⟩

theorem Does.map (he : e.Does op) (f : α → β) :
    Does (f <$> e) fun h => (op h).map f := fun d hd => by
  obtain ⟨n, hn⟩ := he d hd
  exact ⟨n, by rw [attend_map, hn]; rfl⟩

/-- A second part of an errand starts where the first has left the desk. -/
theorem afterwards_afterwards (d : Desk) (m n : Nat) (o : Outcome ε α) (p : Outcome δ β) :
    afterwards (afterwards d m o) n p =
      ⟨p.hall, rested false n, n, d.sent ++ (o.sent ++ p.sent)⟩ := by
  simp only [afterwards, List.append_assoc]

theorem Does.congr {op' : Hall → Outcome ε α} (he : e.Does op) (h : ∀ h, op h = op' h) :
    e.Does op' :=
  funext h ▸ he

theorem Does.bind {k : α → Errand ε β} {next : Hall → α → Outcome ε β} (he : e.Does op)
    (hk : ∀ a, (∃ h, (op h).result = .ok a) → (k a).Does fun h => next h a) :
    Does (e >>= k) fun h => (op h).andThen next := fun d hd => by
  obtain ⟨m, hm⟩ := he d hd
  rw [attend_bind, hm]
  cases hr : (op d.hall).result with
  | error x =>
    refine ⟨m, ?_⟩
    simp only [afterwards, Outcome.andThen, hr]
  | ok a =>
    obtain ⟨n, hn⟩ := hk a ⟨d.hall, hr⟩ (afterwards d m (op d.hall)) rfl
    rw [afterwards_afterwards] at hn
    refine ⟨n, hn.trans ?_⟩
    simp only [afterwards, Outcome.andThen, hr]

theorem Does.onError {k : ε → Errand ε α} {next : Hall → ε → Outcome ε α} (he : e.Does op)
    (hk : ∀ x, (k x).Does fun h => next h x) :
    Does (tryCatch e k) fun h => (op h).onError next := fun d hd => by
  obtain ⟨m, hm⟩ := he d hd
  rw [attend_tryCatch, hm]
  cases hr : (op d.hall).result with
  | ok a =>
    refine ⟨m, ?_⟩
    simp only [afterwards, Outcome.onError, hr]
  | error x =>
    obtain ⟨n, hn⟩ := hk x (afterwards d m (op d.hall)) rfl
    rw [afterwards_afterwards] at hn
    refine ⟨n, hn.trans ?_⟩
    simp only [afterwards, Outcome.onError, hr]

theorem afterwards_of_nothing {o : Outcome ε α} (hd : d.Rests false) (hh : o.hall = d.hall)
    (hm : o.sent = []) : afterwards d d.accepted o = d := by
  rw [afterwards, hh, hm, ← hd, List.append_nil]

theorem does_pure (a : α) : Does (pure a : Errand ε α) fun h => h.tell a :=
  fun d hd => ⟨d.accepted, by rw [afterwards_of_nothing hd rfl rfl]; rfl⟩

theorem does_throw (x : ε) : Does (throw x : Errand ε α) fun h => h.refuse x :=
  fun d hd => ⟨d.accepted, by rw [afterwards_of_nothing hd rfl rfl]; rfl⟩

theorem Does.forgive {e : Errand ε Unit} {op : Hall → Outcome ε Unit} (he : e.Does op)
    (harmless : ε → Bool) : (e.forgive harmless).Does fun h => (op h).forgive harmless := by
  simp only [forgive_eq_onError]
  refine he.onError fun x => ?_
  cases harmless x
  · exact does_throw x
  · exact does_pure ()

/-- Asking once for every entry of a list. -/
theorem does_forM {step : Hall → β → Outcome ε Unit} {all : Hall → List β → Outcome ε Unit}
    (c : Hall.Chain step all) {f : β → Errand ε Unit} (hf : ∀ b, (f b).Does fun h => step h b)
    (bs : List β) : Does (bs.forM f) fun h => all h bs := by
  induction bs with
  | nil =>
    simp only [c.nil]
    exact does_pure ()
  | cons b bs ih =>
    simp only [c.cons]
    exact (hf b).bind fun _ _ => ih

/-! ## Commands at an open desk -/

theorem does_ask (r : HallRequest) : (ask r).Does fun h => (h.serve r).mapError .ofRefusal :=
  (does_call r).mapError _

theorem does_found (id : TableId) (t : Option Table) : (found id t).Does fun h => h.found id t := by
  cases t with
  | some t => exact does_pure t
  | none => exact does_throw _

theorem does_lookUp (id : TableId) : (lookUp id).Does fun h => h.lookUp id :=
  ((does_ask (.find id)).bind fun t _ => does_found id t).congr fun _ => rfl

/-- What asks for a table and goes there does what is done there. -/
theorem does_at (id : TableId) {op : Hall → Outcome Rejection α}
    (hnone : ∀ h, h.table? id = none → op h = h.refuse (.noTable id)) :
    Does (do discard (lookUp id); inPerson op) op := by
  have hdiscard : Does (discard (lookUp id)) fun h => (h.lookUp id).map fun _ => () :=
    (does_lookUp id).map _
  refine (hdiscard.bind fun _ _ => does_inPerson op).congr fun h => ?_
  cases here : h.table? id with
  | none =>
    rw [Hall.lookUp_of_none here, hnone h here]
    rfl
  | some t =>
    rw [Hall.lookUp_of_some here]
    rfl

theorem does_passLead (s : Session) (id : TableId) (name : String) :
    (passLead s id name).Does fun h => h.passLead s id name :=
  does_at id fun h here => by simp only [Hall.passLead, here]

theorem does_start (luck : Nat) (u : UserId) (id : TableId) :
    (start luck u id).Does fun h => h.start luck u id :=
  does_at id fun h here => by simp only [Hall.start, here]

theorem does_leaveReplay (id : TableId) (users : List UserId) :
    (leaveReplay id users).Does fun h => h.leaveReplay id users :=
  does_forM (Hall.chain_leaveReplay id) (fun _ => ((does_call _).forgive _).mapError _) users

theorem does_seatAll (id : TableId) (sessions : List Session) :
    (seatAll id sessions).Does fun h => h.seatAll id sessions :=
  does_forM (Hall.chain_seatAll id) (fun _ => ((does_call _).forgive _).mapError _) sessions

theorem does_playAgain (luck : Luck) (s : Session) (t : Table) :
    (playAgain luck s t.id t.options t.rematchPlayers).Does fun h => h.playAgain luck s t := by
  have hend : ∀ id : TableId, Does
      (do
        (start luck.deal s.user id).mapError (Rejection.cutShort .startingGame)
        return id)
      fun h => ((h.start luck.deal s.user id).mapError (Rejection.cutShort .startingGame)).map
        fun _ => id :=
    fun id => (((does_start luck.deal s.user id).mapError _).bind fun _ _ => does_pure id).congr
      fun h => andThen_tell _ id
  exact (does_leaveReplay t.id _).bind fun _ _ =>
    ((does_call (.openTable s (tableName luck.name) t.options)).mapError _).bind fun id _ =>
      (does_seatAll id _).bind fun _ _ => hend id

theorem does_rematchAt (luck : Luck) (s : Session) (t : Table) :
    (rematchAt luck s t.id t).Does fun h => h.rematchAt luck s t.id t := by
  unfold rematchAt Hall.rematchAt
  cases rematchObstacle? s t.id t with
  | some e => exact does_throw e
  | none =>
    exact (does_ask (.checkSeating _)).bind fun _ _ =>
      (does_inPerson _).bind fun _ _ => does_playAgain luck s t

theorem does_rematch (luck : Luck) (s : Session) (id : TableId) :
    (rematch luck s id).Does fun h => h.rematch luck s id := by
  simp only [Hall.rematch_eq_rematchAt]
  refine (does_lookUp id).bind fun t ht => ?_
  obtain rfl : t.id = id := Hall.id_of_lookUp ht
  exact does_rematchAt luck s t

theorem does_obey (luck : Luck) (s : Session) (c : Command) :
    (obey luck s c).Does fun h => h.obey luck s c := by
  cases c with
  | openTable name options => exact (does_ask _).map _
  | join id => exact (does_ask (.join s id)).map _
  | leave id => exact (does_ask (.leave s.user id)).map _
  | watch id => exact (does_ask (.watch s id)).map _
  | stopWatching id => exact (does_ask (.stopWatching s.user id)).map _
  | passLead id name => exact (does_passLead s id name).map _
  | start id => exact (does_start luck.deal s.user id).map _
  | rematch id => exact (does_rematch luck s id).map _

theorem does_perform (luck : Luck) (op : Operation) :
    (perform luck op).Does fun h => h.perform luck op := by
  cases op with
  | command s c => exact does_obey luck s c
  | openReplay s name roster options visible => exact (does_ask _).map _
  | disconnect u => exact (does_ask (.disconnect u)).map _
  | checkSeating users => exact (does_ask (.checkSeating users)).map _
  | windDown => exact (does_ask .windDown).map _

/-- A session whose command is rejected is told so. -/
theorem does_handle (luck : Luck) (s : Session) (c : Command) :
    (handle luck s c).Does fun h => ((h.obey luck s c).map fun _ => ()).onError fun h e =>
      ⟨h, [e.notice s], .error e⟩ :=
  Does.onError (e := discard (obey luck s c)) ((does_obey luck s c).map _) fun e =>
    ((does_inPerson _).bind fun _ _ => does_throw e).congr fun _ => rfl

/-! ## At a desk whose worker has stopped -/

/-- At a desk whose worker has stopped, an errand fails with this error and nothing happens. -/
def TurnedAway (e : Errand ε α) (x : ε) : Prop :=
  ∀ d : Desk, d.Rests true → d.attend e = (.error x, d)

variable {x : ε}

theorem turnedAway_call (r : HallRequest) : (call r).TurnedAway (.closed hallManager) :=
  fun _ hd => attend_call_of_stopped hd r

theorem TurnedAway.mapError (he : e.TurnedAway x) (f : ε → δ) :
    (e.mapError f).TurnedAway (f x) := fun d hd => by
  rw [attend_mapError, he d hd]
  rfl

theorem TurnedAway.map (he : e.TurnedAway x) (f : α → β) : TurnedAway (f <$> e) x :=
  fun d hd => by
    rw [attend_map, he d hd]
    rfl

/-- Whoever is turned away does not go on. -/
theorem TurnedAway.bind (he : e.TurnedAway x) (k : α → Errand ε β) : TurnedAway (e >>= k) x :=
  fun d hd => by rw [attend_bind, he d hd]

theorem turnedAway_ask (r : HallRequest) :
    (ask r).TurnedAway (.refused (.closed hallManager)) :=
  (turnedAway_call r).mapError Rejection.ofRefusal

theorem turnedAway_lookUp (id : TableId) :
    (lookUp id).TurnedAway (.refused (.closed hallManager)) :=
  (turnedAway_ask (.find id)).bind _

theorem turnedAway_obey (luck : Luck) (s : Session) (c : Command) :
    (obey luck s c).TurnedAway (.refused (.closed hallManager)) := by
  cases c with
  | passLead id name => exact (((turnedAway_lookUp id).map _).bind _).map _
  | start id => exact (((turnedAway_lookUp id).map _).bind _).map _
  | rematch id => exact ((turnedAway_lookUp id).bind _).map _
  | _ => exact (turnedAway_ask _).map _

theorem turnedAway_perform (luck : Luck) (op : Operation) :
    (perform luck op).TurnedAway (.refused (.closed hallManager)) := by
  cases op with
  | command s c => exact turnedAway_obey luck s c
  | _ => exact (turnedAway_ask _).map _

/-- A session that is turned away is told so, and nothing else happens. -/
theorem attend_handle_of_stopped {d : Desk} (hd : d.Rests true) (luck : Luck) (s : Session)
    (c : Command) :
    d.attend (handle luck s c) =
      (.error (.refused (.closed hallManager)),
        { d with sent := d.sent ++ [(Rejection.refused (.closed hallManager)).notice s] }) := by
  have hdiscard : TurnedAway (discard (obey luck s c)) (.refused (.closed hallManager)) :=
    (turnedAway_obey luck s c).map _
  rw [handle, attend_tryCatch, hdiscard d hd]
  rfl

end Errand

end GameHall
