import GameHall.Proofs.Hall.Composition

/-!
# What operations do

An operation is a sequence of changes, and a change is one of a few: a table opens, a user arrives
at a table or departs from one, something is done at a table, the hall winds down, or those at a
replay are sent away. `Hall.Change h opened sent h'` says that a change takes `h` to `h'`, which
table it opens, what it sends, and under which conditions an operation lets it happen.

* `Hall.Changes` are sequences of changes. `perform_changes` finds one for every operation, with the
  tables that the operation opens.
* `Outcome.AtOnce` holds of the operations that either refuse or succeed. The steps of a rematch may
  fail after others have succeeded.
* `Reachable.induction_on_changes` proves a property of reachable halls change by change, and
  `Change.forall_tables` is the step for a property of their tables.
-/

namespace GameHall

namespace Hall

/-! ## Changes -/

/-- A session may open a table. -/
inductive Opening (h : Hall) (s : Session) : Table → Prop
  | lobby {name : String} {options : Options} (accepting : h.windingDown = false)
      (named : isBlankText name = false) (known : options.variant ∈ h.variants)
      (idle : h.otherGame? s.user none = none) :
      Opening h s (.lobby ⟨h.nextId⟩ (trimmed name) s options h.limits.maxPlayers.toNat)
  | review {name : String} {roster : List (UserId × String)} {options : Options} {visible : Bool}
      (accepting : h.windingDown = false) (named : isBlankText name = false)
      (known : options.variant ∈ h.variants) (played : roster ≠ []) :
      Opening h s (.review ⟨h.nextId⟩ (trimmed name) roster s options visible)

/-- A session may come to a table, with the news of it and the table afterwards. -/
inductive Arrival (h : Hall) (s : Session) (t : Table) : News → Table → Prop
  | seat (accepting : h.windingDown = false) (idle : h.otherGame? s.user (some t.id) = none)
      (phase : t.phase = .pregame) (new : t.hasSeat s.user = false) (room : t.isFull = false) :
      Arrival h s t .seatsChanged (t.seat s)
  | reattach (phase : t.phase = .running) (lost : t.isDetached s.user = true)
      (idle : h.otherGame? s.user (some t.id) = none) :
      Arrival h s t .seatsChanged (t.reattach s)
  | watch (phase : t.phase ≠ .pregame) (allowed : t.isSoloReplay = true → t.owner = s.user)
      (unseated : t.phase ≠ .replay → t.hasSeat s.user = false)
      (new : t.isWatching s.user = false) :
      Arrival h s t .watchersChanged (t.addWatcher s)

/-- A user may go from a table, with the news of it and the table afterwards. -/
inductive Departure (u : UserId) (t : Table) : List News → Table → Prop
  | leave (phase : t.phase = .pregame) (seated : t.hasSeat u = true) :
      Departure u t [.seatsChanged] (t.unseat u)
  | stopWatching (watching : t.isWatching u = true) :
      Departure u t
        (.watchersChanged :: if t.leadMoves u then [.newLeader (t.dropWatcher u).owner] else [])
        (t.dropWatcher u)
  | withdraw : Departure u t (t.withdraw u).2.toList (t.withdraw u).1

/-- Something may be done at a table, with what is sent of it and the table afterwards. -/
inductive Act (h : Hall) (t : Table) : List Delivery → Table → Prop
  | passLead {s : Session} {name : String} {heir : UserId × String}
      (named : isBlankText name = false) (shared : t.isSoloReplay = false)
      (leads : t.owner = s.user) (other : Table.sameName name s.name = false)
      (found : t.heir? name = some heir) :
      Act h t ((t.passedTo name heir.1).leadNews s.name heir) (t.passedTo name heir.1)
  | start {luck : Nat} (phase : t.phase = .pregame)
      (enough : h.limits.minPlayersToStart.toNat ≤ t.seats.length) :
      Act h t ((t.started luck).announce .started) (t.started luck)

/-- One change of a hall: the table it opens, what it sends, and the hall afterwards. -/
inductive Change (h : Hall) : Option Table → List Delivery → Hall → Prop
  | opens {s : Session} {t : Table} (o : h.Opening s t) :
      Change h (some t) []
        { h with
          tables := h.tables ++ [t]
          presence := h.presence.insert s.user t.id
          nextId := h.nextId + 1 }
  | arrives {s : Session} {t t' : Table} {news : News} (here : h.table? t.id = some t)
      (a : h.Arrival s t news t') : Change h none (t'.announce news) ((h.put t').note s.user t'.id)
  | departs {u : UserId} {t t' : Table} {news : List News} (here : h.table? t.id = some t)
      (d : Departure u t news t') (left : t'.isDeserted = false) :
      Change h none (news.flatMap t'.announce) ((h.put t').forget u t'.id)
  | deserts {u : UserId} {t t' : Table} {news : List News} (here : h.table? t.id = some t)
      (d : Departure u t news t') (nobody : t'.isDeserted = true) :
      Change h none [] ((h.forget u t'.id).remove t'.id)
  | acts {t t' : Table} {sent : List Delivery} (here : h.table? t.id = some t)
      (a : h.Act t sent t') : Change h none sent (h.put t')
  | windsDown : Change h none [] { h with windingDown := true }
  | boots {s : Session} {t : Table} (plan : h.rematchPlan s t.id = .ok t) :
      Change h none (t.announce .boot) h

/-- Changes one after the other. -/
inductive Changes : Hall → List Table → List Delivery → Hall → Prop
  | none (h : Hall) : Changes h [] [] h
  | cons {h₁ h₂ h₃ : Hall} {t : Option Table} {ts : List Table} {m ms : List Delivery}
      (c : h₁.Change t m h₂) (cs : Changes h₂ ts ms h₃) : Changes h₁ (t.toList ++ ts) (m ++ ms) h₃

theorem Change.changes {h h' : Hall} {t : Option Table} {m : List Delivery}
    (c : h.Change t m h') : Changes h t.toList m h' := by
  simpa using Changes.cons c (.none h')

theorem Changes.trans {h₁ h₂ h₃ : Hall} {ts us : List Table} {ms ns : List Delivery}
    (c : Changes h₁ ts ms h₂) (d : Changes h₂ us ns h₃) : Changes h₁ (ts ++ us) (ms ++ ns) h₃ := by
  induction c with
  | none => exact d
  | cons c _ ih => simpa only [List.append_assoc] using Changes.cons c (ih d)

end Hall

/-! ## Outcomes -/

/-- Whether a rematch stopped part-way. -/
def Rejection.isCutShort : Rejection → Bool
  | .cutShort .. => true
  | _ => false

namespace Outcome

open Hall

variable {ε δ α β : Type} {h : Hall} {ts us : List Table} {o : Outcome ε α}

/-- An outcome that changes bring about. -/
def Follows (h : Hall) (ts : List Table) (o : Outcome ε α) : Prop :=
  Changes h ts o.sent o.hall

theorem follows_refuse (e : ε) : Follows h [] (h.refuse e : Outcome ε α) := .none h

/-- An outcome that refuses, or that changes bring about and that succeeds. -/
def AtOnce (h : Hall) (o : Outcome ε α) : Prop :=
  (∃ e, o = h.refuse e) ∨ ∃ a m h', Changes h [] m h' ∧ o = ⟨h', m, .ok a⟩

theorem atOnce_refuse (e : ε) : AtOnce h (h.refuse e : Outcome ε α) := .inl ⟨e, rfl⟩

theorem atOnce_done : AtOnce h (h.done : Outcome ε Unit) := .inr ⟨(), [], h, .none h, rfl⟩

theorem AtOnce.follows (ho : o.AtOnce h) : o.Follows h [] := by
  rcases ho with ⟨e, rfl⟩ | ⟨a, m, h', cs, rfl⟩
  · exact follows_refuse e
  · exact cs

/-- Where an outcome either refuses or succeeds, its errors are refusals. -/
theorem eq_refuse_of_error (ho : (∃ e, o = h.refuse e) ∨ ∃ a, o.result = .ok a) {e : ε}
    (he : o.result = .error e) : o = h.refuse e := by
  rcases ho with ⟨e', rfl⟩ | ⟨a, ha⟩
  · rw [Except.error.inj he]
  · rw [ha] at he
    cases he

theorem AtOnce.eq_refuse (ho : o.AtOnce h) {e : ε} (he : o.result = .error e) :
    o = h.refuse e := by
  refine eq_refuse_of_error (ho.imp_right ?_) he
  rintro ⟨a, m, h', -, rfl⟩
  exact ⟨a, rfl⟩

theorem Follows.mapError (f : ε → δ) (ho : o.Follows h ts) : (o.mapError f).Follows h ts := ho

theorem Follows.map (f : α → β) (ho : o.Follows h ts) : (o.map f).Follows h ts := ho

theorem Follows.passOn {o : Outcome Refusal α} (answer : α → Answer) (ho : o.Follows h ts) :
    (o.passOn answer).Follows h ts := ho

theorem Follows.forgive {o : Outcome ε Unit} (harmless : ε → Bool) (ho : o.Follows h ts) :
    (o.forgive harmless).Follows h ts := by
  simp only [Outcome.forgive]
  split
  · exact ho
  · split <;> exact ho

/-- The second operation may depend on the answer of the first. -/
theorem Follows.andThen (ho : o.Follows h ts) {next : Hall → α → Outcome ε β}
    (hn : ∀ a, (next o.hall a).Follows o.hall []) : (o.andThen next).Follows h ts := by
  simp only [Outcome.andThen]
  cases o.result with
  | error e => exact ho
  | ok a =>
    have hboth := Changes.trans ho (hn a)
    rwa [List.append_nil] at hboth

/-- The first operation opens nothing; the second may open tables. -/
theorem Follows.andThen_opens (ho : o.Follows h []) {next : Hall → α → Outcome ε β}
    {P : List Table → Except ε β → Prop} (he : ∀ e, P [] (.error e))
    (hn : ∀ a, ∃ ts, (next o.hall a).Follows o.hall ts ∧ P ts (next o.hall a).result) :
    ∃ ts, (o.andThen next).Follows h ts ∧ P ts (o.andThen next).result := by
  simp only [Outcome.andThen]
  cases o.result with
  | error e => exact ⟨[], ho, he e⟩
  | ok a =>
    obtain ⟨ts, hts, hp⟩ := hn a
    exact ⟨ts, Changes.trans ho hts, hp⟩

theorem result_andThen_eq_ok {next : Hall → α → Outcome ε β} {b : β}
    (hok : (o.andThen next).result = .ok b) :
    ∃ a, o.result = .ok a ∧ (next o.hall a).result = .ok b := by
  simp only [Outcome.andThen] at hok
  cases hr : o.result with
  | error e =>
    rw [hr] at hok
    cases hok
  | ok a =>
    rw [hr] at hok
    exact ⟨a, rfl, hok⟩

theorem result_mapError_eq_ok {f : ε → δ} {a : α} :
    (o.mapError f).result = .ok a ↔ o.result = .ok a := by
  rw [Outcome.mapError]
  cases o.result <;> simp [Except.mapError]

theorem result_map_eq_ok {f : α → β} {b : β} :
    (o.map f).result = .ok b ↔ ∃ a, o.result = .ok a ∧ f a = b := by
  rw [Outcome.map]
  cases o.result <;> simp [Except.map]

end Outcome

namespace Hall

open Outcome

variable {h : Hall} {s : Session} {u : UserId} {id : TableId} {t : Table}

theorem table?_id (here : h.table? id = some t) : t.id = id := by
  simpa using List.find?_some here

theorem table?_self (here : h.table? id = some t) : h.table? t.id = some t :=
  (table?_id here).symm ▸ here

/-! ## Obstacles -/

theorem openingObstacle?_eq_none {name : String} {options : Options}
    (hn : h.openingObstacle? name options = none) :
    h.windingDown = false ∧ isBlankText name = false ∧ options.variant ∈ h.variants := by
  simp only [openingObstacle?] at hn
  split at hn
  · cases hn
  · split at hn
    · cases hn
    · split at hn
      · cases hn
      · rename_i hw hb hv
        exact ⟨by simpa using hw, by simpa using hb, by simpa using hv⟩

theorem arrival_of_joinObstacle? (hn : h.joinObstacle? s.user t = none) :
    h.Arrival s t .seatsChanged (t.seat s) := by
  simp only [joinObstacle?] at hn
  split at hn
  · cases hn
  · rename_i hw
    split at hn
    · cases hn
    · rename_i hidle
      split at hn
      · cases hn
      · split at hn
        · cases hn
        · split at hn
          · cases hn
          · split at hn
            · cases hn
            · rename_i hreplay hrunning hseat hfull
              refine .seat (by simpa using hw) hidle ?_ (by simpa using hseat) (by simpa using hfull)
              cases hp : t.phase with
              | pregame => rfl
              | running => exact absurd hp hrunning
              | replay => exact absurd hp hreplay

theorem departure_of_leaveObstacle? (hn : leaveObstacle? u t = none) :
    Departure u t [.seatsChanged] (t.unseat u) := by
  simp only [leaveObstacle?] at hn
  split at hn
  · cases hn
  · cases hn
  · rename_i hphase
    split at hn
    · rename_i hseat
      exact .leave hphase hseat
    · cases hn

theorem arrival_of_watchObstacle? (hn : watchObstacle? s.user t = none) :
    h.Arrival s t .watchersChanged (t.addWatcher s) := by
  simp only [watchObstacle?] at hn
  split at hn
  · cases hn
  · rename_i hphase
    split at hn
    · cases hn
    · rename_i hsolo
      split at hn
      · cases hn
      · rename_i hseat
        split at hn
        · cases hn
        · rename_i hnew
          refine .watch (fun hp => by simp [hp, Phase.isWatchable] at hphase)
            (fun hs => by_contra fun ho => hsolo ⟨hs, ho⟩) (fun hp => ?_) (by simpa using hnew)
          simpa [Table.isReplay, hp] using hseat

theorem act_of_heirOrRejection {name : String} {heir : UserId × String}
    (hok : heirOrRejection s t name = .ok heir) :
    h.Act t ((t.passedTo name heir.1).leadNews s.name heir) (t.passedTo name heir.1) := by
  simp only [heirOrRejection] at hok
  split at hok
  · cases hok
  · rename_i hblank
    split at hok
    · cases hok
    · rename_i hsolo
      split at hok
      · cases hok
      · rename_i hleads
        split at hok
        · cases hok
        · rename_i hself
          split at hok
          · cases hok
          · rename_i heir' hfound
            split at hok
            · cases hok
            · cases hok
              exact .passLead (by simpa using hblank) (by simpa using hsolo) (not_not.1 hleads)
                (by simpa using hself) hfound

theorem act_of_startObstacle? (hn : h.startObstacle? u t = none) (luck : Nat) :
    h.Act t ((t.started luck).announce .started) (t.started luck) := by
  simp only [startObstacle?] at hn
  split at hn
  · cases hn
  · rename_i hreplay
    split at hn
    · cases hn
    · split at hn
      · cases hn
      · rename_i hrunning
        split at hn
        · cases hn
        · rename_i henough
          refine .start ?_ (by omega)
          cases hp : t.phase with
          | pregame => rfl
          | running => exact absurd hp hrunning
          | replay => exact absurd hp hreplay

theorem rematchPlan_eq_ok (hok : h.rematchPlan s id = .ok t) :
    h.table? id = some t ∧ t.isSharedReplay ∧ t.owner = s.user ∧ 2 ≤ t.watchers.length ∧
      t.rematchPlayers.length = t.seats.length ∧
      h.seatingObstacle? (rematchUsers s t.rematchPlayers) = none := by
  simp only [rematchPlan] at hok
  split at hok
  · cases hok
  · rename_i t' here
    split at hok
    · cases hok
    · rename_i hshared
      split at hok
      · cases hok
      · rename_i hleads
        split at hok
        · cases hok
        · rename_i hmany
          split at hok
          · cases hok
          · rename_i hall
            split at hok
            · cases hok
            · rename_i hseats
              obtain rfl := Except.ok.inj hok
              exact ⟨here, by simpa using hshared, not_not.1 hleads, by omega, not_not.1 hall,
                hseats⟩

/-! ## The changes of an operation -/

theorem result_depart {ε : Type} (h : Hall) (u : UserId) (t : Table) (news : List News) :
    (h.depart u t news : Outcome ε Unit).result = .ok () := by
  simp only [depart]
  split <;> rfl

end Hall

namespace Outcome

open Hall

variable {h : Hall} {s : Session} {u : UserId} {id : TableId}

/-- Nothing happens, or a session arrives at a table, with the news of it. -/
def Arrives (h : Hall) (s : Session) (id : TableId) (news : News) (o : Outcome Refusal Unit) :
    Prop :=
  (∃ r, o = ⟨h, [], r⟩) ∨
    ∃ t t', h.table? id = some t ∧ h.Arrival s t news t' ∧ o = h.arrive s.user t' news

/-- Nothing happens, or a user departs from a table. -/
def Departs (h : Hall) (u : UserId) (id : TableId) (o : Outcome Refusal Unit) : Prop :=
  (∃ r, o = ⟨h, [], r⟩) ∨
    ∃ t t' news, h.table? id = some t ∧ Departure u t news t' ∧ o = h.depart u t' news

/-- Nothing happens, or something is done at a table. -/
def Acts (h : Hall) (id : TableId) (o : Outcome Rejection Unit) : Prop :=
  (∃ r, o = ⟨h, [], r⟩) ∨
    ∃ t t' sent, h.table? id = some t ∧ h.Act t sent t' ∧ o = ⟨h.put t', sent, .ok ()⟩

theorem atOnce_of_nothing {ε : Type} {o : Outcome ε Unit} (ho : ∃ r, o = ⟨h, [], r⟩) :
    o.AtOnce h := by
  obtain ⟨r, rfl⟩ := ho
  cases r with
  | error e => exact atOnce_refuse e
  | ok => exact atOnce_done

theorem Arrives.atOnce {news : News} {o : Outcome Refusal Unit} (ho : o.Arrives h s id news) :
    o.AtOnce h := by
  rcases ho with hr | ⟨t, t', here, a, rfl⟩
  · exact atOnce_of_nothing hr
  · exact .inr ⟨(), _, _, (Change.arrives (table?_self here) a).changes, rfl⟩

theorem Departs.atOnce {o : Outcome Refusal Unit} (ho : o.Departs h u id) : o.AtOnce h := by
  rcases ho with hr | ⟨t, t', news, here, d, rfl⟩
  · exact atOnce_of_nothing hr
  · unfold depart
    split
    · rename_i hd
      exact .inr ⟨(), _, _, (Change.deserts (table?_self here) d hd).changes, rfl⟩
    · rename_i hd
      exact .inr ⟨(), _, _, (Change.departs (table?_self here) d (by simpa using hd)).changes, rfl⟩

theorem Acts.atOnce {o : Outcome Rejection Unit} (ho : o.Acts h id) : o.AtOnce h := by
  rcases ho with hr | ⟨t, t', sent, here, a, rfl⟩
  · exact atOnce_of_nothing hr
  · exact .inr ⟨(), _, _, (Change.acts (table?_self here) a).changes, rfl⟩

end Outcome

namespace Hall

open Outcome

variable {h : Hall} {s : Session} {u : UserId} {id : TableId} {t : Table}

theorem arrives_join (h : Hall) (s : Session) (id : TableId) :
    (h.join s id).Arrives h s id .seatsChanged := by
  unfold join
  split
  · exact .inl ⟨_, rfl⟩
  · rename_i t here
    split
    · rename_i hlost
      split
      · exact .inl ⟨_, rfl⟩
      · rename_i hidle
        rw [← table?_id here] at hidle
        exact .inr ⟨t, _, here, .reattach hlost.1 hlost.2 hidle, rfl⟩
    · split
      · exact .inl ⟨_, rfl⟩
      · rename_i hn
        exact .inr ⟨t, _, here, arrival_of_joinObstacle? hn, rfl⟩

theorem arrives_watch (h : Hall) (s : Session) (id : TableId) :
    (h.watch s id).Arrives h s id .watchersChanged := by
  unfold watch
  split
  · exact .inl ⟨_, rfl⟩
  · rename_i t here
    split
    · exact .inl ⟨_, rfl⟩
    · rename_i hn
      exact .inr ⟨t, _, here, arrival_of_watchObstacle? hn, rfl⟩

theorem departs_leave (h : Hall) (u : UserId) (id : TableId) : (h.leave u id).Departs h u id := by
  unfold leave
  split
  · exact .inl ⟨_, rfl⟩
  · rename_i t here
    split
    · exact .inl ⟨_, rfl⟩
    · rename_i hn
      exact .inr ⟨t, _, _, here, departure_of_leaveObstacle? hn, rfl⟩

theorem departs_stopWatching (h : Hall) (u : UserId) (id : TableId) :
    (h.stopWatching u id).Departs h u id := by
  unfold stopWatching
  split
  · exact .inl ⟨_, rfl⟩
  · rename_i t here
    split
    · rename_i hw
      exact .inr ⟨t, _, _, here, .stopWatching hw, rfl⟩
    · exact .inl ⟨_, rfl⟩

theorem departs_withdraw (h : Hall) (u : UserId) (id : TableId) :
    (h.withdraw u id).Departs h u id := by
  unfold withdraw
  split
  · exact .inl ⟨_, rfl⟩
  · rename_i t here
    exact .inr ⟨t, _, _, here, .withdraw, rfl⟩

theorem acts_passLead (h : Hall) (s : Session) (id : TableId) (name : String) :
    (h.passLead s id name).Acts h id := by
  unfold passLead
  split
  · exact .inl ⟨_, rfl⟩
  · rename_i t here
    split
    · exact .inl ⟨_, rfl⟩
    · rename_i heir hok
      exact .inr ⟨t, _, _, here, act_of_heirOrRejection hok, rfl⟩

theorem acts_start (h : Hall) (luck : Nat) (u : UserId) (id : TableId) :
    (h.start luck u id).Acts h id := by
  unfold start
  split
  · exact .inl ⟨_, rfl⟩
  · rename_i t here
    split
    · exact .inl ⟨_, rfl⟩
    · rename_i hn
      exact .inr ⟨t, _, _, here, act_of_startObstacle? hn luck, rfl⟩

theorem atOnce_join (h : Hall) (s : Session) (id : TableId) : (h.join s id).AtOnce h :=
  (arrives_join h s id).atOnce

theorem atOnce_leave (h : Hall) (u : UserId) (id : TableId) : (h.leave u id).AtOnce h :=
  (departs_leave h u id).atOnce

theorem atOnce_watch (h : Hall) (s : Session) (id : TableId) : (h.watch s id).AtOnce h :=
  (arrives_watch h s id).atOnce

theorem atOnce_stopWatching (h : Hall) (u : UserId) (id : TableId) :
    (h.stopWatching u id).AtOnce h :=
  (departs_stopWatching h u id).atOnce

theorem atOnce_withdraw (h : Hall) (u : UserId) (id : TableId) : (h.withdraw u id).AtOnce h :=
  (departs_withdraw h u id).atOnce

theorem result_withdraw (h : Hall) (u : UserId) (id : TableId) :
    (h.withdraw u id).result = .ok () := by
  simp only [withdraw]
  split
  · rfl
  · exact result_depart ..

theorem result_withdrawAll (h : Hall) (u : UserId) (ids : List TableId) :
    (h.withdrawAll u ids).result = .ok () := by
  induction ids generalizing h with
  | nil => rfl
  | cons id ids ih =>
    simp only [withdrawAll, Outcome.andThen]
    rw [result_withdraw]
    exact ih _

/-- A question changes nothing. -/
theorem checkSeating_eq (h : Hall) (users : List UserId) :
    ∃ r, h.checkSeating users = ⟨h, [], r⟩ := by
  unfold checkSeating
  split
  · exact ⟨_, rfl⟩
  · exact ⟨_, rfl⟩

theorem atOnce_checkSeating (h : Hall) (users : List UserId) : (h.checkSeating users).AtOnce h :=
  atOnce_of_nothing (checkSeating_eq h users)

theorem atOnce_passLead (h : Hall) (s : Session) (id : TableId) (name : String) :
    (h.passLead s id name).AtOnce h :=
  (acts_passLead h s id name).atOnce

theorem atOnce_start (h : Hall) (luck : Nat) (u : UserId) (id : TableId) :
    (h.start luck u id).AtOnce h :=
  (acts_start h luck u id).atOnce

/-- Changes compose as long as no table opens. -/
theorem composes_changes : Composes fun h m h' => Changes h [] m h' where
  nothing := .none
  append := Changes.trans

theorem follows_withdrawAll (h : Hall) (u : UserId) (ids : List TableId) :
    (h.withdrawAll u ids).Follows h [] :=
  composes_changes.withdrawAll (fun h id => (atOnce_withdraw h u id).follows) h ids

theorem follows_leaveReplay (h : Hall) (id : TableId) (us : List UserId) :
    (h.leaveReplay id us).Follows h [] :=
  composes_changes.leaveReplay (fun h u => (atOnce_stopWatching h u id).follows) h us

theorem follows_seatAll (h : Hall) (id : TableId) (ss : List Session) :
    (h.seatAll id ss).Follows h [] :=
  composes_changes.seatAll (fun s _ h => (atOnce_join h s id).follows) h

/-! ## Opening -/

theorem openTable_cases (h : Hall) (s : Session) (name : String) (options : Options) :
    (∃ e, h.openTable s name options = h.refuse e) ∨
      ∃ t, h.Opening s t ∧ t.phase = .pregame ∧ h.openTable s name options = h.add s t := by
  simp only [openTable]
  split
  · exact .inl ⟨_, rfl⟩
  · rename_i hn
    obtain ⟨hw, hb, hv⟩ := openingObstacle?_eq_none hn
    split
    · exact .inl ⟨_, rfl⟩
    · rename_i hidle
      exact .inr ⟨_, .lobby hw hb hv hidle, rfl, rfl⟩

theorem openReplay_cases (h : Hall) (s : Session) (name : String)
    (roster : List (UserId × String)) (options : Options) (visible : Bool) :
    (∃ e, h.openReplay s name roster options visible = h.refuse e) ∨
      ∃ t, h.Opening s t ∧ t.phase = .replay ∧ t.owner = s.user ∧
        h.openReplay s name roster options visible = h.add s t := by
  simp only [openReplay]
  split
  · exact .inl ⟨_, rfl⟩
  · rename_i hn
    obtain ⟨hw, hb, hv⟩ := openingObstacle?_eq_none hn
    split
    · exact .inl ⟨_, rfl⟩
    · rename_i hr
      exact .inr ⟨_, .review hw hb hv (by simpa using hr), rfl, rfl, rfl⟩

/-- Nothing happens, or a session opens a table. -/
def Opens (h : Hall) (s : Session) (o : Outcome Refusal TableId) : Prop :=
  (∃ e, o = h.refuse e) ∨ ∃ t, h.Opening s t ∧ o = h.add s t

theorem opens_openTable (h : Hall) (s : Session) (name : String) (options : Options) :
    h.Opens s (h.openTable s name options) := by
  refine (openTable_cases h s name options).imp_right ?_
  rintro ⟨t, o, -, heq⟩
  exact ⟨t, o, heq⟩

theorem opens_openReplay (h : Hall) (s : Session) (name : String)
    (roster : List (UserId × String)) (options : Options) (visible : Bool) :
    h.Opens s (h.openReplay s name roster options visible) := by
  refine (openReplay_cases h s name roster options visible).imp_right ?_
  rintro ⟨t, o, -, -, heq⟩
  exact ⟨t, o, heq⟩

theorem follows_add {ε : Type} (o : h.Opening s t) :
    (h.add s t : Outcome ε TableId).Follows h [t] :=
  (Change.opens o).changes

/-- Only lobbies were opened, and the table of the answer is one of them. -/
def OpensLobby {ε : Type} (ts : List Table) (r : Except ε TableId) : Prop :=
  (∀ t ∈ ts, t.phase = .pregame) ∧ ∀ id, r = .ok id → ∃ t ∈ ts, t.id = id

theorem opensLobby_error {ε : Type} (e : ε) : OpensLobby [] (.error e) := by
  simp [OpensLobby]

theorem follows_openTable (h : Hall) (s : Session) (name : String) (options : Options) :
    ∃ ts, (h.openTable s name options).Follows h ts ∧
      OpensLobby ts (h.openTable s name options).result := by
  rcases openTable_cases h s name options with ⟨e, heq⟩ | ⟨t, ho, hphase, heq⟩ <;> rw [heq]
  · exact ⟨[], follows_refuse e, opensLobby_error e⟩
  · refine ⟨[t], follows_add ho, by simpa using hphase, fun id hid => ⟨t, by simp, ?_⟩⟩
    exact Except.ok.inj hid

/-- The steps of a rematch after the replay has been left. The first opens the table. -/
theorem follows_playAgain (h : Hall) (luck : Luck) (s : Session) (t : Table) :
    ∃ ts, (h.playAgain luck s t).Follows h ts ∧ OpensLobby ts (h.playAgain luck s t).result := by
  refine Follows.andThen_opens (follows_leaveReplay ..) opensLobby_error fun _ => ?_
  obtain ⟨ts, hts, hlobby, hid⟩ := follows_openTable
    (h.leaveReplay t.id (rematchUsers s t.rematchPlayers)).hall s (tableName luck.name) t.options
  refine ⟨ts, (hts.mapError _).andThen fun _ => (follows_seatAll ..).andThen fun _ =>
    ((atOnce_start ..).follows.mapError _).map _, hlobby, fun id hok => ?_⟩
  obtain ⟨id', hopen, hok⟩ := result_andThen_eq_ok hok
  obtain ⟨-, -, hok⟩ := result_andThen_eq_ok hok
  obtain ⟨-, -, rfl⟩ := result_map_eq_ok.1 hok
  exact hid _ (result_mapError_eq_ok.1 hopen)

theorem follows_rematch (h : Hall) (luck : Luck) (s : Session) (id : TableId) :
    ∃ ts, (h.rematch luck s id).Follows h ts ∧ OpensLobby ts (h.rematch luck s id).result := by
  simp only [rematch]
  split
  · exact ⟨[], follows_refuse _, opensLobby_error _⟩
  · rename_i t hplan
    obtain ⟨ts, hts, hp⟩ := follows_playAgain h luck s t
    obtain rfl := table?_id (rematchPlan_eq_ok hplan).1
    exact ⟨ts, Changes.trans (Change.boots hplan).changes hts, hp⟩

/-! ## Operations -/

/-- A relation that holds of everything that an operation can be, closed connections apart. -/
structure Covers (R : Hall → List Delivery → Hall → Prop) (h : Hall) (luck : Luck) : Prop where
  idle : R h [] h
  windsDown : R h [] { h with windingDown := true }
  opens : ∀ {s : Session} {o : Outcome Refusal TableId}, h.Opens s o → o.Meets R h
  arrives : ∀ {s : Session} {id : TableId} {news : News} {o : Outcome Refusal Unit},
    o.Arrives h s id news → o.Meets R h
  leaves : ∀ u id, (h.leave u id).Meets R h
  stops : ∀ u id, (h.stopWatching u id).Meets R h
  acts : ∀ {id : TableId} {o : Outcome Rejection Unit}, o.Acts h id → o.Meets R h
  rematches : ∀ s id, (h.rematch luck s id).Meets R h

theorem Covers.perform {R : Hall → List Delivery → Hall → Prop} {luck : Luck} (c : Covers R h luck)
    (op : Operation) (disconnects : ∀ u, op = .disconnect u → (h.disconnect u).Meets R h) :
    (h.perform luck op).Meets R h := by
  cases op with
  | command s c' =>
    cases c' with
    | openTable name options => exact (c.opens (opens_openTable h s name options)).passOn _
    | join id => exact (c.arrives (arrives_join h s id)).passOn _
    | leave id => exact (c.leaves s.user id).passOn _
    | watch id => exact (c.arrives (arrives_watch h s id)).passOn _
    | stopWatching id => exact (c.stops s.user id).passOn _
    | passLead id name => exact (c.acts (acts_passLead h s id name)).map _
    | start id => exact (c.acts (acts_start h luck.deal s.user id)).map _
    | rematch id => exact (c.rematches s id).map _
  | openReplay s name roster options visible =>
    exact (c.opens (opens_openReplay h s name roster options visible)).passOn _
  | disconnect u => exact (disconnects u rfl).passOn _
  | checkSeating users =>
    obtain ⟨r, hr⟩ := checkSeating_eq h users
    have hnothing : (h.checkSeating users).Meets R h := hr ▸ c.idle
    exact hnothing.passOn _
  | windDown => exact c.windsDown

/-- The table of the answer is one of those opened, and a replay is opened only for the user who
asked for it and is answered. -/
def OpensFor (op : Operation) (ts : List Table) (r : Except Rejection Answer) : Prop :=
  (∀ id, r = .ok (.opened id) → ∃ t ∈ ts, t.id = id) ∧
    ∀ t ∈ ts, t.phase = .replay → r = .ok (.opened t.id) ∧
      ∃ s name roster options visible,
        op = .openReplay s name roster options visible ∧ s.user = t.owner

theorem opensFor_nothing (op : Operation) {r : Except Rejection Answer}
    (hr : ∀ id, r ≠ .ok (.opened id)) : OpensFor op [] r :=
  ⟨fun id hid => absurd hid (hr id), by simp⟩

theorem OpensLobby.opensFor {ts : List Table} {o : Outcome Rejection TableId}
    (hp : OpensLobby ts o.result) (op : Operation) : OpensFor op ts (o.map .opened).result := by
  refine ⟨fun id hid => ?_, fun t ht hphase => ?_⟩
  · obtain ⟨id', hid', heq⟩ := result_map_eq_ok.1 hid
    cases heq
    exact hp.2 id hid'
  · rw [hp.1 t ht] at hphase
    cases hphase

theorem opensFor_done {α : Type} (op : Operation) (o : Outcome Rejection α) :
    OpensFor op [] (o.map fun _ => Answer.done).result := by
  refine opensFor_nothing op fun id hid => ?_
  obtain ⟨-, -, heq⟩ := result_map_eq_ok.1 hid
  cases heq

theorem obey_changes (h : Hall) (luck : Luck) (s : Session) (c : Command) :
    ∃ ts, (h.obey luck s c).Follows h ts ∧ OpensFor (.command s c) ts (h.obey luck s c).result := by
  cases c with
  | openTable name options =>
    obtain ⟨ts, hts, hp⟩ := follows_openTable h s name options
    have hp' : OpensLobby ts ((h.openTable s name options).mapError Rejection.ofRefusal).result :=
      ⟨hp.1, fun id hid => hp.2 id (result_mapError_eq_ok.1 hid)⟩
    exact ⟨ts, hts.passOn _, hp'.opensFor _⟩
  | join id => exact ⟨[], (atOnce_join h s id).follows.passOn _, opensFor_done _ _⟩
  | leave id => exact ⟨[], (atOnce_leave h s.user id).follows.passOn _, opensFor_done _ _⟩
  | watch id => exact ⟨[], (atOnce_watch h s id).follows.passOn _, opensFor_done _ _⟩
  | stopWatching id => exact ⟨[], (atOnce_stopWatching h s.user id).follows.passOn _, opensFor_done _ _⟩
  | passLead id name => exact ⟨[], (atOnce_passLead h s id name).follows.map _, opensFor_done _ _⟩
  | start id => exact ⟨[], (atOnce_start h luck.deal s.user id).follows.map _, opensFor_done _ _⟩
  | rematch id =>
    obtain ⟨ts, hts, hp⟩ := follows_rematch h luck s id
    exact ⟨ts, hts.map _, hp.opensFor _⟩

/-- **Every operation is a sequence of changes.** -/
theorem perform_changes (h : Hall) (luck : Luck) (op : Operation) :
    ∃ ts, (h.perform luck op).Follows h ts ∧ OpensFor op ts (h.perform luck op).result := by
  cases op with
  | command s c => exact obey_changes h luck s c
  | openReplay s name roster options visible =>
    simp only [perform]
    rcases openReplay_cases h s name roster options visible with ⟨e, heq⟩ | ⟨t, ho, -, hs, heq⟩ <;>
      rw [heq]
    · exact ⟨[], (follows_refuse e).passOn _, opensFor_nothing _ fun id hid => by cases hid⟩
    · refine ⟨[t], (follows_add ho).passOn _, fun id hid => ?_, fun t' ht' _ => ?_⟩
      · cases hid
        exact ⟨t, List.mem_singleton_self t, rfl⟩
      · obtain rfl := List.mem_singleton.1 ht'
        exact ⟨rfl, s, name, roster, options, visible, rfl, hs.symm⟩
  | disconnect u => exact ⟨[], (follows_withdrawAll h u _).passOn _, opensFor_done _ _⟩
  | checkSeating users =>
    exact ⟨[], (atOnce_checkSeating h users).follows.passOn _, opensFor_done _ _⟩
  | windDown =>
    exact ⟨[], Change.windsDown.changes, opensFor_nothing _ fun id hid => by cases hid⟩

theorem Changes.keep {P : Hall → Prop} {h h' : Hall} {ts : List Table} {ms : List Delivery}
    (change : ∀ {h h' t m}, Change h t m h' → P h → P h') (cs : Changes h ts ms h') (hp : P h) :
    P h' := by
  induction cs with
  | none => exact hp
  | cons c _ ih => exact ih (change c hp)

/-- What holds of tables when they open, and is kept by whatever may happen to them, is kept by
changes. -/
theorem Change.forall_tables {P : Table → Prop} {h h' : Hall} {o : Option Table}
    {m : List Delivery} (c : h.Change o m h') (hp : ∀ t ∈ h.tables, P t)
    (opens : ∀ {s t}, h.Opening s t → P t)
    (arrives : ∀ {s t news t'}, h.Arrival s t news t' → P t → P t')
    (departs : ∀ {u t news t'}, Departure u t news t' → P t → P t')
    (acts : ∀ {t sent t'}, h.Act t sent t' → P t → P t') : ∀ t ∈ h'.tables, P t := by
  have hput {t' : Table} (ht' : P t') : ∀ t ∈ (h.put t').tables, P t := by
    intro t ht
    obtain ⟨x, hx, rfl⟩ := List.mem_map.1 ht
    split
    · exact ht'
    · exact hp x hx
  have hfound {t : Table} (here : h.table? t.id = some t) : P t :=
    hp t (List.mem_of_find?_eq_some here)
  cases c with
  | opens o =>
    intro t ht
    rcases List.mem_append.1 ht with ht | ht
    · exact hp t ht
    · exact List.mem_singleton.1 ht ▸ opens o
  | arrives here a => exact hput (arrives a (hfound here))
  | departs here d => exact hput (departs d (hfound here))
  | deserts => exact fun t ht => hp t ((List.mem_filter.1 ht).1)
  | acts here a => exact hput (acts a (hfound here))
  | windsDown => exact hp
  | boots => exact hp

/-- What holds of a fresh hall and is kept by changes holds of every reachable hall. -/
theorem Reachable.induction_on_changes {P : Hall → Prop} (hr : h.Reachable)
    (fresh : ∀ limits variants, P (Hall.fresh limits variants))
    (change : ∀ {h h' t m}, Change h t m h' → P h → P h') : P h := by
  induction hr with
  | fresh limits variants => exact fresh limits variants
  | step luck op _ ih =>
    obtain ⟨ts, hts, -⟩ := perform_changes _ luck op
    exact Changes.keep change hts ih

end Hall

end GameHall
