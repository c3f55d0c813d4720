import GameHall.Proofs.Hall.Audience

/-!
# News of leaders

Whoever watches a replay can know its leader. A session that begins with the leader at some time and
believes what it is told of new leaders has the leader at every later time, for as long as it
watches (`leader_followed`).

* `Session.follow` is whom a session takes for the leader after some messages.
* `Hall.Tracks` says of an operation that those who watch before and afterwards are told enough. As
  somebody might have been away in between, it does not compose. `Hall.Informs` says in addition
  that nobody begins to watch a replay, and it does compose. Coming to a replay is the one thing
  that tracks and does not inform, and it is never one step of several.
* `Departure.at_replay` is the reason why the departures of a rematch or of a closed connection
  inform: whoever is left is told in the end who leads the replay then.
-/

namespace GameHall

/-! ## What a session believes -/

namespace Session

/-- Whom a session takes for the leader of a table after a message, perhaps to somebody else. -/
def hear (s : Session) (id : TableId) (leader : UserId) (d : Delivery) : UserId :=
  match d.message with
  | .table i (.newLeader u) => if d.session = s ∧ i = id then u else leader
  | _ => leader

/-- Whom a session takes for the leader of a table after messages, and took for it before. -/
def follow (s : Session) (id : TableId) (leader : UserId) (ds : List Delivery) : UserId :=
  ds.foldl (s.hear id) leader

variable {s : Session} {id : TableId} {leader u : UserId} {d : Delivery} {ds : List Delivery}

theorem follow_append (s : Session) (id : TableId) (leader : UserId) (ds es : List Delivery) :
    s.follow id leader (ds ++ es) = s.follow id (s.follow id leader ds) es :=
  List.foldl_append

theorem hear_of_not_newLeader (h : ∀ u, d.message ≠ .table id (.newLeader u)) :
    s.hear id leader d = leader := by
  unfold hear
  split
  · rename_i i u hm
    refine if_neg ?_
    rintro ⟨-, rfl⟩
    exact h u hm
  · rfl

/-- Nothing else matters. -/
theorem follow_of_not_newLeader (h : ∀ d ∈ ds, ∀ u, d.message ≠ .table id (.newLeader u)) :
    s.follow id leader ds = leader := by
  induction ds with
  | nil => rfl
  | cons d ds ih =>
    rw [List.forall_mem_cons] at h
    show s.follow id (s.hear id leader d) ds = leader
    rw [hear_of_not_newLeader h.1]
    exact ih h.2

theorem follow_of_not_isAbout (h : ∀ d ∈ ds, ¬d.message.IsAbout id) :
    s.follow id leader ds = leader := by
  refine follow_of_not_newLeader fun d hd u hm => h d hd ?_
  rw [hm]
  rfl

/-- Everyone who is told of a new leader believes it. -/
theorem follow_newLeader (ws : List Session) :
    s.follow id leader (ws.map fun w => ⟨w, .table id (.newLeader u)⟩) =
      if s ∈ ws then u else leader := by
  induction ws generalizing leader with
  | nil => rfl
  | cons w ws ih =>
    have hheard : s.hear id leader ⟨w, .table id (.newLeader u)⟩ = if w = s then u else leader := by
      simp [hear]
    show s.follow id (s.hear id leader ⟨w, .table id (.newLeader u)⟩) _ = _
    rw [ih, hheard]
    by_cases hw : w = s
    · simp [hw]
    · simp [hw, Ne.symm hw]

theorem follow_announce_newLeader {t : Table} (hs : s ∈ t.watchers) :
    s.follow t.id leader (t.announce (.newLeader u)) = u :=
  (follow_newLeader t.sessions).trans (if_pos (Table.mem_sessions.2 (.inr hs)))

theorem follow_announce {t : Table} {news : News} (h : ∀ u, news ≠ .newLeader u) :
    s.follow id leader (t.announce news) = leader := by
  refine follow_of_not_newLeader fun d hd u hm => ?_
  exact h u (Message.table.inj ((Table.mem_announce.1 hd).2.symm.trans hm)).2

theorem follow_flatMap_announce {t : Table} {news : List News}
    (h : ∀ n ∈ news, ∀ u, n ≠ .newLeader u) :
    s.follow id leader (news.flatMap t.announce) = leader := by
  induction news with
  | nil => rfl
  | cons n news ih =>
    rw [List.forall_mem_cons] at h
    rw [List.flatMap_cons, follow_append, follow_announce h.1]
    exact ih h.2

end Session

/-! ## What happens at a replay -/

namespace Table

variable {t : Table} {s : Session} {u : UserId}

/-- The lead stays where it is, if it does not move and somebody is left. -/
theorem owner_dropWatcher (hmoves : ¬t.leadMoves u) (hs : s ∈ (t.dropWatcher u).watchers) :
    (t.dropWatcher u).owner = t.owner := by
  refine if_neg fun hleads => hmoves ?_
  exact leadMoves_iff.2 ⟨hleads.1, hleads.2, List.ne_nil_of_mem hs⟩

end Table

namespace Hall

variable {h : Hall} {s : Session} {u u' : UserId} {id : TableId} {t t' : Table}
  {m : List Delivery}

/-- A user goes from a replay by ceasing to watch, and the last that is told is who leads it, if
somebody else does. -/
theorem Departure.at_replay {news : List News} (d : Departure u t news t') (hreplay : t.isReplay) :
    (t' = t ∧ news = []) ∨ t' = t.dropWatcher u ∧
      ∃ quiet, (∀ n ∈ quiet, n = .watchersChanged) ∧
        news = quiet ++ if t.leadMoves u then [.newLeader (t.dropWatcher u).owner] else [] := by
  rw [Table.isReplay_iff] at hreplay
  cases d with
  | leave phase => exact absurd (phase.symm.trans hreplay) Phase.noConfusion
  | stopWatching => exact .inr ⟨rfl, [.watchersChanged], by simp, rfl⟩
  | withdraw =>
    simp only [Table.withdraw, hreplay]
    split
    · refine .inr ⟨rfl, if t.leadMoves u then [] else [.watchersChanged], ?_, ?_⟩
      · split <;> simp
      · split <;> rfl
    · exact .inl ⟨rfl, rfl⟩

theorem Departure.watchers_subset {news : List News} (d : Departure u t news t')
    (hreplay : t.isReplay) : t'.watchers ⊆ t.watchers := by
  rcases d.at_replay hreplay with ⟨rfl, -⟩ | ⟨rfl, -⟩
  · exact List.Subset.refl _
  · exact List.eraseP_sublist.subset

/-- **Whoever is left knows who leads.** -/
theorem Departure.follow {news : List News} (d : Departure u t news t') (hreplay : t.isReplay)
    (hs : s ∈ t'.watchers) : s.follow t.id t.owner (news.flatMap t'.announce) = t'.owner := by
  rcases d.at_replay hreplay with ⟨rfl, rfl⟩ | ⟨rfl, quiet, hquiet, rfl⟩
  · rfl
  · have hbefore : s.follow t.id t.owner (quiet.flatMap (t.dropWatcher u).announce) = t.owner := by
      refine Session.follow_flatMap_announce fun n hn u hu => ?_
      rw [hquiet n hn] at hu
      cases hu
    rw [List.flatMap_append, Session.follow_append, hbefore]
    split
    · rw [List.flatMap_singleton]
      exact Session.follow_announce_newLeader hs
    · rename_i hmoves
      exact (Table.owner_dropWatcher hmoves hs).symm

theorem Arrival.follow {news : News} (a : h.Arrival s t news t') (w : Session)
    (hreplay : t.isReplay) : w.follow t.id t.owner (t'.announce news) = t'.owner := by
  rw [Table.isReplay_iff] at hreplay
  cases a with
  | seat _ _ phase => exact absurd (phase.symm.trans hreplay) Phase.noConfusion
  | reattach phase => exact absurd (phase.symm.trans hreplay) Phase.noConfusion
  | watch => exact Session.follow_announce fun _ => News.noConfusion

theorem Act.follow (a : h.Act t m t') (hreplay : t.isReplay) (hs : s ∈ t'.watchers) :
    s.follow t.id t.owner m = t'.owner := by
  rw [Table.isReplay_iff] at hreplay
  cases a with
  | @passLead leader name heir =>
    have hnews : (t.passedTo name heir.1).leadNews leader.name heir =
        (t.passedTo name heir.1).announce (.newLeader heir.1) := by
      have hphase : (t.passedTo name heir.1).phase = .replay := hreplay
      simp only [Table.leadNews, hphase]
    rw [hnews]
    exact Session.follow_announce_newLeader hs
  | start phase => exact absurd (phase.symm.trans hreplay) Phase.noConfusion

/-! ## Operations -/

/-- A session watches a replay that a user leads. -/
def Led (h : Hall) (s : Session) (id : TableId) (u : UserId) : Prop :=
  ∃ t, h.table? id = some t ∧ t.isReplay ∧ s ∈ t.watchers ∧ t.owner = u

theorem Led.unique (hu : h.Led s id u) (hu' : h.Led s id u') : u = u' := by
  obtain ⟨t, here, -, -, rfl⟩ := hu
  obtain ⟨t', here', -, -, rfl⟩ := hu'
  exact congrArg Table.owner (Option.some.inj (here.symm.trans here'))

/-- Whoever watches a replay before and afterwards and knew its leader knows it still. -/
def Tracks (h : Hall) (m : List Delivery) (h' : Hall) : Prop :=
  ∀ s id u u', h.Led s id u → h'.Led s id u' → s.follow id u m = u'

/-- Nobody begins to watch a replay, and whoever watches it and knew its leader knows it still. -/
structure Informs (h : Hall) (m : List Delivery) (h' : Hall) : Prop where
  back : ∀ s id u', h'.Led s id u' → ∃ u, h.Led s id u
  tracks : Tracks h m h'

/-- Where nothing changes, it is enough not to tell of leaders. -/
theorem informs_of_quiet (h : Hall) (hm : ∀ d ∈ m, ∀ id u, d.message ≠ .table id (.newLeader u)) :
    Informs h m h where
  back := fun _ _ u hu => ⟨u, hu⟩
  tracks := fun _ id _ _ hu hu' =>
    (Session.follow_of_not_newLeader fun d hd => hm d hd id).trans (hu.unique hu')

theorem composes_informs : Composes Informs where
  nothing := fun h => informs_of_quiet h fun _ hd => absurd hd List.not_mem_nil
  append := by
    intro h k h' m n hm hn
    refine ⟨fun s id u hu => ?_, fun s id u u' hu hu' => ?_⟩
    · obtain ⟨v, hv⟩ := hn.back s id u hu
      exact hm.back s id v hv
    · obtain ⟨v, hv⟩ := hn.back s id u' hu'
      rw [Session.follow_append, hm.tracks s id u v hu hv]
      exact hn.tracks s id v u' hv hu'

end Hall

/-! ## One table -/

namespace Outcome

open Hall

variable {ε α : Type} {h : Hall} {s : Session} {u : UserId} {id : TableId} {t t' : Table}
  {x : Option Table} {o : Outcome ε α}

theorem Turns.tracks (ho : o.Turns h t x)
    (hx : ∀ t', x = some t' → t.isReplay → ∀ s ∈ t'.watchers,
      s.follow t.id t.owner o.sent = t'.owner) : o.Meets Tracks h := by
  rintro s id u u' ⟨r, here, hreplay, -, rfl⟩ ⟨r', here', -, hs', rfl⟩
  by_cases hid : id = t.id
  · subst hid
    obtain rfl : r = t := Option.some.inj (here.symm.trans ho.here)
    exact hx r' (ho.found.symm.trans here') hreplay s hs'
  · have hsame : r' = r := by
      rw [ho.frame.table?_of_ne hid, here] at here'
      exact (Option.some.inj here').symm
    rw [hsame]
    exact Session.follow_of_not_isAbout fun d hd habout => hid (ho.attached hd habout).1

theorem Turns.back (ho : o.Turns h t x)
    (hx : ∀ t', x = some t' → t'.isReplay → t.isReplay ∧ t'.watchers ⊆ t.watchers) {u' : UserId}
    (hu : o.hall.Led s id u') : ∃ u, h.Led s id u := by
  obtain ⟨r, hr, hreplay, hs, -⟩ := hu
  by_cases hid : id = t.id
  · subst hid
    obtain ⟨hbefore, hsub⟩ := hx r (ho.found.symm.trans hr) hreplay
    exact ⟨t.owner, t, ho.here, hbefore, hsub hs, rfl⟩
  · exact ⟨r.owner, r, (ho.frame.table?_of_ne hid).symm.trans hr, hreplay, hs, rfl⟩

theorem Departs.informs {o : Outcome Refusal Unit} (ho : o.Departs h u id) : o.Meets Informs h := by
  rcases ho with ⟨r, rfl⟩ | ⟨t, t', news, here, d, rfl⟩
  · exact composes_informs.nothing h
  · have hturns := turns_depart (ε := Refusal) (table?_self here) d.continues.id u news
    refine ⟨fun _ _ _ => hturns.back fun r hr hreplay => ?_,
      hturns.tracks fun r hr hreplay s hs => ?_⟩
    · obtain rfl := Table.eq_of_standing? hr
      rw [Table.isReplay_iff, d.continues.replay, ← Table.isReplay_iff] at hreplay
      exact ⟨hreplay, d.watchers_subset hreplay⟩
    · rw [sent_depart, hr, Option.toList_some, List.flatMap_singleton]
      obtain rfl := Table.eq_of_standing? hr
      exact d.follow hreplay hs

theorem Arrives.tracks {news : News} {o : Outcome Refusal Unit} (ho : o.Arrives h s id news) :
    o.Meets Tracks h := by
  rcases ho with ⟨r, rfl⟩ | ⟨t, t', here, a, rfl⟩
  · exact (composes_informs.nothing h).tracks
  · refine (turns_arrive (table?_self here) a.id_eq s.user news).tracks fun r hr hreplay w _ => ?_
    obtain rfl := Option.some.inj hr
    exact a.follow w hreplay

/-- Whoever takes a seat does not watch. -/
theorem Arrives.informs {o : Outcome Refusal Unit} (ho : o.Arrives h s id .seatsChanged) :
    o.Meets Informs h := by
  refine ⟨fun w i u => ?_, ho.tracks⟩
  rcases ho with ⟨r, rfl⟩ | ⟨t, t', here, a, rfl⟩
  · exact fun hu => ⟨u, hu⟩
  · refine (turns_arrive (table?_self here) a.id_eq s.user _).back fun r hr hreplay => ?_
    obtain rfl := Option.some.inj hr
    cases a <;> exact ⟨hreplay, List.Subset.refl _⟩

theorem Acts.informs {o : Outcome Rejection Unit} (ho : o.Acts h id) : o.Meets Informs h := by
  rcases ho with ⟨r, rfl⟩ | ⟨t, t', m, here, a, rfl⟩
  · exact composes_informs.nothing h
  · have hturns := turns_act (table?_self here) a (.ok () : Except Rejection Unit)
    refine ⟨fun _ _ _ => hturns.back fun r hr hreplay => ?_,
      hturns.tracks fun r hr hreplay s hs => ?_⟩
    · obtain rfl := Option.some.inj hr
      rw [Table.isReplay_iff, a.continues.replay, ← Table.isReplay_iff] at hreplay
      have hwatchers : t'.watchers = t.watchers := by
        cases a <;> rfl
      exact ⟨hreplay, hwatchers ▸ List.Subset.refl _⟩
    · obtain rfl := Option.some.inj hr
      exact a.follow hreplay hs

theorem tracks_add (h : Hall) (s : Session) (t : Table) :
    (h.add s t : Outcome ε TableId).Meets Tracks h := by
  rintro w id u u' ⟨r, hr, -, -, rfl⟩ ⟨r', hr', -, -, rfl⟩
  exact congrArg Table.owner (Option.some.inj ((table?_add_of_some hr s t).symm.trans hr'))

/-- Nobody watches a new lobby. -/
theorem informs_add {ε : Type} (h : Hall) (s : Session) (hphase : t.phase = .pregame) :
    (h.add s t : Outcome ε TableId).Meets Informs h := by
  refine ⟨?_, tracks_add h s t⟩
  rintro w id u ⟨r, hr, hreplay, hs, rfl⟩
  have hadd : (h.add s t : Outcome ε TableId).hall.table? id =
      (h.table? id).or (if t.id = id then some t else none) := table?_append ..
  rw [hadd, Option.or_eq_some_iff] at hr
  rcases hr with hr | ⟨-, hr⟩
  · exact ⟨r.owner, r, hr, hreplay, hs, rfl⟩
  · split at hr
    · obtain rfl := Option.some.inj hr
      exact absurd ((Table.isReplay_iff.1 hreplay).symm.trans hphase) Phase.noConfusion
    · cases hr

end Outcome

/-! ## Any operation -/

namespace Hall

open Outcome

variable {h : Hall} {s : Session} {u : UserId} {id : TableId}

theorem Opens.tracks {o : Outcome Refusal TableId} (ho : h.Opens s o) : o.Meets Tracks h := by
  rcases ho with ⟨e, rfl⟩ | ⟨t, -, rfl⟩
  · exact (composes_informs.refuse e).tracks
  · exact tracks_add h s t

theorem informs_openTable (h : Hall) (s : Session) (name : String) (options : Options) :
    (h.openTable s name options).Meets Informs h := by
  rcases openTable_cases h s name options with ⟨e, heq⟩ | ⟨t, -, hphase, heq⟩ <;> rw [heq]
  · exact composes_informs.refuse e
  · exact informs_add h s hphase

theorem informs_playAgain (h : Hall) (luck : Luck) (s : Session) (t : Table) :
    (h.playAgain luck s t).Meets Informs h :=
  composes_informs.playAgain (fun s _ h id => (arrives_join h s id).informs)
    (fun h u id => (acts_start h luck.deal u id).informs)
    (fun h u id => (departs_stopWatching h u id).informs)
    (fun h name options => informs_openTable h s name options) h

theorem informs_rematch (h : Hall) (luck : Luck) (s : Session) (id : TableId) :
    (h.rematch luck s id).Meets Informs h := by
  cases hplan : h.rematchPlan s id with
  | error e =>
    rw [rematch_eq_refuse hplan]
    exact composes_informs.refuse e
  | ok t =>
    have hboot : ∀ d ∈ t.announce .boot, ∀ id u, d.message ≠ .table id (.newLeader u) := by
      intro d hd id u hm
      exact News.noConfusion (Message.table.inj ((Table.mem_announce.1 hd).2.symm.trans hm)).2
    rw [rematch_eq_andThen hplan]
    exact composes_informs.andThen (informs_of_quiet h hboot) fun _ _ => informs_playAgain ..

theorem covers_tracks (h : Hall) (luck : Luck) : Covers Tracks h luck where
  idle := (composes_informs.nothing h).tracks
  windsDown := fun _ _ _ _ hu hu' => hu.unique hu'
  opens := fun ho => ho.tracks
  arrives := fun ho => ho.tracks
  leaves := fun u id => (departs_leave h u id).informs.tracks
  stops := fun u id => (departs_stopWatching h u id).informs.tracks
  acts := fun ho => ho.informs.tracks
  rematches := fun s id => (informs_rematch h luck s id).tracks

/-- **Every operation tells of leaders.** -/
theorem perform_tracks (h : Hall) (luck : Luck) (op : Operation) :
    (h.perform luck op).Meets Tracks h := by
  refine (covers_tracks h luck).perform op fun u _ => Informs.tracks ?_
  exact composes_informs.withdrawAll (fun h id => (departs_withdraw h u id).informs) h _

/-! ## Along a run -/

/-- Everything that is sent while operations are done one after the other. -/
def sentOver (h : Hall) : List (Luck × Operation) → List Delivery
  | [] => []
  | (luck, op) :: ops => (h.perform luck op).sent ++ (h.perform luck op).hall.sentOver ops

theorem run_tracks {ops : List (Luck × Operation)} (start : h.Led s id u)
    (watching : ∀ part, part <+: ops → ∃ v, (h.run part).Led s id v) :
    (h.run ops).Led s id (s.follow id u (h.sentOver ops)) := by
  induction ops generalizing h u with
  | nil => exact start
  | cons op ops ih =>
    obtain ⟨v, hv⟩ := watching [op] (List.prefix_append [op] ops)
    have hstep : s.follow id u (h.perform op.1 op.2).sent = v :=
      perform_tracks h op.1 op.2 s id u v start hv
    rw [sentOver, Session.follow_append, hstep]
    exact ih hv fun part hpart => watching (op :: part) ((List.prefix_cons_inj op).2 hpart)

/-- A replay is led by its owner for as long as it is there. -/
theorem led_of_run {t t' : Table} (hs : h.Sound) (start : h.table? id = some t)
    (replay : t.isReplay) {ops : List (Luck × Operation)} (here : (h.run ops).table? id = some t')
    (hw : s ∈ t'.watchers) : (h.run ops).Led s id t'.owner := by
  obtain ⟨ht, rfl⟩ := hs.table?_eq_some_iff.1 start
  obtain ⟨r, hr, hcontinues⟩ := (continues_run h ops).tables t.id t' here (hs.below t ht)
  obtain rfl : r = t := Option.some.inj (hr.symm.trans start)
  have hreplay : t'.isReplay :=
    Table.isReplay_iff.2 (hcontinues.replay.2 (Table.isReplay_iff.1 replay))
  exact ⟨t', here, hreplay, hw, rfl⟩

/-- **Whoever watches a replay can know its leader.** A session watches a replay all the time while
some operations are done. Whoever it takes for the leader, beginning with the owner and believing
every message of a new leader, is the owner after each of the operations. -/
theorem leader_followed (limits : Limits) (variants : List String)
    (earlier stretch : List (Luck × Operation)) (s : Session) (id : TableId) (t : Table)
    (start : (after limits variants earlier).table? id = some t) (replay : t.isReplay)
    (watching : ∀ part, part <+: stretch →
      ∃ t', (after limits variants (earlier ++ part)).table? id = some t' ∧ s ∈ t'.watchers) :
    ∀ part t', part <+: stretch → (after limits variants (earlier ++ part)).table? id = some t' →
      s.follow id t.owner ((after limits variants earlier).sentOver part) = t'.owner := by
  intro part t' hpart here'
  have hs : (after limits variants earlier).Sound := sound_after limits variants earlier
  have hrun : ∀ ops,
      after limits variants (earlier ++ ops) = (after limits variants earlier).run ops :=
    fun ops => run_append _ earlier ops
  have hled : ∀ ops, ops <+: stretch →
      ∃ u, ((after limits variants earlier).run ops).Led s id u := by
    intro ops hops
    obtain ⟨r, hr, hw⟩ := watching ops hops
    rw [hrun] at hr
    exact ⟨r.owner, led_of_run hs start replay hr hw⟩
  obtain ⟨u, hu⟩ := hled [] List.nil_prefix
  have hbegin : (after limits variants earlier).Led s id t.owner := by
    obtain ⟨r, hr, hreplay, hw, -⟩ := hu
    obtain rfl : r = t := Option.some.inj (hr.symm.trans start)
    exact ⟨r, hr, hreplay, hw, rfl⟩
  obtain ⟨r, hr, -, -, hfollow⟩ := run_tracks hbegin fun ops hops => hled ops (hops.trans hpart)
  rw [hrun, hr] at here'
  rw [← hfollow, Option.some.inj here']

/-- The lead passes to Bob, who begins a rematch and leaves with Alice, and then from Carol to Dave
when her connection closes. Dave followed it all. -/
theorem leader_followed_by_dave :
    let alice : Session := ⟨⟨1⟩, "Alice", 0⟩
    let bob : Session := ⟨⟨2⟩, "Bob", 1⟩
    let carol : Session := ⟨⟨3⟩, "Carol", 2⟩
    let dave : Session := ⟨⟨4⟩, "Dave", 3⟩
    let options : Options := ⟨"No Variant", false, 0, 0, false, false, false, false⟩
    let earlier : List (Luck × Operation) :=
      [(⟨0, 0⟩, .openReplay alice "one" [(⟨1⟩, "Alice"), (⟨2⟩, "Bob")] options true),
        (⟨0, 0⟩, .command bob (.watch ⟨1⟩)), (⟨0, 0⟩, .command carol (.watch ⟨1⟩)),
        (⟨0, 0⟩, .command dave (.watch ⟨1⟩))]
    let stretch : List (Luck × Operation) :=
      [(⟨0, 0⟩, .command alice (.passLead ⟨1⟩ "bob")), (⟨0, 0⟩, .command bob (.rematch ⟨1⟩)),
        (⟨0, 0⟩, .disconnect carol.user)]
    let h := after ⟨6, 2⟩ ["No Variant"] earlier
    ∃ t t', h.table? ⟨1⟩ = some t ∧ (h.run stretch).table? ⟨1⟩ = some t' ∧
      t.owner = alice.user ∧ t'.owner = dave.user ∧
      dave.follow ⟨1⟩ t.owner (h.sentOver stretch) = t'.owner := by
  intro alice bob carol dave options earlier stretch h
  let t : Table :=
    { Table.review ⟨1⟩ "one" [(⟨1⟩, "Alice"), (⟨2⟩, "Bob")] alice options true with
      watchers := [alice, bob, carol, dave] }
  let t' : Table := { t with owner := ⟨4⟩, watchers := [dave] }
  have start : h.table? ⟨1⟩ = some t := by decide +kernel
  have finish : (h.run stretch).table? ⟨1⟩ = some t' := by decide +kernel
  have hdave : ∀ n ≤ stretch.length,
      ((after ⟨6, 2⟩ ["No Variant"] (earlier ++ stretch.take n)).table? ⟨1⟩).any
        fun r => r.watchers.contains dave := by decide +kernel
  have watching : ∀ part, part <+: stretch → ∃ r,
      (after ⟨6, 2⟩ ["No Variant"] (earlier ++ part)).table? ⟨1⟩ = some r ∧ dave ∈ r.watchers := by
    intro part hpart
    have hthere := hdave part.length hpart.length_le
    rw [← List.prefix_iff_eq_take.1 hpart, Option.any_eq_true] at hthere
    simpa using hthere
  have hrun : after ⟨6, 2⟩ ["No Variant"] (earlier ++ stretch) = h.run stretch :=
    run_append _ earlier stretch
  refine ⟨t, t', start, finish, rfl, rfl, ?_⟩
  exact leader_followed ⟨6, 2⟩ ["No Variant"] earlier stretch dave ⟨1⟩ t start rfl watching stretch
    t' (List.prefix_refl _) (hrun ▸ finish)

end Hall

end GameHall
