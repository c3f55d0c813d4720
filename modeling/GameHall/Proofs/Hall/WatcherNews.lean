import GameHall.Proofs.Hall.Audience
import GameHall.Proofs.Hall.Departures

/-!
# News of watchers

Whenever somebody begins or stops watching a table, everyone who is there afterwards is told that
the watchers changed, with one exception (`told_of_watchers`): when the connection of the leader of a
replay closes, those who are left are told of their new leader instead.

* `Hall.Heralds` says that a change of watchers is told. Operations by which users go also leave
  nobody at a table who was not there before (`Hall.Thins`), so that it is enough that the last of
  several departures is told: this is how it is in a rematch.
* A closed connection tells one thing at each of the user's tables (`mem_sent_withdrawAll`), and
  `Table.Sound.withdraw_of_watching` says what.
-/

namespace GameHall

namespace Table

variable {l : Limits} {t t' : Table} {u : UserId} {news : News} {d : Delivery}

theorem announce_subset (hid : t'.id = t.id) (hsub : t'.sessions ⊆ t.sessions) (news : News) :
    t'.announce news ⊆ t.announce news := by
  intro d hd
  rw [mem_announce] at hd ⊢
  exact ⟨hsub hd.1, hid ▸ hd.2⟩

/-- Nobody both plays and watches, so that what is told of a watcher's departure is not that a seat
was given up. -/
theorem Sound.withdraw_of_watching (h : t.Sound l) (hw : t.isWatching u) :
    t.withdraw u = (t.dropWatcher u,
      some (if t.leadMoves u then .newLeader (t.dropWatcher u).owner else .watchersChanged)) := by
  cases h with
  | lobby h =>
    rw [isWatching_iff, h.watching_eq] at hw
    cases hw
  | game h =>
    have hreplay : t.isReplay = false := by simp [isReplay, h.phase]
    have hconn : (t.seats.find? fun p => p.user == u).any Seat.isConnected = false := by
      have hnone := h.not_isConnected_of_watching (isWatching_iff.1 hw)
      rw [isConnected, hreplay] at hnone
      rw [any_find?_eq (f := Seat.user) h.distinct]
      simpa using hnone
    simp only [withdraw, h.phase, hconn, if_pos hw, Bool.false_eq_true, if_false]
  | review h => simp only [withdraw, h.phase, if_pos hw]

theorem Sound.watchers_withdraw (h : t.Sound l) (hw : ¬t.isWatching u) :
    (t.withdraw u).1.watchers = t.watchers := by
  rw [h.withdraw_eq, if_neg hw]
  split
  · rfl
  · split <;> rfl

end Table

namespace Hall

/-- If the watchers of a table are others, everyone there is told. -/
def Heralds (h : Hall) (m : List Delivery) (h' : Hall) : Prop :=
  ∀ id t t', h.table? id = some t → h'.table? id = some t' →
    t'.watchers = t.watchers ∨ t'.announce .watchersChanged ⊆ m

/-- Sessions only go, and if watchers went, everyone left at the table is told. -/
def Thins (h : Hall) (m : List Delivery) (h' : Hall) : Prop :=
  ∀ id t', h'.table? id = some t' → ∃ t, h.table? id = some t ∧ t'.sessions ⊆ t.sessions ∧
    (t'.watchers = t.watchers ∨ t'.announce .watchersChanged ⊆ m)

variable {h h' : Hall} {m : List Delivery}

theorem Thins.heralds (c : Thins h m h') : Heralds h m h' := by
  intro id t t' here here'
  obtain ⟨r, hr, -, htold⟩ := c id t' here'
  obtain rfl : r = t := Option.some.inj (hr.symm.trans here)
  exact htold

theorem heralds_of_nothing (h : Hall) (m : List Delivery) : Heralds h m h := by
  intro id t t' here here'
  exact .inl (congrArg Table.watchers (Option.some.inj (here'.symm.trans here)))

theorem composes_thins : Composes Thins where
  nothing := fun h id t here => ⟨t, here, List.Subset.refl _, .inl rfl⟩
  append := by
    intro h k h' m n hm hn id t'' here''
    obtain ⟨t', here', hsub', htold'⟩ := hn id t'' here''
    obtain ⟨t, here, hsub, htold⟩ := hm id t' here'
    refine ⟨t, here, List.Subset.trans hsub' hsub, ?_⟩
    rcases htold' with hsame' | htold'
    · refine htold.imp hsame'.trans fun htold => ?_
      -- those who are left were among those who were told
      have hid : t''.id = t'.id := (table?_id here'').trans (table?_id here').symm
      exact List.subset_append_of_subset_left n
        (List.Subset.trans (Table.announce_subset hid hsub' _) htold)
    · exact .inr (List.subset_append_of_subset_right m htold')

end Hall

/-! ## One table -/

namespace Outcome

open Hall

variable {ε α : Type} {h : Hall} {s : Session} {u : UserId} {id : TableId} {t t' : Table}
  {x : Option Table} {o : Outcome ε α}

theorem Turns.heralds (ho : o.Turns h t (some t'))
    (hw : t'.watchers = t.watchers ∨ t'.announce .watchersChanged ⊆ o.sent) :
    o.Meets Heralds h := by
  intro id r r' hr hr'
  by_cases hid : id = t.id
  · subst hid
    obtain rfl : r = t := Option.some.inj (hr.symm.trans ho.here)
    obtain rfl : r' = t' := Option.some.inj (hr'.symm.trans ho.found)
    exact hw
  · have hsame : o.hall.table? id = h.table? id := ho.frame.table?_of_ne hid
    exact .inl (congrArg Table.watchers (Option.some.inj (hr'.symm.trans (hsame.trans hr))))

theorem Arrives.heralds {news : News} {o : Outcome Refusal Unit} (ho : o.Arrives h s id news) :
    o.Meets Heralds h := by
  rcases ho with ⟨r, rfl⟩ | ⟨t, t', here, a, rfl⟩
  · exact heralds_of_nothing h _
  · refine (turns_arrive (table?_self here) a.id_eq s.user news).heralds ?_
    cases a with
    | seat => exact .inl rfl
    | reattach => exact .inl rfl
    | watch => exact .inr (List.Subset.refl _)

theorem Acts.heralds {o : Outcome Rejection Unit} (ho : o.Acts h id) : o.Meets Heralds h := by
  rcases ho with ⟨r, rfl⟩ | ⟨t, t', m, here, a, rfl⟩
  · exact heralds_of_nothing h _
  · refine (turns_act (table?_self here) a _).heralds (.inl ?_)
    cases a <;> rfl

theorem heralds_add (h : Hall) (s : Session) (t : Table) :
    (h.add s t : Outcome ε TableId).Meets Heralds h := by
  intro id r r' hr hr'
  have hsame := table?_add_of_some (ε := ε) hr s t
  exact .inl (congrArg Table.watchers (Option.some.inj (hr'.symm.trans hsame)))

theorem thins_depart (here : h.table? t.id = some t) (hid : t'.id = t.id)
    (hsub : t'.sessions ⊆ t.sessions) (u : UserId) {news : List News}
    (hnews : t'.watchers = t.watchers ∨ .watchersChanged ∈ news) :
    (h.depart u t' news : Outcome ε Unit).Meets Thins h := by
  have hturns := turns_depart (ε := ε) here hid u news
  intro id r hr
  by_cases hidt : id = t.id
  · subst hidt
    have hstands : t'.standing? = some r := hturns.found.symm.trans hr
    obtain rfl := Table.eq_of_standing? hstands
    refine ⟨t, here, hsub, hnews.imp_right fun hmem => ?_⟩
    rw [sent_depart, hstands, Option.toList_some, List.flatMap_singleton]
    exact fun d hd => List.mem_flatMap.2 ⟨_, hmem, hd⟩
  · have hsame := hturns.frame.table?_of_ne hidt
    exact ⟨r, hsame.symm.trans hr, List.Subset.refl _, .inl rfl⟩

end Outcome

namespace Hall

open Outcome

variable {h : Hall} {luck : Luck} {op : Operation} {s : Session} {u : UserId} {id : TableId}
  {ids : List TableId} {t t' : Table}

theorem Opens.heralds {o : Outcome Refusal TableId} (ho : h.Opens s o) : o.Meets Heralds h := by
  rcases ho with ⟨e, rfl⟩ | ⟨t, -, rfl⟩
  · exact heralds_of_nothing h _
  · exact heralds_add h s t

theorem thins_leave (h : Hall) (u : UserId) (id : TableId) : (h.leave u id).Meets Thins h := by
  unfold leave
  split
  · exact composes_thins.refuse _
  · rename_i t here
    split
    · exact composes_thins.refuse _
    · have hid : (t.unseat u).id = t.id := rfl
      exact thins_depart (table?_self here) hid (t.sessions_unseat u) u (.inl rfl)

theorem thins_stopWatching (h : Hall) (u : UserId) (id : TableId) :
    (h.stopWatching u id).Meets Thins h := by
  unfold stopWatching
  split
  · exact composes_thins.refuse _
  · rename_i t here
    split
    · have hid : (t.dropWatcher u).id = t.id := rfl
      exact thins_depart (table?_self here) hid (t.sessions_dropWatcher u) u
        (.inr List.mem_cons_self)
    · exact composes_thins.refuse _

/-! ## Rematches -/

/-- **A rematch tells of those who leave the replay** to those who stay. -/
theorem heralds_rematch (hr : h.Reachable) (luck : Luck) (s : Session) (id : TableId) :
    (h.rematch luck s id).Meets Heralds h := by
  cases hplan : h.rematchPlan s id with
  | error e =>
    rw [rematch_eq_refuse hplan]
    exact heralds_of_nothing h _
  | ok t =>
    obtain ⟨here, -, -⟩ := replay_of_plan hr.sound hplan
    obtain ⟨new, hmoved, -⟩ := rematch_ends hr hplan luck
    obtain ⟨hok, hleft, -⟩ := rematch_leaves hr hplan
    have hthins := composes_thins.leaveReplay (fun h u => thins_stopWatching h u t.id) h
      (rematchUsers s t.rematchPlayers)
    intro i r r' hri hri'
    by_cases hi : i = t.id
    · subst hi
      -- the replay is as those who left it have left it
      obtain ⟨q, hq, -, htold⟩ := hthins t.id r' ((hleft.found.trans hmoved.replay.symm).trans hri')
      obtain rfl : r = q := Option.some.inj (hri.symm.trans hq)
      refine htold.imp_right fun htold => ?_
      rw [rematch_eq_andThen hplan, playAgain_eq, sent_andThen_of_ok rfl, sent_andThen_of_ok hok]
      exact List.subset_append_of_subset_right _ (List.subset_append_of_subset_left _ htold)
    · have hnew : i ≠ ⟨h.nextId⟩ := by
        rintro rfl
        rw [hr.sound.table?_eq_none (Nat.le_refl _)] at hri
        cases hri
      have hsame := hmoved.frame.table? i (by simp [hi, hnew])
      exact .inl (congrArg Table.watchers (Option.some.inj (hri'.symm.trans (hsame.trans hri))))

/-! ## Going from everywhere -/

theorem mem_sent_withdraw {d : Delivery} :
    d ∈ (h.withdraw u id).sent ↔ ∃ t t' news, h.table? id = some t ∧
      (t.withdraw u).1.standing? = some t' ∧ (t.withdraw u).2 = some news ∧
        d ∈ t'.announce news := by
  unfold withdraw
  split
  · rename_i hnone
    refine iff_of_false List.not_mem_nil ?_
    rintro ⟨t, t', news, here, -⟩
    rw [hnone] at here
    cases here
  · rename_i t here
    simp only [sent_depart, List.mem_flatMap, Option.mem_toList]
    constructor
    · rintro ⟨t', hstands, news, hnews, hd⟩
      exact ⟨t, t', news, here, hstands, hnews, hd⟩
    · rintro ⟨r, t', news, hr, hstands, hnews, hd⟩
      obtain rfl : t = r := Option.some.inj (here.symm.trans hr)
      exact ⟨t', hstands, news, hnews, hd⟩

/-- **A closed connection tells** at every table what it would tell if it were the only one. -/
theorem mem_sent_withdrawAll (hids : ids.Nodup) {d : Delivery} :
    d ∈ (h.withdrawAll u ids).sent ↔ ∃ id ∈ ids, d ∈ (h.withdraw u id).sent := by
  induction ids generalizing h with
  | nil => simp [withdrawAll, done]
  | cons id ids ih =>
    rw [List.nodup_cons] at hids
    have hsame : ∀ i ∈ ids, (d ∈ ((h.withdraw u id).hall.withdraw u i).sent ↔
        d ∈ (h.withdraw u i).sent) := by
      intro i hi
      have hne : i ≠ id := fun heq => hids.1 (heq ▸ hi)
      rw [mem_sent_withdraw, mem_sent_withdraw, (departs_withdraw h u id).frame.table?_of_ne hne]
    rw [withdrawAll, sent_andThen_of_ok (result_withdraw h u id), List.mem_append, ih hids.2]
    simp only [List.mem_cons, exists_eq_or_imp]
    exact or_congr_right (exists_congr fun i => and_congr_right (hsame i))

/-- The news of a table that a closed connection sends is the news of that table. -/
theorem table_mem_sent_disconnect_iff (hs : h.Sound) (here : h.table? id = some t)
    (hmem : id ∈ h.tablesOf u) (hstands : (t.withdraw u).1.standing? = some t') (w : Session)
    (news : News) :
    ⟨w, .table id news⟩ ∈ (h.disconnect u).sent ↔
      w ∈ t'.sessions ∧ (t.withdraw u).2 = some news := by
  have hid : t'.id = id := by
    rw [Table.eq_of_standing? hstands, (Table.continues_withdraw t u).id]
    exact table?_id here
  rw [disconnect, mem_sent_withdrawAll (hs.nodup_tablesOf u)]
  constructor
  · rintro ⟨i, -, hi⟩
    obtain ⟨r, r', news', hr, hstands', hnews, hd⟩ := mem_sent_withdraw.1 hi
    obtain ⟨hw, hmessage⟩ := Table.mem_announce.1 hd
    have hri : r'.id = i := by
      rw [Table.eq_of_standing? hstands', (Table.continues_withdraw r u).id]
      exact table?_id hr
    obtain ⟨rfl, rfl⟩ := Message.table.inj hmessage
    rw [hri] at here
    obtain rfl : r = t := Option.some.inj (hr.symm.trans here)
    obtain rfl : r' = t' := Option.some.inj (hstands'.symm.trans hstands)
    exact ⟨hw, hnews⟩
  · rintro ⟨hw, hnews⟩
    refine ⟨id, hmem, mem_sent_withdraw.2 ⟨t, t', news, here, hstands, hnews, ?_⟩⟩
    exact Table.mem_announce.2 ⟨hw, by rw [hid]⟩

/-- A replay that stands is watched. -/
theorem watchers_ne_nil_of_standing (hreplay : t.isReplay) (hstands : t.standing? = some t') :
    t.watchers ≠ [] := by
  intro hnobody
  have hdeserted : t.isDeserted := by
    simp [Table.isDeserted, hnobody, hreplay]
  rw [Table.standing?, if_pos hdeserted] at hstands
  cases hstands

/-- **What a closed connection tells those with whom the user was watching**: that they have a new
leader, if they were led by the user, and otherwise that the watchers changed. -/
theorem disconnect_tells (hs : h.Sound) (here : h.table? id = some t)
    (here' : (h.disconnect u).hall.table? id = some t') (hchanged : t'.watchers ≠ t.watchers)
    (w : Session) (news : News) :
    ⟨w, .table id news⟩ ∈ (h.disconnect u).sent ↔ w ∈ t'.sessions ∧
      news = if t.isReplay ∧ t.owner = u then .newLeader t'.owner else .watchersChanged := by
  have ht : t.Sound h.limits := hs.tables t (hs.table?_eq_some_iff.1 here).1
  rw [disconnect, table?_withdrawAll (hs.nodup_tablesOf u), here] at here'
  split at here'
  · rename_i hmem
    have hstands : (t.withdraw u).1.standing? = some t' := here'
    have hw : t.isWatching u := by
      by_contra hw
      exact hchanged (Table.eq_of_standing? hstands ▸ ht.watchers_withdraw hw)
    have hwithdraw := ht.withdraw_of_watching hw
    rw [table_mem_sent_disconnect_iff hs here hmem hstands, hwithdraw]
    rw [hwithdraw] at hstands
    obtain rfl := Table.eq_of_standing? hstands
    have hmoves : t.leadMoves u ↔ t.isReplay ∧ t.owner = u := by
      rw [Table.leadMoves_iff, ← and_assoc]
      exact and_iff_left_of_imp fun hleads => watchers_ne_nil_of_standing hleads.1 hstands
    simp only [hmoves, Option.some.injEq, eq_comm (a := news)]
  · exact absurd (congrArg Table.watchers (Option.some.inj here').symm) hchanged

/-! ## Any operation -/

theorem covers_heralds (hr : h.Reachable) (luck : Luck) : Covers Heralds h luck where
  idle := heralds_of_nothing h []
  windsDown := by
    intro id t t' here here'
    exact .inl (congrArg Table.watchers (Option.some.inj (here'.symm.trans here)))
  opens := fun ho => ho.heralds
  arrives := fun ho => ho.heralds
  leaves := fun u id => (thins_leave h u id).heralds
  stops := fun u id => (thins_stopWatching h u id).heralds
  acts := fun ho => ho.heralds
  rematches := heralds_rematch hr luck

/-- Operations of users tell of every change of watchers. -/
theorem perform_heralds (hr : h.Reachable) (luck : Luck) (hop : ∀ u, op ≠ .disconnect u) :
    (h.perform luck op).Meets Heralds h :=
  (covers_heralds hr luck).perform op fun u hu => absurd hu (hop u)

/-- **Who is told of watchers.** If an operation makes somebody begin or stop watching a table that
is still there afterwards, everyone who is there then is told that the watchers changed. Only where
the connection of the leader of a replay closed, they are told of the new leader, and nothing
else. -/
theorem told_of_watchers (limits : Limits) (variants : List String)
    (ops : List (Luck × Operation)) (luck : Luck) (op : Operation) (id : TableId) (t t' : Table)
    (before : (after limits variants ops).table? id = some t)
    (afterwards : ((after limits variants ops).perform luck op).hall.table? id = some t')
    (changed : ∃ u, t.isWatching u ≠ t'.isWatching u) :
    let sent := ((after limits variants ops).perform luck op).sent
    (¬(t.isReplay ∧ op = .disconnect t.owner) →
      ∀ s ∈ t'.sessions, ⟨s, .table id .watchersChanged⟩ ∈ sent) ∧
    (t.isReplay ∧ op = .disconnect t.owner →
      ∀ s ∈ t'.sessions, ∀ news, ⟨s, .table id news⟩ ∈ sent ↔ news = .newLeader t'.owner) := by
  intro sent
  have hr : (after limits variants ops).Reachable :=
    reachable_iff_after.2 ⟨limits, variants, ops, rfl⟩
  have hchanged : t'.watchers ≠ t.watchers := by
    obtain ⟨u, hu⟩ := changed
    intro heq
    exact hu (by simp only [Table.isWatching, heq])
  by_cases hop : ∀ u, op ≠ .disconnect u
  · refine ⟨fun _ s hs => ?_, fun hleader => absurd hleader.2 (hop _)⟩
    have htold := (perform_heralds hr luck hop id t t' before afterwards).resolve_left hchanged
    exact htold (Table.mem_announce.2 ⟨hs, by rw [table?_id afterwards]⟩)
  · simp only [ne_eq, not_forall, not_not] at hop
    obtain ⟨u, rfl⟩ := hop
    have htells : ∀ w news, ⟨w, .table id news⟩ ∈ sent ↔ w ∈ t'.sessions ∧
        news = if t.isReplay ∧ t.owner = u then .newLeader t'.owner else .watchersChanged :=
      disconnect_tells hr.sound before afterwards hchanged
    refine ⟨fun hother s hs => ?_, fun hleader s hs news => ?_⟩
    · have hcase : ¬(t.isReplay ∧ t.owner = u) := by
        rintro ⟨hreplay, rfl⟩
        exact hother ⟨hreplay, rfl⟩
      rw [htells, if_neg hcase]
      exact ⟨hs, rfl⟩
    · obtain ⟨hreplay, hu⟩ := hleader
      rw [htells, if_pos ⟨hreplay, (Operation.disconnect.inj hu).symm⟩]
      exact and_iff_right hs

/-- Who stays at the replay of a rematch is told that the others left. -/
theorem told_of_watchers_at_rematch :
    let alice : Session := ⟨⟨1⟩, "Alice", 0⟩
    let bob : Session := ⟨⟨2⟩, "Bob", 1⟩
    let carol : Session := ⟨⟨3⟩, "Carol", 2⟩
    let options : Options := ⟨"No Variant", false, 0, 0, false, false, false, false⟩
    let ops : List (Luck × Operation) :=
      [(⟨0, 0⟩, .openReplay alice "one" [(⟨1⟩, "Alice"), (⟨2⟩, "Bob")] options true),
        (⟨0, 0⟩, .command bob (.watch ⟨1⟩)), (⟨0, 0⟩, .command carol (.watch ⟨1⟩))]
    let h := after ⟨6, 2⟩ ["No Variant"] ops
    let o := h.perform ⟨0, 0⟩ (.command alice (.rematch ⟨1⟩))
    ∃ t t', h.table? ⟨1⟩ = some t ∧ o.hall.table? ⟨1⟩ = some t' ∧
      t.isWatching bob.user ≠ t'.isWatching bob.user ∧ t'.sessions = [carol] ∧
      ⟨carol, .table ⟨1⟩ .watchersChanged⟩ ∈ o.sent := by
  intro alice bob carol options ops h o
  let t : Table :=
    { Table.review ⟨1⟩ "one" [(⟨1⟩, "Alice"), (⟨2⟩, "Bob")] alice options true with
      watchers := [alice, bob, carol] }
  let t' : Table := { t with owner := ⟨3⟩, watchers := [carol] }
  have before : h.table? ⟨1⟩ = some t := by decide +kernel
  have afterwards : o.hall.table? ⟨1⟩ = some t' := by decide +kernel
  have changed : t.isWatching bob.user ≠ t'.isWatching bob.user := by decide
  obtain ⟨htold, -⟩ := told_of_watchers ⟨6, 2⟩ ["No Variant"] ops ⟨0, 0⟩
    (.command alice (.rematch ⟨1⟩)) ⟨1⟩ t t' before afterwards ⟨bob.user, changed⟩
  exact ⟨t, t', before, afterwards, changed, rfl, htold (by simp) carol (by decide)⟩

/-- The leader of a replay is gone, and the one who is left is not told that the watchers changed.
If the leader stops watching instead, the other is told. -/
theorem leader_goes_unannounced :
    let alice : Session := ⟨⟨1⟩, "Alice", 0⟩
    let bob : Session := ⟨⟨2⟩, "Bob", 1⟩
    let options : Options := ⟨"No Variant", false, 0, 0, false, false, false, false⟩
    let h := after ⟨6, 2⟩ ["No Variant"]
      [(⟨0, 0⟩, .openReplay alice "replay" [(⟨1⟩, "Alice"), (⟨2⟩, "Bob")] options true),
        (⟨0, 0⟩, .command bob (.watch ⟨1⟩))]
    let o := h.perform ⟨0, 0⟩ (.disconnect alice.user)
    ∃ t t', h.table? ⟨1⟩ = some t ∧ o.hall.table? ⟨1⟩ = some t' ∧
      t.isWatching alice.user ∧ ¬t'.isWatching alice.user ∧ t'.sessions = [bob] ∧
      ⟨bob, .table ⟨1⟩ .watchersChanged⟩ ∉ o.sent ∧
      ⟨bob, .table ⟨1⟩ .watchersChanged⟩ ∈
        (h.perform ⟨0, 0⟩ (.command alice (.stopWatching ⟨1⟩))).sent := by
  intro alice bob options h o
  let t : Table :=
    { Table.review ⟨1⟩ "replay" [(⟨1⟩, "Alice"), (⟨2⟩, "Bob")] alice options true with
      watchers := [alice, bob] }
  let t' : Table := { t with owner := ⟨2⟩, watchers := [bob] }
  refine ⟨t, t', by decide +kernel, by decide +kernel, by decide, by decide, rfl, ?_, ?_⟩
  · decide +kernel
  · decide +kernel

end Hall

end GameHall
