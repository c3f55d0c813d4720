import GameHall.Proofs.Hall.Change
import GameHall.Proofs.Presence
import GameHall.Proofs.Table.Sound

/-!
# Sound halls

`Hall.Sound` is the invariant of halls: the tables ascend and are sound, the index of presence lists
exactly the tables where a user is present, and nobody is connected to two games. The index is what
makes `otherGame?` complete, and `otherGame?` is what keeps users from a second game, so that the
parts of the invariant hold together or not at all.

* What each kind of change does to a sound table is said once, for `Opening`, `Arrival`, `Departure`
  and `Act`.
* `Change.sound` is the step and `Reachable.sound` the run: every reachable hall is sound.
-/

namespace GameHall

namespace Hall

/-! ## What changes do to a table -/

section Tables

variable {h : Hall} {s : Session} {u v : UserId} {t t' : Table} {l : Limits}

theorem Opening.id_eq (o : h.Opening s t) : t.id = ⟨h.nextId⟩ := by
  cases o <;> rfl

theorem Opening.sound (o : h.Opening s t) : t.Sound h.limits := by
  cases o with
  | lobby => exact .lobby (Table.inLobby_lobby ..)
  | review _ _ _ played => exact .review (Table.inReview_review _ _ played ..)

theorem Opening.isPresent_iff (o : h.Opening s t) : t.isPresent v ↔ v = s.user := by
  cases o with
  | lobby =>
    rw [(Table.inLobby_lobby ..).isPresent_iff_seated]
    exact List.mem_singleton
  | review _ _ _ played =>
    rw [(Table.inReview_review _ _ played ..).isPresent_iff_watching]
    exact List.mem_singleton

theorem Opening.of_isConnected (o : h.Opening s t) (hc : t.isConnected v) :
    v = s.user ∧ h.otherGame? s.user none = none := by
  refine ⟨o.isPresent_iff.1 (Table.isPresent_iff.2 (.inr hc)), ?_⟩
  cases o with
  | lobby _ _ _ idle => exact idle
  | review _ _ _ played => exact absurd hc (Table.inReview_review _ _ played ..).not_isConnected

variable {news : News}

theorem Arrival.id_eq (a : h.Arrival s t news t') : t'.id = t.id := by
  cases a <;> rfl

theorem Arrival.sound (a : h.Arrival s t news t') (ht : t.Sound h.limits) : t'.Sound h.limits := by
  cases a with
  | seat _ _ phase new room => exact .lobby ((ht.inLobby phase).seat new room)
  | reattach phase lost => exact .game ((ht.inGame phase).reattach lost)
  | watch phase allowed unseated new =>
    cases ht with
    | lobby ht => exact absurd ht.phase phase
    | game ht => exact .game (ht.addWatcher (unseated (by simp [ht.phase])) new)
    | review ht => exact .review (ht.addWatcher allowed new)

/-- Nobody is connected by an arrival but a user who is idle. -/
theorem Arrival.of_isConnected (a : h.Arrival s t news t') (ht : t.Sound h.limits)
    (hc : t'.isConnected v) :
    t.isConnected v ∨ v = s.user ∧ h.otherGame? s.user (some t.id) = none := by
  cases a with
  | seat _ idle phase =>
    rcases (Table.isConnected_seat (by simp [phase])).1 hc with hv | hc
    · exact .inr ⟨hv, idle⟩
    · exact .inl hc
  | reattach phase lost idle =>
    rcases (Table.isConnected_reattach (ht.inGame phase).distinct lost).1 hc with hv | hc
    · exact .inr ⟨hv, idle⟩
    · exact .inl hc
  | watch => exact .inl hc

theorem Arrival.isPresent_iff (a : h.Arrival s t news t') (ht : t.Sound h.limits) :
    t'.isPresent v ↔ v = s.user ∨ t.isPresent v := by
  simp only [Table.isPresent_iff]
  cases a with
  | seat _ _ phase =>
    rw [Table.isConnected_seat (by simp [phase])]
    exact or_left_comm
  | reattach phase lost =>
    rw [Table.isConnected_reattach (ht.inGame phase).distinct lost]
    exact or_left_comm
  | watch =>
    rw [Table.watching_addWatcher, List.mem_append, List.mem_singleton, or_comm (b := v = s.user),
      or_assoc]
    rfl

/-- The ways in which users go from sound tables. -/
inductive Gone (u : UserId) (t : Table) : Table → Prop
  | absent (away : ¬t.isPresent u) : Gone u t t
  | unseat (phase : t.phase = .pregame) : Gone u t (t.unseat u)
  | dropWatcher (watching : t.isWatching u) : Gone u t (t.dropWatcher u)
  | detach (phase : t.phase = .running) (unwatching : ¬t.isWatching u) : Gone u t (t.detach u)

theorem gone_withdraw (ht : t.Sound l) (u : UserId) : Gone u t (t.withdraw u).1 := by
  rw [ht.withdraw_eq]
  split
  · rename_i hw
    exact .dropWatcher hw
  · rename_i hw
    split
    · rename_i hseat
      exact .unseat hseat.1
    · rename_i hseat
      split
      · rename_i hc
        exact .detach hc.1 hw
      · rename_i hc
        exact .absent (Table.not_isPresent hw hseat hc)

theorem Departure.gone {ns : List News} (d : Departure u t ns t') (ht : t.Sound l) :
    Gone u t t' := by
  cases d with
  | leave phase => exact .unseat phase
  | stopWatching watching => exact .dropWatcher watching
  | withdraw => exact gone_withdraw ht u

theorem Gone.id_eq (g : Gone u t t') : t'.id = t.id := by
  cases g <;> rfl

theorem Gone.sound (g : Gone u t t') (ht : t.Sound l) (left : t'.isDeserted = false) :
    t'.Sound l := by
  cases g with
  | absent => exact ht
  | unseat phase => exact .lobby ((ht.inLobby phase).unseat left)
  | dropWatcher watching =>
    cases ht with
    | lobby ht =>
      rw [Table.isWatching_iff, ht.watching_eq] at watching
      cases watching
    | game ht => exact .game (ht.dropWatcher left)
    | review ht => exact .review (ht.dropWatcher left)
  | detach phase => exact .game ((ht.inGame phase).detach left)

theorem Gone.of_isConnected (g : Gone u t t') (ht : t.Sound l) (hc : t'.isConnected v) :
    t.isConnected v := by
  cases g with
  | absent => exact hc
  | unseat phase => exact ((Table.isConnected_unseat (ht.inLobby phase).distinct).1 hc).2
  | dropWatcher => exact hc
  | detach phase => exact ((Table.isConnected_detach (ht.inGame phase).distinct).1 hc).2

/-- Who goes is gone, and nobody else is. -/
theorem Gone.isPresent_iff (g : Gone u t t') (ht : t.Sound l) :
    t'.isPresent v ↔ v ≠ u ∧ t.isPresent v := by
  cases g with
  | absent away =>
    exact ⟨fun hp => ⟨fun hvu => away (hvu ▸ hp), hp⟩, fun hp => hp.2⟩
  | unseat phase =>
    have hl := ht.inLobby phase
    have hw : (t.unseat u).watching = [] := hl.watching_eq
    rw [Table.isPresent_iff, Table.isPresent_iff, hw, hl.watching_eq,
      Table.isConnected_unseat hl.distinct]
    simp
  | dropWatcher watching =>
    have hu := Table.isWatching_iff.1 watching
    have hdistinct : t.watching.Nodup ∧ ¬t.isConnected u := by
      cases ht with
      | lobby ht =>
        rw [ht.watching_eq] at hu
        cases hu
      | game ht => exact ⟨ht.watching, ht.not_isConnected_of_watching hu⟩
      | review ht => exact ⟨ht.watching, ht.not_isConnected⟩
    have hc : (t.dropWatcher u).isConnected v = t.isConnected v := rfl
    rw [Table.isPresent_iff, Table.isPresent_iff, Table.watching_dropWatcher hdistinct.1, hc,
      List.mem_filter, bne_iff_ne]
    by_cases hvu : v = u
    · simp [hvu, hdistinct.2]
    · simp [hvu]
  | detach phase unwatching =>
    have hw : (t.detach u).watching = t.watching := rfl
    rw [Table.isWatching_iff] at unwatching
    rw [Table.isPresent_iff, Table.isPresent_iff, hw,
      Table.isConnected_detach (ht.inGame phase).distinct]
    by_cases hvu : v = u
    · simp [hvu, unwatching]
    · simp [hvu]

variable {sent : List Delivery}

theorem Act.id_eq (a : h.Act t sent t') : t'.id = t.id := by
  cases a <;> rfl

theorem Act.sound (a : h.Act t sent t') (ht : t.Sound h.limits) : t'.Sound h.limits := by
  cases a with
  | passLead _ shared _ _ found =>
    cases ht with
    | lobby ht => exact .lobby (ht.passedTo found)
    | game ht => exact .game (ht.passedTo found)
    | review ht => exact .review (ht.passedTo shared found)
  | start phase enough => exact .game ((ht.inLobby phase).started _ enough)

theorem Act.isConnected_iff (a : h.Act t sent t') : t'.isConnected v ↔ t.isConnected v := by
  cases a with
  | passLead => exact Table.isConnected_passedTo ..
  | start phase => exact Table.isConnected_started (by simp [phase]) _

theorem Act.isPresent_iff (a : h.Act t sent t') : t'.isPresent v ↔ t.isPresent v := by
  have hw : t'.watching = t.watching := by
    cases a <;> rfl
  rw [Table.isPresent_iff, Table.isPresent_iff, hw, a.isConnected_iff]

end Tables

/-! ## The invariant -/

/-- The invariant of halls. -/
structure Sound (h : Hall) : Prop where
  tidy : h.presence.Tidy
  ascending : h.tables.Pairwise fun a b => a.id < b.id
  below : ∀ t ∈ h.tables, t.id.val < h.nextId
  tables : ∀ t ∈ h.tables, t.Sound h.limits
  /-- The index of presence is exact. -/
  indexed : ∀ u id, id ∈ h.tablesOf u ↔ ∃ t ∈ h.tables, t.id = id ∧ t.isPresent u
  /-- Nobody is connected to two games. -/
  oneGame : ∀ a ∈ h.tables, ∀ b ∈ h.tables, ∀ u, a.isConnected u → b.isConnected u → a.id = b.id

variable {h : Hall} {t t' : Table} {u : UserId} {id : TableId}

theorem Sound.nodup_ids (hs : h.Sound) : (h.tables.map Table.id).Nodup := by
  rw [List.Nodup, List.pairwise_map]
  refine hs.ascending.imp fun hab heq => ?_
  rw [TableId.lt_iff, heq] at hab
  omega

theorem Sound.eq_of_id_eq (hs : h.Sound) {a b : Table} (ha : a ∈ h.tables) (hb : b ∈ h.tables)
    (hid : a.id = b.id) : a = b :=
  List.inj_on_of_nodup_map hs.nodup_ids ha hb hid

theorem Sound.table?_eq_some_iff (hs : h.Sound) :
    h.table? id = some t ↔ t ∈ h.tables ∧ t.id = id := by
  constructor
  · exact fun here => ⟨List.mem_of_find?_eq_some here, table?_id here⟩
  · rintro ⟨ht, rfl⟩
    obtain ⟨x, hx⟩ : ∃ x, h.table? t.id = some x :=
      Option.isSome_iff_exists.1 (List.find?_isSome.2 ⟨t, ht, by simp⟩)
    rw [hx, hs.eq_of_id_eq (List.mem_of_find?_eq_some hx) ht (table?_id hx)]

/-- A user who has no other game is connected to no other. -/
theorem Sound.otherGame?_eq_none_iff (hs : h.Sound) {except : Option TableId} :
    h.otherGame? u except = none ↔
      ∀ t ∈ h.tables, some t.id ≠ except → ¬t.isConnected u := by
  rw [otherGame?, List.find?_eq_none]
  constructor
  · intro hnone t ht hne hc
    have hmem : t.id ∈ h.tablesOf u :=
      (hs.indexed u t.id).2 ⟨t, ht, rfl, Table.isPresent_iff.2 (.inr hc)⟩
    have here : h.table? t.id = some t := hs.table?_eq_some_iff.2 ⟨ht, rfl⟩
    exact hnone t.id hmem (by simp [hne, here, hc])
  · intro hnone id _ hp
    simp only [Bool.and_eq_true, decide_eq_true_eq, Option.any_eq_true] at hp
    obtain ⟨hne, t, here, hc⟩ := hp
    obtain ⟨ht, rfl⟩ := hs.table?_eq_some_iff.1 here
    exact hnone t ht hne hc

theorem mem_put {x : Table} (ht : t ∈ h.tables) (hid : t'.id = t.id) :
    x ∈ (h.put t').tables ↔ x = t' ∨ x ∈ h.tables ∧ x.id ≠ t.id := by
  simp only [put, List.mem_map, hid]
  constructor
  · rintro ⟨y, hy, rfl⟩
    by_cases hyt : y.id = t.id
    · exact .inl (if_pos hyt)
    · rw [if_neg hyt]
      exact .inr ⟨hy, hyt⟩
  · rintro (rfl | ⟨hx, hxt⟩)
    · exact ⟨t, ht, if_pos rfl⟩
    · exact ⟨x, hx, if_neg hxt⟩

theorem map_id_put (h : Hall) (t : Table) : (h.put t).tables.map Table.id = h.tables.map Table.id := by
  simp only [put, List.map_map]
  refine List.map_congr_left fun x _ => ?_
  simp only [Function.comp_apply]
  split
  · rename_i hx
    exact hx.symm
  · rfl

/-! ## What changes do to the invariant -/

/-- A new table, where only its creator is present. -/
theorem Sound.opens (hs : h.Sound) {s : Session} (o : h.Opening s t) :
    Sound { h with
      tables := h.tables ++ [t]
      presence := h.presence.insert s.user t.id
      nextId := h.nextId + 1 } where
  tidy := hs.tidy.insert ..
  ascending := by
    refine List.pairwise_append.2 ⟨hs.ascending, List.pairwise_singleton .., fun a ha b hb => ?_⟩
    obtain rfl := List.mem_singleton.1 hb
    rw [o.id_eq]
    exact hs.below a ha
  below := fun x hx => by
    rcases List.mem_append.1 hx with hx | hx
    · exact Nat.lt_succ_of_lt (hs.below x hx)
    · rw [List.mem_singleton.1 hx, o.id_eq]
      exact Nat.lt_succ_self _
  tables := fun x hx => by
    rcases List.mem_append.1 hx with hx | hx
    · exact hs.tables x hx
    · exact List.mem_singleton.1 hx ▸ o.sound
  indexed := fun v id => by
    refine (Presence.mem_tablesOf_insert hs.tidy).trans ?_
    simp only [List.mem_append, List.mem_singleton, or_and_right, exists_or, exists_eq_left]
    rw [o.isPresent_iff, or_comm, and_comm (a := v = s.user), eq_comm (a := id)]
    exact or_congr_left (hs.indexed v id)
  oneGame := fun a ha b hb v hav hbv => by
    have hnew : ∀ x ∈ h.tables, x.isConnected v → ¬t.isConnected v := fun x hx hxv htv => by
      obtain ⟨rfl, idle⟩ := o.of_isConnected htv
      exact hs.otherGame?_eq_none_iff.1 idle x hx (by simp) hxv
    rcases List.mem_append.1 ha with ha | ha <;> rcases List.mem_append.1 hb with hb | hb
    · exact hs.oneGame a ha b hb v hav hbv
    · exact absurd (List.mem_singleton.1 hb ▸ hbv) (hnew a ha hav)
    · exact absurd (List.mem_singleton.1 ha ▸ hav) (hnew b hb hbv)
    · rw [List.mem_singleton.1 ha, List.mem_singleton.1 hb]

/-- A table changes, and the index changes with it. -/
theorem Sound.changes (hs : h.Sound) {p : Presence} (ht : t ∈ h.tables) (hid : t'.id = t.id)
    (hsound : t'.Sound h.limits) (hp : p.Tidy)
    (hindexed : ∀ u id,
      id ∈ p.tablesOf u ↔ id = t.id ∧ t'.isPresent u ∨ id ≠ t.id ∧ id ∈ h.tablesOf u)
    (hidle : ∀ u, t'.isConnected u →
      ∀ x ∈ h.tables, x.id ≠ t.id → ¬x.isConnected u) :
    Sound { h.put t' with presence := p } where
  tidy := hp
  ascending := by
    have hids := hs.ascending
    rw [← List.pairwise_map (f := Table.id) (R := fun a b => a < b)] at hids
    rw [← map_id_put h t', List.pairwise_map] at hids
    exact hids
  below := fun x hx => by
    rcases (mem_put ht hid).1 hx with rfl | ⟨hx, -⟩
    · exact hid ▸ hs.below t ht
    · exact hs.below x hx
  tables := fun x hx => by
    rcases (mem_put ht hid).1 hx with rfl | ⟨hx, -⟩
    · exact hsound
    · exact hs.tables x hx
  indexed := fun v id => by
    refine (hindexed v id).trans ?_
    constructor
    · rintro (⟨rfl, hv⟩ | ⟨hne, hmem⟩)
      · exact ⟨t', (mem_put ht hid).2 (.inl rfl), hid, hv⟩
      · obtain ⟨x, hx, rfl, hv⟩ := (hs.indexed v id).1 hmem
        exact ⟨x, (mem_put ht hid).2 (.inr ⟨hx, hne⟩), rfl, hv⟩
    · rintro ⟨x, hx, rfl, hv⟩
      rcases (mem_put ht hid).1 hx with rfl | ⟨hx, hne⟩
      · exact .inl ⟨hid, hv⟩
      · exact .inr ⟨hne, (hs.indexed v x.id).2 ⟨x, hx, rfl, hv⟩⟩
  oneGame := fun a ha b hb v hav hbv => by
    rcases (mem_put ht hid).1 ha with haeq | ⟨ha, hane⟩ <;>
      rcases (mem_put ht hid).1 hb with hbeq | ⟨hb, hbne⟩
    · rw [haeq, hbeq]
    · exact absurd hbv (hidle v (haeq ▸ hav) b hb hbne)
    · exact absurd hav (hidle v (hbeq ▸ hbv) a ha hane)
    · exact hs.oneGame a ha b hb v hav hbv

/-- A table goes, and the index forgets it. -/
theorem Sound.goes (hs : h.Sound) (u : UserId) (id : TableId) :
    ((h.forget u id).remove id).Sound where
  tidy := (hs.tidy.erase ..).eraseTable _
  ascending := hs.ascending.filter _
  below := fun x hx => hs.below x (List.mem_filter.1 hx).1
  tables := fun x hx => hs.tables x (List.mem_filter.1 hx).1
  indexed := fun v id' => by
    refine (Presence.mem_tablesOf_eraseTable (hs.tidy.erase ..)).trans ?_
    rw [Presence.mem_tablesOf_erase hs.tidy]
    change (id' ∈ h.tablesOf v ∧ _) ∧ _ ↔ _
    rw [hs.indexed v id']
    simp only [remove, forget, List.mem_filter, bne_iff_ne]
    constructor
    · rintro ⟨⟨⟨x, hx, rfl, hv⟩, -⟩, hne⟩
      exact ⟨x, ⟨hx, hne⟩, rfl, hv⟩
    · rintro ⟨x, ⟨hx, hne⟩, rfl, hv⟩
      exact ⟨⟨⟨x, hx, rfl, hv⟩, fun hvid => hne hvid.2⟩, hne⟩
  oneGame := fun a ha b hb v =>
    hs.oneGame a (List.mem_filter.1 ha).1 b (List.mem_filter.1 hb).1 v

/-- A user who plays only at games where he played before has no second game. -/
theorem Sound.idle_of_isConnected (hs : h.Sound) (ht : t ∈ h.tables)
    (hold : ∀ u, t'.isConnected u → t.isConnected u) :
    ∀ u, t'.isConnected u → ∀ x ∈ h.tables, x.id ≠ t.id → ¬x.isConnected u :=
  fun u hu x hx hne hxu => hne (hs.oneGame x hx t ht u hxu (hold u hu))

/-- The index says of a table who is present there. -/
theorem Sound.mem_tablesOf_iff (hs : h.Sound) (ht : t ∈ h.tables) :
    t.id ∈ h.tablesOf u ↔ t.isPresent u := by
  rw [hs.indexed]
  constructor
  · rintro ⟨x, hx, hid, hp⟩
    exact hs.eq_of_id_eq hx ht hid ▸ hp
  · exact fun hp => ⟨t, ht, rfl, hp⟩

/-- **Changes keep the invariant.** -/
theorem Change.sound {h' : Hall} {o : Option Table} {m : List Delivery} (c : h.Change o m h')
    (hs : h.Sound) : h'.Sound := by
  cases c with
  | opens o => exact hs.opens o
  | @arrives s t t' news here a =>
    have ht := (hs.table?_eq_some_iff.1 here).1
    have hst := hs.tables t ht
    refine hs.changes ht a.id_eq (a.sound hst) (hs.tidy.insert ..) (fun v id => ?_) ?_
    · refine (Presence.mem_tablesOf_insert hs.tidy).trans ?_
      rw [a.id_eq, a.isPresent_iff hst, ← hs.mem_tablesOf_iff ht]
      by_cases hid : id = t.id
      · subst hid
        simp [tablesOf]
      · simp [tablesOf, hid]
    · intro v hv x hx hne hxv
      rcases a.of_isConnected hst hv with hv | ⟨rfl, idle⟩
      · exact hne (hs.oneGame x hx t ht v hxv hv)
      · exact hs.otherGame?_eq_none_iff.1 idle x hx (by simpa using hne) hxv
  | @departs u t t' news here d left =>
    have ht := (hs.table?_eq_some_iff.1 here).1
    have hst := hs.tables t ht
    have g := d.gone hst
    refine hs.changes ht g.id_eq (g.sound hst left) (hs.tidy.erase ..) (fun v id => ?_)
      (hs.idle_of_isConnected ht fun v => g.of_isConnected hst)
    refine (Presence.mem_tablesOf_erase hs.tidy).trans ?_
    rw [g.id_eq, g.isPresent_iff hst, ← hs.mem_tablesOf_iff ht]
    by_cases hid : id = t.id
    · subst hid
      simp [tablesOf, and_comm]
    · simp [tablesOf, hid]
  | deserts => exact hs.goes ..
  | @acts t t' sent here a =>
    have ht := (hs.table?_eq_some_iff.1 here).1
    have hst := hs.tables t ht
    refine hs.changes ht a.id_eq (a.sound hst) hs.tidy (fun v id => ?_)
      (hs.idle_of_isConnected ht fun v => a.isConnected_iff.1)
    rw [a.isPresent_iff, ← hs.mem_tablesOf_iff ht]
    by_cases hid : id = t.id
    · subst hid
      simp [tablesOf]
    · simp [tablesOf, hid]
  | windsDown => exact ⟨hs.tidy, hs.ascending, hs.below, hs.tables, hs.indexed, hs.oneGame⟩
  | boots => exact hs

theorem sound_fresh (limits : Limits) (variants : List String) : (fresh limits variants).Sound where
  tidy := Presence.tidy_empty
  ascending := .nil
  below := fun _ ht => by cases ht
  tables := fun _ ht => by cases ht
  indexed := fun u id => by simp [fresh, tablesOf, Presence.tablesOf, Presence.empty]
  oneGame := fun _ ha => by cases ha

/-- **Every reachable hall is sound.** -/
theorem Reachable.sound (hr : h.Reachable) : h.Sound :=
  hr.induction_on_changes sound_fresh Change.sound

/-! ## Histories -/

/-- The hall after operations on a fresh one. -/
def after (limits : Limits) (variants : List String) (ops : List (Luck × Operation)) : Hall :=
  (fresh limits variants).run ops

theorem Reachable.run (hr : h.Reachable) (ops : List (Luck × Operation)) :
    (h.run ops).Reachable := by
  induction ops generalizing h with
  | nil => exact hr
  | cons op ops ih => exact ih (.step op.1 op.2 hr)

theorem run_append (h : Hall) (ops ops' : List (Luck × Operation)) :
    h.run (ops ++ ops') = (h.run ops).run ops' := by
  induction ops generalizing h with
  | nil => rfl
  | cons op ops ih => exact ih _

/-- The reachable halls are those that have a history. -/
theorem reachable_iff_after :
    h.Reachable ↔ ∃ limits variants ops, h = after limits variants ops := by
  constructor
  · intro hr
    induction hr with
    | fresh limits variants => exact ⟨limits, variants, [], rfl⟩
    | step luck op _ ih =>
      obtain ⟨limits, variants, ops, rfl⟩ := ih
      exact ⟨limits, variants, ops ++ [(luck, op)], (run_append _ ops [(luck, op)]).symm⟩
  · rintro ⟨limits, variants, ops, rfl⟩
    exact Reachable.run (.fresh limits variants) ops

theorem sound_after (limits : Limits) (variants : List String) (ops : List (Luck × Operation)) :
    (after limits variants ops).Sound :=
  (reachable_iff_after.2 ⟨limits, variants, ops, rfl⟩).sound

end Hall

theorem Outcome.Follows.sound {ε α : Type} {o : Outcome ε α} {h : Hall} {ts : List Table}
    (ho : o.Follows h ts) (hs : h.Sound) : o.hall.Sound :=
  Hall.Changes.keep Hall.Change.sound ho hs

end GameHall
