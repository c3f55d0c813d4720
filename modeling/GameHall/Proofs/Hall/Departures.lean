import GameHall.Proofs.Rematch.Outcome

/-!
# When tables go

An operation may take users away from a table (`Hall.goers`): a player gives up the seat, a watcher
stops watching, a connection closes, or a rematch calls the users of a replay away. A table goes when
these are all who are there, and only then (`removed_iff`).

Whoever comes to a table in the same operation comes to another, so that nobody keeps a table that
everyone has left.
-/

namespace GameHall

namespace Hall

variable {h : Hall} {l : Limits} {s : Session} {u : UserId} {id : TableId} {t t' : Table}

/-! ## Who goes -/

/-- The users whom an operation takes away from a table, if they are there. -/
def goers (h : Hall) (t : Table) : Operation → List UserId
  | .command s (.leave id) =>
    if id = t.id ∧ t.phase = .pregame ∧ t.hasSeat s.user then [s.user] else []
  | .command s (.stopWatching id) => if id = t.id ∧ t.isWatching s.user then [s.user] else []
  | .command s (.rematch id) =>
    if h.rematchPlan s id = .ok t then rematchUsers s t.rematchPlayers else []
  | .disconnect u => [u]
  | _ => []

/-- A table stands with whoever is left. -/
theorem Gone.standing?_eq_none_iff (g : Gone u t t') (ht : t.Sound l) :
    t'.standing? = none ↔ ∀ v, t.isPresent v → v ∈ [u] := by
  rw [Table.standing?_eq_none_iff]
  refine forall_congr' fun v => ?_
  rw [← Bool.not_eq_true, g.isPresent_iff ht, not_and, not_imp_comm, not_not, List.mem_singleton]

/-- Somebody is at a table. -/
theorem not_deserted (ht : t.Sound l) : ¬∀ v, t.isPresent v → v ∈ [] := by
  obtain ⟨v, hv⟩ := ht.attended
  intro hall
  cases hall v hv

theorem Gone.removed_iff {c : Prop} [Decidable c] (g : c → Gone u t t') (ht : t.Sound l) :
    (if c then t'.standing? else some t) = none ↔
      ∀ v, t.isPresent v → v ∈ if c then [u] else [] := by
  split
  · rename_i hc
    exact (g hc).standing?_eq_none_iff ht
  · exact iff_of_false (by simp) (not_deserted ht)

/-- A table that nobody goes from stays. -/
theorem stays_iff (ht : t.Sound l) {h' : Hall} (hid : t.id ∈ h'.ids) :
    h'.table? t.id = none ↔ ∀ v, t.isPresent v → v ∈ [] :=
  iff_of_false (fun hnone => table?_eq_none_iff.1 hnone hid) (not_deserted ht)

/-- What is done elsewhere does not remove a table. -/
theorem Frame.mem_ids {touched : List TableId} {h' : Hall} (f : Frame touched h h')
    (hid : id ∉ touched) (hmem : id ∈ h.ids) : id ∈ h'.ids := by
  rw [← isSome_table?_iff, f.table? id hid, isSome_table?_iff]
  exact hmem

end Hall

/-! ## One table -/

namespace Outcome

open Hall

variable {h : Hall} {s : Session} {u : UserId} {id : TableId}

theorem Departs.frame {o : Outcome Refusal Unit} (ho : o.Departs h u id) :
    Hall.Frame [id] h o.hall := by
  rcases ho with ⟨r, rfl⟩ | ⟨t, t', news, here, d, rfl⟩
  · exact .refl _ h
  · have hid : t'.id = id := d.continues.id.trans (table?_id here)
    exact hid ▸ frame_depart h u t' news

theorem Arrives.ids_eq {news : News} {o : Outcome Refusal Unit} (ho : o.Arrives h s id news) :
    o.hall.ids = h.ids := by
  rcases ho with ⟨r, rfl⟩ | ⟨t, t', -, -, rfl⟩
  · rfl
  · exact map_id_put ..

theorem Acts.ids_eq {o : Outcome Rejection Unit} (ho : o.Acts h id) : o.hall.ids = h.ids := by
  rcases ho with ⟨r, rfl⟩ | ⟨t, t', m, -, -, rfl⟩
  · rfl
  · exact map_id_put ..

end Outcome

namespace Hall

variable {h : Hall} {s : Session} {u : UserId} {id : TableId} {t : Table}

theorem Opens.ids_subset {o : Outcome Refusal TableId} (ho : h.Opens s o) : h.ids ⊆ o.hall.ids := by
  rcases ho with ⟨e, rfl⟩ | ⟨t, -, rfl⟩
  · exact List.Subset.refl _
  · show h.tables.map Table.id ⊆ (h.tables ++ [t]).map Table.id
    rw [List.map_append]
    exact List.subset_append_left ..

/-! ## Giving up a seat, no longer watching -/

theorem table?_leave (here : h.table? t.id = some t) (u : UserId) :
    (h.leave u t.id).hall.table? t.id =
      if t.phase = .pregame ∧ t.hasSeat u then (t.unseat u).standing? else some t := by
  have hobstacle : leaveObstacle? u t = none ↔ t.phase = .pregame ∧ t.hasSeat u := by
    simp only [leaveObstacle?]
    split
    · rename_i hp
      simp [hp]
    · rename_i hp
      simp [hp]
    · rename_i hp
      simp [hp]
  simp only [leave, here]
  split
  · rename_i e he
    rw [if_neg fun hgo => by simp [hobstacle.2 hgo] at he]
    exact here
  · rename_i hn
    rw [if_pos (hobstacle.1 hn)]
    exact table?_depart here rfl

theorem table?_stopWatching (here : h.table? t.id = some t) (u : UserId) :
    (h.stopWatching u t.id).hall.table? t.id =
      if t.isWatching u then (t.dropWatcher u).standing? else some t := by
  simp only [stopWatching, here]
  split
  · exact table?_depart here rfl
  · exact here

/-! ## Going from everywhere -/

theorem table?_withdraw (h : Hall) (u : UserId) (id : TableId) :
    (h.withdraw u id).hall.table? id = (h.table? id).bind fun t => (t.withdraw u).1.standing? := by
  simp only [withdraw]
  cases here : h.table? id with
  | none => exact here
  | some t =>
    obtain rfl := table?_id here
    exact table?_depart here (Table.continues_withdraw t u).id

/-- A user goes from several tables and leaves each of them to the others there. -/
theorem table?_withdrawAll {ids : List TableId} (hids : ids.Nodup) (h : Hall) (u : UserId)
    (id : TableId) :
    (h.withdrawAll u ids).hall.table? id =
      if id ∈ ids then (h.table? id).bind fun t => (t.withdraw u).1.standing? else h.table? id := by
  induction ids generalizing h with
  | nil => simp [withdrawAll, done]
  | cons i ids ih =>
    rw [List.nodup_cons] at hids
    rw [withdrawAll, Outcome.hall_andThen_of_ok (result_withdraw h u i), ih hids.2]
    by_cases hid : id = i
    · subst hid
      rw [if_neg hids.1, if_pos List.mem_cons_self, table?_withdraw]
    · have hframe : (h.withdraw u i).hall.table? id = h.table? id :=
        (departs_withdraw h u i).frame.table?_of_ne hid
      simp only [hframe, List.mem_cons, hid, false_or]

theorem Sound.nodup_tablesOf (hs : h.Sound) (u : UserId) : (h.tablesOf u).Nodup := by
  refine (hs.tidy.pairwise_tablesOf u).imp fun {a b} hab heq => ?_
  rw [TableId.lt_iff, heq] at hab
  exact Nat.lt_irrefl _ hab

theorem disconnect_removes_iff (hs : h.Sound) (here : h.table? t.id = some t) (u : UserId) :
    (h.disconnect u).hall.table? t.id = none ↔ ∀ v, t.isPresent v → v ∈ [u] := by
  have ht : t ∈ h.tables := (hs.table?_eq_some_iff.1 here).1
  rw [disconnect, table?_withdrawAll (hs.nodup_tablesOf u), here]
  split
  · exact (gone_withdraw (hs.tables t ht) u).standing?_eq_none_iff (hs.tables t ht)
  · rename_i haway
    rw [hs.mem_tablesOf_iff ht] at haway
    obtain ⟨v, hv⟩ := (hs.tables t ht).attended
    refine iff_of_false (by simp) fun hall => ?_
    exact haway (List.mem_singleton.1 (hall v hv) ▸ hv)

/-! ## Any operation -/

theorem rematch_removes_iff (hr : h.Reachable) (ht : t ∈ h.tables) (luck : Luck) (s : Session)
    (id : TableId) :
    (h.rematch luck s id).hall.table? t.id = none ↔
      ∀ u, t.isPresent u → u ∈ h.goers t (.command s (.rematch id)) := by
  have hs := hr.sound
  have hst : t.Sound h.limits := hs.tables t ht
  have hid : t.id ∈ h.ids := List.mem_map_of_mem ht
  simp only [goers]
  cases hplan : h.rematchPlan s id with
  | error e =>
    rw [rematch_eq_refuse hplan, if_neg nofun]
    exact stays_iff hst hid
  | ok r =>
    obtain ⟨here, hphase, hw⟩ := replay_of_plan hs hplan
    obtain ⟨new, hmoved, -⟩ := rematch_ends hr hplan luck
    by_cases hrt : r = t
    · subst hrt
      rw [if_pos rfl, hmoved.replay, Table.standing?_eq_none_iff]
      refine forall_congr' fun v => ?_
      rw [← Bool.not_eq_true, Table.isPresent_dropWatchers hphase hw, not_and, not_not]
    · have hne : t.id ∉ [r.id, ⟨h.nextId⟩] := by
        simp only [List.mem_cons, List.not_mem_nil, or_false, not_or]
        refine ⟨fun heq => hrt ?_, id_ne_nextId hs (hs.table?_eq_some_iff.2 ⟨ht, rfl⟩)⟩
        exact hs.eq_of_id_eq (hs.table?_eq_some_iff.1 here).1 ht heq.symm
      rw [if_neg fun heq => hrt (Except.ok.inj heq)]
      exact stays_iff hst (hmoved.frame.mem_ids hne hid)

/-- **A table goes when everyone there does.** -/
theorem removed_iff (hr : h.Reachable) (ht : t ∈ h.tables) (luck : Luck) (op : Operation) :
    (h.perform luck op).hall.table? t.id = none ↔ ∀ u, t.isPresent u → u ∈ h.goers t op := by
  have hs := hr.sound
  have hst : t.Sound h.limits := hs.tables t ht
  have here : h.table? t.id = some t := hs.table?_eq_some_iff.2 ⟨ht, rfl⟩
  have hid : t.id ∈ h.ids := List.mem_map_of_mem ht
  cases op with
  | command s c =>
    cases c with
    | openTable name options =>
      exact stays_iff hst ((opens_openTable h s name options).ids_subset hid)
    | join id => exact stays_iff hst ((arrives_join h s id).ids_eq.symm ▸ hid)
    | leave id =>
      by_cases hit : id = t.id
      · subst hit
        simp only [goers, true_and]
        rw [← Gone.removed_iff (fun hc => .unseat hc.1) hst, ← table?_leave here]
        rfl
      · simp only [goers, hit, false_and, if_false]
        have hother : t.id ∉ [id] := by simpa using Ne.symm hit
        exact stays_iff hst ((departs_leave h s.user id).frame.mem_ids hother hid)
    | watch id => exact stays_iff hst ((arrives_watch h s id).ids_eq.symm ▸ hid)
    | stopWatching id =>
      by_cases hit : id = t.id
      · subst hit
        simp only [goers, true_and]
        rw [← Gone.removed_iff (fun hc => .dropWatcher hc) hst, ← table?_stopWatching here]
        rfl
      · simp only [goers, hit, false_and, if_false]
        have hother : t.id ∉ [id] := by simpa using Ne.symm hit
        exact stays_iff hst ((departs_stopWatching h s.user id).frame.mem_ids hother hid)
    | passLead id name => exact stays_iff hst ((acts_passLead h s id name).ids_eq.symm ▸ hid)
    | start id => exact stays_iff hst ((acts_start h luck.deal s.user id).ids_eq.symm ▸ hid)
    | rematch id => exact rematch_removes_iff hr ht luck s id
  | openReplay s name roster options visible =>
    exact stays_iff hst ((opens_openReplay h s name roster options visible).ids_subset hid)
  | disconnect u => exact disconnect_removes_iff hs here u
  | checkSeating users =>
    obtain ⟨r, hr⟩ := checkSeating_eq h users
    have hsame : (h.checkSeating users).hall.ids = h.ids := congrArg (fun o => o.hall.ids) hr
    exact stays_iff hst (hsame.symm ▸ hid)
  | windDown => exact stays_iff hst hid

end Hall

end GameHall
