import GameHall.Proofs.Hall.Lookup
import GameHall.Proofs.Text.Blank
import Mathlib.Data.List.GetD

/-!
# The steps of a rematch

What each step does on its own, as long as it finds what the steps before it leave behind.

* `leaveReplay_spec`: users leave a replay one after the other, whether or not they are watching and
  whether or not the replay stands until the end. The step never fails.
* `openTable_eq_add`: a table opens for a user who is idle.
* `seatAll_spec`: sessions take the free seats of a lobby in order, and the first that finds none ends
  the step.
* `start_lobby`: a lobby starts with enough players.
-/

namespace GameHall

/-! ## Tables -/

namespace Table

variable {t : Table} {u v : UserId} {us : List UserId}

/-- The table without several watchers, who go one after the other. -/
def dropWatchers (t : Table) (us : List UserId) : Table := us.foldl dropWatcher t

theorem dropWatchers_cons (t : Table) (u : UserId) (us : List UserId) :
    t.dropWatchers (u :: us) = (t.dropWatcher u).dropWatchers us := rfl

theorem phase_dropWatchers (t : Table) (us : List UserId) :
    (t.dropWatchers us).phase = t.phase := by
  induction us generalizing t with
  | nil => rfl
  | cons u us ih => exact ih (t.dropWatcher u)

theorem watching_dropWatchers (h : t.watching.Nodup) :
    (t.dropWatchers us).watching = t.watching.filter fun v => v ∉ us := by
  induction us generalizing t with
  | nil => simp [dropWatchers]
  | cons u us ih =>
    have hone : (t.dropWatcher u).watching = t.watching.filter fun v => v != u :=
      watching_dropWatcher h
    have hnodup : (t.dropWatcher u).watching.Nodup := hone ▸ h.filter _
    rw [dropWatchers_cons, ih hnodup, hone, List.filter_filter]
    refine List.filter_congr fun v _ => ?_
    by_cases hvu : v = u
    · simp [hvu]
    · simp [hvu]

theorem isPresent_dropWatchers (hphase : t.phase = .replay) (hw : t.watching.Nodup) :
    (t.dropWatchers us).isPresent v ↔ t.isPresent v ∧ v ∉ us := by
  rw [isPresent_iff_watching ((phase_dropWatchers t us).trans hphase),
    isPresent_iff_watching hphase, watching_dropWatchers hw, List.mem_filter, decide_eq_true_eq]

/-- A user who is not watching does not go, and a lead that nobody watches does not move. -/
theorem dropWatcher_of_not_watching (hw : u ∉ t.watching) (ho : t.owner = u → t.watchers = []) :
    t.dropWatcher u = t := by
  have hwatchers : (t.watchers.eraseP fun s => s.user == u) = t.watchers := by
    refine List.eraseP_of_forall_not fun s hs hsu => hw ?_
    exact List.mem_map.2 ⟨s, hs, by simpa using hsu⟩
  have howner : (if t.isReplay ∧ t.owner = u then (t.watchers.head?.map Session.user).getD t.owner
      else t.owner) = t.owner := by
    split
    · rename_i hou
      rw [ho hou.2]
      rfl
    · rfl
  simp only [dropWatcher, hwatchers, howner]

theorem watchers_eq_nil_of_isDeserted (h : t.isDeserted) : t.watchers = [] := by
  rw [isDeserted, Bool.and_eq_true, List.isEmpty_iff] at h
  exact h.1

/-- The table with several more seats. -/
def seatMany (t : Table) (ss : List Session) : Table := { t with seats := t.seats ++ ss.map .taken }

theorem seatMany_nil (t : Table) : t.seatMany [] = t := by
  simp [seatMany]

theorem seatMany_cons (t : Table) (s : Session) (ss : List Session) :
    t.seatMany (s :: ss) = (t.seat s).seatMany ss := by
  simp [seatMany, seat]

end Table

namespace Hall

open Outcome

variable {h : Hall} {s : Session} {ss : List Session} {u : UserId} {t : Table}

/-! ## The check of seats -/

theorem firstSeated?_eq_none {us : List UserId} (hn : h.firstSeated? us = none) :
    ∀ u ∈ us, h.otherGame? u none = none := by
  induction us with
  | nil => exact fun u hu => by cases hu
  | cons v us ih =>
    simp only [firstSeated?] at hn
    split at hn
    · cases hn
    · rename_i hidle
      intro u hu
      rcases List.mem_cons.1 hu with rfl | hu
      · exact hidle
      · exact ih hn u hu

theorem seatingObstacle?_eq_none {us : List UserId} (hn : h.seatingObstacle? us = none) :
    h.windingDown = false ∧ ∀ u ∈ us, h.otherGame? u none = none := by
  simp only [seatingObstacle?] at hn
  split at hn
  · cases hn
  · rename_i hopen
    exact ⟨by simpa using hopen, firstSeated?_eq_none (Option.map_eq_none_iff.1 hn)⟩

/-! ## The checks of a rematch -/

theorem rematch_eq_refuse {e : Rejection} {id : TableId} (hplan : h.rematchPlan s id = .error e)
    (luck : Luck) : h.rematch luck s id = h.refuse e := by
  simp only [rematch, hplan]

/-! ## Leaving the replay -/

/-- Whoever leaves a replay is gone afterwards, and it is no fault to be gone already. -/
theorem stopWatching_spec (hs : h.Sound) (hphase : t.phase = .replay)
    (here : h.table? t.id = t.standing?) (u : UserId) :
    ((h.stopWatching u t.id).forgive goneAlready).result = .ok () ∧
      ((h.stopWatching u t.id).forgive goneAlready).Touches h t.id (t.dropWatcher u).standing? := by
  cases hstands : h.table? t.id with
  | none =>
    have hdeserted : t.isDeserted = true := by
      rw [hstands] at here
      exact Table.isDeserted_iff.2 (Table.standing?_eq_none_iff.1 here.symm)
    have hnobody : t.watchers = [] := Table.watchers_eq_nil_of_isDeserted hdeserted
    have hstays : t.dropWatcher u = t := by
      refine Table.dropWatcher_of_not_watching ?_ fun _ => hnobody
      simp [Table.watching, hnobody]
    have hrefused : h.stopWatching u t.id = h.refuse (.noTable t.id) := by
      simp only [stopWatching, hstands]
    rw [hrefused, hstays]
    exact ⟨rfl, touches_done here⟩
  | some r =>
    obtain rfl : r = t := Table.eq_of_standing? (here.symm.trans hstands)
    have hreview : r.InReview := (hs.tables r (hs.table?_eq_some_iff.1 hstands).1).inReview hphase
    by_cases hw : r.isWatching u
    · have hgoes : ∃ news, h.stopWatching u r.id = h.depart u (r.dropWatcher u) news := by
        simp only [stopWatching, hstands, if_pos hw]
        exact ⟨_, rfl⟩
      obtain ⟨news, hgoes⟩ := hgoes
      have hforgiven : (h.stopWatching u r.id).forgive goneAlready =
          h.depart u (r.dropWatcher u) news := by
        rw [hgoes]
        simp only [Outcome.forgive, result_depart]
      rw [hforgiven]
      exact ⟨result_depart .., touches_depart hstands u (r.dropWatcher u) rfl news⟩
    · have hstays : r.dropWatcher u = r := by
        rw [Table.isWatching_iff] at hw
        exact Table.dropWatcher_of_not_watching hw fun ho => absurd (ho ▸ hreview.owner_watching) hw
      have hrefused : h.stopWatching u r.id = h.refuse (.notWatching u r.id) := by
        simp only [stopWatching, hstands, if_neg hw]
      rw [hrefused, hstays]
      exact ⟨rfl, touches_done here⟩

/-- **Users leave a replay.** Nothing stops them, and they watch it no longer. -/
theorem leaveReplay_spec (hs : h.Sound) (hphase : t.phase = .replay)
    (here : h.table? t.id = t.standing?) (us : List UserId) :
    (h.leaveReplay t.id us).result = .ok () ∧
      (h.leaveReplay t.id us).Touches h t.id (t.dropWatchers us).standing? := by
  -- what the users who are left find is what the first of them leaves behind
  induction us generalizing h t with
  | nil => exact ⟨rfl, touches_done here⟩
  | cons u us ih =>
    obtain ⟨hok, htouches⟩ := stopWatching_spec hs hphase here u
    have hsound : ((h.stopWatching u t.id).forgive goneAlready).hall.Sound :=
      ((atOnce_stopWatching h u t.id).follows.forgive goneAlready).sound hs
    have hrest := ih (t := t.dropWatcher u) hsound hphase htouches.found
    have hok' : (((h.stopWatching u t.id).forgive goneAlready).mapError
        (incomplete .leavingReplay)).result = .ok () := result_mapError_eq_ok.2 hok
    refine ⟨(result_andThen_of_ok hok').trans hrest.1, ?_⟩
    exact Touches.andThen ⟨htouches.frame, htouches.found⟩ hok' hrest.2

/-! ## Opening the table -/

/-- The names that tables get by chance are names. -/
theorem isBlankText_tableName (luck : Nat) : isBlankText (tableName luck) = false := by
  have hwords : ∀ w ∈ adjectives, isBlankText w = false := by decide +kernel
  have hpos : 0 < adjectives.length := by decide
  have hpick : pick adjectives luck ∈ adjectives := by
    rw [pick, List.getD_eq_getElem _ _ (Nat.mod_lt _ hpos)]
    exact List.getElem_mem _
  rw [← Bool.not_eq_true, tableName, isBlankText_append, isBlankText_append, hwords _ hpick]
  simp

theorem openTable_eq_add {name : String} {options : Options} (hopen : h.windingDown = false)
    (hname : isBlankText name = false) (hknown : options.variant ∈ h.variants)
    (hidle : h.otherGame? s.user none = none) :
    h.openTable s name options =
      h.add s (.lobby ⟨h.nextId⟩ (trimmed name) s options h.limits.maxPlayers.toNat) := by
  have hnothing : h.openingObstacle? name options = none := by
    simp [openingObstacle?, hopen, hname, hknown]
  simp only [openTable, hnothing, hidle]

/-! ## Taking seats -/

theorem join_lobby (here : h.table? t.id = some t) (hphase : t.phase = .pregame)
    (hopen : h.windingDown = false) (hidle : h.otherGame? s.user (some t.id) = none)
    (hnew : s.user ∉ t.seated) :
    h.join s t.id =
      if t.isFull then h.refuse (.full t.id) else h.arrive s.user (t.seat s) .seatsChanged := by
  have hseat : t.hasSeat s.user = false := by
    rw [← Bool.not_eq_true, Table.hasSeat_iff]
    exact hnew
  have hobstacle : h.joinObstacle? s.user t = if t.isFull then some (.full t.id) else none := by
    simp [joinObstacle?, hopen, hidle, hphase, hseat]
  simp only [join, here, hphase, hobstacle]
  by_cases hfull : t.isFull
  · simp [hfull]
  · simp [hfull]

/-- A session sits down unless the lobby is full. -/
theorem seatOne_eq (here : h.table? t.id = some t) (hphase : t.phase = .pregame)
    (hopen : h.windingDown = false) (hidle : h.otherGame? s.user (some t.id) = none)
    (hnew : s.user ∉ t.seated) :
    ((h.join s t.id).forgive thereAlready).mapError (incomplete .seatingPlayers) =
      if t.isFull then h.refuse (.cutShort .seatingPlayers (.refused (.full t.id)))
      else h.arrive s.user (t.seat s) .seatsChanged := by
  rw [join_lobby here hphase hopen hidle hnew]
  split <;> rfl

/-- **Sessions take seats in a lobby.** As many as there is room for sit down, in order; the step
succeeds iff these are all. -/
theorem seatAll_spec (hs : h.Sound) (here : h.table? t.id = some t) (hphase : t.phase = .pregame)
    (hopen : h.windingDown = false)
    (hidle : ∀ s ∈ ss, h.otherGame? s.user (some t.id) = none)
    (hnew : ∀ s ∈ ss, s.user ∉ t.seated) (hdistinct : (ss.map Session.user).Nodup) :
    ((h.seatAll t.id ss).result =
      if ss.length ≤ t.capacity - t.seats.length then .ok ()
      else .error (.cutShort .seatingPlayers (.refused (.full t.id)))) ∧
      (h.seatAll t.id ss).Touches h t.id
        (some (t.seatMany (ss.take (t.capacity - t.seats.length)))) := by
  -- a session that sits down leaves one seat less to those behind it
  induction ss generalizing h t with
  | nil =>
    rw [List.take_nil, Table.seatMany_nil]
    exact ⟨by simp [seatAll, done], touches_done here⟩
  | cons s ss ih =>
    have hidle₁ := hidle s List.mem_cons_self
    have hnew₁ := hnew s List.mem_cons_self
    rw [seatAll, seatOne_eq here hphase hopen hidle₁ hnew₁]
    by_cases hfull : t.isFull
    · have hroom : t.capacity - t.seats.length = 0 := by
        have hle : t.capacity ≤ t.seats.length := by simpa [Table.isFull] using hfull
        omega
      rw [if_pos hfull, hroom, List.take_zero, Table.seatMany_nil]
      exact ⟨by simp [Outcome.andThen, refuse], touches_refuse _ here⟩
    · have hroom : t.capacity - t.seats.length = t.capacity - (t.seat s).seats.length + 1 := by
        have hlt : t.seats.length < t.capacity := by simpa [Table.isFull] using hfull
        have hlength : (t.seat s).seats.length = t.seats.length + 1 := by simp [Table.seat]
        omega
      have htouches : (h.arrive s.user (t.seat s) .seatsChanged : Outcome Rejection Unit).Touches h
          t.id (some (t.seat s)) := touches_arrive here s.user (t.seat s) rfl .seatsChanged
      have hsound :
          (h.arrive s.user (t.seat s) .seatsChanged : Outcome Rejection Unit).hall.Sound := by
        have hjoined := (atOnce_join h s t.id).follows.sound hs
        rwa [join_lobby here hphase hopen hidle₁ hnew₁, if_neg hfull] at hjoined
      rw [List.map_cons, List.nodup_cons] at hdistinct
      have hrest := ih (t := t.seat s) hsound htouches.found hphase
        (htouches.frame.windingDown.trans hopen)
        (fun s' hs' => by
          have hother := htouches.frame.otherGame?_eq hs hsound s'.user
          exact hother.trans (hidle s' (List.mem_cons_of_mem _ hs')))
        (fun s' hs' => by
          rw [Table.seated_seat, List.mem_append, List.mem_singleton, not_or]
          refine ⟨hnew s' (List.mem_cons_of_mem _ hs'), fun heq => hdistinct.1 ?_⟩
          exact List.mem_map.2 ⟨s', hs', heq⟩)
        hdistinct.2
      rw [if_neg hfull, hroom, List.take_succ_cons, Table.seatMany_cons, List.length_cons]
      refine ⟨?_, htouches.andThen rfl hrest.2⟩
      rw [result_andThen_of_ok rfl]
      simp only [Nat.add_le_add_iff_right]
      exact hrest.1

/-! ## Starting the game -/

theorem start_lobby (here : h.table? t.id = some t) (hphase : t.phase = .pregame) (luck : Nat) :
    h.start luck t.owner t.id =
      if t.seats.length < h.limits.minPlayersToStart.toNat then
        h.refuse (.tooFewPlayers h.limits.minPlayersToStart.toNat)
      else ⟨h.put (t.started luck), (t.started luck).announce .started, .ok ()⟩ := by
  have hobstacle : h.startObstacle? t.owner t =
      if t.seats.length < h.limits.minPlayersToStart.toNat then
        some (.tooFewPlayers h.limits.minPlayersToStart.toNat) else none := by
    simp [startObstacle?, hphase]
  simp only [start, here, hobstacle]
  by_cases hfew : t.seats.length < h.limits.minPlayersToStart.toNat
  · simp only [if_pos hfew]
  · simp only [if_neg hfew]

end Hall

end GameHall
