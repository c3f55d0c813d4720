import GameHall.Proofs.Hall.Numbering
import GameHall.Proofs.Hall.Settings
import GameHall.Proofs.Rematch.Steps
import Mathlib.Data.List.Dedup

/-!
# How a rematch ends

A rematch that passes its checks ends in one of three ways, and how many users take part decides in
which (`rematch_cases`): the new table is full before all of them sit, or all of them sit and are too
few to start, or the game starts.

* `rematch_of_ok`: what is there when a rematch succeeds, and what is as it was.
* `rematch_of_plan`: a rematch that passes its checks fails for want of seats or of players only.

Whoever takes part is the leader or a follower (`Table.followers`), a watcher under a name of the
roster. The users have left the replay in any case (`Moved`).
-/

namespace GameHall

/-! ## Who takes part -/

namespace Table

variable {t : Table} {s : Session}

/-- The watchers other than the leader who bear a name of the roster. -/
def followers (t : Table) (leader : Session) : List Session :=
  t.watchers.filter fun w => decide (w.name ∈ t.seats.map Seat.name ∧ w.user ≠ leader.user)

theorem filter_rematchPlayers (t : Table) (s : Session) :
    (t.rematchPlayers.filter fun p => p.user != s.user) = t.followers s := by
  rw [rematchPlayers, followers, List.filter_filter]
  refine List.filter_congr fun w _ => Bool.eq_iff_iff.2 ?_
  simp only [Bool.and_eq_true, bne_iff_ne, List.any_eq_true, beq_iff_eq, decide_eq_true_eq,
    List.mem_map]
  exact and_comm

theorem user_ne_of_mem_followers {w : Session} (hw : w ∈ t.followers s) : w.user ≠ s.user := by
  have hkept := (List.mem_filter.1 hw).2
  rw [decide_eq_true_eq] at hkept
  exact hkept.2

theorem nodup_users_followers (h : t.watching.Nodup) :
    ((t.followers s).map Session.user).Nodup :=
  h.sublist (List.filter_sublist.map _)

end Table

variable {t : Table} {s : Session}

theorem mem_rematchUsers_self (s : Session) (players : List Session) :
    s.user ∈ rematchUsers s players := by
  simp only [rematchUsers, List.contains_iff_mem]
  split
  · assumption
  · exact List.mem_append_right _ (List.mem_singleton_self _)

theorem nodup_rematchUsers (h : t.watching.Nodup) : (rematchUsers s t.rematchPlayers).Nodup := by
  have hnodup : (t.rematchPlayers.map Session.user).Nodup := h.sublist (List.filter_sublist.map _)
  simp only [rematchUsers, List.contains_iff_mem]
  split
  · exact hnodup
  · rename_i haway
    rw [← List.concat_eq_append]
    exact hnodup.concat haway

/-- The followers are those who leave the replay with the leader. -/
theorem users_followers (t : Table) (s : Session) :
    (t.followers s).map Session.user =
      (rematchUsers s t.rematchPlayers).filter fun u => u != s.user := by
  have hplayers : (t.followers s).map Session.user =
      (t.rematchPlayers.map Session.user).filter fun u => u != s.user := by
    rw [← Table.filter_rematchPlayers, List.filter_map]
    rfl
  rw [hplayers]
  simp only [rematchUsers]
  split
  · rfl
  · simp

theorem rematchUsers_perm (h : t.watching.Nodup) :
    (rematchUsers s t.rematchPlayers).Perm (s.user :: (t.followers s).map Session.user) := by
  rw [users_followers, ← (nodup_rematchUsers h).erase_eq_filter]
  exact List.perm_cons_erase (mem_rematchUsers_self s t.rematchPlayers)

theorem length_rematchUsers (h : t.watching.Nodup) :
    (rematchUsers s t.rematchPlayers).length = (t.followers s).length + 1 := by
  rw [(rematchUsers_perm h).length_eq, List.length_cons, List.length_map]

namespace Hall

open Outcome

variable {h h' : Hall} {id : TableId} {new new' : Table}

/-! ## From the replay to the table -/

/-- A hall where a rematch has moved its users from the replay `t` to the table `new`. -/
structure Moved (h : Hall) (s : Session) (t new : Table) (h' : Hall) : Prop where
  frame : Frame [t.id, ⟨h.nextId⟩] h h'
  replay : h'.table? t.id = (t.dropWatchers (rematchUsers s t.rematchPlayers)).standing?
  here : h'.table? ⟨h.nextId⟩ = some new

theorem Moved.touches {ε α : Type} {o : Outcome ε α} (m : Moved h s t new h')
    (hne : t.id ≠ ⟨h.nextId⟩) (ho : o.Touches h' ⟨h.nextId⟩ (some new')) :
    Moved h s t new' o.hall where
  frame := m.frame.trans (ho.frame.mono fun _ hid => List.mem_cons_of_mem _ hid)
  replay := (ho.frame.table?_of_ne hne).trans m.replay
  here := ho.found

/-- The last two steps of a rematch. -/
def playOn (h : Hall) (luck : Luck) (s : Session) (ss : List Session) (id : TableId) :
    Outcome Rejection TableId :=
  (h.seatAll id ss).andThen fun h _ =>
    ((h.start luck.deal s.user id).mapError (.cutShort .startingGame)).map fun _ => id

theorem playAgain_eq (h : Hall) (luck : Luck) (s : Session) (t : Table) :
    h.playAgain luck s t =
      (h.leaveReplay t.id (rematchUsers s t.rematchPlayers)).andThen fun h _ =>
        ((h.openTable s (tableName luck.name) t.options).mapError
          (incomplete .openingTable)).andThen fun h id => h.playOn luck s (t.followers s) id := by
  simp only [playAgain, Table.filter_rematchPlayers, playOn]

/-- Everyone at the replay is sent away, and then the steps begin. -/
theorem rematch_eq_andThen (hplan : h.rematchPlan s id = .ok t) (luck : Luck) :
    h.rematch luck s id =
      (⟨h, t.announce .boot, .ok ()⟩ : Outcome Rejection Unit).andThen fun _ _ =>
        h.playAgain luck s t := by
  simp only [rematch, hplan, Outcome.andThen]

section Steps

variable {R : Hall → List Delivery → Hall → Prop} {luck : Luck}

theorem Composes.playOn (hR : Composes R) {ss : List Session}
    (hjoin : ∀ s ∈ ss, ∀ (h : Hall) id, (h.join s id).Meets R h)
    (hstart : ∀ (h : Hall) u id, (h.start luck.deal u id).Meets R h) (h : Hall) (s : Session)
    (id : TableId) : (h.playOn luck s ss id).Meets R h :=
  hR.andThen (hR.seatAll (fun s hs h => hjoin s hs h id) h) fun _ _ =>
    ((hstart _ s.user id).mapError _).map _

/-- What composes and holds of the steps of a rematch holds of a rematch. -/
theorem Composes.playAgain (hR : Composes R)
    (hjoin : ∀ w ∈ t.followers s, ∀ (h : Hall) id, (h.join w id).Meets R h)
    (hstart : ∀ (h : Hall) u id, (h.start luck.deal u id).Meets R h)
    (hstop : ∀ (h : Hall) u id, (h.stopWatching u id).Meets R h)
    (hopen : ∀ (h : Hall) name options, (h.openTable s name options).Meets R h) (h : Hall) :
    (h.playAgain luck s t).Meets R h := by
  rw [playAgain_eq]
  exact hR.andThen (hR.leaveReplay (fun h u => hstop h u t.id) h _) fun _ _ =>
    hR.andThen ((hopen ..).mapError _) fun _ _ => hR.playOn hjoin hstart ..

end Steps

theorem follows_playOn (h : Hall) (luck : Luck) (s : Session) (ss : List Session) (id : TableId) :
    (h.playOn luck s ss id).Follows h [] :=
  composes_changes.playOn (fun s _ h id => (atOnce_join h s id).follows)
    (fun h u id => (atOnce_start h luck.deal u id).follows) h s id

/-- What the checks find is a replay, each of its watchers there once. -/
theorem replay_of_plan (hs : h.Sound) (hplan : h.rematchPlan s id = .ok t) :
    h.table? t.id = some t ∧ t.phase = .replay ∧ t.watching.Nodup := by
  obtain ⟨here, hshared, -⟩ := rematchPlan_eq_ok hplan
  have hphase : t.phase = .replay := (Table.isSharedReplay_iff.1 hshared).1
  have ht : t.Sound h.limits := hs.tables t (hs.table?_eq_some_iff.1 here).1
  exact ⟨table?_self here, hphase, (ht.inReview hphase).watching⟩

theorem id_ne_nextId (hs : h.Sound) (here : h.table? id = some t) : t.id ≠ ⟨h.nextId⟩ := by
  intro heq
  have hnone : h.table? ⟨h.nextId⟩ = none := hs.table?_eq_none (Nat.le_refl _)
  rw [← heq, table?_self here] at hnone
  cases hnone

/-- Where the users of a replay are playing does not depend on who leaves the replay. -/
theorem otherGame?_leaveReplay (hs : h.Sound) (hphase : t.phase = .replay)
    (here : h.table? t.id = some t) (us : List UserId) (u : UserId) :
    (h.leaveReplay t.id us).hall.otherGame? u none = h.otherGame? u none := by
  have hstands : h.table? t.id = t.standing? := by
    rw [here, ((hs.tables t (hs.table?_eq_some_iff.1 here).1)).standing?_eq]
  have hleft := (leaveReplay_spec hs hphase hstands us).2
  have hs₁ : (h.leaveReplay t.id us).hall.Sound := (follows_leaveReplay h t.id us).sound hs
  have hbefore : ∀ r, h.table? t.id = some r → ¬r.isConnected u := by
    intro r hr
    obtain rfl : r = t := Option.some.inj (hr.symm.trans here)
    exact Table.not_isConnected_of_replay hphase
  have hafter : ∀ r, (h.leaveReplay t.id us).hall.table? t.id = some r → ¬r.isConnected u := by
    intro r hr
    obtain rfl := Table.eq_of_standing? (hleft.found.symm.trans hr)
    exact Table.not_isConnected_of_replay ((Table.phase_dropWatchers t us).trans hphase)
  rw [← hs₁.otherGame?_except hafter, hleft.frame.otherGame?_eq hs hs₁,
    hs.otherGame?_except hbefore]

/-- The lobby that the leader opens for a rematch. -/
def leaderLobby (h : Hall) (luck : Luck) (s : Session) (t : Table) : Table :=
  .lobby ⟨h.nextId⟩ (trimmed (tableName luck.name)) s t.options h.limits.maxPlayers.toNat

/-- The lobby of a rematch, with as many followers as there is room for. -/
def rematchLobby (h : Hall) (luck : Luck) (s : Session) (t : Table) : Table :=
  (h.leaderLobby luck s t).seatMany ((t.followers s).take (h.limits.maxPlayers.toNat - 1))

theorem seats_rematchLobby (h : Hall) (luck : Luck) (s : Session) (t : Table) :
    (h.rematchLobby luck s t).seats =
      (s :: (t.followers s).take (h.limits.maxPlayers.toNat - 1)).map .taken := rfl

theorem length_seats_rematchLobby (luck : Luck)
    (hroom : (t.followers s).length ≤ h.limits.maxPlayers.toNat - 1) :
    (h.rematchLobby luck s t).seats.length = (t.followers s).length + 1 := by
  rw [seats_rematchLobby, List.take_of_length_le hroom, List.length_map, List.length_cons]

variable (hr : h.Reachable) (hplan : h.rematchPlan s id = .ok t)

include hr hplan in
/-- The first step of a rematch always succeeds, and it leaves its users idle. -/
theorem rematch_leaves :
    (h.leaveReplay t.id (rematchUsers s t.rematchPlayers)).result = .ok () ∧
      (h.leaveReplay t.id (rematchUsers s t.rematchPlayers)).Touches h t.id
        (t.dropWatchers (rematchUsers s t.rematchPlayers)).standing? ∧
      (h.leaveReplay t.id (rematchUsers s t.rematchPlayers)).hall.Sound ∧
      (h.leaveReplay t.id (rematchUsers s t.rematchPlayers)).hall.nextId = h.nextId ∧
      ∀ u ∈ rematchUsers s t.rematchPlayers,
        (h.leaveReplay t.id (rematchUsers s t.rematchPlayers)).hall.otherGame? u none = none := by
  have hs := hr.sound
  obtain ⟨here, hphase, -⟩ := replay_of_plan hs hplan
  obtain ⟨-, -, -, -, -, hseating⟩ := rematchPlan_eq_ok hplan
  have hstands : h.table? t.id = t.standing? := by
    rw [here, (hs.tables t (hs.table?_eq_some_iff.1 here).1).standing?_eq]
  obtain ⟨hok, hleft⟩ := leaveReplay_spec hs hphase hstands (rematchUsers s t.rematchPlayers)
  refine ⟨hok, hleft, (follows_leaveReplay ..).sound hs, Changes.nextId_eq (follows_leaveReplay ..),
    fun u hu => ?_⟩
  rw [otherGame?_leaveReplay hs hphase here]
  exact (seatingObstacle?_eq_none hseating).2 u hu

include hr hplan in
/-- So does the second: the leader opens a lobby where the followers can sit down. -/
theorem rematch_opens (luck : Luck) :
    ∃ h₂ : Hall, h₂.Sound ∧ h₂.nextId = h.nextId + 1 ∧ Moved h s t (h.leaderLobby luck s t) h₂ ∧
      (∀ w ∈ t.followers s, h₂.otherGame? w.user (some ⟨h.nextId⟩) = none) ∧
      (h.rematch luck s id).hall = (h₂.playOn luck s (t.followers s) ⟨h.nextId⟩).hall ∧
      (h.rematch luck s id).result = (h₂.playOn luck s (t.followers s) ⟨h.nextId⟩).result := by
  have hs := hr.sound
  obtain ⟨here, -, hw⟩ := replay_of_plan hs hplan
  obtain ⟨-, -, -, -, -, hseating⟩ := rematchPlan_eq_ok hplan
  have hne : t.id ≠ ⟨h.nextId⟩ := id_ne_nextId hs here
  obtain ⟨hok₁, hleft, hs₁, hid₁, hidle₁⟩ := rematch_leaves hr hplan
  let h₁ := (h.leaveReplay t.id (rematchUsers s t.rematchPlayers)).hall
  let lobby := h.leaderLobby luck s t
  have hadd : h₁.openTable s (tableName luck.name) t.options = h₁.add s lobby := by
    have heq := openTable_eq_add (h := h₁) (s := s)
      (hleft.frame.windingDown.trans (seatingObstacle?_eq_none hseating).1)
      (isBlankText_tableName luck.name)
      (hleft.frame.variants ▸ hr.variant_mem t (hs.table?_eq_some_iff.1 here).1)
      (hidle₁ s.user (mem_rematchUsers_self s t.rematchPlayers))
    rwa [hid₁, hleft.frame.limits] at heq
  have hnew : h₁.table? lobby.id = none := hs₁.table?_eq_none (Nat.le_of_eq hid₁)
  have hadded : (h₁.add s lobby : Outcome Refusal TableId).Touches h₁ lobby.id (some lobby) :=
    touches_add hnew s
  have hs₂ : (h₁.add s lobby : Outcome Refusal TableId).hall.Sound := by
    obtain ⟨ts, hts, -⟩ := follows_openTable h₁ s (tableName luck.name) t.options
    exact hadd ▸ hts.sound hs₁
  have hmoved : Moved h s t lobby (h₁.add s lobby : Outcome Refusal TableId).hall := by
    refine ⟨?_, ?_, hadded.found⟩
    · refine (hleft.frame.mono fun i hi => ?_).trans (hadded.frame.mono fun i hi => ?_)
      · exact List.mem_cons.2 (.inl (List.mem_singleton.1 hi))
      · exact List.mem_cons_of_mem _ hi
    · exact (hadded.frame.table?_of_ne hne).trans hleft.found
  refine ⟨_, hs₂, congrArg (· + 1) hid₁, hmoved, fun w hw' => ?_, ?_, ?_⟩
  · have hmem : w.user ∈ rematchUsers s t.rematchPlayers :=
      (rematchUsers_perm hw).mem_iff.2 (List.mem_cons_of_mem _ (List.mem_map_of_mem hw'))
    have hnobody : ∀ x, h₁.table? lobby.id = some x → ¬x.isConnected w.user := by
      intro x hx
      rw [hnew] at hx
      cases hx
    calc
      _ = h₁.otherGame? w.user (some lobby.id) := hadded.frame.otherGame?_eq hs₁ hs₂ w.user
      _ = h₁.otherGame? w.user none := hs₁.otherGame?_except hnobody
      _ = none := hidle₁ w.user hmem
  · simp only [rematch, hplan]
    rw [playAgain_eq, hall_andThen_of_ok hok₁, hadd]
    rfl
  · simp only [rematch, hplan]
    rw [playAgain_eq, result_andThen_of_ok hok₁, hadd]
    rfl

include hr hplan in
/-- **How a rematch ends**, by the number of its users. -/
theorem rematch_cases (luck : Luck) :
    (h.limits.maxPlayers.toNat - 1 < (t.followers s).length →
      (h.rematch luck s id).result =
          .error (.cutShort .seatingPlayers (.refused (.full ⟨h.nextId⟩))) ∧
        Moved h s t (h.rematchLobby luck s t) (h.rematch luck s id).hall) ∧
    ((t.followers s).length ≤ h.limits.maxPlayers.toNat - 1 →
      (t.followers s).length + 1 < h.limits.minPlayersToStart.toNat →
      (h.rematch luck s id).result =
          .error (.cutShort .startingGame (.tooFewPlayers h.limits.minPlayersToStart.toNat)) ∧
        Moved h s t (h.rematchLobby luck s t) (h.rematch luck s id).hall) ∧
    ((t.followers s).length ≤ h.limits.maxPlayers.toNat - 1 →
      h.limits.minPlayersToStart.toNat ≤ (t.followers s).length + 1 →
      (h.rematch luck s id).result = .ok ⟨h.nextId⟩ ∧
        Moved h s t ((h.rematchLobby luck s t).started luck.deal) (h.rematch luck s id).hall) := by
  have hs := hr.sound
  obtain ⟨here, -, hw⟩ := replay_of_plan hs hplan
  obtain ⟨-, -, -, -, -, hseating⟩ := rematchPlan_eq_ok hplan
  have hne : t.id ≠ ⟨h.nextId⟩ := id_ne_nextId hs here
  obtain ⟨h₂, hs₂, -, hmoved, hidle, hhall, hresult⟩ := rematch_opens hr hplan luck
  rw [hhall, hresult]
  -- the followers sit down
  obtain ⟨hseated, htouches⟩ := seatAll_spec (t := h.leaderLobby luck s t) hs₂ hmoved.here rfl
    (hmoved.frame.windingDown.trans (seatingObstacle?_eq_none hseating).1) hidle
    (fun w hw hmem => Table.user_ne_of_mem_followers hw (List.mem_singleton.1 hmem))
    (Table.nodup_users_followers hw)
  let n : TableId := ⟨h.nextId⟩
  let h₃ := (h₂.seatAll n (t.followers s)).hall
  have hmoved₃ : Moved h s t (h.rematchLobby luck s t) h₃ := hmoved.touches hne htouches
  refine ⟨fun hfull => ?_, fun hroom hfew => ?_, fun hroom henough => ?_⟩
  · have herror : (h₂.seatAll n (t.followers s)).result =
        .error (.cutShort .seatingPlayers (.refused (.full n))) :=
      hseated.trans (if_neg (Nat.not_le.2 hfull))
    exact ⟨result_andThen_of_error herror, by rwa [playOn, hall_andThen_of_error herror]⟩
  all_goals
    have hok : (h₂.seatAll n (t.followers s)).result = .ok () := hseated.trans (if_pos hroom)
    have hstart := start_lobby (t := h.rematchLobby luck s t) hmoved₃.here rfl luck.deal
    rw [length_seats_rematchLobby luck hroom, hmoved₃.frame.limits] at hstart
    change h₃.start luck.deal s.user n = _ at hstart
    rw [playOn, hall_andThen_of_ok hok, result_andThen_of_ok hok, hstart]
  · rw [if_pos hfew]
    exact ⟨rfl, hmoved₃⟩
  · rw [if_neg (Nat.not_lt.2 henough)]
    let game := (h.rematchLobby luck s t).started luck.deal
    have hstarted : (⟨h₃.put game, game.announce .started, .ok ()⟩ :
        Outcome Rejection Unit).Touches h₃ n (some game) :=
      touches_put (t := h.rematchLobby luck s t) hmoved₃.here game rfl _ _
    have hend : Moved h s t game (h₃.put game) := hmoved₃.touches hne hstarted
    exact ⟨rfl, hend⟩

include hr hplan in
/-- Whichever way a rematch ends, its users have moved, and the first two steps did not fail. -/
theorem rematch_ends (luck : Luck) :
    ∃ new, Moved h s t new (h.rematch luck s id).hall ∧
      ((h.rematch luck s id).result = .ok ⟨h.nextId⟩ ∨
        ∃ e, (h.rematch luck s id).result = .error (.cutShort .seatingPlayers e) ∨
          (h.rematch luck s id).result = .error (.cutShort .startingGame e)) := by
  obtain ⟨hfull, hfew, hstarts⟩ := rematch_cases hr hplan luck
  rcases Nat.lt_or_ge (h.limits.maxPlayers.toNat - 1) (t.followers s).length with hlt | hroom
  · exact ⟨_, (hfull hlt).2, .inr ⟨_, .inl (hfull hlt).1⟩⟩
  · rcases Nat.lt_or_ge ((t.followers s).length + 1) h.limits.minPlayersToStart.toNat with hlt | hle
    · exact ⟨_, (hfew hroom hlt).2, .inr ⟨_, .inr (hfew hroom hlt).1⟩⟩
    · exact ⟨_, (hstarts hroom hle).2, .inl (hstarts hroom hle).1⟩

include hr hplan in
/-- A rematch opens one table. -/
theorem nextId_rematch (luck : Luck) : (h.rematch luck s id).hall.nextId = h.nextId + 1 := by
  obtain ⟨h₂, -, hid, -, -, hhall, -⟩ := rematch_opens hr hplan luck
  rw [hhall, Changes.nextId_eq (follows_playOn ..), List.length_nil, Nat.add_zero, hid]

/-! ## The hall afterwards -/

/-- Whoever takes part watches the replay no longer, if it still stands. -/
theorem Moved.not_isWatching (m : Moved h s t new h') (hw : t.watching.Nodup) {u : UserId}
    (hu : u ∈ rematchUsers s t.rematchPlayers) {r : Table} (hr : h'.table? t.id = some r) :
    ¬r.isWatching u := by
  rw [m.replay] at hr
  obtain rfl := Table.eq_of_standing? hr
  rw [Table.isWatching_iff, Table.watching_dropWatchers hw, List.mem_filter]
  simp [hu]

/-- For whoever takes no part and is not at the new table, nothing changes. -/
theorem Moved.tablesOf_eq (m : Moved h s t new h') (hs : h.Sound) (hs' : h'.Sound)
    (here : h.table? t.id = some t) (hphase : t.phase = .replay) {u : UserId}
    (hu : u ∉ rematchUsers s t.rematchPlayers) (hnew : ¬new.isPresent u) :
    h'.tablesOf u = h.tablesOf u := by
  refine m.frame.tablesOf_eq hs hs' fun id hid => ?_
  rw [hs'.mem_tablesOf, hs.mem_tablesOf]
  simp only [List.mem_cons, List.not_mem_nil, or_false] at hid
  rcases hid with rfl | rfl
  · have hw : t.watching.Nodup :=
      ((hs.tables t (hs.table?_eq_some_iff.1 here).1).inReview hphase).watching
    rw [m.replay, Table.exists_standing?_iff, Table.isPresent_dropWatchers hphase hw, here]
    simp [hu]
  · have hnone : h.table? ⟨h.nextId⟩ = none := hs.table?_eq_none (Nat.le_refl _)
    rw [m.here, hnone]
    simp [hnew]

section Game

variable (luck : Luck) (hroom : (t.followers s).length ≤ h.limits.maxPlayers.toNat - 1)

include hroom in
/-- Where there is room for all, the players of the game are the leader and the followers. -/
theorem map_seats_game {β : Type} {g : Seat → β}
    (hg : ∀ p c, g { p with character := some c } = g p) :
    ((h.rematchLobby luck s t).started luck.deal).seats.map g =
      (s :: t.followers s).map fun w => g (.taken w) := by
  rw [Table.map_seats_started hg, seats_rematchLobby, List.take_of_length_le hroom, List.map_map]
  rfl

theorem isPresent_game {u : UserId} :
    ((h.rematchLobby luck s t).started luck.deal).isPresent u ↔
      u ∈ ((h.rematchLobby luck s t).started luck.deal).seated := by
  have hlobby : (h.rematchLobby luck s t).isConnected u ↔ u ∈ (h.rematchLobby luck s t).seated := by
    rw [Table.isConnected_iff, Table.seated, List.mem_map]
    constructor
    · rintro ⟨-, p, hp, hpu, -⟩
      exact ⟨p, hp, hpu⟩
    · rintro ⟨p, hp, hpu⟩
      have hsession : p.isConnected = true := by
        rw [seats_rematchLobby, List.mem_map] at hp
        obtain ⟨w, -, rfl⟩ := hp
        rfl
      exact ⟨Phase.noConfusion, p, hp, hpu, hsession⟩
  rw [Table.isPresent_iff, Table.isConnected_started Phase.noConfusion, hlobby,
    Table.seated_started]
  exact or_iff_right List.not_mem_nil

end Game

/-- The leader `s` turned the replay `t` of the hall `h` into the game `new` of `h'`. -/
structure Rematched (h : Hall) (s : Session) (t new : Table) (h' : Hall) : Prop where
  here : h'.table? new.id = some new
  phase : new.phase = .running
  visible : new.visible = true
  owner : new.owner = s.user
  options : new.options = t.options
  /-- The leader plays, and then the followers do in the order in which they were watching. -/
  players : new.seats.map (fun p => (p.user, p.name, p.session)) =
    (s :: t.followers s).map fun w => (w.user, w.name, some w)
  distinct : new.seated.Nodup
  enough : h.limits.minPlayersToStart.toNat ≤ new.seats.length
  room : new.seats.length ≤ max 1 h.limits.maxPlayers.toNat
  /-- The players have left the replay, if it still stands. -/
  left : ∀ u ∈ new.seated, ∀ r, h'.table? t.id = some r → ¬r.isWatching u
  noted : ∀ u ∈ new.seated, new.id ∈ h'.tablesOf u
  others : ∀ id, id ≠ t.id → id ≠ new.id → h'.table? id = h.table? id
  elsewhere : ∀ u, u ∉ new.seated → h'.tablesOf u = h.tablesOf u
  windingDown : h'.windingDown = h.windingDown

include hr hplan in
theorem rematched_of_plan (luck : Luck)
    (hroom : (t.followers s).length ≤ h.limits.maxPlayers.toNat - 1)
    (henough : h.limits.minPlayersToStart.toNat ≤ (t.followers s).length + 1) :
    Rematched h s t ((h.rematchLobby luck s t).started luck.deal) (h.rematch luck s id).hall := by
  have hs := hr.sound
  obtain ⟨here, hphase, hw⟩ := replay_of_plan hs hplan
  obtain ⟨-, hmoved⟩ := (rematch_cases hr hplan luck).2.2 hroom henough
  obtain ⟨ts, hts, -⟩ := follows_rematch h luck s id
  have hs' : (h.rematch luck s id).hall.Sound := Follows.sound hts hs
  let game := (h.rematchLobby luck s t).started luck.deal
  have hgame : game.InGame (h.rematch luck s id).hall.limits :=
    (hs'.tables game (hs'.table?_eq_some_iff.1 hmoved.here).1).inGame rfl
  have hseated : game.seated = s.user :: (t.followers s).map Session.user := by
    rw [Table.seated, map_seats_game luck hroom fun _ _ => rfl]
    rfl
  have husers : ∀ u, u ∈ game.seated ↔ u ∈ rematchUsers s t.rematchPlayers := fun u => by
    rw [hseated, (rematchUsers_perm hw).mem_iff]
  exact
    { here := hmoved.here
      phase := rfl
      visible := rfl
      owner := rfl
      options := rfl
      players := map_seats_game luck hroom fun _ _ => rfl
      distinct := hgame.distinct
      enough := hmoved.frame.limits ▸ hgame.enough
      room := by
        have hsize := hgame.size
        rwa [hgame.capacity, hmoved.frame.limits] at hsize
      left := fun u hu r hr => hmoved.not_isWatching hw ((husers u).1 hu) hr
      noted := fun u hu => hs'.mem_tablesOf.2 ⟨game, hmoved.here, (isPresent_game luck).2 hu⟩
      others := fun i hi hn => by
        refine hmoved.frame.table? i ?_
        simp only [List.mem_cons, List.not_mem_nil, or_false, not_or]
        exact ⟨hi, hn⟩
      elsewhere := fun u hu => hmoved.tablesOf_eq hs hs' here hphase
        (fun hmem => hu ((husers u).2 hmem)) fun hp => hu ((isPresent_game luck).1 hp)
      windingDown := hmoved.frame.windingDown }

/-- **A rematch that succeeds** starts a game of the leader and the followers, in this order, at a
table of a number that was never used. They have left the replay, and nobody else is affected. -/
theorem rematch_of_ok (limits : Limits) (variants : List String) (ops : List (Luck × Operation))
    (luck : Luck) (s : Session) (id n : TableId)
    (hok : ((after limits variants ops).rematch luck s id).result = .ok n) :
    (∀ earlier, earlier <+: ops → (after limits variants earlier).table? n = none) ∧
    ∃ t new, (after limits variants ops).table? id = some t ∧ new.id = n ∧
      Rematched (after limits variants ops) s t new
        ((after limits variants ops).rematch luck s id).hall := by
  let h := after limits variants ops
  have hr : h.Reachable := reachable_iff_after.2 ⟨limits, variants, ops, rfl⟩
  obtain ⟨t, hplan⟩ : ∃ t, h.rematchPlan s id = .ok t := by
    cases hplan : h.rematchPlan s id with
    | error e =>
      change (h.rematch luck s id).result = .ok n at hok
      rw [rematch_eq_refuse hplan] at hok
      cases hok
    | ok t => exact ⟨t, rfl⟩
  obtain ⟨hfull, hfew, hstarts⟩ := rematch_cases hr hplan luck
  have hroom : (t.followers s).length ≤ h.limits.maxPlayers.toNat - 1 := by
    refine Nat.not_lt.1 fun hlt => ?_
    cases (hfull hlt).1.symm.trans hok
  have henough : h.limits.minPlayersToStart.toNat ≤ (t.followers s).length + 1 := by
    refine Nat.not_lt.1 fun hlt => ?_
    cases (hfew hroom hlt).1.symm.trans hok
  obtain rfl : n = ⟨h.nextId⟩ := Except.ok.inj (hok.symm.trans (hstarts hroom henough).1)
  refine ⟨fun earlier hearlier => ?_, t, (h.rematchLobby luck s t).started luck.deal,
    (rematchPlan_eq_ok hplan).1, rfl, rematched_of_plan hr hplan luck hroom henough⟩
  exact (sound_after limits variants earlier).table?_eq_none
    (nextId_le_after limits variants hearlier)

/-- A leader who did not play joins the two who did for a rematch. -/
theorem rematch_of_three_watchers :
    let alice : Session := ⟨⟨1⟩, "Alice", 0⟩
    let bob : Session := ⟨⟨2⟩, "Bob", 1⟩
    let carol : Session := ⟨⟨3⟩, "Carol", 2⟩
    let options : Options := ⟨"No Variant", false, 0, 0, false, false, false, false⟩
    let ops : List (Luck × Operation) :=
      [(⟨0, 0⟩, .openReplay carol "one" [(⟨1⟩, "Alice"), (⟨2⟩, "Bob")] options true),
        (⟨0, 0⟩, .command bob (.watch ⟨1⟩)), (⟨0, 0⟩, .command alice (.watch ⟨1⟩))]
    let h := after ⟨6, 2⟩ ["No Variant"] ops
    let o := h.rematch ⟨0, 0⟩ carol ⟨1⟩
    o.result = .ok ⟨2⟩ ∧
      ∃ t new, h.table? ⟨1⟩ = some t ∧ new.id = ⟨2⟩ ∧ Rematched h carol t new o.hall := by
  intro alice bob carol options ops h o
  have hok : o.result = .ok ⟨2⟩ := by decide +kernel
  exact ⟨hok, (rematch_of_ok ⟨6, 2⟩ ["No Variant"] ops ⟨0, 0⟩ carol ⟨1⟩ ⟨2⟩ hok).2⟩

/-- There is a lobby where a leader and others sit, in this order. -/
def HasLobby (h : Hall) (n : TableId) (leader : Session) (others : List Session) : Prop :=
  ∃ t, h.table? n = some t ∧ t.phase = .pregame ∧ t.owner = leader.user ∧
    t.seats = (leader :: others).map .taken

/-- **A rematch that passes its checks** fails for want of seats or of players only. In either case
it leaves a lobby behind, with those who found a seat, and in any case everyone who takes part has
left the replay. -/
theorem rematch_of_plan (limits : Limits) (variants : List String) (ops : List (Luck × Operation))
    (luck : Luck) (s : Session) (id : TableId) (t : Table)
    (hplan : (after limits variants ops).rematchPlan s id = .ok t) :
    let n : TableId := ⟨(after limits variants ops).nextId⟩
    let o := (after limits variants ops).rematch luck s id
    let users := rematchUsers s t.rematchPlayers
    let most := max 1 limits.maxPlayers.toNat
    let least := limits.minPlayersToStart.toNat
    (t.followers s).map Session.user = users.filter (fun u => u != s.user) ∧
    (most < users.dedup.length →
      o.result = .error (.cutShort .seatingPlayers (.refused (.full n))) ∧
        o.hall.HasLobby n s ((t.followers s).take (most - 1))) ∧
    (users.dedup.length ≤ most → users.dedup.length < least →
      o.result = .error (.cutShort .startingGame (.tooFewPlayers least)) ∧
        o.hall.HasLobby n s (t.followers s)) ∧
    (users.dedup.length ≤ most → least ≤ users.dedup.length → o.result = .ok n) ∧
    (∀ e, o.result ≠ .error (.cutShort .leavingReplay e) ∧
      o.result ≠ .error (.cutShort .openingTable e)) ∧
    ∀ u ∈ users, ∀ r, o.hall.table? t.id = some r → ¬r.isWatching u := by
  intro n o users most least
  let h := after limits variants ops
  have hr : h.Reachable := reachable_iff_after.2 ⟨limits, variants, ops, rfl⟩
  obtain ⟨-, -, hw⟩ := replay_of_plan hr.sound hplan
  have hcount : users.dedup.length = (t.followers s).length + 1 := by
    rw [List.dedup_eq_self.2 (nodup_rematchUsers hw), length_rematchUsers hw]
  have hlimits : h.limits = limits := limits_after limits variants ops
  have hcases := rematch_cases hr hplan luck
  rw [hlimits] at hcases
  obtain ⟨hfull, hfew, hstarts⟩ := hcases
  have hlobby : Moved h s t (h.rematchLobby luck s t) o.hall →
      o.hall.HasLobby n s ((t.followers s).take (limits.maxPlayers.toNat - 1)) := by
    intro hmoved
    refine ⟨h.rematchLobby luck s t, hmoved.here, rfl, rfl, ?_⟩
    rw [seats_rematchLobby, hlimits]
  have hseats : most - 1 = limits.maxPlayers.toNat - 1 := by omega
  refine ⟨users_followers t s, fun hk => ?_, fun hk hlt => ?_, fun hk hle => ?_, ?_⟩
  · obtain ⟨hresult, hmoved⟩ := hfull (by omega)
    rw [hseats]
    exact ⟨hresult, hlobby hmoved⟩
  · have hroom : (t.followers s).length ≤ limits.maxPlayers.toNat - 1 := by omega
    obtain ⟨hresult, hmoved⟩ := hfew hroom (by omega)
    have hall := hlobby hmoved
    rw [List.take_of_length_le hroom] at hall
    exact ⟨hresult, hall⟩
  · exact (hstarts (by omega) (by omega)).1
  · obtain ⟨new, hmoved, hend⟩ := rematch_ends hr hplan luck
    refine ⟨fun e => ?_, fun u hu r hr => hmoved.not_isWatching hw hu hr⟩
    change o.result = _ ∨ ∃ e, o.result = _ ∨ o.result = _ at hend
    rcases hend with hok | ⟨e', herror | herror⟩
    · rw [hok]
      exact ⟨nofun, nofun⟩
    · rw [herror]
      exact ⟨nofun, nofun⟩
    · rw [herror]
      exact ⟨nofun, nofun⟩

/-- With one seat at a table, a rematch of two leaves the leader alone in the lobby. -/
theorem rematch_of_two_at_one_seat :
    let alice : Session := ⟨⟨1⟩, "Alice", 0⟩
    let bob : Session := ⟨⟨2⟩, "Bob", 1⟩
    let options : Options := ⟨"No Variant", false, 0, 0, false, false, false, false⟩
    let ops : List (Luck × Operation) :=
      [(⟨0, 0⟩, .openReplay alice "one" [(⟨1⟩, "Alice"), (⟨2⟩, "Bob")] options true),
        (⟨0, 0⟩, .command bob (.watch ⟨1⟩))]
    let o := (after ⟨1, 2⟩ ["No Variant"] ops).rematch ⟨0, 0⟩ alice ⟨1⟩
    o.result = .error (.cutShort .seatingPlayers (.refused (.full ⟨2⟩))) ∧
      o.hall.HasLobby ⟨2⟩ alice [] := by
  intro alice bob options ops o
  let replay : Table :=
    { Table.review ⟨1⟩ "one" [(⟨1⟩, "Alice"), (⟨2⟩, "Bob")] alice options true with
      watchers := [alice, bob] }
  have hplan : (after ⟨1, 2⟩ ["No Variant"] ops).rematchPlan alice ⟨1⟩ = .ok replay := by
    decide +kernel
  obtain ⟨-, hfull, -⟩ := rematch_of_plan ⟨1, 2⟩ ["No Variant"] ops ⟨0, 0⟩ alice ⟨1⟩ replay hplan
  exact hfull (by decide)

end Hall

end GameHall
