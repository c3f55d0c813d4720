import GameHall.Proofs.Hall.Departures

/-!
# Going from everywhere

Closing a connection takes a user away from every table in one pass. `disconnect_eq_goFrom` compares
the pass with the operations that the user could have asked for at one table after the other: no
longer watching, giving up a seat in the lobby, and at a running game, where no operation gives a
seat up, just letting the connection go (`Hall.goFrom`).

Afterwards the user is nowhere, and everybody else is where they were (`mem_tablesOf_disconnect`).
-/

namespace GameHall

namespace Table

variable {l : Limits} {t : Table} {u : UserId}

/-- The table with another connection, or none, for a user's seat. -/
def reconnect (t : Table) (u : UserId) (connection : Option Session) : Table :=
  { t with seats := t.seats.map fun p => if p.user = u then { p with session := connection } else p }

theorem InGame.detach_eq (h : t.InGame l) (u : UserId) : t.detach u = t.reconnect u none := by
  have hseats : (t.detach u).seats = (t.reconnect u none).seats := by
    rw [seats_detach h.distinct]
    simp only [reconnect, beq_iff_eq]
  exact congrArg (fun seats => { t with seats := seats }) hseats

end Table

namespace Hall

open Outcome

variable {h : Hall} {t : Table} {u v : UserId} {id : TableId} {ids : List TableId}

/-! ## One table after the other -/

/-- The connection of a user's seat at a running game goes, and with the last of those there the
game. -/
def dropConnection (h : Hall) (u : UserId) (t : Table) : Hall :=
  if (t.reconnect u none).isDeserted then (h.forget u t.id).remove t.id
  else (h.put (t.reconnect u none)).forget u t.id

/-- A user goes from a table in the way that is open there. -/
def goFrom (h : Hall) (u : UserId) (id : TableId) : Hall :=
  match h.table? id with
  | none => h
  | some t =>
    if t.isWatching u then (h.stopWatching u id).hall
    else if t.phase = .pregame ∧ t.hasSeat u then (h.leave u id).hall
    else if t.phase = .running ∧ t.isConnected u then h.dropConnection u t
    else h

theorem hall_depart {ε : Type} (h : Hall) (u : UserId) (t : Table) (news : List News) :
    (h.depart u t news : Outcome ε Unit).hall =
      if t.isDeserted then (h.forget u t.id).remove t.id else (h.put t).forget u t.id := by
  simp only [depart]
  split <;> rfl

/-- The news of a departure does not matter to the hall. -/
theorem hall_depart_eq {ε δ : Type} (h : Hall) (u : UserId) (t : Table) (news news' : List News) :
    (h.depart u t news : Outcome ε Unit).hall = (h.depart u t news' : Outcome δ Unit).hall := by
  rw [hall_depart, hall_depart]

theorem Sound.put_self (hs : h.Sound) (ht : t ∈ h.tables) : h.put t = h := by
  have htables : (h.tables.map fun x => if x.id = t.id then t else x) = h.tables := by
    conv_rhs => rw [← List.map_id h.tables]
    refine List.map_congr_left fun x hx => ?_
    split
    · rename_i hid
      exact (hs.eq_of_id_eq hx ht hid).symm
    · rfl
  rw [put, htables]

/-- A user who is not there goes without a trace. -/
theorem Sound.depart_of_absent {ε : Type} (hs : h.Sound) (ht : t ∈ h.tables)
    (haway : ¬t.isPresent u) (news : List News) :
    (h.depart u t news : Outcome ε Unit).hall = h := by
  have hstays : t.isDeserted = false := Table.isDeserted_eq_false_iff.2 (hs.tables t ht).attended
  have hunnoted : t.id ∉ h.presence.tablesOf u := fun hmem => haway ((hs.mem_tablesOf_iff ht).1 hmem)
  rw [hall_depart, hstays, if_neg Bool.false_ne_true, hs.put_self ht, forget,
    hs.tidy.erase_of_not_mem hunnoted]

theorem leave_eq_depart (here : h.table? id = some t) (hphase : t.phase = .pregame)
    (hseat : t.hasSeat u) : h.leave u id = h.depart u (t.unseat u) [.seatsChanged] := by
  simp only [leave, here, leaveObstacle?, hphase, if_pos hseat]

theorem stopWatching_eq_depart (here : h.table? id = some t) (hw : t.isWatching u) :
    ∃ news, h.stopWatching u id = h.depart u (t.dropWatcher u) news := by
  simp only [stopWatching, here, if_pos hw]
  exact ⟨_, rfl⟩

/-- What a closed connection does at one table, the user could have done there. -/
theorem Sound.hall_withdraw (hs : h.Sound) (u : UserId) (id : TableId) :
    (h.withdraw u id).hall = h.goFrom u id := by
  simp only [withdraw, goFrom]
  cases here : h.table? id with
  | none => rfl
  | some t =>
    obtain ⟨ht, rfl⟩ := hs.table?_eq_some_iff.1 here
    simp only [(hs.tables t ht).withdraw_eq]
    split
    · rename_i hw
      obtain ⟨news, hstop⟩ := stopWatching_eq_depart here hw
      rw [hstop]
      exact hall_depart_eq ..
    · rename_i hw
      split
      · rename_i hseat
        rw [leave_eq_depart here hseat.1 hseat.2]
        exact hall_depart_eq ..
      · rename_i hseat
        split
        · rename_i hc
          rw [((hs.tables t ht).inGame hc.1).detach_eq, hall_depart]
          rfl
        · rename_i hc
          exact hs.depart_of_absent ht (Table.not_isPresent hw hseat hc) _

theorem Sound.hall_withdrawAll (hs : h.Sound) (u : UserId) (ids : List TableId) :
    (h.withdrawAll u ids).hall = ids.foldl (fun h id => h.goFrom u id) h := by
  induction ids generalizing h with
  | nil => rfl
  | cons id ids ih =>
    have hnext : (h.withdraw u id).hall.Sound := (atOnce_withdraw h u id).follows.sound hs
    rw [withdrawAll, hall_andThen_of_ok (result_withdraw h u id), ih hnext, hs.hall_withdraw,
      List.foldl_cons]

/-! ## Afterwards -/

/-- A user who goes from everywhere is nowhere, and everybody else is where they were. -/
theorem Sound.mem_tablesOf_disconnect (hs : h.Sound) :
    id ∈ (h.disconnect u).hall.tablesOf v ↔ v ≠ u ∧ id ∈ h.tablesOf v := by
  have hs' : (h.disconnect u).hall.Sound := (follows_withdrawAll h u _).sound hs
  rw [hs'.mem_tablesOf, hs.mem_tablesOf, disconnect, table?_withdrawAll (hs.nodup_tablesOf u)]
  cases here : h.table? id with
  | none => simp
  | some t =>
    obtain ⟨ht, rfl⟩ := hs.table?_eq_some_iff.1 here
    have hst : t.Sound h.limits := hs.tables t ht
    have hgone : (∃ t', (t.withdraw u).1.standing? = some t' ∧ t'.isPresent v) ↔
        v ≠ u ∧ t.isPresent v :=
      Table.exists_standing?_iff.trans ((gone_withdraw hst u).isPresent_iff hst)
    split
    · simpa using hgone
    · rename_i haway
      rw [hs.mem_tablesOf_iff ht] at haway
      simp only [Option.some.injEq, exists_eq_left']
      exact ⟨fun hp => ⟨fun hvu => haway (hvu ▸ hp), hp⟩, fun hp => hp.2⟩

/-- **Going from everywhere** is going from one table after the other, in the order of their numbers,
in the way that is open there. The user is then at no table and has no entry in the index, everybody
else is where they were, and going again is nothing. -/
theorem disconnect_eq_goFrom (limits : Limits) (variants : List String)
    (ops : List (Luck × Operation)) (u : UserId) :
    let h := after limits variants ops
    let h' := (h.disconnect u).hall
    (h.disconnect u).result = .ok () ∧
    h' = (h.scanPresence u).foldl (fun h id => h.goFrom u id) h ∧
    ((h.scanPresence u).Pairwise fun a b => a < b) ∧
    (∀ t ∈ h'.tables, ¬t.isPresent u) ∧
    (∀ e ∈ h'.presence.entries, e.1 ≠ u) ∧
    (∀ v, v ≠ u → h'.tablesOf v = h.tablesOf v ∧
      ∀ id, (∃ t, h'.table? id = some t ∧ t.isPresent v) ↔
        ∃ t, h.table? id = some t ∧ t.isPresent v) ∧
    h'.disconnect u = ⟨h', [], .ok ()⟩ := by
  intro h h'
  have hs : h.Sound := sound_after limits variants ops
  have hs' : h'.Sound := (follows_withdrawAll h u _).sound hs
  have hnowhere : h'.tablesOf u = [] := List.eq_nil_iff_forall_not_mem.2 fun id hid =>
    (hs.mem_tablesOf_disconnect.1 hid).1 rfl
  have hothers : ∀ v, v ≠ u → ∀ id, id ∈ h'.tablesOf v ↔ id ∈ h.tablesOf v := fun v hv id =>
    hs.mem_tablesOf_disconnect.trans (and_iff_right hv)
  refine ⟨result_withdrawAll h u _, ?_, hs.pairwise_scanPresence u, fun t ht hp => ?_,
    fun e he heq => ?_, fun v hv => ⟨?_, fun id => ?_⟩, ?_⟩
  · rw [← hs.tablesOf_eq_scanPresence]
    exact hs.hall_withdrawAll u _
  · have hmem : t.id ∈ h'.tablesOf u := (hs'.mem_tablesOf_iff ht).2 hp
    rw [hnowhere] at hmem
    cases hmem
  · obtain ⟨hne, htables⟩ := hs'.tidy.mem_entries_iff.1 he
    rw [heq] at htables
    exact hne (htables.symm.trans hnowhere)
  · exact TableId.eq_of_ascending (hs'.tidy.pairwise_tablesOf v) (hs.tidy.pairwise_tablesOf v)
      (hothers v hv)
  · rw [← hs'.mem_tablesOf, ← hs.mem_tablesOf]
    exact hothers v hv id
  · rw [disconnect, hnowhere]
    rfl

/-- Alice leaves a replay to Bob, who came to watch, and a lobby to nobody. -/
example :
    let alice : Session := ⟨⟨1⟩, "Alice", 0⟩
    let bob : Session := ⟨⟨2⟩, "Bob", 1⟩
    let options : Options := ⟨"No Variant", false, 0, 0, false, false, false, false⟩
    let h := after ⟨6, 2⟩ ["No Variant"]
      [(⟨0, 0⟩, .openReplay alice "replay" [(⟨1⟩, "Alice"), (⟨2⟩, "Bob")] options true),
        (⟨0, 0⟩, .command bob (.watch ⟨1⟩)), (⟨0, 0⟩, .command alice (.openTable "two" options))]
    h.tablesOf ⟨1⟩ = [⟨1⟩, ⟨2⟩] ∧
      (h.disconnect ⟨1⟩).hall.tables.map (fun t => (t.id, t.owner, t.watchers)) =
        [(⟨1⟩, ⟨2⟩, [bob])] := by
  decide +kernel

end Hall

end GameHall
