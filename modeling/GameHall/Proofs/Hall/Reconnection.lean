import GameHall.Proofs.Hall.Disconnection

/-!
# Coming back to a game

A seat at a running game waits for its user. Whoever lost the connection, and is not playing
elsewhere, takes the seat again over any line, even where the table is full and the hall is winding
down, and nothing else changes (`Sound.join_reconnects`). So closing a connection and coming back
cancel out, as long as somebody kept the game going meanwhile (`Sound.join_disconnect`).
-/

namespace GameHall

namespace Table

variable {l : Limits} {t : Table} {s : Session} {u : UserId} {c d : Option Session}

theorem reconnect_reconnect (t : Table) (u : UserId) (c d : Option Session) :
    (t.reconnect u c).reconnect u d = t.reconnect u d := by
  have hseats : ((t.reconnect u c).reconnect u d).seats = (t.reconnect u d).seats := by
    simp only [reconnect, List.map_map]
    refine List.map_congr_left fun p _ => ?_
    by_cases hp : p.user = u
    · simp [hp]
    · simp [hp]
  exact congrArg (fun seats => { t with seats := seats }) hseats

/-- A user whose seat lost its connection has no other seat that is connected. -/
theorem InGame.reattach_eq (h : t.InGame l) (hd : t.isDetached s.user) :
    t.reattach s = t.reconnect s.user (some s) := by
  obtain ⟨-, q, hq, hqs, hqc⟩ := isDetached_iff.1 hd
  have hseats : (t.reattach s).seats = (t.reconnect s.user (some s)).seats := by
    rw [seats_reattach h.distinct, reconnect]
    refine List.map_congr_left fun p hp => ?_
    by_cases hps : p.user = s.user
    · obtain rfl : p = q := List.inj_on_of_nodup_map h.distinct hp hq (hps.trans hqs.symm)
      simp [hps, hqc]
    · simp [hps]
  exact congrArg (fun seats => { t with seats := seats }) hseats

theorem isDetached_reconnect_none (h : t.phase ≠ .replay) (hu : u ∈ t.seated) :
    (t.reconnect u none).isDetached u := by
  obtain ⟨p, hp, hpu⟩ := List.mem_map.1 hu
  refine isDetached_iff.2 ⟨h, { p with session := none }, ?_, hpu, rfl⟩
  exact List.mem_map.2 ⟨p, hp, if_pos hpu⟩

end Table

namespace Hall

open Outcome

variable {h : Hall} {t : Table} {s : Session} {u : UserId} {id : TableId}

theorem put_put (h : Hall) {t t' : Table} (hid : t'.id = t.id) : (h.put t).put t' = h.put t' := by
  have htables : ((h.put t).put t').tables = (h.put t').tables := by
    simp only [put, List.map_map]
    refine List.map_congr_left fun x _ => ?_
    by_cases hx : x.id = t.id
    · simp [hx, hid]
    · simp [hx, hid]
  exact congrArg (fun tables => { h with tables := tables }) htables

/-- **A seat waits for its user.** -/
theorem Sound.join_reconnects (hs : h.Sound) (here : h.table? t.id = some t)
    (hphase : t.phase = .running) (hd : t.isDetached s.user)
    (hidle : ∀ x ∈ h.tables, x.id ≠ t.id → ¬x.isConnected s.user) :
    h.join s t.id =
      h.arrive s.user (t.reconnect s.user (some s)) .seatsChanged := by
  have ht : t ∈ h.tables := (hs.table?_eq_some_iff.1 here).1
  have hgame : t.InGame h.limits := (hs.tables t ht).inGame hphase
  have hnone : h.otherGame? s.user (some t.id) = none :=
    hs.otherGame?_eq_none_iff.2 fun x hx hne => hidle x hx fun hid => hne (congrArg some hid)
  simp only [join, here, if_pos (And.intro hphase hd), hnone, hgame.reattach_eq hd]

/-- A connection closes at the only table where the user is, and the others there stay. -/
theorem Sound.disconnect_eq (hs : h.Sound) (here : h.table? t.id = some t)
    (hphase : t.phase = .running) (hc : t.isConnected u)
    (honly : ∀ x ∈ h.tables, x.isPresent u → x.id = t.id) (hothers : ∃ v, v ≠ u ∧ t.isPresent v) :
    (h.disconnect u).hall = (h.put (t.reconnect u none)).forget u t.id := by
  have ht : t ∈ h.tables := (hs.table?_eq_some_iff.1 here).1
  have hst : t.Sound h.limits := hs.tables t ht
  have hgame : t.InGame h.limits := hst.inGame hphase
  have htables : h.tablesOf u = [t.id] := by
    refine TableId.eq_of_ascending (hs.tidy.pairwise_tablesOf u) (List.pairwise_singleton ..)
      fun i => ?_
    rw [hs.indexed, List.mem_singleton]
    constructor
    · rintro ⟨x, hx, rfl, hp⟩
      exact honly x hx hp
    · rintro rfl
      exact ⟨t, ht, rfl, Table.isPresent_iff.2 (.inr hc)⟩
  have hunwatching : ¬t.isWatching u := fun hw =>
    hgame.not_isConnected_of_watching (Table.isWatching_iff.1 hw) hc
  have hgone : Gone u t (t.reconnect u none) := hgame.detach_eq u ▸ .detach hphase hunwatching
  have hstays : (t.reconnect u none).isDeserted = false := by
    obtain ⟨v, hv, hp⟩ := hothers
    exact Table.isDeserted_eq_false_iff.2 ⟨v, (hgone.isPresent_iff hst).2 ⟨hv, hp⟩⟩
  have hgo : h.goFrom u t.id = h.dropConnection u t := by
    simp only [goFrom, here, hunwatching, hphase, hc]
    rfl
  rw [disconnect, hs.hall_withdrawAll, htables, List.foldl_cons, List.foldl_nil, hgo,
    dropConnection, hstays, if_neg Bool.false_ne_true]

/-- Going from a running game and joining it again cancel out, but for the session. -/
theorem Sound.join_disconnect (hs : h.Sound) (here : h.table? t.id = some t)
    (hphase : t.phase = .running) (hc : t.isConnected s.user)
    (honly : ∀ x ∈ h.tables, x.isPresent s.user → x.id = t.id)
    (hothers : ∃ v, v ≠ s.user ∧ t.isPresent v) :
    (h.disconnect s.user).hall.join s t.id =
      ⟨h.put (t.reconnect s.user (some s)),
        (t.reconnect s.user (some s)).announce .seatsChanged, .ok ()⟩ := by
  have ht : t ∈ h.tables := (hs.table?_eq_some_iff.1 here).1
  let gone := t.reconnect s.user none
  let back := t.reconnect s.user (some s)
  let lost := (h.put gone).forget s.user t.id
  have hid : gone.id = t.id := rfl
  have hlost : (h.disconnect s.user).hall = lost :=
    hs.disconnect_eq here hphase hc honly hothers
  have hs' : lost.Sound := hlost ▸ (follows_withdrawAll h s.user _).sound hs
  have here' : lost.table? t.id = some gone := table?_put_self here hid
  have hd : gone.isDetached s.user :=
    Table.isDetached_reconnect_none (by simp [hphase]) (Table.Live.seated_of_isConnected hc)
  have hidle : ∀ x ∈ lost.tables, x.id ≠ t.id → ¬x.isConnected s.user := by
    intro x hx hne hxc
    rcases (mem_put ht hid).1 hx with rfl | ⟨hx, -⟩
    · exact hne rfl
    · exact hne (honly x hx (Table.isPresent_iff.2 (.inr hxc)))
  have hnoted : t.id ∈ h.presence.tablesOf s.user :=
    (hs.mem_tablesOf_iff ht).2 (Table.isPresent_iff.2 (.inr hc))
  have hput : (h.put gone).put back = h.put back := put_put h rfl
  have hpresence : (h.presence.erase s.user t.id).insert s.user t.id = h.presence :=
    hs.tidy.insert_erase hnoted
  have hhall : (lost.put back).note s.user t.id = h.put back :=
    calc
      _ = { (h.put gone).put back with
            presence := (h.presence.erase s.user t.id).insert s.user t.id } := rfl
      _ = h.put back := by
        rw [hput, hpresence]
        rfl
  calc
    (h.disconnect s.user).hall.join s t.id
      = lost.arrive s.user (gone.reconnect s.user (some s)) .seatsChanged := by
        rw [hlost]
        exact hs'.join_reconnects (t := gone) here' hphase hd hidle
    _ = lost.arrive s.user back .seatsChanged := by rw [Table.reconnect_reconnect]
    _ = ⟨(lost.put back).note s.user t.id, back.announce .seatsChanged, .ok ()⟩ := rfl
    _ = ⟨h.put back, back.announce .seatsChanged, .ok ()⟩ := by rw [hhall]

/-- **A connection lost and found.** A user who lost the connection to a running game, and plays no
other, can join it again in any session: the seat has this session then, the user is noted at the
table, and nothing else changes. So when a user who is nowhere else goes from a running game where
others are, and joins it again, the hall is as it was, with the new session in place of the old. -/
theorem connection_lost_and_found (limits : Limits) (variants : List String)
    (ops : List (Luck × Operation)) (s : Session) (id : TableId) (t : Table)
    (here : (after limits variants ops).table? id = some t) (hphase : t.phase = .running) :
    let h := after limits variants ops
    let back := t.reconnect s.user (some s)
    (t.isDetached s.user → (∀ x ∈ h.tables, x.id ≠ id → ¬x.isConnected s.user) →
      h.join s id = ⟨(h.put back).note s.user id, back.announce .seatsChanged, .ok ()⟩ ∧
      ∀ v i, i ∈ ((h.put back).note s.user id).tablesOf v ↔
        i ∈ h.tablesOf v ∨ v = s.user ∧ i = id) ∧
    (t.isConnected s.user → (∀ x ∈ h.tables, x.isPresent s.user → x.id = id) →
      (∃ v, v ≠ s.user ∧ t.isPresent v) →
      ((h.disconnect s.user).hall.join s id).result = .ok () ∧
        ((h.disconnect s.user).hall.join s id).hall = h.put back) := by
  intro h back
  have hs : h.Sound := sound_after limits variants ops
  obtain ⟨-, rfl⟩ := hs.table?_eq_some_iff.1 here
  constructor
  · intro hd hidle
    refine ⟨hs.join_reconnects here hphase hd hidle, fun v i => ?_⟩
    exact (Presence.mem_tablesOf_insert hs.tidy).trans Or.comm
  · intro hc honly hothers
    rw [hs.join_disconnect here hphase hc honly hothers]
    exact ⟨rfl, rfl⟩

/-- At a full table, while the hall winds down, a player comes back over another line. -/
theorem connection_lost_and_found_at_full_table :
    let alice : Session := ⟨⟨1⟩, "Alice", 0⟩
    let alice' : Session := ⟨⟨1⟩, "alice", 2⟩
    let bob : Session := ⟨⟨2⟩, "Bob", 1⟩
    let options : Options := ⟨"No Variant", false, 0, 0, false, false, false, false⟩
    let playing : List (Luck × Operation) :=
      [(⟨0, 0⟩, .command alice (.openTable "one" options)), (⟨0, 0⟩, .command bob (.join ⟨1⟩)),
        (⟨0, 0⟩, .command alice (.start ⟨1⟩))]
    let closing : List (Luck × Operation) := [(⟨0, 0⟩, .disconnect ⟨1⟩), (⟨0, 0⟩, .windDown)]
    let h := after ⟨2, 2⟩ ["No Variant"] playing
    let lost := after ⟨2, 2⟩ ["No Variant"] (playing ++ closing)
    (∃ t, lost.table? ⟨1⟩ = some t ∧ t.isFull ∧ t.isDetached ⟨1⟩ ∧ lost.windingDown ∧
      lost.join alice' ⟨1⟩ =
        ⟨(lost.put (t.reconnect ⟨1⟩ (some alice'))).note ⟨1⟩ ⟨1⟩,
          (t.reconnect ⟨1⟩ (some alice')).announce .seatsChanged, .ok ()⟩) ∧
    ∃ t, h.table? ⟨1⟩ = some t ∧ t.isConnected ⟨1⟩ ∧
      ((h.disconnect ⟨1⟩).hall.join alice' ⟨1⟩).hall = h.put (t.reconnect ⟨1⟩ (some alice')) := by
  intro alice alice' bob options playing closing h lost
  let game : Table :=
    { Table.lobby ⟨1⟩ "one" alice options 2 with
      seats := [.taken alice, .taken bob]
      phase := .running }
  let gone : Table := { game with seats := [⟨⟨1⟩, "Alice", none, none⟩, .taken bob] }
  have hgone : lost.table? ⟨1⟩ = some gone := by decide +kernel
  have hgame : h.table? ⟨1⟩ = some game := by decide +kernel
  obtain ⟨hjoin, -⟩ := connection_lost_and_found ⟨2, 2⟩ ["No Variant"] (playing ++ closing) alice'
    ⟨1⟩ gone hgone rfl
  obtain ⟨-, hback⟩ := connection_lost_and_found ⟨2, 2⟩ ["No Variant"] playing alice' ⟨1⟩ game
    hgame rfl
  have hidle : ∀ x ∈ lost.tables, x.id ≠ ⟨1⟩ → ¬x.isConnected ⟨1⟩ := by decide +kernel
  have honly : ∀ x ∈ h.tables, x.isPresent ⟨1⟩ → x.id = ⟨1⟩ := by decide +kernel
  exact ⟨⟨gone, hgone, by decide, by decide, by decide +kernel, (hjoin (by decide) hidle).1⟩,
    game, hgame, by decide, (hback (by decide) honly ⟨⟨2⟩, by decide, by decide⟩).2⟩

end Hall

end GameHall
