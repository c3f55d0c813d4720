import GameHall.Proofs.Hall.Reconnection

/-!
# Visits that leave no trace

Coming to a table and going from it are two paths through the seats, the watchers, the lead and the
index of presence. `coming_and_going` says that they cancel out: whoever sits down in a lobby and
gets up again, or begins to watch and stops again, has changed nothing, and whoever opens a table and
goes from it has used up its number and nothing else.

At the table this needs that the newcomer has neither another entry there nor the lead
(`Table.unseat_seat`, `Table.dropWatcher_addWatcher`), and in the hall that the newcomer was not
noted there before (`Sound.depart_arrive`).
-/

namespace GameHall

namespace Presence

variable {p : Presence} {u : UserId} {t : TableId}

/-- A user who was not noted before goes without a trace. -/
theorem Tidy.erase_insert (h : p.Tidy) (hnot : t ∉ p.tablesOf u) : (p.insert u t).erase u t = p := by
  refine ((h.insert u t).erase u t).ext h fun v id => ?_
  rw [mem_tablesOf_erase (h.insert u t), mem_tablesOf_insert h]
  constructor
  · rintro ⟨hnew | hid, haway⟩
    · exact absurd hnew haway
    · exact hid
  · intro hid
    refine ⟨.inr hid, ?_⟩
    rintro ⟨rfl, rfl⟩
    exact hnot hid

/-- A table where nobody is noted is forgotten without a trace. -/
theorem Tidy.eraseTable_of_not_mem (h : p.Tidy) (hnot : ∀ u, t ∉ p.tablesOf u) :
    p.eraseTable t = p := by
  refine (h.eraseTable t).ext h fun u id => ?_
  rw [mem_tablesOf_eraseTable h]
  refine and_iff_left_of_imp fun hid => ?_
  rintro rfl
  exact hnot u hid

end Presence

namespace Table

variable {t : Table} {s : Session}

/-- The seat that is given up is the one that was taken. -/
theorem unseat_seat (hnew : t.hasSeat s.user = false) (howner : t.owner ≠ s.user) :
    (t.seat s).unseat s.user = t := by
  have hseats : (t.seat s).seats.eraseP (fun p => p.user == s.user) = t.seats := by
    have hother : ∀ p ∈ t.seats, ¬(p.user == s.user) = true := by simpa [hasSeat] using hnew
    rw [seat, List.eraseP_append_right _ hother, List.eraseP_cons_of_pos (by simp [Seat.taken]),
      List.append_nil]
  have howner' : (t.seat s).owner ≠ s.user := howner
  simp only [unseat, hseats, if_neg howner']
  rfl

/-- The watcher who stops is the one who began. -/
theorem dropWatcher_addWatcher (hnew : t.isWatching s.user = false)
    (howner : t.isReplay → t.owner ≠ s.user) : (t.addWatcher s).dropWatcher s.user = t := by
  have hwatchers : (t.addWatcher s).watchers.eraseP (fun w => w.user == s.user) = t.watchers := by
    have hother : ∀ w ∈ t.watchers, ¬(w.user == s.user) = true := by
      simpa [isWatching] using hnew
    rw [addWatcher, List.eraseP_append_right _ hother, List.eraseP_cons_of_pos (by simp),
      List.append_nil]
  have howner' : ¬((t.addWatcher s).isReplay ∧ (t.addWatcher s).owner = s.user) :=
    fun h => howner h.1 h.2
  simp only [dropWatcher, hwatchers, if_neg howner']
  rfl

end Table

namespace Hall

open Outcome

variable {h : Hall} {s : Session} {u : UserId} {t t' : Table} {id : TableId} {ε : Type}
  {news : News} {left : List News}

/-! ## Newcomers -/

theorem Arrival.new_of_lobby (a : h.Arrival s t .seatsChanged t') (hphase : t.phase = .pregame) :
    t.hasSeat s.user = false := by
  cases a with
  | seat _ _ _ new => exact new
  | reattach phase => exact absurd (hphase.symm.trans phase) Phase.noConfusion

/-- Whoever begins to watch was not there. -/
theorem Arrival.away_of_watch (a : h.Arrival s t .watchersChanged t') :
    t.isWatching s.user = false ∧ ¬t.isPresent s.user := by
  cases a with
  | watch phase _ unseated new =>
    refine ⟨new, fun hp => ?_⟩
    rcases Table.isPresent_iff.1 hp with hw | hc
    · rw [Table.isWatching_iff.2 hw] at new
      cases new
    · have hseat := unseated (Table.isConnected_iff.1 hc).1
      rw [Table.hasSeat_iff.2 (Table.Live.seated_of_isConnected hc)] at hseat
      cases hseat

theorem join_of_ok (here : h.table? t.id = some t) (hphase : t.phase = .pregame)
    (hok : (h.join s t.id).result = .ok ()) :
    t.hasSeat s.user = false ∧ h.join s t.id = h.arrive s.user (t.seat s) .seatsChanged := by
  simp only [join, here, hphase, reduceCtorEq, false_and, if_false] at hok ⊢
  cases hn : h.joinObstacle? s.user t with
  | some e =>
    rw [hn] at hok
    cases hok
  | none => exact ⟨(arrival_of_joinObstacle? hn).new_of_lobby hphase, rfl⟩

theorem watch_of_ok (hok : (h.watch s id).result = .ok ()) :
    ∃ t, h.table? id = some t ∧ h.Arrival s t .watchersChanged (t.addWatcher s) ∧
      h.watch s id = h.arrive s.user (t.addWatcher s) .watchersChanged := by
  unfold watch at hok ⊢
  split at hok
  · cases hok
  · rename_i t here
    split at hok
    · cases hok
    · rename_i hn
      exact ⟨t, here, arrival_of_watchObstacle? hn, rfl⟩

/-! ## Going again -/

/-- Who was not at a table comes and goes without a trace. -/
theorem Sound.depart_arrive (hs : h.Sound) (ht : t ∈ h.tables) (haway : ¬t.isPresent u)
    (t' : Table) (hid : t'.id = t.id) (news : News) (left : List News) :
    ((h.arrive u t' news : Outcome ε Unit).hall.depart u t left : Outcome ε Unit).hall = h := by
  have hstays : t.isDeserted = false := Table.isDeserted_eq_false_iff.2 (hs.tables t ht).attended
  have hunnoted : t.id ∉ h.presence.tablesOf u := fun hmem =>
    haway ((hs.mem_tablesOf_iff ht).1 hmem)
  rw [hall_depart, hstays, if_neg Bool.false_ne_true]
  calc
    (((h.put t').note u t'.id).put t).forget u t.id
      = { (h.put t').put t with
            presence := (h.presence.insert u t'.id).erase u t.id } := rfl
    _ = { h with presence := h.presence } := by
        rw [put_put h hid.symm, hs.put_self ht, hid, hs.tidy.erase_insert hunnoted]

/-- Who opens a table and leaves nobody there has used up its number. -/
theorem Sound.depart_add (hs : h.Sound) (o : h.Opening s t) (hleft : t'.isDeserted)
    (hid : t'.id = t.id) (left : List News) :
    ((h.add s t : Outcome ε TableId).hall.depart s.user t' left : Outcome ε Unit).hall =
      { h with nextId := h.nextId + 1 } := by
  have hnew : ∀ x ∈ h.tables, x.id ≠ t.id := fun x hx heq => by
    have hbelow := hs.below x hx
    rw [heq, o.id_eq] at hbelow
    exact Nat.lt_irrefl _ hbelow
  have hunnoted : ∀ u, t.id ∉ h.presence.tablesOf u := fun u hmem => by
    obtain ⟨x, hx, heq, -⟩ := (hs.indexed u t.id).1 hmem
    exact hnew x hx heq
  have htables : (h.tables ++ [t]).filter (fun x => x.id != t.id) = h.tables := by
    rw [List.filter_append, List.filter_eq_self.2 (by simpa using hnew),
      List.filter_cons_of_neg (by simp), List.filter_nil, List.append_nil]
  rw [hall_depart, if_pos hleft, hid]
  calc
    ((h.add s t : Outcome ε TableId).hall.forget s.user t.id).remove t.id
      = { h with
            tables := (h.tables ++ [t]).filter fun x => x.id != t.id
            presence := ((h.presence.insert s.user t.id).erase s.user t.id).eraseTable t.id
            nextId := h.nextId + 1 } := rfl
    _ = { h with nextId := h.nextId + 1 } := by
        rw [htables, hs.tidy.erase_insert (hunnoted s.user),
          hs.tidy.eraseTable_of_not_mem hunnoted]

theorem Sound.leave_join (hs : h.Sound) (here : h.table? t.id = some t)
    (hphase : t.phase = .pregame) (hok : (h.join s t.id).result = .ok ()) :
    ((h.join s t.id).hall.leave s.user t.id).result = .ok () ∧
      ((h.join s t.id).hall.leave s.user t.id).hall = h := by
  have ht : t ∈ h.tables := (hs.table?_eq_some_iff.1 here).1
  have hlobby : t.InLobby h.limits := (hs.tables t ht).inLobby hphase
  obtain ⟨hnew, hjoin⟩ := join_of_ok here hphase hok
  have hunseated : s.user ∉ t.seated := by rwa [← Table.hasSeat_iff, Bool.not_eq_true]
  have haway : ¬t.isPresent s.user := mt hlobby.isPresent_iff_seated.1 hunseated
  have howner : t.owner ≠ s.user := fun heq => hunseated (heq ▸ hlobby.owner_seated)
  have here' : (h.arrive s.user (t.seat s) .seatsChanged : Outcome Refusal Unit).hall.table? t.id =
      some (t.seat s) := table?_put_self here rfl
  have hseat : (t.seat s).hasSeat s.user := by simp [Table.hasSeat, Table.seat, Seat.taken]
  rw [hjoin, leave_eq_depart here' hphase hseat, Table.unseat_seat hnew howner]
  exact ⟨result_depart .., hs.depart_arrive ht haway (t.seat s) rfl _ _⟩

theorem Sound.stopWatching_watch (hs : h.Sound) (hok : (h.watch s id).result = .ok ()) :
    ((h.watch s id).hall.stopWatching s.user id).result = .ok () ∧
      ((h.watch s id).hall.stopWatching s.user id).hall = h := by
  obtain ⟨t, here, a, hwatch⟩ := watch_of_ok hok
  obtain ⟨ht, rfl⟩ := hs.table?_eq_some_iff.1 here
  have hst : t.Sound h.limits := hs.tables t ht
  obtain ⟨hnew, haway⟩ := a.away_of_watch
  have howner : t.isReplay → t.owner ≠ s.user := fun hr heq => by
    have hreview := hst.inReview (Table.isReplay_iff.1 hr)
    exact haway (hreview.isPresent_iff_watching.2 (heq ▸ hreview.owner_watching))
  have here' : (h.arrive s.user (t.addWatcher s) .watchersChanged :
      Outcome Refusal Unit).hall.table? t.id = some (t.addWatcher s) := table?_put_self here rfl
  have hw : (t.addWatcher s).isWatching s.user := by simp [Table.isWatching, Table.addWatcher]
  obtain ⟨left, hstop⟩ := stopWatching_eq_depart here' hw
  rw [hwatch, hstop, Table.dropWatcher_addWatcher hnew howner]
  exact ⟨result_depart .., hs.depart_arrive ht haway (t.addWatcher s) rfl _ _⟩

/-! ## Opening and going -/

/-- Nobody is at a new table but its creator. -/
theorem Opening.isDeserted (o : h.Opening s t) (g : Gone s.user t t') : t'.isDeserted := by
  refine Table.isDeserted_iff.2 fun v => ?_
  rw [← Bool.not_eq_true, g.isPresent_iff o.sound, o.isPresent_iff]
  exact fun hv => hv.1 hv.2

theorem Sound.table?_of_opening (hs : h.Sound) (o : h.Opening s t) : h.table? t.id = none :=
  hs.table?_eq_none (by rw [o.id_eq])

theorem Sound.table?_add (hs : h.Sound) (o : h.Opening s t) :
    (h.add s t : Outcome ε TableId).hall.table? t.id = some t :=
  (touches_add (hs.table?_of_opening o) s).found

theorem Sound.leave_openTable (hs : h.Sound) {name : String} {options : Options}
    (hok : (h.openTable s name options).result = .ok id) :
    h.table? id = none ∧
      ((h.openTable s name options).hall.leave s.user id).result = .ok () ∧
        ((h.openTable s name options).hall.leave s.user id).hall =
          { h with nextId := h.nextId + 1 } := by
  rcases openTable_cases h s name options with ⟨e, heq⟩ | ⟨t, o, hphase, heq⟩
  · rw [heq] at hok
    cases hok
  · obtain rfl : t.id = id := by
      rw [heq] at hok
      exact Except.ok.inj hok
    have hlobby : t.InLobby h.limits := o.sound.inLobby hphase
    have hseat : t.hasSeat s.user :=
      Table.hasSeat_iff.2 (hlobby.isPresent_iff_seated.1 (o.isPresent_iff.2 rfl))
    have hleft : (t.unseat s.user).isDeserted := o.isDeserted (.unseat hphase)
    rw [heq, leave_eq_depart (hs.table?_add o) hphase hseat]
    exact ⟨hs.table?_of_opening o, result_depart .., hs.depart_add o hleft rfl _⟩

theorem Sound.stopWatching_openReplay (hs : h.Sound) {name : String}
    {roster : List (UserId × String)} {options : Options} {visible : Bool}
    (hok : (h.openReplay s name roster options visible).result = .ok id) :
    h.table? id = none ∧
      ((h.openReplay s name roster options visible).hall.stopWatching s.user id).result = .ok () ∧
        ((h.openReplay s name roster options visible).hall.stopWatching s.user id).hall =
          { h with nextId := h.nextId + 1 } := by
  rcases openReplay_cases h s name roster options visible with ⟨e, heq⟩ | ⟨t, o, hphase, -, heq⟩
  · rw [heq] at hok
    cases hok
  · obtain rfl : t.id = id := by
      rw [heq] at hok
      exact Except.ok.inj hok
    have hw : t.isWatching s.user :=
      Table.isWatching_iff.2 ((Table.isPresent_iff_watching hphase).1 (o.isPresent_iff.2 rfl))
    have hleft : (t.dropWatcher s.user).isDeserted := o.isDeserted (.dropWatcher hw)
    obtain ⟨news, hstop⟩ := stopWatching_eq_depart (hs.table?_add o) hw
    rw [heq, hstop]
    exact ⟨hs.table?_of_opening o, result_depart .., hs.depart_add o hleft rfl _⟩

/-! ## Coming and going -/

/-- **Coming and going cancel out.** Whoever takes a seat in a lobby may give it up again, and whoever
begins to watch may stop again; then the hall is as it was. Whoever opens a table or a replay may go
from it; then it is not there any more, and the hall is as it was but for the number of the next
table. -/
theorem coming_and_going (limits : Limits) (variants : List String)
    (ops : List (Luck × Operation)) (s : Session) (id : TableId) :
    let h := after limits variants ops
    ((∃ t, h.table? id = some t ∧ t.phase = .pregame) → (h.join s id).result = .ok () →
      let left := (h.join s id).hall.leave s.user id
      left.result = .ok () ∧ left.hall = h) ∧
    ((h.watch s id).result = .ok () →
      let left := (h.watch s id).hall.stopWatching s.user id
      left.result = .ok () ∧ left.hall = h) ∧
    (∀ name options, (h.openTable s name options).result = .ok id →
      let left := (h.openTable s name options).hall.leave s.user id
      left.result = .ok () ∧ left.hall.table? id = none ∧
        left.hall = { h with nextId := h.nextId + 1 }) ∧
    ∀ name roster options visible,
      (h.openReplay s name roster options visible).result = .ok id →
        let left := (h.openReplay s name roster options visible).hall.stopWatching s.user id
        left.result = .ok () ∧ left.hall.table? id = none ∧
          left.hall = { h with nextId := h.nextId + 1 } := by
  intro h
  have hs : h.Sound := sound_after limits variants ops
  refine ⟨?_, hs.stopWatching_watch, fun name options hok => ?_,
    fun name roster options visible hok => ?_⟩
  · rintro ⟨t, here, hphase⟩ hok
    obtain ⟨-, rfl⟩ := hs.table?_eq_some_iff.1 here
    exact hs.leave_join here hphase hok
  · obtain ⟨hnone, hleft, hhall⟩ := hs.leave_openTable hok
    refine ⟨hleft, ?_, hhall⟩
    rw [hhall]
    exact hnone
  · obtain ⟨hnone, hleft, hhall⟩ := hs.stopWatching_openReplay hok
    refine ⟨hleft, ?_, hhall⟩
    rw [hhall]
    exact hnone

/-- Carol looks in everywhere: at Alice's lobby, at Bob's replay, and at a table and a replay of her
own. -/
theorem coming_and_going_of_carol :
    let alice : Session := ⟨⟨1⟩, "Alice", 0⟩
    let bob : Session := ⟨⟨2⟩, "Bob", 1⟩
    let carol : Session := ⟨⟨3⟩, "Carol", 2⟩
    let options : Options := ⟨"No Variant", false, 0, 0, false, false, false, false⟩
    let roster : List (UserId × String) := [(⟨1⟩, "Alice"), (⟨2⟩, "Bob")]
    let h := after ⟨6, 2⟩ ["No Variant"]
      [(⟨0, 0⟩, .command alice (.openTable "one" options)),
        (⟨0, 0⟩, .openReplay bob "two" roster options true)]
    ((h.join carol ⟨1⟩).hall ≠ h ∧ ((h.join carol ⟨1⟩).hall.leave ⟨3⟩ ⟨1⟩).hall = h) ∧
    ((h.watch carol ⟨2⟩).hall ≠ h ∧ ((h.watch carol ⟨2⟩).hall.stopWatching ⟨3⟩ ⟨2⟩).hall = h) ∧
    ((h.openTable carol "three" options).hall.leave ⟨3⟩ ⟨3⟩).hall = { h with nextId := 4 } ∧
    ((h.openReplay carol "three" roster options false).hall.stopWatching ⟨3⟩ ⟨3⟩).hall =
      { h with nextId := 4 } := by
  intro alice bob carol options roster h
  have hvisit := coming_and_going ⟨6, 2⟩ ["No Variant"]
    [(⟨0, 0⟩, .command alice (.openTable "one" options)),
      (⟨0, 0⟩, .openReplay bob "two" roster options true)] carol
  have hlobby : h.table? ⟨1⟩ = some (.lobby ⟨1⟩ "one" alice options 6) := by decide +kernel
  obtain ⟨hjoin, -⟩ := hvisit ⟨1⟩
  obtain ⟨-, hwatch, -⟩ := hvisit ⟨2⟩
  obtain ⟨-, -, htable, hreplay⟩ := hvisit ⟨3⟩
  exact ⟨⟨by decide +kernel, (hjoin ⟨_, hlobby, rfl⟩ (by decide +kernel)).2⟩,
    ⟨by decide +kernel, (hwatch (by decide +kernel)).2⟩,
    (htable "three" options (by decide +kernel)).2.2,
    (hreplay "three" roster options false (by decide +kernel)).2.2⟩

end Hall

end GameHall
