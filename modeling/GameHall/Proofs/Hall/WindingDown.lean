import GameHall.Proofs.Hall.Reconnection

/-!
# Winding down

A hall that is winding down loses tables, players and watchers, and gains none but those who come
back to a game. `Hall.Dwindles` says so of a hall and what becomes of it, change by change and along
any run (`dwindles_run`).

Three checks see to it: a new table, a rematch and a new seat each ask whether the hall is winding
down, and a rematch asks before anyone is sent away. A player whose connection closed is let through
before the question (`Sound.join_eq_ok_iff`).
-/

namespace GameHall

/-! ## Players -/

namespace Table

variable {t : Table} {u : UserId}

theorem seated_unseat_subset (t : Table) (u : UserId) : (t.unseat u).seated ⊆ t.seated :=
  (List.eraseP_sublist.map Seat.user).subset

theorem seated_withdraw_subset (t : Table) (u : UserId) : (t.withdraw u).1.seated ⊆ t.seated :=
  withdraw_induction t u (List.Subset.refl _) (List.Subset.refl _)
    (fun _ _ hx => by rwa [seated_detach])
    (fun x _ hx => List.Subset.trans (seated_unseat_subset x u) hx)

end Table

namespace Hall

open Outcome

variable {h h' h'' : Hall} {s : Session} {u : UserId} {id : TableId} {t t' : Table}
  {o : Option Table} {ts : List Table} {m : List Delivery}

/-- Whoever arrives while the hall is winding down takes no new seat. -/
theorem Arrival.seated_subset {news : News} (a : h.Arrival s t news t')
    (hw : h.windingDown = true) : t'.seated ⊆ t.seated := by
  cases a with
  | seat accepting => exact absurd (hw.symm.trans accepting) Bool.noConfusion
  | reattach =>
    rw [Table.seated_reattach]
    exact List.Subset.refl _
  | watch => exact List.Subset.refl _

theorem Departure.seated_subset {news : List News} (d : Departure u t news t') :
    t'.seated ⊆ t.seated := by
  cases d with
  | leave => exact t.seated_unseat_subset u
  | stopWatching => exact List.Subset.refl _
  | withdraw => exact t.seated_withdraw_subset u

theorem Act.seated_subset (a : h.Act t m t') : t'.seated ⊆ t.seated := by
  cases a with
  | passLead => exact ((Table.seats_passedTo_perm _ _).map Seat.user).subset
  | start =>
    rw [Table.seated_started]
    exact List.Subset.refl _

/-! ## What becomes of the hall -/

/-- What becomes of a hall that is winding down: it goes on winding down, no number is given, and
every table was there before and had its players. -/
structure Dwindles (h h' : Hall) : Prop where
  windingDown : h'.windingDown = true
  nextId : h'.nextId = h.nextId
  tables : ∀ t' ∈ h'.tables, ∃ t ∈ h.tables, t.id = t'.id ∧ t'.seated ⊆ t.seated

theorem Dwindles.refl (hw : h.windingDown = true) : h.Dwindles h :=
  ⟨hw, rfl, fun t ht => ⟨t, ht, rfl, List.Subset.refl _⟩⟩

theorem Dwindles.trans (d : h.Dwindles h') (e : h'.Dwindles h'') : h.Dwindles h'' where
  windingDown := e.windingDown
  nextId := e.nextId.trans d.nextId
  tables := fun t'' ht'' => by
    obtain ⟨t', ht', hid', hseated'⟩ := e.tables t'' ht''
    obtain ⟨t, ht, hid, hseated⟩ := d.tables t' ht'
    exact ⟨t, ht, hid.trans hid', List.Subset.trans hseated' hseated⟩

theorem Dwindles.ids_subset (d : h.Dwindles h') : h'.ids ⊆ h.ids := by
  intro id hid
  obtain ⟨t', ht', rfl⟩ := List.mem_map.1 hid
  obtain ⟨t, ht, heq, -⟩ := d.tables t' ht'
  exact List.mem_map.2 ⟨t, ht, heq⟩

/-- A table loses players, and the others keep theirs. -/
theorem dwindles_put (hw : h.windingDown = true) (here : h.table? t.id = some t)
    (hid : t'.id = t.id) (hseated : t'.seated ⊆ t.seated) : h.Dwindles (h.put t') where
  windingDown := hw
  nextId := rfl
  tables := fun x hx => by
    have ht : t ∈ h.tables := List.mem_of_find?_eq_some here
    rcases (mem_put ht hid).1 hx with rfl | ⟨hx, -⟩
    · exact ⟨t, ht, hid.symm, hseated⟩
    · exact ⟨x, hx, rfl, List.Subset.refl _⟩

theorem dwindles_remove (hw : h.windingDown = true) (id : TableId) : h.Dwindles (h.remove id) where
  windingDown := hw
  nextId := rfl
  tables := fun x hx => ⟨x, (List.mem_filter.1 hx).1, rfl, List.Subset.refl _⟩

/-- Where users are noted does not matter to the tables. -/
theorem Dwindles.withPresence (d : h.Dwindles h') (p : Presence) :
    h.Dwindles { h' with presence := p } :=
  ⟨d.windingDown, d.nextId, d.tables⟩

/-- **A change only takes away** while the hall is winding down. -/
theorem Change.dwindles (c : h.Change o m h') (hw : h.windingDown = true) : h.Dwindles h' := by
  cases c with
  | opens o =>
    cases o with
    | lobby accepting => exact absurd (hw.symm.trans accepting) Bool.noConfusion
    | review accepting => exact absurd (hw.symm.trans accepting) Bool.noConfusion
  | arrives here a => exact (dwindles_put hw here a.id_eq (a.seated_subset hw)).withPresence _
  | departs here d => exact (dwindles_put hw here d.continues.id d.seated_subset).withPresence _
  | deserts => exact ⟨hw, rfl, (dwindles_remove hw _).tables⟩
  | acts here a => exact dwindles_put hw here a.id_eq a.seated_subset
  | windsDown => exact ⟨rfl, rfl, (Dwindles.refl hw).tables⟩
  | boots => exact .refl hw

theorem Changes.dwindles (cs : Changes h ts m h') (hw : h.windingDown = true) : h.Dwindles h' := by
  induction cs with
  | none => exact .refl hw
  | cons c _ ih =>
    have hfirst := c.dwindles hw
    exact hfirst.trans (ih hfirst.windingDown)

theorem dwindles_run (hw : h.windingDown = true) (ops : List (Luck × Operation)) :
    h.Dwindles (h.run ops) := by
  induction ops generalizing h with
  | nil => exact .refl hw
  | cons op ops ih =>
    obtain ⟨ts, hts, -⟩ := perform_changes h op.1 op.2
    have hfirst : h.Dwindles (h.perform op.1 op.2).hall := Changes.dwindles hts hw
    exact hfirst.trans (ih hfirst.windingDown)

/-! ## What is refused -/

theorem openingObstacle?_of_windingDown (hw : h.windingDown = true) (name : String)
    (options : Options) : h.openingObstacle? name options = some .windingDown := by
  rw [openingObstacle?, if_pos hw]

theorem openTable_of_windingDown (hw : h.windingDown = true) (s : Session) (name : String)
    (options : Options) : h.openTable s name options = h.refuse .windingDown := by
  simp only [openTable, openingObstacle?_of_windingDown hw]

theorem openReplay_of_windingDown (hw : h.windingDown = true) (s : Session) (name : String)
    (roster : List (UserId × String)) (options : Options) (visible : Bool) :
    h.openReplay s name roster options visible = h.refuse .windingDown := by
  simp only [openReplay, openingObstacle?_of_windingDown hw]

/-- A plan for a rematch asks whether the hall is winding down. -/
theorem rematch_of_windingDown (hw : h.windingDown = true) (luck : Luck) (s : Session)
    (id : TableId) : ∃ e, h.rematch luck s id = h.refuse e := by
  cases hplan : h.rematchPlan s id with
  | error e => exact ⟨e, rematch_eq_refuse hplan luck⟩
  | ok t =>
    obtain ⟨-, -, -, -, -, hseats⟩ := rematchPlan_eq_ok hplan
    rw [seatingObstacle?, if_pos hw] at hseats
    cases hseats

/-- **Only a player who comes back is let in** while the hall is winding down, and is let in unless
playing elsewhere. -/
theorem Sound.join_eq_ok_iff (hs : h.Sound) (hw : h.windingDown = true) :
    (h.join s id).result = .ok () ↔
      ∃ t, h.table? id = some t ∧ t.phase = .running ∧ t.isDetached s.user ∧
        ∀ x ∈ h.tables, x.id ≠ id → ¬x.isConnected s.user := by
  constructor
  · intro hok
    unfold join at hok
    split at hok
    · cases hok
    · rename_i t here
      split at hok
      · rename_i hlost
        split at hok
        · cases hok
        · rename_i hidle
          rw [hs.otherGame?_eq_none_iff] at hidle
          exact ⟨t, here, hlost.1, hlost.2, fun x hx hne => hidle x hx (by simpa using hne)⟩
      · rw [joinObstacle?, if_pos hw] at hok
        cases hok
  · rintro ⟨t, here, hphase, hlost, hidle⟩
    obtain ⟨-, rfl⟩ := hs.table?_eq_some_iff.1 here
    rw [hs.join_reconnects here hphase hlost hidle]
    rfl

/-- **A shutdown only winds down.** From its begin on, whatever is done: the hall goes on winding
down, no number is given to a table, no table is there that was not there earlier, and nobody has a
seat who had none there at the begin. No table or replay is opened and no rematch begins. A user joins
a table iff it has a running game where the connection to the user's seat was lost, and no other table
connects the user. -/
theorem winding_down (limits : Limits) (variants : List String)
    (before sooner later : List (Luck × Operation)) (luck : Luck) :
    let begun := after limits variants (before ++ [(luck, .windDown)])
    let h := begun.run sooner
    let h' := h.run later
    h'.windingDown = true ∧ h'.nextId = begun.nextId ∧ h'.ids ⊆ h.ids ∧
    (∀ t' ∈ h'.tables, ∃ t ∈ begun.tables, t.id = t'.id ∧ ∀ u, t'.hasSeat u → t.hasSeat u) ∧
    (∀ s name options, h'.openTable s name options = h'.refuse .windingDown) ∧
    (∀ s name roster options visible,
      h'.openReplay s name roster options visible = h'.refuse .windingDown) ∧
    (∀ luck s id, ∃ e, h'.rematch luck s id = h'.refuse e) ∧
    ∀ s id, (h'.join s id).result = .ok () ↔
      ∃ t, h'.table? id = some t ∧ t.phase = .running ∧ t.isDetached s.user ∧
        ∀ x ∈ h'.tables, x.id ≠ id → ¬x.isConnected s.user := by
  intro begun h h'
  have hw : begun.windingDown = true := by
    show (after limits variants (before ++ [(luck, .windDown)])).windingDown = true
    rw [after, run_append]
    rfl
  have hsooner : begun.Dwindles h := dwindles_run hw sooner
  have hlater : h.Dwindles h' := dwindles_run hsooner.windingDown later
  have hall : begun.Dwindles h' := hsooner.trans hlater
  have hs : h'.Sound :=
    (((reachable_iff_after.2 ⟨limits, variants, _, rfl⟩ : begun.Reachable).run sooner).run
      later).sound
  refine ⟨hall.windingDown, hall.nextId, hlater.ids_subset, fun t' ht' => ?_,
    openTable_of_windingDown hall.windingDown, openReplay_of_windingDown hall.windingDown,
    rematch_of_windingDown hall.windingDown, fun s id => hs.join_eq_ok_iff hall.windingDown⟩
  obtain ⟨t, ht, hid, hseated⟩ := hall.tables t' ht'
  refine ⟨t, ht, hid, fun u hu => ?_⟩
  rw [Table.hasSeat_iff] at hu ⊢
  exact hseated hu

/-- Alice, who lost her connection to a game, is let in again. Carol, who asks for a seat in a lobby
with room, is not. -/
example :
    let luck : Luck := ⟨0, 0⟩
    let alice : Session := ⟨⟨1⟩, "Alice", 0⟩
    let bob : Session := ⟨⟨2⟩, "Bob", 1⟩
    let carol : Session := ⟨⟨3⟩, "Carol", 2⟩
    let dave : Session := ⟨⟨4⟩, "Dave", 3⟩
    let options : Options := ⟨"No Variant", false, 0, 0, false, false, false, false⟩
    let h := after ⟨6, 2⟩ ["No Variant"]
      [(luck, .command alice (.openTable "one" options)), (luck, .command bob (.join ⟨1⟩)),
        (luck, .command alice (.start ⟨1⟩)), (luck, .command dave (.openTable "two" options)),
        (luck, .windDown), (luck, .disconnect ⟨1⟩)]
    (h.join alice ⟨1⟩).result = .ok () ∧ (h.join carol ⟨2⟩).result = .error .windingDown := by
  decide +kernel

end Hall

end GameHall
