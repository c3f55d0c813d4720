import GameHall.Proofs.Hall.Departures

/-!
# The life of a table

A table is there from the operation that creates it, under the next number, to the operation in which
the last of its users goes, and its number is never used again (`lifetime_of_tables`).

`created` and `creations` look at which tables are there before and after an operation. What the
operation answers tells as much (`created_eq`): a table was created if the answer is a table, or if a
rematch was cut short after its checks.
-/

namespace GameHall

namespace Hall

open Outcome

variable {h h' : Hall} {s : Session} {id : TableId} {t : Table} {ts : List Table}
  {m : List Delivery} {luck : Luck} {op : Operation} {ops : List (Luck × Operation)}

/-! ## Which tables there are -/

theorem mem_ids_put (h : Hall) (t : Table) : id ∈ (h.put t).ids ↔ id ∈ h.ids := by
  rw [ids, map_id_put, ids]

/-- A table that is there was there before or was opened. -/
theorem Change.mem_ids {o : Option Table} (c : h.Change o m h') (hid : id ∈ h'.ids) :
    id ∈ h.ids ∨ id ∈ o.toList.map Table.id := by
  cases c with
  | opens o =>
    rw [ids, List.map_append] at hid
    exact List.mem_append.1 hid
  | @arrives s t t' => exact .inl ((mem_ids_put h t').1 hid)
  | @departs u t t' => exact .inl ((mem_ids_put h t').1 hid)
  | deserts => exact .inl ((List.filter_sublist.map Table.id).subset hid)
  | @acts t t' => exact .inl ((mem_ids_put h t').1 hid)
  | windsDown => exact .inl hid
  | boots => exact .inl hid

theorem Changes.mem_ids (cs : Changes h ts m h') (hid : id ∈ h'.ids) :
    id ∈ h.ids ∨ h.nextId ≤ id.val ∧ id.val < h'.nextId := by
  have hopened : id ∈ h.ids ∨ id ∈ ts.map Table.id := by
    induction cs with
    | none => exact .inl hid
    | cons c _ ih =>
      rw [List.map_append, List.mem_append]
      rcases ih hid with hmem | hmem
      · exact (c.mem_ids hmem).imp_right .inl
      · exact .inr (.inr hmem)
  refine hopened.imp_right fun hmem => ?_
  obtain ⟨t, ht, rfl⟩ := List.mem_map.1 hmem
  exact cs.number_of_mem ht

theorem Sound.pairwise_ids (hs : h.Sound) : h.ids.Pairwise fun a b => a < b :=
  List.pairwise_map.2 hs.ascending

/-! ## Rematches cut short -/

theorem isCutShort_ofRefusal (r : Refusal) : (Rejection.ofRefusal r).isCutShort = false := by
  cases r <;> rfl

theorem isCutShort_of_heirOrRejection {name : String} {e : Rejection}
    (he : heirOrRejection s t name = .error e) : e.isCutShort = false := by
  simp only [heirOrRejection] at he
  repeat' split at he
  all_goals cases he
  all_goals rfl

theorem isCutShort_of_startObstacle? {u : UserId} {e : Rejection}
    (he : h.startObstacle? u t = some e) : e.isCutShort = false := by
  simp only [startObstacle?] at he
  repeat' split at he
  all_goals cases he
  all_goals rfl

theorem isCutShort_of_rematchPlan {e : Rejection} (he : h.rematchPlan s id = .error e) :
    e.isCutShort = false := by
  simp only [rematchPlan] at he
  repeat' split at he
  all_goals cases he
  all_goals first | rfl | exact isCutShort_ofRefusal _

/-! ## What an operation tells of a new table -/

/-- Whether a table was created: it is the answer, or a rematch was cut short. -/
def tellsNew : Except Rejection Answer → Bool
  | .ok (.opened _) => true
  | .ok _ => false
  | .error e => e.isCutShort

/-- An outcome without a new table, or with one under the next number, as its result tells. -/
inductive OpensAsTold (h : Hall) (o : Outcome Rejection Answer) : Prop
  | nothing (told : tellsNew o.result = false) (next : o.hall.nextId = h.nextId)
  | one (told : tellsNew o.result = true) (next : o.hall.nextId = h.nextId + 1)
      (here : (⟨h.nextId⟩ : TableId) ∈ o.hall.ids)

/-- An operation that is answered with nothing but its success opens nothing. -/
theorem opensAsTold_done {o : Outcome Rejection Unit} (ho : o.Follows h [])
    (he : ∀ e, o.result = .error e → e.isCutShort = false) :
    OpensAsTold h (o.map fun _ => .done) := by
  refine .nothing ?_ (Changes.nextId_eq ho)
  rw [Outcome.map]
  cases hr : o.result with
  | ok => rfl
  | error e => exact he e hr

theorem opensAsTold_passOn {o : Outcome Refusal Unit} (ho : o.Follows h []) :
    OpensAsTold h (o.passOn fun _ => .done) := by
  refine opensAsTold_done (ho.mapError _) fun e he => ?_
  obtain ⟨r, -, rfl⟩ := result_mapError_eq_error.1 he
  exact isCutShort_ofRefusal r

theorem Opens.opensAsTold {o : Outcome Refusal TableId} (ho : h.Opens s o) :
    OpensAsTold h (o.passOn .opened) := by
  rcases ho with ⟨e, rfl⟩ | ⟨t, o, rfl⟩
  · exact .nothing (isCutShort_ofRefusal e) rfl
  · refine .one rfl rfl ?_
    show _ ∈ (h.tables ++ [t]).map Table.id
    rw [List.map_append, List.map_singleton, o.id_eq]
    exact List.mem_append_right _ (List.mem_singleton_self _)

theorem opensAsTold_rematch (hr : h.Reachable) (luck : Luck) (s : Session) (id : TableId) :
    OpensAsTold h ((h.rematch luck s id).map .opened) := by
  cases hplan : h.rematchPlan s id with
  | error e =>
    rw [rematch_eq_refuse hplan]
    exact .nothing (isCutShort_of_rematchPlan hplan) rfl
  | ok t =>
    obtain ⟨new, hmoved, hend⟩ := rematch_ends hr hplan luck
    refine .one ?_ (nextId_rematch hr hplan luck) ?_
    · rw [Outcome.map]
      rcases hend with hok | ⟨e, herror | herror⟩
      · rw [hok]
        rfl
      · rw [herror]
        rfl
      · rw [herror]
        rfl
    · exact isSome_table?_iff.1 (hmoved.here ▸ rfl)

/-- Whether an operation creates a table can be told from what it answers. -/
theorem perform_opensAsTold (hr : h.Reachable) (luck : Luck) (op : Operation) :
    OpensAsTold h (h.perform luck op) := by
  cases op with
  | command s c =>
    cases c with
    | openTable name options => exact (opens_openTable h s name options).opensAsTold
    | join id => exact opensAsTold_passOn (atOnce_join h s id).follows
    | leave id => exact opensAsTold_passOn (atOnce_leave h s.user id).follows
    | watch id => exact opensAsTold_passOn (atOnce_watch h s id).follows
    | stopWatching id => exact opensAsTold_passOn (atOnce_stopWatching h s.user id).follows
    | passLead id name =>
      refine opensAsTold_done (atOnce_passLead h s id name).follows fun e he => ?_
      simp only [passLead] at he
      split at he
      · cases he
        rfl
      · split at he
        · rename_i hheir
          cases he
          exact isCutShort_of_heirOrRejection hheir
        · cases he
    | start id =>
      refine opensAsTold_done (atOnce_start h luck.deal s.user id).follows fun e he => ?_
      simp only [start] at he
      split at he
      · cases he
        rfl
      · split at he
        · rename_i hobstacle
          cases he
          exact isCutShort_of_startObstacle? hobstacle
        · cases he
    | rematch id => exact opensAsTold_rematch hr luck s id
  | openReplay s name roster options visible =>
    exact (opens_openReplay h s name roster options visible).opensAsTold
  | disconnect u => exact opensAsTold_passOn (follows_withdrawAll h u _)
  | checkSeating users => exact opensAsTold_passOn (atOnce_checkSeating h users).follows
  | windDown => exact .nothing rfl rfl

/-! ## Creations -/

/-- The tables that are there after an operation and were not before, in ascending order. -/
def created (h : Hall) (luck : Luck) (op : Operation) : List TableId :=
  (h.perform luck op).hall.ids.filter fun id => decide (id ∉ h.ids)

/-- The tables that operations create, in order. -/
def creations (h : Hall) : List (Luck × Operation) → List TableId
  | [] => []
  | (luck, op) :: ops => h.created luck op ++ (h.perform luck op).hall.creations ops

/-- **An operation creates a table iff it tells so**, and then one, under the next number. -/
theorem created_eq (hr : h.Reachable) (luck : Luck) (op : Operation) :
    h.created luck op = if tellsNew (h.perform luck op).result then [⟨h.nextId⟩] else [] := by
  have hs := hr.sound
  have hs' : (h.perform luck op).hall.Sound := (Reachable.step luck op hr).sound
  obtain ⟨ts, hts, -⟩ := perform_changes h luck op
  have hnew : ∀ id, id ∈ h.created luck op →
      h.nextId ≤ id.val ∧ id.val < (h.perform luck op).hall.nextId := fun id hid => by
    rw [created, List.mem_filter, decide_eq_true_eq] at hid
    exact (Changes.mem_ids hts hid.1).resolve_left hid.2
  cases perform_opensAsTold hr luck op with
  | nothing told next =>
    rw [told, if_neg Bool.false_ne_true, List.eq_nil_iff_forall_not_mem]
    intro id hid
    have hbounds := hnew id hid
    omega
  | one told next here =>
    rw [told, if_pos rfl]
    refine TableId.eq_of_ascending (hs'.pairwise_ids.filter _) (List.pairwise_singleton ..)
      fun id => ?_
    rw [List.mem_singleton]
    constructor
    · intro hid
      have hbounds := hnew id hid
      rw [TableId.eq_iff]
      show id.val = h.nextId
      omega
    · rintro rfl
      have hfree : (⟨h.nextId⟩ : TableId) ∉ h.ids :=
        table?_eq_none_iff.1 (hs.table?_eq_none (Nat.le_refl _))
      exact List.mem_filter.2 ⟨here, decide_eq_true hfree⟩

theorem opened_eq (hr : h.Reachable) (hok : (h.perform luck op).result = .ok (.opened id)) :
    id = ⟨h.nextId⟩ := by
  obtain ⟨ts, hts, hopened, -⟩ := perform_changes h luck op
  obtain ⟨t, ht, rfl⟩ := hopened id hok
  have hbounds := Changes.number_of_mem hts ht
  rw [TableId.eq_iff]
  show t.id.val = h.nextId
  cases perform_opensAsTold hr luck op with
  | nothing told next => omega
  | one told next => omega

/-- Tables are numbered in the order of their creation. -/
theorem creations_eq (hr : h.Reachable) (ops : List (Luck × Operation)) :
    h.creations ops = (List.range' h.nextId (h.creations ops).length).map TableId.mk ∧
      (h.run ops).nextId = h.nextId + (h.creations ops).length := by
  induction ops generalizing h with
  | nil => exact ⟨rfl, rfl⟩
  | cons op ops ih =>
    obtain ⟨hrest, hnext⟩ := ih (.step op.1 op.2 hr)
    have hfirst := created_eq hr op.1 op.2
    simp only [creations, run]
    cases perform_opensAsTold hr op.1 op.2 with
    | nothing told next =>
      rw [told, if_neg Bool.false_ne_true] at hfirst
      rw [next] at hrest hnext
      rw [hfirst, List.nil_append]
      exact ⟨hrest, hnext⟩
    | one told next =>
      rw [told, if_pos rfl] at hfirst
      rw [next] at hrest hnext
      rw [hfirst, List.singleton_append, List.length_cons, List.range'_succ, List.map_cons, ← hrest]
      exact ⟨rfl, by omega⟩

/-! ## Numbers are not used again -/

theorem nextId_le_of_mem_creations (hr : h.Reachable) (hid : id ∈ h.creations ops) :
    h.nextId ≤ id.val := by
  rw [(creations_eq hr ops).1, List.mem_map] at hid
  obtain ⟨n, hn, rfl⟩ := hid
  exact (List.mem_range'_1.1 hn).1

/-- A table that went does not come back. -/
theorem not_mem_ids_run (hid : id ∉ h.ids) (hold : id.val < h.nextId)
    (ops : List (Luck × Operation)) : id ∉ (h.run ops).ids := by
  induction ops generalizing h with
  | nil => exact hid
  | cons op ops ih =>
    obtain ⟨ts, hts, -⟩ := perform_changes h op.1 op.2
    refine ih (fun hmem => ?_) (Nat.lt_of_lt_of_le hold (nextId_le_perform h op.1 op.2))
    rcases Changes.mem_ids hts hmem with hmem | hbounds
    · exact hid hmem
    · omega

/-- **The life of a table.** After any operations on a fresh hall:

* somebody is at every table;
* an operation removes a table iff it takes everyone there away;
* the tables that the operations created have the numbers from one on, in order, and whether an
  operation creates one can be told from what it answers;
* a table that was there and is not any more stays away, and no later table has its number. -/
theorem lifetime_of_tables (limits : Limits) (variants : List String)
    (ops : List (Luck × Operation)) :
    let h := after limits variants ops
    let made := (fresh limits variants).creations ops
    (∀ t ∈ h.tables, t.isDeserted = false ∧ ∃ u, t.isPresent u) ∧
    (∀ luck op, ∀ t ∈ h.tables, (h.perform luck op).hall.table? t.id = none ↔
      ∀ u, t.isPresent u → u ∈ h.goers t op) ∧
    (∀ (k : Nat) (id : TableId), made[k]? = some id → id = ⟨k + 1⟩) ∧
    (∀ luck op, h.created luck op =
        (if tellsNew (h.perform luck op).result then [⟨made.length + 1⟩] else []) ∧
      ∀ id, (h.perform luck op).result = .ok (.opened id) → id = ⟨made.length + 1⟩) ∧
    (∀ earlier, earlier <+: ops → ∀ id : TableId,
      ((after limits variants earlier).table? id).isSome → h.table? id = none →
        ∀ later, (h.run later).table? id = none ∧ id ∉ h.creations later) := by
  intro h made
  have hr : h.Reachable := reachable_iff_after.2 ⟨limits, variants, ops, rfl⟩
  obtain ⟨hmade, hnext⟩ := creations_eq (.fresh limits variants) ops
  have hnext' : h.nextId = made.length + 1 := hnext.trans (Nat.add_comm ..)
  refine ⟨fun t ht => ?_, fun luck op t ht => removed_iff hr ht luck op, fun k id hk => ?_,
    fun luck op => ?_, fun earlier hearlier id hid hgone later => ?_⟩
  · have hsomebody := (hr.sound.tables t ht).attended
    exact ⟨Table.isDeserted_eq_false_iff.2 hsomebody, hsomebody⟩
  · change made = (List.range' 1 made.length).map TableId.mk at hmade
    rw [hmade, List.getElem?_map, Option.map_eq_some_iff] at hk
    obtain ⟨n, hn, rfl⟩ := hk
    obtain ⟨hlt, rfl⟩ := List.getElem?_eq_some_iff.1 hn
    rw [List.getElem_range', Nat.one_mul, Nat.add_comm]
  · rw [← hnext']
    exact ⟨created_eq hr luck op, fun id hok => opened_eq hr hok⟩
  · have hold : id.val < h.nextId := by
      have hs : (after limits variants earlier).Sound := sound_after limits variants earlier
      obtain ⟨t, here⟩ := Option.isSome_iff_exists.1 hid
      obtain ⟨ht, rfl⟩ := hs.table?_eq_some_iff.1 here
      exact Nat.lt_of_lt_of_le (hs.below t ht) (nextId_le_after limits variants hearlier)
    refine ⟨table?_eq_none_iff.2 (not_mem_ids_run (table?_eq_none_iff.1 hgone) hold later), ?_⟩
    intro hmem
    exact absurd (nextId_le_of_mem_creations hr hmem) (Nat.not_le.2 hold)

/-- A game goes with the connections of its players, and the next table has another number. -/
example :
    let luck : Luck := ⟨0, 0⟩
    let alice : Session := ⟨⟨1⟩, "Alice", 0⟩
    let bob : Session := ⟨⟨2⟩, "Bob", 1⟩
    let options : Options := ⟨"No Variant", false, 0, 0, false, false, false, false⟩
    let h := after ⟨6, 2⟩ ["No Variant"] [(luck, .command alice (.openTable "one" options)),
      (luck, .command bob (.join ⟨1⟩)), (luck, .command alice (.start ⟨1⟩)),
      (luck, .disconnect ⟨1⟩), (luck, .disconnect ⟨2⟩)]
    h.ids = [] ∧ h.created luck (.command bob (.openTable "two" options)) = [⟨2⟩] := by
  decide +kernel

end Hall

end GameHall
