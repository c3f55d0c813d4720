import GameHall.Proofs.Hall.Whereabouts

/-!
# Looking tables up

What the changes of a hall do to `Hall.table?`. Together with the invariant this is all there is to
know of a hall: who is noted where follows from the tables (`Sound.mem_tablesOf`), and sound halls
where the same tables are found are equal (`Sound.ext`).

* `Frame touched h h'` says that `h'` has the tables, the limits and the variants of `h`, but perhaps
  for the tables of the numbers `touched`.
* A table that somebody goes from is removed when nobody is left. `Table.standing?` is the table if
  somebody is there, and `table?_depart` says that this is what is found afterwards.
* `Outcome.Touches` says that an operation touches one table at most, and what becomes of it.
-/

namespace GameHall

namespace Table

/-- A table where somebody is present; a deserted one is no table. -/
def standing? (t : Table) : Option Table := if t.isDeserted then none else some t

variable {t t' : Table} {l : Limits} {u : UserId}

theorem standing?_eq_none_iff : t.standing? = none ↔ ∀ u, t.isPresent u = false := by
  rw [← isDeserted_iff, standing?]
  split
  · rename_i hd
    exact iff_of_true rfl hd
  · rename_i hd
    exact iff_of_false (by simp) hd

theorem eq_of_standing? (h : t.standing? = some t') : t' = t := by
  rw [standing?] at h
  split at h
  · cases h
  · exact (Option.some.inj h).symm

theorem exists_standing?_iff : (∃ t', t.standing? = some t' ∧ t'.isPresent u) ↔ t.isPresent u := by
  constructor
  · rintro ⟨t', ht', hp⟩
    exact eq_of_standing? ht' ▸ hp
  · intro hp
    have hd : t.isDeserted = false := isDeserted_eq_false_iff.2 ⟨u, hp⟩
    exact ⟨t, by rw [standing?, hd, if_neg Bool.false_ne_true], hp⟩

theorem Sound.standing?_eq (h : t.Sound l) : t.standing? = some t := by
  have hd : t.isDeserted = false := isDeserted_eq_false_iff.2 h.attended
  rw [standing?, hd, if_neg Bool.false_ne_true]

end Table

namespace Hall

variable {h h' h'' : Hall} {t t' : Table} {u : UserId} {id : TableId}
  {touched touched' : List TableId}

/-- The numbers of the tables. -/
def ids (h : Hall) : List TableId := h.tables.map Table.id

theorem isSome_table?_iff : (h.table? id).isSome ↔ id ∈ h.ids := by
  simp [table?, ids]

theorem table?_eq_none_iff : h.table? id = none ↔ id ∉ h.ids := by
  rw [← isSome_table?_iff, Option.not_isSome_iff_eq_none]

/-! ## Changes -/

/-- Where a table is replaced, no other is. -/
theorem table?_put (h : Hall) (t : Table) (id : TableId) :
    (h.put t).table? id = if id = t.id then (h.table? id).map fun _ => t else h.table? id := by
  have hid : ∀ x : Table, (if x.id = t.id then t else x).id = x.id := fun x => by
    split
    · rename_i hx
      exact hx.symm
    · rfl
  have hmap : (h.put t).table? id = (h.table? id).map fun x => if x.id = t.id then t else x := by
    simp only [table?, put, List.find?_map, Function.comp_def, hid]
  rw [hmap]
  cases here : h.table? id with
  | none => simp
  | some x =>
    have hx : x.id = id := table?_id here
    simp only [Option.map_some, hx]
    split <;> rfl

theorem table?_put_self (here : h.table? t.id = some t) (hid : t'.id = t.id) :
    (h.put t').table? t.id = some t' := by
  rw [table?_put, hid, if_pos rfl, here, Option.map_some]

theorem table?_remove (h : Hall) (i id : TableId) :
    (h.remove i).table? id = if id = i then none else h.table? id := by
  simp only [table?, remove, List.find?_filter]
  split
  · rename_i hi
    rw [List.find?_eq_none]
    intro x _
    simp only [bne_iff_ne, ne_eq, beq_iff_eq, Bool.decide_and, Bool.and_eq_true, decide_eq_true_eq,
      not_and]
    exact fun hx hxid => hx (hxid.trans hi)
  · rename_i hi
    congr 1
    funext x
    by_cases hx : x.id = id
    · simp [hx, hi]
    · simp [hx]

theorem table?_append (h : Hall) (t : Table) (p : Presence) (n : Nat) (id : TableId) :
    table? { h with tables := h.tables ++ [t], presence := p, nextId := n } id =
      (h.table? id).or (if t.id = id then some t else none) := by
  simp only [table?, List.find?_append]
  congr 1
  by_cases hid : t.id = id
  · simp [hid]
  · simp [hid]

/-! ## Frames -/

/-- A hall where at most the tables of some numbers are others, and where users are. -/
structure Frame (touched : List TableId) (h h' : Hall) : Prop where
  table? : ∀ id, id ∉ touched → h'.table? id = h.table? id
  windingDown : h'.windingDown = h.windingDown
  limits : h'.limits = h.limits
  variants : h'.variants = h.variants

theorem Frame.refl (touched : List TableId) (h : Hall) : Frame touched h h :=
  ⟨fun _ _ => rfl, rfl, rfl, rfl⟩

theorem Frame.trans (f : Frame touched h h') (g : Frame touched h' h'') : Frame touched h h'' where
  table? := fun id hid => (g.table? id hid).trans (f.table? id hid)
  windingDown := g.windingDown.trans f.windingDown
  limits := g.limits.trans f.limits
  variants := g.variants.trans f.variants

theorem Frame.mono (f : Frame touched h h') (hsub : touched ⊆ touched') : Frame touched' h h' :=
  { f with table? := fun id hid => f.table? id fun hmem => hid (hsub hmem) }

theorem Frame.table?_of_ne (f : Frame [id] h h') {i : TableId} (hi : i ≠ id) :
    h'.table? i = h.table? i :=
  f.table? i fun hmem => hi (List.mem_singleton.1 hmem)

theorem frame_put (h : Hall) (t : Table) : Frame [t.id] h (h.put t) where
  table? := fun id hid => by
    rw [table?_put, if_neg fun heq => hid (List.mem_singleton.2 heq)]
  windingDown := rfl
  limits := rfl
  variants := rfl

theorem frame_remove (h : Hall) (id : TableId) : Frame [id] h (h.remove id) where
  table? := fun i hi => by
    rw [table?_remove, if_neg fun heq => hi (List.mem_singleton.2 heq)]
  windingDown := rfl
  limits := rfl
  variants := rfl

/-! ## Coming, going and opening -/

section Outcomes

variable {ε : Type} {news : List News}

/-- Whoever goes leaves the table, if it stands, and nothing else is touched. -/
theorem table?_depart (here : h.table? t.id = some t) (hid : t'.id = t.id) :
    (h.depart u t' news : Outcome ε Unit).hall.table? t.id = t'.standing? := by
  simp only [depart, Table.standing?]
  split
  · show ((h.forget u t'.id).remove t'.id).table? t.id = none
    rw [table?_remove, if_pos hid.symm]
  · exact table?_put_self here hid

/-- Those who are left are told, if the table stands. -/
theorem sent_depart (h : Hall) (u : UserId) (t : Table) (news : List News) :
    (h.depart u t news : Outcome ε Unit).sent =
      t.standing?.toList.flatMap fun r => news.flatMap r.announce := by
  unfold depart Table.standing?
  split
  · rfl
  · rw [Option.toList_some, List.flatMap_singleton]

theorem frame_depart (h : Hall) (u : UserId) (t : Table) (news : List News) :
    Frame [t.id] h (h.depart u t news : Outcome ε Unit).hall := by
  simp only [depart]
  split
  · exact ⟨(frame_remove h t.id).table?, rfl, rfl, rfl⟩
  · exact ⟨(frame_put h t).table?, rfl, rfl, rfl⟩

end Outcomes

/-- No table has a number that was not given yet. -/
theorem Sound.table?_eq_none (hs : h.Sound) (hid : h.nextId ≤ id.val) : h.table? id = none := by
  rw [table?_eq_none_iff]
  intro hmem
  obtain ⟨t, ht, rfl⟩ := List.mem_map.1 hmem
  have hbelow : t.id.val < h.nextId := hs.below t ht
  omega

/-! ## Other games -/

/-- What happens at a table does not matter to the games elsewhere. -/
theorem Frame.otherGame?_eq (f : Frame [id] h h') (hs : h.Sound) (hs' : h'.Sound) (u : UserId) :
    h'.otherGame? u (some id) = h.otherGame? u (some id) := by
  refine Option.ext fun i => ?_
  rw [hs'.otherGame?_eq_some_iff, hs.otherGame?_eq_some_iff]
  refine and_congr_right fun hi => ?_
  rw [f.table? i fun hmem => hi (congrArg some (List.mem_singleton.1 hmem))]

/-- A table where the user is not playing need not be excepted. -/
theorem Sound.otherGame?_except (hs : h.Sound)
    (haway : ∀ t, h.table? id = some t → ¬t.isConnected u) :
    h.otherGame? u (some id) = h.otherGame? u none := by
  refine Option.ext fun i => ?_
  rw [hs.otherGame?_eq_some_iff, hs.otherGame?_eq_some_iff]
  constructor
  · rintro ⟨-, hgame⟩
    exact ⟨by simp, hgame⟩
  · rintro ⟨-, t, here, hc⟩
    refine ⟨fun heq => ?_, t, here, hc⟩
    obtain rfl : i = id := Option.some.inj heq
    exact haway t here hc

/-! ## Who is noted -/

/-- A user is noted at the same tables if the tables that were touched are no others to the user. -/
theorem Frame.tablesOf_eq (f : Frame touched h h') (hs : h.Sound) (hs' : h'.Sound)
    (hsame : ∀ id ∈ touched, id ∈ h'.tablesOf u ↔ id ∈ h.tablesOf u) :
    h'.tablesOf u = h.tablesOf u := by
  refine TableId.eq_of_ascending (hs'.tidy.pairwise_tablesOf u) (hs.tidy.pairwise_tablesOf u)
    fun id => ?_
  by_cases hid : id ∈ touched
  · exact hsame id hid
  · have hmem : id ∈ h'.tablesOf u ↔ id ∈ h.tablesOf u := by
      rw [hs'.mem_tablesOf, hs.mem_tablesOf, f.table? id hid]
    exact hmem

/-! ## Equality -/

/-- **Sound halls are equal** if the same tables are found there and the same is known of them. -/
theorem Sound.ext (hs : h.Sound) (hs' : h'.Sound) (found : ∀ id, h'.table? id = h.table? id)
    (nextId : h'.nextId = h.nextId) (windingDown : h'.windingDown = h.windingDown)
    (limits : h'.limits = h.limits) (variants : h'.variants = h.variants) : h' = h := by
  have htables : h'.tables = h.tables := by
    refine eq_of_pairwise_lt (n := fun t => t.id.val) hs'.ascending hs.ascending fun t => ?_
    have hmem : t ∈ h'.tables ↔ h'.table? t.id = some t :=
      ⟨fun ht => hs'.table?_eq_some_iff.2 ⟨ht, rfl⟩, List.mem_of_find?_eq_some⟩
    rw [hmem, found, hs.table?_eq_some_iff]
    exact and_iff_left rfl
  have hpresence : h'.presence = h.presence := by
    refine hs'.tidy.ext hs.tidy fun u id => ?_
    have hmem : id ∈ h'.tablesOf u ↔ id ∈ h.tablesOf u := by
      rw [hs'.mem_tablesOf, hs.mem_tablesOf, found]
    exact hmem
  cases h
  cases h'
  simp only [mk.injEq]
  exact ⟨htables, hpresence, nextId, windingDown, limits, variants⟩

end Hall

/-! ## One table -/

namespace Outcome

variable {ε α β : Type} {h : Hall} {id : TableId} {x y : Option Table} {o : Outcome ε α}
  {next : Hall → α → Outcome ε β} {a : α}

/-- An outcome that touches one table at most, with what is found of it afterwards. -/
structure Touches (h : Hall) (id : TableId) (x : Option Table) (o : Outcome ε α) : Prop where
  frame : Hall.Frame [id] h o.hall
  found : o.hall.table? id = x

theorem touches_refuse (e : ε) (here : h.table? id = x) :
    Touches h id x (h.refuse e : Outcome ε α) :=
  ⟨.refl _ h, here⟩

theorem touches_done (here : h.table? id = x) : Touches h id x (h.done : Outcome ε Unit) :=
  ⟨.refl _ h, here⟩

theorem touches_put {t : Table} (here : h.table? t.id = some t) (t' : Table) (hid : t'.id = t.id)
    (sent : List Delivery) (r : Except ε α) :
    Touches h t.id (some t') (⟨h.put t', sent, r⟩ : Outcome ε α) where
  frame := hid ▸ Hall.frame_put h t'
  found := Hall.table?_put_self here hid

theorem touches_arrive {t : Table} (here : h.table? t.id = some t) (u : UserId) (t' : Table)
    (hid : t'.id = t.id) (news : News) :
    Touches h t.id (some t') (h.arrive u t' news : Outcome ε Unit) where
  frame := ⟨hid ▸ (Hall.frame_put h t').table?, rfl, rfl, rfl⟩
  found := Hall.table?_put_self here hid

theorem touches_depart {t : Table} (here : h.table? t.id = some t) (u : UserId) (t' : Table)
    (hid : t'.id = t.id) (news : List News) :
    Touches h t.id t'.standing? (h.depart u t' news : Outcome ε Unit) where
  frame := hid ▸ Hall.frame_depart h u t' news
  found := Hall.table?_depart here hid

theorem touches_add {t : Table} (hnew : h.table? t.id = none) (s : Session) :
    Touches h t.id (some t) (h.add s t : Outcome ε TableId) where
  frame := by
    refine ⟨fun id hid => ?_, rfl, rfl, rfl⟩
    have hne : t.id ≠ id := fun heq => hid (List.mem_singleton.2 heq.symm)
    exact (Hall.table?_append ..).trans (by rw [if_neg hne, Option.or_none])
  found := (Hall.table?_append ..).trans (by rw [if_pos rfl, hnew, Option.none_or])

theorem table?_add_of_some {t : Table} (here : h.table? id = some t) (s : Session) (t' : Table) :
    (h.add s t' : Outcome ε TableId).hall.table? id = some t :=
  (Hall.table?_append ..).trans (by rw [here, Option.some_or])

theorem Touches.andThen (ho : o.Touches h id x) (hr : o.result = .ok a)
    (hn : (next o.hall a).Touches o.hall id y) : (o.andThen next).Touches h id y where
  frame := by
    rw [hall_andThen_of_ok hr]
    exact ho.frame.trans hn.frame
  found := by
    rw [hall_andThen_of_ok hr]
    exact hn.found

end Outcome

end GameHall
