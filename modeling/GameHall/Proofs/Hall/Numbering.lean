import GameHall.Proofs.Hall.Sound
import Mathlib.Data.List.Basic

/-!
# The numbers of tables

Tables are numbered in the order in which they open, from the number that the hall has ready, and no
number is given twice.

* `Changes.ids_eq` is the rule for changes.
* `openings` is the record of a history: who asked for tables and got them, with their numbers, which
  ascend (`pairwise_openings`). So every table has one founder.
-/

namespace GameHall

namespace Hall

variable {h h' : Hall} {o : Option Table} {t : Table} {ts : List Table} {m : List Delivery}

/-! ## Changes -/

theorem Change.nextId_eq (c : h.Change o m h') : h'.nextId = h.nextId + o.toList.length := by
  cases c <;> rfl

theorem Change.id_of_mem (c : h.Change o m h') (ht : t ∈ o) : t.id = ⟨h.nextId⟩ := by
  cases c with
  | opens o => exact Option.some.inj ht ▸ o.id_eq
  | _ => cases ht

theorem Changes.nextId_eq (cs : Changes h ts m h') : h'.nextId = h.nextId + ts.length := by
  induction cs with
  | none => rfl
  | cons c _ ih => rw [ih, c.nextId_eq, List.length_append, Nat.add_assoc]

/-- **Tables are numbered as they open.** -/
theorem Changes.ids_eq (cs : Changes h ts m h') :
    ts.map Table.id = (List.range' h.nextId ts.length).map TableId.mk := by
  induction cs with
  | none => rfl
  | @cons _ _ _ o _ _ _ c _ ih =>
    cases o with
    | none => simpa [c.nextId_eq] using ih
    | some t => simp [c.id_of_mem rfl, c.nextId_eq, ih, List.range'_succ]

theorem Changes.number_of_mem (cs : Changes h ts m h') (ht : t ∈ ts) :
    h.nextId ≤ t.id.val ∧ t.id.val < h'.nextId := by
  have hid : t.id ∈ (List.range' h.nextId ts.length).map TableId.mk :=
    cs.ids_eq ▸ List.mem_map_of_mem ht
  obtain ⟨n, hn, heq⟩ := List.mem_map.1 hid
  rw [List.mem_range'_1] at hn
  rw [← heq, cs.nextId_eq]
  exact hn

end Hall

/-! ## Histories -/

/-- The user who asks for an operation. -/
def Operation.asker? : Operation → Option UserId
  | .command s _ => some s.user
  | .openReplay s .. => some s.user
  | _ => none

namespace Hall

/-- The table that an operation opens for the user who asks for it. -/
def opening? (h : Hall) (luck : Luck) (op : Operation) : Option (UserId × TableId) :=
  match (h.perform luck op).result with
  | .ok (.opened id) => op.asker?.map fun u => (u, id)
  | _ => none

/-- The tables that operations open for the users who ask for them. -/
def openings (h : Hall) : List (Luck × Operation) → List (UserId × TableId)
  | [] => []
  | (luck, op) :: ops => (h.opening? luck op).toList ++ (h.perform luck op).hall.openings ops

variable {h : Hall} {luck : Luck} {op : Operation} {ops : List (Luck × Operation)}
  {p : UserId × TableId}

theorem opening?_eq_some_iff :
    h.opening? luck op = some p ↔
      (h.perform luck op).result = .ok (.opened p.2) ∧ op.asker? = some p.1 := by
  rw [opening?]
  split
  · rename_i id hr
    rw [hr, Option.map_eq_some_iff]
    constructor
    · rintro ⟨u, hu, rfl⟩
      exact ⟨rfl, hu⟩
    · rintro ⟨hid, hu⟩
      cases hid
      exact ⟨p.1, hu, rfl⟩
  · rename_i hr
    exact ⟨fun hnone => (Option.some_ne_none p hnone.symm).elim, fun hp => absurd hp.1 (hr p.2)⟩

/-- An operation never takes back the number that the hall has ready. -/
theorem nextId_le_perform (h : Hall) (luck : Luck) (op : Operation) :
    h.nextId ≤ (h.perform luck op).hall.nextId := by
  obtain ⟨ts, hts, -⟩ := perform_changes h luck op
  exact (Changes.nextId_eq hts).symm ▸ Nat.le_add_right ..

theorem nextId_le_run (h : Hall) (ops : List (Luck × Operation)) :
    h.nextId ≤ (h.run ops).nextId := by
  induction ops generalizing h with
  | nil => exact Nat.le_refl _
  | cons op ops ih => exact Nat.le_trans (nextId_le_perform h op.1 op.2) (ih _)

theorem nextId_le_after {earlier : List (Luck × Operation)} (limits : Limits)
    (variants : List String) (hearlier : earlier <+: ops) :
    (after limits variants earlier).nextId ≤ (after limits variants ops).nextId := by
  obtain ⟨later, rfl⟩ := hearlier
  have hrun : after limits variants (earlier ++ later) =
      (after limits variants earlier).run later := run_append _ earlier later
  rw [hrun]
  exact nextId_le_run _ later

theorem number_of_opening? (hp : h.opening? luck op = some p) :
    h.nextId ≤ p.2.val ∧ p.2.val < (h.perform luck op).hall.nextId := by
  obtain ⟨ts, hts, hopened, -⟩ := perform_changes h luck op
  obtain ⟨t, ht, hid⟩ := hopened p.2 (opening?_eq_some_iff.1 hp).1
  exact hid ▸ Changes.number_of_mem hts ht

theorem nextId_le_of_mem_openings (hp : p ∈ h.openings ops) : h.nextId ≤ p.2.val := by
  induction ops generalizing h with
  | nil => cases hp
  | cons op ops ih =>
    rcases List.mem_append.1 hp with hp | hp
    · exact (number_of_opening? (Option.mem_toList.1 hp)).1
    · exact Nat.le_trans (nextId_le_perform ..) (ih hp)

/-- The numbers of the tables that are opened ascend. -/
theorem pairwise_openings (h : Hall) (ops : List (Luck × Operation)) :
    (h.openings ops).Pairwise fun p q => p.2 < q.2 := by
  induction ops generalizing h with
  | nil => exact .nil
  | cons op ops ih =>
    refine List.pairwise_append.2 ⟨?_, ih _, fun p hp q hq => ?_⟩
    · cases h.opening? op.1 op.2 with
      | none => exact .nil
      | some p => exact List.pairwise_singleton ..
    · exact Nat.lt_of_lt_of_le (number_of_opening? (Option.mem_toList.1 hp)).2
        (nextId_le_of_mem_openings hq)

/-- A table has one founder. -/
theorem founder_unique {u v : UserId} {id : TableId} (hu : (u, id) ∈ h.openings ops)
    (hv : (v, id) ∈ h.openings ops) : u = v := by
  have hnodup : ((h.openings ops).map Prod.snd).Nodup := by
    rw [List.Nodup, List.pairwise_map]
    refine (pairwise_openings h ops).imp fun hpq heq => ?_
    rw [TableId.lt_iff, heq] at hpq
    omega
  exact congrArg Prod.fst (List.inj_on_of_nodup_map hnodup hu hv rfl)

end Hall

end GameHall
