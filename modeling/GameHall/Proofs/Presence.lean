import GameHall.Presence
import Mathlib.Data.List.Sort

/-!
# The index of presence

An index is `Tidy` when its users ascend and every user has tables, which ascend too. Tidiness is
what makes `Presence.tablesOf` a view: on a tidy index `insert`, `erase` and `eraseTable` change the
tables of a user as they would change a set (`mem_tablesOf_insert`, `mem_tablesOf_erase`,
`mem_tablesOf_eraseTable`), and they keep the index tidy.
-/

namespace GameHall

/-! ## The order of users and tables -/

theorem UserId.lt_iff {a b : UserId} : a < b ↔ a.val.toNat < b.val.toNat :=
  UInt64.lt_iff_toNat_lt

theorem UserId.eq_iff {a b : UserId} : a = b ↔ a.val.toNat = b.val.toNat := by
  cases a
  cases b
  simp [UInt64.toNat_inj]

theorem TableId.lt_iff {a b : TableId} : a < b ↔ a.val < b.val := Iff.rfl

theorem TableId.eq_iff {a b : TableId} : a = b ↔ a.val = b.val := by
  cases a
  cases b
  simp

/-- Lists that ascend by a number and have the same entries are equal. -/
theorem eq_of_pairwise_lt {α : Type} {n : α → Nat} {xs ys : List α}
    (hx : xs.Pairwise fun a b => n a < n b) (hy : ys.Pairwise fun a b => n a < n b)
    (h : ∀ a, a ∈ xs ↔ a ∈ ys) : xs = ys := by
  have hirrefl : Std.Irrefl fun a b : α => n a < n b := ⟨fun a => Nat.lt_irrefl _⟩
  have hantisymm : Std.Antisymm fun a b : α => n a < n b :=
    ⟨fun _ _ hab hba => absurd hab (Nat.lt_asymm hba)⟩
  exact hx.eq_of_mem_iff hy fun a => h a

/-- Ascending lists with the same tables are equal. -/
theorem TableId.eq_of_ascending {xs ys : List TableId} (hx : xs.Pairwise fun a b => a < b)
    (hy : ys.Pairwise fun a b => a < b) (h : ∀ id, id ∈ xs ↔ id ∈ ys) : xs = ys :=
  eq_of_pairwise_lt hx hy h

namespace Presence

/-! ## Tidy indices -/

/-- Users ascend, and every user has tables, which ascend. -/
structure Tidy (p : Presence) : Prop where
  users : p.entries.Pairwise fun d e => d.1 < e.1
  tables : ∀ e ∈ p.entries, e.2.Pairwise fun a b => a < b
  inhabited : ∀ e ∈ p.entries, e.2 ≠ []

theorem tidy_empty : empty.Tidy := ⟨.nil, by simp [empty], by simp [empty]⟩

section Entries

variable {u v : UserId} {t : TableId} {es : List (UserId × List TableId)}

theorem lookup_cons {w : UserId} {xs : List TableId} :
    ((w, xs) :: es).lookup u = if u = w then some xs else es.lookup u := by
  by_cases h : u = w
  · simp [h]
  · have hbeq : (u == w) = false := by simpa using h
    simp [List.lookup_cons, hbeq, h]

theorem lookup_eq_none_of_lt (h : ∀ e ∈ es, u < e.1) : es.lookup u = none := by
  induction es with
  | nil => rfl
  | cons e es ih =>
    obtain ⟨w, xs⟩ := e
    have huw : u.val.toNat < w.val.toNat := UserId.lt_iff.1 (h _ List.mem_cons_self)
    rw [lookup_cons, if_neg (fun he => by rw [he] at huw; omega)]
    exact ih fun e he => h e (List.mem_cons_of_mem _ he)

/-- What `filterMap` does to the entry of a user when it keeps the users of entries. -/
theorem lookup_filterMap {f : UserId × List TableId → Option (UserId × List TableId)}
    (hf : ∀ e d, f e = some d → d.1 = e.1) (h : es.Pairwise fun d e => d.1 < e.1) :
    (es.filterMap f).lookup u = (es.lookup u).bind fun ts => (f (u, ts)).map Prod.snd := by
  induction es with
  | nil => simp
  | cons e es ih =>
    obtain ⟨w, xs⟩ := e
    rw [List.pairwise_cons] at h
    have hrest := ih h.2
    by_cases huw : u = w
    · subst huw
      rw [lookup_eq_none_of_lt h.1] at hrest
      cases hfe : f (u, xs) with
      | none => simp [hfe, hrest]
      | some d =>
        obtain ⟨w, ys⟩ := d
        obtain rfl : w = u := hf _ _ hfe
        simp [hfe]
    · cases hfe : f (w, xs) with
      | none => simp [lookup_cons, hfe, hrest, huw]
      | some d =>
        obtain ⟨w', ys⟩ := d
        obtain rfl : w' = w := hf _ _ hfe
        simp [lookup_cons, hfe, hrest, huw]

/-! ## Adding -/

theorem mem_insertTable {x : TableId} {ts : List TableId} :
    x ∈ insertTable t ts ↔ x = t ∨ x ∈ ts := by
  induction ts with
  | nil => simp [insertTable]
  | cons y ts ih =>
    simp only [insertTable]
    split
    · simp
    · split
      · rename_i hty
        simp [hty]
      · simp [ih, or_left_comm]

theorem pairwise_insertTable {ts : List TableId} (h : ts.Pairwise fun a b => a < b) :
    (insertTable t ts).Pairwise fun a b => a < b := by
  induction ts with
  | nil => simp [insertTable]
  | cons y ts ih =>
    rw [List.pairwise_cons] at h
    simp only [insertTable]
    split
    · rename_i hty
      refine List.pairwise_cons.2 ⟨fun x hx => ?_, List.pairwise_cons.2 h⟩
      rcases List.mem_cons.1 hx with rfl | hx
      · exact hty
      · exact Nat.lt_trans hty (h.1 x hx)
    · split
      · exact List.pairwise_cons.2 h
      · rename_i hle hne
        refine List.pairwise_cons.2 ⟨fun x hx => ?_, ih h.2⟩
        rcases mem_insertTable.1 hx with rfl | hx
        · simp only [TableId.lt_iff, TableId.eq_iff] at hle hne ⊢
          omega
        · exact h.1 x hx

theorem lookup_insertEntry (h : es.Pairwise fun d e => d.1 < e.1) :
    (insertEntry u t es).lookup v =
      if v = u then some (insertTable t ((es.lookup u).getD [])) else es.lookup v := by
  induction es with
  | nil => simp [insertEntry, lookup_cons, insertTable]
  | cons e es ih =>
    obtain ⟨w, xs⟩ := e
    simp only [insertEntry]
    split
    · rename_i huw
      have hnone : ((w, xs) :: es).lookup u = none := by
        refine lookup_eq_none_of_lt fun e he => ?_
        rcases List.mem_cons.1 he with rfl | he
        · exact huw
        · exact UInt64.lt_trans huw ((List.pairwise_cons.1 h).1 e he)
      rw [lookup_cons, hnone]
      rfl
    · split
      · rename_i huw
        subst huw
        simp only [lookup_cons, if_pos, Option.getD_some]
        split <;> rfl
      · rename_i huw
        simp only [lookup_cons, ih (List.pairwise_cons.1 h).2, if_neg huw]
        by_cases hvw : v = w
        · rw [if_pos hvw, if_pos hvw, if_neg fun he => huw (he.symm.trans hvw)]
        · rw [if_neg hvw, if_neg hvw]

theorem mem_insertEntry {d : UserId × List TableId} (hd : d ∈ insertEntry u t es) :
    d ∈ es ∨ d.1 = u ∧ ∃ ts, d.2 = insertTable t ts ∧ (ts = [] ∨ (u, ts) ∈ es) := by
  induction es with
  | nil =>
    obtain rfl : d = (u, [t]) := by simpa [insertEntry] using hd
    exact .inr ⟨rfl, [], rfl, .inl rfl⟩
  | cons e es ih =>
    simp only [insertEntry] at hd
    split at hd
    · rcases List.mem_cons.1 hd with rfl | hd
      · exact .inr ⟨rfl, [], rfl, .inl rfl⟩
      · exact .inl hd
    · split at hd
      · rename_i hue
        rcases List.mem_cons.1 hd with rfl | hd
        · exact .inr ⟨rfl, e.2, rfl, .inr (by simp [hue])⟩
        · exact .inl (List.mem_cons_of_mem _ hd)
      · rcases List.mem_cons.1 hd with rfl | hd
        · exact .inl List.mem_cons_self
        · rcases ih hd with hd | ⟨hu, ts, hts, hold⟩
          · exact .inl (List.mem_cons_of_mem _ hd)
          · exact .inr ⟨hu, ts, hts, hold.imp id (List.mem_cons_of_mem _)⟩

theorem pairwise_insertEntry (h : es.Pairwise fun d e => d.1 < e.1) :
    (insertEntry u t es).Pairwise fun d e => d.1 < e.1 := by
  induction es with
  | nil => simp [insertEntry]
  | cons e es ih =>
    have hall := h
    rw [List.pairwise_cons] at h
    simp only [insertEntry]
    split
    · rename_i hue
      refine List.pairwise_cons.2 ⟨fun d hd => ?_, hall⟩
      rcases List.mem_cons.1 hd with rfl | hd
      · exact hue
      · exact UInt64.lt_trans hue (h.1 d hd)
    · split
      · exact List.pairwise_cons.2 ⟨fun d hd => by rename_i hue; exact hue ▸ h.1 d hd, h.2⟩
      · rename_i hle hne
        refine List.pairwise_cons.2 ⟨fun d hd => ?_, ih h.2⟩
        rcases mem_insertEntry hd with hd | ⟨hu, -⟩
        · exact h.1 d hd
        · simp only [UserId.lt_iff, UserId.eq_iff, hu] at hle hne ⊢
          omega

end Entries

variable {p : Presence} {u v : UserId} {t id : TableId}

/-- The tables of a user ascend. -/
theorem Tidy.pairwise_tablesOf (h : p.Tidy) (u : UserId) :
    (p.tablesOf u).Pairwise fun a b => a < b := by
  rw [tablesOf]
  cases hu : p.entries.lookup u with
  | none => exact .nil
  | some ts =>
    obtain ⟨l, r, hes, -⟩ := List.lookup_eq_some_iff.1 hu
    exact h.tables (u, ts) (hes ▸ List.mem_append_right l List.mem_cons_self)

theorem Tidy.insert (h : p.Tidy) (u : UserId) (t : TableId) : (p.insert u t).Tidy where
  users := pairwise_insertEntry h.users
  tables := fun e he => by
    rcases mem_insertEntry he with he | ⟨-, ts, hts, rfl | hold⟩
    · exact h.tables e he
    · rw [hts]
      exact pairwise_insertTable .nil
    · rw [hts]
      exact pairwise_insertTable (h.tables _ hold)
  inhabited := fun e he => by
    rcases mem_insertEntry he with he | ⟨-, ts, hts, -⟩
    · exact h.inhabited e he
    · rw [hts]
      exact List.ne_nil_of_mem (mem_insertTable.2 (.inl rfl))

theorem mem_tablesOf_insert (h : p.Tidy) :
    id ∈ (p.insert u t).tablesOf v ↔ v = u ∧ id = t ∨ id ∈ p.tablesOf v := by
  simp only [tablesOf, Presence.insert, lookup_insertEntry h.users]
  by_cases hvu : v = u
  · simp [hvu, mem_insertTable]
  · simp [hvu]

/-! ## Removing -/

theorem without_eq_some {e d : UserId × List TableId} (h : without t e = some d) :
    d = (e.1, e.2.filter fun x => x != t) ∧ d.2 ≠ [] := by
  simp only [without] at h
  split at h
  · cases h
  · rename_i hne
    cases h
    exact ⟨rfl, hne⟩

theorem without_snd (e : UserId × List TableId) :
    ((without t e).map Prod.snd).getD [] = e.2.filter fun x => x != t := by
  simp only [without]
  split
  · rename_i hnil
    rw [hnil]
    rfl
  · rfl

theorem filterMap_user {f : UserId × List TableId → Option (UserId × List TableId)}
    (hf : ∀ e d, f e = some d → d = e ∨ without t e = some d) {e d : UserId × List TableId}
    (h : f e = some d) : d.1 = e.1 := by
  rcases hf e d h with rfl | hw
  · rfl
  · rw [(without_eq_some hw).1]

/-- Entries may lose tables or go. -/
theorem Tidy.filterMap (h : p.Tidy) {f : UserId × List TableId → Option (UserId × List TableId)}
    (hf : ∀ e d, f e = some d → d = e ∨ without t e = some d) :
    Tidy ⟨p.entries.filterMap f⟩ where
  users := by
    refine h.users.filterMap f fun a b hab a' ha' b' hb' => ?_
    rw [filterMap_user hf ha', filterMap_user hf hb']
    exact hab
  tables := fun d hd => by
    obtain ⟨e, he, hed⟩ := List.mem_filterMap.1 hd
    rcases hf e d hed with rfl | hw
    · exact h.tables _ he
    · rw [(without_eq_some hw).1]
      exact (h.tables e he).filter _
  inhabited := fun d hd => by
    obtain ⟨e, he, hed⟩ := List.mem_filterMap.1 hd
    rcases hf e d hed with rfl | hw
    · exact h.inhabited _ he
    · exact (without_eq_some hw).2

theorem eq_or_without {e d : UserId × List TableId}
    (h : (if e.1 = u then without t e else some e) = some d) : d = e ∨ without t e = some d := by
  split at h
  · exact .inr h
  · exact .inl (Option.some.inj h).symm

theorem Tidy.erase (h : p.Tidy) (u : UserId) (t : TableId) : (p.erase u t).Tidy :=
  h.filterMap fun _ _ => eq_or_without

theorem Tidy.eraseTable (h : p.Tidy) (t : TableId) : (p.eraseTable t).Tidy :=
  h.filterMap fun _ _ => .inr

theorem mem_tablesOf_erase (h : p.Tidy) :
    id ∈ (p.erase u t).tablesOf v ↔ id ∈ p.tablesOf v ∧ ¬(v = u ∧ id = t) := by
  have hlook : (p.erase u t).entries.lookup v = _ :=
    lookup_filterMap (fun _ _ => filterMap_user fun _ _ => eq_or_without) h.users
  simp only [tablesOf, hlook]
  cases p.entries.lookup v with
  | none => simp
  | some ts =>
    by_cases hvu : v = u
    · simp [hvu, without_snd]
    · simp [hvu]

theorem mem_tablesOf_eraseTable (h : p.Tidy) :
    id ∈ (p.eraseTable t).tablesOf v ↔ id ∈ p.tablesOf v ∧ id ≠ t := by
  have hlook : (p.eraseTable t).entries.lookup v = _ :=
    lookup_filterMap (fun _ _ => filterMap_user (f := without t) fun _ _ => .inr) h.users
  simp only [tablesOf, hlook]
  cases p.entries.lookup v with
  | none => simp
  | some ts => simp [without_snd]

/-! ## Equality -/

variable {q : Presence}

/-- An entry holds all tables of its user, and nothing else is an entry. -/
theorem Tidy.mem_entries_iff (h : p.Tidy) {e : UserId × List TableId} :
    e ∈ p.entries ↔ e.2 ≠ [] ∧ p.tablesOf e.1 = e.2 := by
  constructor
  · intro he
    obtain ⟨l, r, hes⟩ := List.append_of_mem he
    have hbefore : ∀ d ∈ l, (e.1 != d.1) = true := fun d hd => by
      have hde : d.1 < e.1 :=
        (List.pairwise_append.1 (hes ▸ h.users)).2.2 d hd e List.mem_cons_self
      rw [bne_iff_ne]
      intro heq
      rw [heq, UserId.lt_iff] at hde
      exact Nat.lt_irrefl _ hde
    have hlook : p.entries.lookup e.1 = some e.2 := List.lookup_eq_some_iff.2 ⟨l, r, hes, hbefore⟩
    exact ⟨h.inhabited e he, by rw [tablesOf, hlook, Option.getD_some]⟩
  · rintro ⟨hne, heq⟩
    rw [tablesOf] at heq
    cases hlook : p.entries.lookup e.1 with
    | none =>
      rw [hlook] at heq
      exact absurd heq.symm hne
    | some ts =>
      rw [hlook, Option.getD_some] at heq
      obtain ⟨l, r, hes, -⟩ := List.lookup_eq_some_iff.1 hlook
      rw [hes, heq]
      exact List.mem_append_right l List.mem_cons_self

/-- **Tidy indices are equal** if they note the same users at the same tables. -/
theorem Tidy.ext (hp : p.Tidy) (hq : q.Tidy)
    (h : ∀ u id, id ∈ p.tablesOf u ↔ id ∈ q.tablesOf u) : p = q := by
  have htables : ∀ u, p.tablesOf u = q.tablesOf u := fun u =>
    TableId.eq_of_ascending (hp.pairwise_tablesOf u) (hq.pairwise_tablesOf u) (h u)
  have hentries : p.entries = q.entries :=
    eq_of_pairwise_lt (n := fun e => e.1.val.toNat) hp.users hq.users fun e => by
      rw [hp.mem_entries_iff, hq.mem_entries_iff, htables]
  cases p
  cases q
  exact congrArg Presence.mk hentries

/-- A user who is noted again after going is noted as before. -/
theorem Tidy.insert_erase (h : p.Tidy) (hmem : t ∈ p.tablesOf u) : (p.erase u t).insert u t = p := by
  refine ((h.erase u t).insert u t).ext h fun v id => ?_
  rw [mem_tablesOf_insert (h.erase u t), mem_tablesOf_erase h]
  constructor
  · rintro (⟨rfl, rfl⟩ | ⟨hid, -⟩)
    · exact hmem
    · exact hid
  · intro hid
    by_cases hnoted : v = u ∧ id = t
    · exact .inl hnoted
    · exact .inr ⟨hid, hnoted⟩

/-- Nobody who is elsewhere is taken off a table. -/
theorem Tidy.erase_of_not_mem (h : p.Tidy) (hnot : t ∉ p.tablesOf u) : p.erase u t = p := by
  refine (h.erase u t).ext h fun v id => ?_
  rw [mem_tablesOf_erase h]
  refine and_iff_left_of_imp fun hid => ?_
  rintro ⟨rfl, rfl⟩
  exact hnot hid

end Presence

end GameHall
