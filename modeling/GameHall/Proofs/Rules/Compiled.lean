import Mathlib.Data.List.Forall2
import Mathlib.Data.List.Nodup
import Mathlib.Data.List.Perm.Subperm
import GameHall.Rules.Variant

/-!
# Compiled variants

What comes of a list of entries. `VariantEntry.Declares` says that a variant is what an entry
declares. `Compiled` is kept by every entry that is compiled behind others: there is one variant for
each entry, in order, and names and numbers tell the variants apart. So does what comes of a whole
list (`compiled_of_extend`), and a lookup by name or by number finds whoever bears it
(`Compiled.byName?_eq_some_iff`, `Compiled.byId?_eq_some_iff`).

Numbers are words of 32 bits. As they tell the variants apart, there are no more variants than words,
so that counting in words leaves no number out (`Compiled.missingId?_eq`).
-/

namespace GameHall.Rules

variable {suits : SuitBook} {colors : ColorBook} {r : VariantEntry} {rs : List VariantEntry}
  {v : Variant} {vs : List Variant} {name : String} {id : Nat}

/-! ## Lookups -/

theorem ColorBook.contains_iff : colors.contains name = true ↔ name ∈ colors.names := by
  simp [ColorBook.contains, ColorBook.get?, ColorBook.names]

/-- The colors that a book does not contain are those of no name in it. -/
theorem ColorBook.not_contains_eq (colors : ColorBook) :
    (fun c => !colors.contains c) = fun c => decide (c ∉ colors.names) := by
  funext c
  rw [Bool.eq_iff_iff, decide_eq_true_iff, ← ColorBook.contains_iff, Bool.not_eq_true',
    Bool.not_eq_true]

theorem SuitBook.isSome_get?_iff : (suits.get? name).isSome = true ↔ name ∈ suits.names := by
  simp [SuitBook.get?, SuitBook.names]

theorem isSome_byName?_iff : (byName? vs name).isSome = true ↔ name ∈ vs.map Variant.name := by
  simp [byName?]

theorem isSome_byId?_iff : (byId? vs id).isSome = true ↔ id ∈ vs.map Variant.id := by
  simp [byId?]

/-- Where no key occurs twice, looking a key up finds whoever has it. -/
theorem find?_key_eq_some_iff {α κ : Type} [DecidableEq κ] {key : α → κ} {l : List α} {a : α} {k : κ}
    (h : (l.map key).Nodup) : (l.find? fun x => key x == k) = some a ↔ a ∈ l ∧ key a = k := by
  constructor
  · intro here
    exact ⟨List.mem_of_find?_eq_some here, by simpa using List.find?_some here⟩
  · rintro ⟨ha, rfl⟩
    obtain ⟨b, hb⟩ : ∃ b, (l.find? fun x => key x == key a) = some b :=
      Option.isSome_iff_exists.1 (List.find?_isSome.2 ⟨a, ha, beq_self_eq_true _⟩)
    have hkey : key b = key a := by simpa using List.find?_some hb
    rw [hb, List.inj_on_of_nodup_map h (List.mem_of_find?_eq_some hb) ha hkey]

theorem map_eq_of_forall₂ {α β γ : Type} {f : α → γ} {g : β → γ} {l : List α} {m : List β}
    (h : List.Forall₂ (fun a b => g b = f a) l m) : m.map g = l.map f := by
  induction h with
  | nil => rfl
  | cons hab _ ih => rw [List.map_cons, List.map_cons, hab, ih]

theorem exists_of_forall₂ {α β : Type} {R : α → β → Prop} {l : List α} {m : List β} {a : α}
    (h : List.Forall₂ R l m) (ha : a ∈ l) : ∃ b ∈ m, R a b := by
  induction h with
  | nil => exact absurd ha List.not_mem_nil
  | cons hab _ ih =>
    obtain rfl | ha := List.mem_cons.1 ha
    · exact ⟨_, List.mem_cons_self, hab⟩
    · obtain ⟨b, hb, hab⟩ := ih ha
      exact ⟨b, List.mem_cons_of_mem _ hb, hab⟩

/-! ## One entry -/

theorem variant?_eq_ok_iff :
    r.variant? id suits colors = .ok v ↔
      r.suits ≠ [] ∧ ∃ ss, r.suits? suits r.suits = .ok ss ∧
        ∃ cs, r.clueColors? ss colors = .ok cs ∧
          ∃ rank, r.specialRank? = .ok rank ∧ r.assemble id ss cs rank = v := by
  unfold VariantEntry.variant?
  split
  · simp_all
  · rename_i hsuits
    cases r.suits? suits r.suits with
    | error f => simp
    | ok ss =>
      dsimp only
      cases hcs : r.clueColors? ss colors with
      | error f => simp [hcs]
      | ok cs =>
        dsimp only
        cases r.specialRank? <;> simp [hsuits, hcs]

/-- A variant is what an entry declares. -/
structure VariantEntry.Declares (suits : SuitBook) (colors : ColorBook) (r : VariantEntry)
    (v : Variant) : Prop where
  id_nonneg : 0 ≤ r.id
  id_lt : r.id < UInt32.size
  variant?_eq : r.variant? r.id.toNat suits colors = .ok v

namespace VariantEntry.Declares

theorem name_eq (h : r.Declares suits colors v) : v.name = r.name := by
  obtain ⟨-, ss, -, cs, -, rank, -, rfl⟩ := variant?_eq_ok_iff.1 h.variant?_eq
  rfl

theorem id_eq (h : r.Declares suits colors v) : (v.id : Int) = r.id := by
  obtain ⟨-, ss, -, cs, -, rank, -, rfl⟩ := variant?_eq_ok_iff.1 h.variant?_eq
  exact Int.toNat_of_nonneg h.id_nonneg

theorem toNat_id (h : r.Declares suits colors v) : r.id.toNat = v.id := by
  rw [← h.id_eq, Int.toNat_natCast]

end VariantEntry.Declares

/-- An entry behind others compiles if and only if its name and its number are new and it compiles
on its own. -/
theorem next?_eq_ok_iff :
    VariantBook.next? vs suits colors r = .ok v ↔
      r.name ≠ "" ∧ r.name ∉ vs.map Variant.name ∧ r.id.toNat ∉ vs.map Variant.id ∧
        r.Declares suits colors v := by
  unfold VariantBook.next?
  simp only [isSome_byName?_iff, isSome_byId?_iff]
  split_ifs with hname htaken hrange hid
  · simp [hname]
  · simp [htaken]
  · simp only [false_iff]
    rintro ⟨-, -, -, h⟩
    have hnonneg := h.id_nonneg
    have hlt := h.id_lt
    omega
  · simp [hid]
  · rw [not_or, Int.not_lt, Int.not_le] at hrange
    exact ⟨fun h => ⟨hname, htaken, hid, hrange.1, hrange.2, h⟩, fun h => h.2.2.2.variant?_eq⟩

/-! ## A list of entries -/

/-- The variants `vs` are what comes of the entries `rs`. -/
structure Compiled (suits : SuitBook) (colors : ColorBook) (rs : List VariantEntry)
    (vs : List Variant) : Prop where
  declares : List.Forall₂ (VariantEntry.Declares suits colors) rs vs
  names_nodup : (vs.map Variant.name).Nodup
  ids_nodup : (vs.map Variant.id).Nodup

theorem compiled_nil : Compiled suits colors [] [] := ⟨.nil, List.nodup_nil, List.nodup_nil⟩

theorem Compiled.next (h : Compiled suits colors rs vs)
    (hnext : VariantBook.next? vs suits colors r = .ok v) :
    Compiled suits colors (rs ++ [r]) (vs ++ [v]) := by
  obtain ⟨-, hname, hid, hdeclares⟩ := next?_eq_ok_iff.1 hnext
  rw [← hdeclares.name_eq] at hname
  rw [hdeclares.toNat_id] at hid
  exact {
    declares := List.rel_append h.declares (.cons hdeclares .nil)
    names_nodup := by simpa [List.nodup_append, h.names_nodup] using hname
    ids_nodup := by simpa [List.nodup_append, h.ids_nodup] using hid }

theorem Compiled.extend {before : List VariantEntry} {ws : List Variant}
    (h : Compiled suits colors before vs)
    (hextend : VariantBook.extend vs suits colors rs = .ok ws) :
    Compiled suits colors (before ++ rs) ws := by
  induction rs generalizing before vs with
  | nil =>
    obtain rfl : vs = ws := Except.ok.inj hextend
    rwa [List.append_nil]
  | cons r rs ih =>
    rw [VariantBook.extend] at hextend
    cases hnext : VariantBook.next? vs suits colors r with
    | error f => exact absurd (hnext ▸ hextend) nofun
    | ok v =>
      rw [hnext] at hextend
      rw [← List.singleton_append, ← List.append_assoc]
      exact ih (h.next hnext) hextend

theorem compiled_of_extend (h : VariantBook.extend [] suits colors rs = .ok vs) :
    Compiled suits colors rs vs :=
  compiled_nil.extend h

theorem of_compile_eq_ok {b : VariantBook} (h : VariantBook.compile rs suits colors = .ok b) :
    Compiled suits colors rs b.variants ∧ VariantBook.missingId? b.variants = none ∧
      byName? b.variants defaultName = some b.default := by
  unfold VariantBook.compile at h
  split at h
  · exact absurd h nofun
  · rename_i vs hextend
    split at h
    · exact absurd h nofun
    · rename_i hmissing
      split at h
      · exact absurd h nofun
      · rename_i v hdefault
        obtain rfl := Except.ok.inj h
        exact ⟨compiled_of_extend hextend, hmissing, hdefault⟩

namespace Compiled

theorem map_name (h : Compiled suits colors rs vs) :
    vs.map Variant.name = rs.map VariantEntry.name :=
  map_eq_of_forall₂ (h.declares.imp fun _ _ hr => hr.name_eq)

theorem map_id (h : Compiled suits colors rs vs) :
    (vs.map Variant.id).map Int.ofNat = rs.map VariantEntry.id := by
  rw [List.map_map]
  exact map_eq_of_forall₂ (h.declares.imp fun _ _ hr => hr.id_eq)

theorem length_eq (h : Compiled suits colors rs vs) : vs.length = rs.length :=
  h.declares.length_eq.symm

/-! ## Numbers -/

theorem mem_ids_iff (h : Compiled suits colors rs vs) :
    id ∈ vs.map Variant.id ↔ (id : Int) ∈ rs.map VariantEntry.id := by
  rw [← h.map_id]
  exact (List.mem_map_of_injective fun _ _ => Int.ofNat.inj).symm

theorem id_lt (h : Compiled suits colors rs vs) (hid : id ∈ vs.map Variant.id) :
    id < UInt32.size := by
  obtain ⟨r, hr, hrid⟩ := List.mem_map.1 (h.mem_ids_iff.1 hid)
  obtain ⟨v, -, hdeclares⟩ := exists_of_forall₂ h.declares hr
  have hlt := hdeclares.id_lt
  omega

/-- There are no more variants than words of 32 bits. -/
theorem length_le (h : Compiled suits colors rs vs) : vs.length ≤ UInt32.size := by
  have hsub : vs.map Variant.id ⊆ List.range UInt32.size := fun _ hid =>
    List.mem_range.2 (h.id_lt hid)
  have hle := (List.subperm_of_subset h.ids_nodup hsub).length_le
  rwa [List.length_map, List.length_range] at hle

/-- Counting in words leaves no number out. -/
theorem missingId?_eq (h : Compiled suits colors rs vs) :
    VariantBook.missingId? vs =
      (List.range rs.length).find? fun k : Nat => ↑k ∉ rs.map VariantEntry.id := by
  have hwords : (List.range vs.length).map (· % UInt32.size) = List.range vs.length := by
    refine (List.map_congr_left fun k hk => ?_).trans (List.map_id _)
    exact Nat.mod_eq_of_lt (Nat.lt_of_lt_of_le (List.mem_range.1 hk) h.length_le)
  have hmissing : (fun k => (byId? vs k).isNone) =
      fun k : Nat => decide (↑k ∉ rs.map VariantEntry.id) := by
    funext k
    rw [Bool.eq_iff_iff, decide_eq_true_iff, ← h.mem_ids_iff, ← isSome_byId?_iff]
    simp
  rw [VariantBook.missingId?, hwords, hmissing, h.length_eq]

end Compiled

/-- Whole numbers among which all those below their count occur are no others. -/
theorem mem_iff_of_complete {ids : List Int} (h : ∀ k < ids.length, (k : Int) ∈ ids) (k : Int) :
    k ∈ ids ↔ 0 ≤ k ∧ k < ids.length := by
  have hnodup : ((List.range ids.length).map Int.ofNat).Nodup :=
    List.nodup_range.map fun _ _ => Int.ofNat.inj
  have hsub : (List.range ids.length).map Int.ofNat ⊆ ids := by
    intro k hk
    obtain ⟨n, hn, rfl⟩ := List.mem_map.1 hk
    exact h n (List.mem_range.1 hn)
  have hperm : ((List.range ids.length).map Int.ofNat).Perm ids :=
    (List.subperm_of_subset hnodup hsub).perm_of_length_le (by simp)
  rw [← hperm.mem_iff, List.mem_map]
  constructor
  · rintro ⟨n, hn, rfl⟩
    exact ⟨Int.natCast_nonneg n, Int.ofNat_lt.2 (List.mem_range.1 hn)⟩
  · rintro ⟨hnonneg, hlt⟩
    exact ⟨k.toNat, List.mem_range.2 (by omega), Int.toNat_of_nonneg hnonneg⟩

end GameHall.Rules
