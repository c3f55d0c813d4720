import GameHall.Proofs.Rules.Compiled

/-!
# What colors and suits declare

Colors and suits are compiled entry by entry, each against those before it. Which lists of entries
are accepted can be said without the order: `ColorBook.compile_eq_ok_iff` asks for names that are
not empty and all differ, and `SuitBook.compile_eq_ok_iff` asks it of everything that is declared,
twins included, and of the colors that they are known. What comes of a list is then everything that
its entries declare, one behind the other.

* `SuitEntry.touching` are the colors that are to touch a suit, `SuitEntry.declared` the suit that
  they touch and its twin.
-/

namespace GameHall.Rules

variable {name : String} {cs : List String}

/-! ## Colors -/

namespace ColorBook

variable {b b' : ColorBook} {r : ColorEntry} {rs : List ColorEntry}

theorem fault?_eq_none_iff : b.fault? r = none ↔ r.name ≠ "" ∧ r.name ∉ b.names := by
  unfold fault?
  rw [← contains_iff]
  split_ifs with hname htaken
  · simp [hname]
  · simp [htaken]
  · simp [hname, htaken]

/-- The names that are new to a book are not those of the entry, once it is in the book. -/
theorem not_mem_names_append_iff :
    name ∉ (ColorBook.mk (b.colors ++ [r.color])).names ↔ name ∉ b.names ∧ name ≠ r.name := by
  simp [names, ColorEntry.color]

theorem extend_eq_ok_iff :
    b.extend rs = .ok b' ↔
      (∀ r ∈ rs, r.name ≠ "" ∧ r.name ∉ b.names) ∧ (rs.map ColorEntry.name).Nodup ∧
        b' = ⟨b.colors ++ rs.map ColorEntry.color⟩ := by
  induction rs generalizing b with
  | nil => simpa [extend] using eq_comm
  | cons r rs ih =>
    rw [extend]
    cases hr : b.fault? r with
    | some f =>
      have hfault : ¬(r.name ≠ "" ∧ r.name ∉ b.names) := by
        rw [← fault?_eq_none_iff, hr]
        exact nofun
      exact ⟨nofun, fun h => absurd (h.1 r List.mem_cons_self) hfault⟩
    | none =>
      have hfits := fault?_eq_none_iff.1 hr
      simp only [ih, not_mem_names_append_iff, List.forall_mem_cons, List.map_cons,
        List.nodup_cons, List.append_assoc, List.singleton_append]
      constructor
      · rintro ⟨hrs, hnodup, rfl⟩
        refine ⟨⟨hfits, fun r' hr' => ⟨(hrs r' hr').1, (hrs r' hr').2.1⟩⟩, ⟨?_, hnodup⟩, rfl⟩
        intro hmem
        obtain ⟨r', hr', heq⟩ := List.mem_map.1 hmem
        exact (hrs r' hr').2.2 heq
      · rintro ⟨⟨-, hrs⟩, ⟨hnew, hnodup⟩, rfl⟩
        refine ⟨fun r' hr' => ⟨(hrs r' hr').1, (hrs r' hr').2, fun heq => hnew ?_⟩, hnodup, rfl⟩
        exact heq ▸ List.mem_map_of_mem hr'

/-- A list of colors is accepted if and only if no name is empty and no name occurs twice. -/
theorem compile_eq_ok_iff :
    compile rs = .ok b ↔
      (∀ r ∈ rs, r.name ≠ "") ∧ (rs.map ColorEntry.name).Nodup ∧
        b = ⟨rs.map ColorEntry.color⟩ := by
  simp [compile, extend_eq_ok_iff, names]

theorem names_of_compile (h : compile rs = .ok b) : b.names = rs.map ColorEntry.name := by
  obtain ⟨-, -, rfl⟩ := compile_eq_ok_iff.1 h
  exact List.map_map

end ColorBook

/-! ## Suits -/

namespace SuitEntry

variable {colors : ColorBook} {r : SuitEntry}

/-- The colors that are to touch a declared suit, whether they are known or not. -/
def touching (r : SuitEntry) : List String :=
  r.clueColors.getD (if r.allClueColors || r.noClueColors then [] else [r.name])

/-- The suit that an entry declares and, if it has one, its twin. -/
def declared (r : SuitEntry) : List Suit := r.suits r.touching

theorem clueColors?_eq_ok_iff :
    r.clueColors? colors = .ok cs ↔ (∀ c ∈ r.touching, c ∈ colors.names) ∧ cs = r.touching := by
  unfold clueColors? touching
  cases r.clueColors with
  | some explicit =>
    dsimp only [Option.getD_some]
    rw [ColorBook.not_contains_eq]
    cases hknown : explicit.find? fun c => decide (c ∉ colors.names) with
    | some c =>
      have hc : c ∉ colors.names := by simpa using List.find?_some hknown
      simp only [reduceCtorEq, false_iff, not_and]
      exact fun hall => absurd (hall c (List.mem_of_find?_eq_some hknown)) hc
    | none =>
      have hall : ∀ c ∈ explicit, c ∈ colors.names := by simpa using List.find?_eq_none.1 hknown
      exact ⟨fun h => ⟨hall, (Except.ok.inj h).symm⟩, fun h => congrArg Except.ok h.2.symm⟩
  | none =>
    dsimp only [Option.getD_none]
    split_ifs with hnone hname
    · simp [eq_comm]
    · simp [ColorBook.contains_iff.1 hname, eq_comm]
    · simp [mt ColorBook.contains_iff.2 hname]

/-- What an entry must be like on its own. -/
structure Fits (colors : ColorBook) (r : SuitEntry) : Prop where
  named : r.name ≠ ""
  known : ∀ c ∈ r.touching, c ∈ colors.names

end SuitEntry

namespace SuitBook

variable {colors : ColorBook} {b b' : SuitBook} {r : SuitEntry} {rs : List SuitEntry} {s : Suit}
  {ss : List Suit}

theorem contains_iff : b.contains name = true ↔ name ∈ b.names := isSome_get?_iff

theorem not_mem_names_append_iff :
    name ∉ (SuitBook.mk (b.suits ++ ss)).names ↔ name ∉ b.names ∧ name ∉ ss.map Suit.name := by
  simp [names]

theorem insertAll_eq_ok_iff :
    b.insertAll ss = .ok b' ↔
      (∀ s ∈ ss, s.name ∉ b.names) ∧ (ss.map Suit.name).Nodup ∧ b' = ⟨b.suits ++ ss⟩ := by
  induction ss generalizing b with
  | nil => simpa [insertAll] using eq_comm
  | cons s ss ih =>
    rw [insertAll]
    by_cases htaken : b.contains s.name = true
    · simp [htaken, contains_iff.1 htaken]
    · have hnew : s.name ∉ b.names := mt contains_iff.2 htaken
      simp only [htaken, Bool.false_eq_true, if_false, ih, not_mem_names_append_iff,
        List.forall_mem_cons, List.map_cons, List.nodup_cons, List.append_assoc,
        List.singleton_append, List.map_nil, List.mem_singleton]
      constructor
      · rintro ⟨hss, hnodup, rfl⟩
        refine ⟨⟨hnew, fun s' hs' => (hss s' hs').1⟩, ⟨?_, hnodup⟩, rfl⟩
        intro hmem
        obtain ⟨s', hs', heq⟩ := List.mem_map.1 hmem
        exact (hss s' hs').2 heq
      · rintro ⟨⟨-, hss⟩, ⟨hfirst, hnodup⟩, rfl⟩
        refine ⟨fun s' hs' => ⟨hss s' hs', fun heq => hfirst ?_⟩, hnodup, rfl⟩
        exact heq ▸ List.mem_map_of_mem hs'

theorem insertEntry_eq_ok_iff :
    b.insertEntry colors r = .ok b' ↔
      r.Fits colors ∧ (∀ s ∈ r.declared, s.name ∉ b.names) ∧
        (r.declared.map Suit.name).Nodup ∧ b' = ⟨b.suits ++ r.declared⟩ := by
  unfold insertEntry
  split_ifs with hname
  · exact ⟨nofun, fun h => absurd hname h.1.named⟩
  · cases hcs : r.clueColors? colors with
    | error f =>
      refine ⟨nofun, ?_⟩
      rintro ⟨hfits, -⟩
      have hok := SuitEntry.clueColors?_eq_ok_iff.2 ⟨hfits.known, rfl⟩
      exact absurd (hok.symm.trans hcs) nofun
    | ok cs =>
      obtain ⟨hknown, rfl⟩ := SuitEntry.clueColors?_eq_ok_iff.1 hcs
      have hfits : r.Fits colors := ⟨hname, hknown⟩
      dsimp only
      rw [insertAll_eq_ok_iff]
      exact ⟨fun h => ⟨hfits, h⟩, And.right⟩

theorem extend_eq_ok_iff :
    b.extend colors rs = .ok b' ↔
      (∀ r ∈ rs, r.Fits colors) ∧ (∀ s ∈ rs.flatMap SuitEntry.declared, s.name ∉ b.names) ∧
        ((rs.flatMap SuitEntry.declared).map Suit.name).Nodup ∧
          b' = ⟨b.suits ++ rs.flatMap SuitEntry.declared⟩ := by
  induction rs generalizing b with
  | nil => simpa [extend] using eq_comm
  | cons r rs ih =>
    rw [extend]
    cases hr : b.insertEntry colors r with
    | error f =>
      simp only [List.forall_mem_cons, List.flatMap_cons, List.forall_mem_append, List.map_append,
        List.nodup_append]
      refine ⟨nofun, ?_⟩
      rintro ⟨⟨hfits, -⟩, ⟨hnew, -⟩, ⟨hnodup, -⟩, -⟩
      exact absurd ((insertEntry_eq_ok_iff.2 ⟨hfits, hnew, hnodup, rfl⟩).symm.trans hr) nofun
    | ok b₁ =>
      obtain ⟨hfits, hnew, hnodup, rfl⟩ := insertEntry_eq_ok_iff.1 hr
      simp only [ih, not_mem_names_append_iff, List.forall_mem_cons, List.flatMap_cons,
        List.forall_mem_append, List.map_append, List.nodup_append, List.append_assoc]
      constructor
      · rintro ⟨hrs, hapart, hrest, rfl⟩
        refine ⟨⟨hfits, hrs⟩, ⟨hnew, fun s hs => (hapart s hs).1⟩, ⟨hnodup, hrest, ?_⟩, rfl⟩
        rintro n hn m hm rfl
        obtain ⟨s, hs, rfl⟩ := List.mem_map.1 hm
        exact (hapart s hs).2 hn
      · rintro ⟨⟨-, hrs⟩, ⟨-, hapart⟩, ⟨-, hrest, hdisjoint⟩, rfl⟩
        refine ⟨hrs, fun s hs => ⟨hapart s hs, fun hn => ?_⟩, hrest, rfl⟩
        exact hdisjoint s.name hn s.name (List.mem_map_of_mem hs) rfl

/-- A list of suits is accepted if and only if every entry fits on its own and no name occurs twice
among all that is declared. -/
theorem compile_eq_ok_iff :
    compile rs colors = .ok b ↔
      (∀ r ∈ rs, r.Fits colors) ∧ ((rs.flatMap SuitEntry.declared).map Suit.name).Nodup ∧
        b = ⟨rs.flatMap SuitEntry.declared⟩ := by
  simp [compile, extend_eq_ok_iff, names]

end SuitBook

end GameHall.Rules
