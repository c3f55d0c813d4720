import GameHall.Proofs.Rules.Declared
import GameHall.Proofs.Rules.Faults

/-!
# Suits and their twins

A list of suits declares more names than it has entries: a twin has the name of its suit with
" Reversed" behind it, and may meet a name that is declared before it or behind it, on its own or as
another twin. `SuitEntry.expanded` are the names that an entry declares. `ValidSuits` says what a
list must be like for a book to be made of it, and `SuitEntry.faults` collects what is wrong with an
entry that comes behind others: its own faults come first, then the names that are taken.

Compiling gets past the entries of a valid list (`SuitBook.compile_eq_ok_iff`) and stops at the first
entry with a fault (`SuitBook.extend_eq_error_iff`), with the first of its faults
(`SuitBook.reports_insertEntry`). `SuitBook.compile_twins` puts this together.
-/

namespace GameHall.Rules

/-! ## Names and faults -/

namespace SuitEntry

/-- The names that an entry declares. -/
def expanded (r : SuitEntry) : List String :=
  if r.createReversed then [r.name, r.name ++ " Reversed"] else [r.name]

/-- What is wrong with an entry on its own. -/
def ownFaults (colors : ColorBook) (r : SuitEntry) : List Fault :=
  (if r.name = "" then [.nameless .suit] else []) ++
  (r.touching.filter (· ∉ colors.names)).map (.noSuchColor r.name)

/-- What is wrong with an entry that comes behind the entries `before`. -/
def faults (colors : ColorBook) (before : List SuitEntry) (r : SuitEntry) : List Fault :=
  r.ownFaults colors ++
  (r.expanded.filter (· ∈ before.flatMap expanded)).map (.nameTaken .suit)

end SuitEntry

/-- What a list of suits must be like. -/
structure ValidSuits (colors : ColorBook) (rs : List SuitEntry) : Prop where
  named : ∀ r ∈ rs, r.name ≠ ""
  names_nodup : (rs.flatMap SuitEntry.expanded).Nodup
  /-- Colors that are given are known. -/
  colors_known : ∀ r ∈ rs, ∀ cs, r.clueColors = some cs → ∀ c ∈ cs, c ∈ colors.names
  /-- A suit that says nothing of colors has the name of one. -/
  name_known : ∀ r ∈ rs, r.clueColors = none → r.allClueColors = false → r.noClueColors = false →
    r.name ∈ colors.names

variable {colors : ColorBook} {r : SuitEntry} {rs before : List SuitEntry} {s : Suit}
  {ss : List Suit} {b b' : SuitBook} {f : Fault} {name : String}

/-! ## What an entry declares -/

namespace SuitEntry

theorem map_name_declared (r : SuitEntry) : r.declared.map Suit.name = r.expanded := by
  unfold declared suits expanded
  cases r.createReversed <;> rfl

theorem map_name_flatMap_declared (rs : List SuitEntry) :
    (rs.flatMap declared).map Suit.name = rs.flatMap expanded := by
  simp only [List.map_flatMap, map_name_declared]

/-- A suit and its twin differ in their names. -/
theorem expanded_nodup (r : SuitEntry) : r.expanded.Nodup := by
  have hlonger : r.name ≠ r.name ++ " Reversed" := by
    intro heq
    have hlength := congrArg String.length heq
    rw [String.length_append] at hlength
    have hsuffix : " Reversed".length = 9 := rfl
    omega
  unfold expanded
  split <;> simp [hlonger]

theorem forall_mem_touching_iff :
    (∀ c ∈ r.touching, c ∈ colors.names) ↔
      (∀ cs, r.clueColors = some cs → ∀ c ∈ cs, c ∈ colors.names) ∧
        (r.clueColors = none → r.allClueColors = false → r.noClueColors = false →
          r.name ∈ colors.names) := by
  unfold touching
  cases r.clueColors <;> cases r.allClueColors <;> cases r.noClueColors <;> simp

end SuitEntry

/-- A list of suits is valid if and only if each entry fits on its own and the names of all that is
declared differ. -/
theorem validSuits_iff :
    ValidSuits colors rs ↔
      (∀ r ∈ rs, r.Fits colors) ∧ ((rs.flatMap SuitEntry.declared).map Suit.name).Nodup := by
  rw [SuitEntry.map_name_flatMap_declared]
  constructor
  · intro h
    refine ⟨fun r hr => ⟨h.named r hr, ?_⟩, h.names_nodup⟩
    exact SuitEntry.forall_mem_touching_iff.2 ⟨h.colors_known r hr, h.name_known r hr⟩
  · rintro ⟨hfits, hnodup⟩
    exact {
      named := fun r hr => (hfits r hr).named
      names_nodup := hnodup
      colors_known := fun r hr => (SuitEntry.forall_mem_touching_iff.1 (hfits r hr).known).1
      name_known := fun r hr => (SuitEntry.forall_mem_touching_iff.1 (hfits r hr).known).2 }

namespace SuitBook

/-! ## Lookups -/

theorem get?_eq_some_iff (h : b.names.Nodup) : b.get? name = some s ↔ s ∈ b.suits ∧ s.name = name :=
  find?_key_eq_some_iff h

/-- The suits of an entry can be looked up in a book that they are part of. -/
theorem get?_of_mem_declared (h : b.names.Nodup) (hs : s ∈ r.declared)
    (hsub : r.declared ⊆ b.suits) : b.get? s.name = some s :=
  (get?_eq_some_iff h).2 ⟨hsub hs, rfl⟩

/-! ## The faults of one entry -/

theorem reports_clueColors? (colors : ColorBook) (r : SuitEntry) :
    Reports (r.clueColors? colors)
      ((r.touching.filter (· ∉ colors.names)).map (.noSuchColor r.name)) := by
  unfold SuitEntry.clueColors? SuitEntry.touching
  cases r.clueColors with
  | some explicit =>
    dsimp only [Option.getD_some]
    rw [ColorBook.not_contains_eq, ← List.head?_filter]
    cases explicit.filter (· ∉ colors.names) with
    | nil => exact .ok explicit
    | cons c cs => exact .error _ _
  | none =>
    dsimp only [Option.getD_none]
    split_ifs with hnone hname
    · exact .ok _
    · simpa [ColorBook.contains_iff.1 hname] using Reports.ok [r.name]
    · simpa [mt ColorBook.contains_iff.2 hname] using Reports.error (.noSuchColor r.name r.name) []

/-- Suits with names of their own are refused for the names that are taken already. -/
theorem reports_insertAll (hnodup : (ss.map Suit.name).Nodup) :
    Reports (b.insertAll ss) (((ss.map Suit.name).filter (· ∈ b.names)).map (.nameTaken .suit)) := by
  induction ss generalizing b with
  | nil => exact .ok b
  | cons s ss ih =>
    obtain ⟨hs, hss⟩ := List.nodup_cons.1 hnodup
    rw [insertAll, List.map_cons]
    by_cases htaken : b.contains s.name = true
    · rw [if_pos htaken, List.filter_cons_of_pos (by simpa using contains_iff.1 htaken)]
      exact .error _ _
    · rw [if_neg htaken, List.filter_cons_of_neg (by simpa using mt contains_iff.2 htaken)]
      -- The names behind are not that of `s`, so its place in the book does not matter to them.
      have hfilter : (ss.map Suit.name).filter (· ∈ (SuitBook.mk (b.suits ++ [s])).names) =
          (ss.map Suit.name).filter (· ∈ b.names) := by
        refine List.filter_congr fun n hn => ?_
        have hne : n ≠ s.name := fun heq => hs (heq ▸ hn)
        simp [names, hne]
      rw [← hfilter]
      exact ih hss

theorem reports_insertEntry (hb : b.names = before.flatMap SuitEntry.expanded) :
    Reports (b.insertEntry colors r) (r.faults colors before) := by
  unfold SuitEntry.faults SuitEntry.ownFaults
  rw [List.append_assoc]
  refine .check Iff.rfl fun _ => ?_
  have hcolors := reports_clueColors? colors r
  cases hcs : r.clueColors? colors with
  | error f =>
    rw [hcs] at hcolors
    exact hcolors.stop _
  | ok cs =>
    rw [hcs] at hcolors
    refine hcolors.go ?_
    obtain ⟨-, rfl⟩ := SuitEntry.clueColors?_eq_ok_iff.1 hcs
    have hnodup : (r.declared.map Suit.name).Nodup := by
      rw [r.map_name_declared]
      exact r.expanded_nodup
    have hsuits := reports_insertAll (b := b) hnodup
    rwa [r.map_name_declared, hb] at hsuits

/-! ## A list of entries -/

/-- Entries fail to extend a book if and only if those up to one extend it, and that one cannot be
inserted behind them. -/
theorem extend_eq_error_iff :
    b.extend colors rs = .error f ↔
      ∃ before r after b', rs = before ++ r :: after ∧ b.extend colors before = .ok b' ∧
        b'.insertEntry colors r = .error f := by
  induction rs generalizing b with
  | nil => simp [extend]
  | cons r rs ih =>
    rw [extend]
    cases hr : b.insertEntry colors r with
    | error g =>
      constructor
      · rintro h
        exact ⟨[], r, rs, b, rfl, rfl, hr.trans h⟩
      · rintro ⟨before, r', after, b', hsplit, hbefore, hr'⟩
        cases before with
        | nil =>
          obtain ⟨rfl, -⟩ := List.cons.inj hsplit
          obtain rfl := Except.ok.inj hbefore
          exact hr.symm.trans hr'
        | cons r₀ before =>
          obtain ⟨rfl, -⟩ := List.cons.inj hsplit
          rw [extend, hr] at hbefore
          cases hbefore
    | ok b₁ =>
      dsimp only
      rw [ih]
      constructor
      · rintro ⟨before, r', after, b', rfl, hbefore, hr'⟩
        refine ⟨r :: before, r', after, b', rfl, ?_, hr'⟩
        rw [extend, hr]
        exact hbefore
      · rintro ⟨before, r', after, b', hsplit, hbefore, hr'⟩
        cases before with
        | nil =>
          obtain ⟨rfl, -⟩ := List.cons.inj hsplit
          obtain rfl := Except.ok.inj hbefore
          cases hr.symm.trans hr'
        | cons r₀ before =>
          obtain ⟨rfl, rfl⟩ := List.cons.inj hsplit
          rw [extend, hr] at hbefore
          exact ⟨before, r', after, b', rfl, hbefore, hr'⟩

theorem compile_eq_ok_iff_of_valid :
    compile rs colors = .ok b ↔ ValidSuits colors rs ∧ b = ⟨rs.flatMap SuitEntry.declared⟩ := by
  rw [compile_eq_ok_iff, validSuits_iff, and_assoc]

/-- Compiling stops at the first entry with a fault, with the first of its faults. -/
theorem compile_eq_error_iff :
    compile rs colors = .error f ↔
      ∃ before r after, rs = before ++ r :: after ∧ ValidSuits colors before ∧
        (r.faults colors before).head? = some f := by
  rw [compile, extend_eq_error_iff]
  constructor
  · rintro ⟨before, r, after, b', hsplit, hbefore, hr⟩
    obtain ⟨hvalid, rfl⟩ := compile_eq_ok_iff_of_valid.1 hbefore
    refine ⟨before, r, after, hsplit, hvalid, ?_⟩
    exact (reports_insertEntry (SuitEntry.map_name_flatMap_declared before)).eq_error_iff.1 hr
  · rintro ⟨before, r, after, hsplit, hvalid, hr⟩
    refine ⟨before, r, after, _, hsplit, compile_eq_ok_iff_of_valid.2 ⟨hvalid, rfl⟩, ?_⟩
    exact (reports_insertEntry (SuitEntry.map_name_flatMap_declared before)).eq_error_iff.2 hr

/-- A suit with a twin is found under its name, and the same suit but for name and direction is found
under the name of the twin. -/
theorem get?_twin (h : compile rs colors = .ok b) (hr : r ∈ rs) (htwin : r.createReversed = true) :
    ∃ s, b.get? r.name = some s ∧ b.get? (r.name ++ " Reversed") =
      some { s with name := r.name ++ " Reversed", reversed := true } := by
  obtain ⟨hvalid, rfl⟩ := compile_eq_ok_iff_of_valid.1 h
  have hnodup : (SuitBook.mk (rs.flatMap SuitEntry.declared)).names.Nodup := by
    rw [names, SuitEntry.map_name_flatMap_declared]
    exact hvalid.names_nodup
  have hsub : r.declared ⊆ rs.flatMap SuitEntry.declared := fun s hs =>
    List.mem_flatMap.2 ⟨r, hr, hs⟩
  have hdeclared : r.declared = [r.suit r.touching, (r.suit r.touching).twin] := by
    rw [SuitEntry.declared, SuitEntry.suits, if_pos htwin]
  refine ⟨r.suit r.touching, ?_, ?_⟩
  · exact get?_of_mem_declared hnodup (s := r.suit r.touching) (by simp [hdeclared]) hsub
  · exact get?_of_mem_declared hnodup (s := (r.suit r.touching).twin) (by simp [hdeclared]) hsub

/-- **Suits and twins.** A book is made of a list of suits if and only if the list is valid. The names
in it are then those that the entries declare, one behind the other; a lookup finds a suit under each
of them and under no other name; and a twin is its suit but for name and direction. Otherwise
compiling fails at the first entry that is not right behind the valid ones before it, with the first
of its faults. -/
theorem compile_twins (rs : List SuitEntry) (colors : ColorBook) :
    ((∃ b, compile rs colors = .ok b) ↔ ValidSuits colors rs) ∧
    (∀ b, compile rs colors = .ok b →
      b.names = rs.flatMap SuitEntry.expanded ∧
      (∀ x, (b.get? x).isSome = true ↔ x ∈ rs.flatMap SuitEntry.expanded) ∧
      ∀ r ∈ rs, r.createReversed = true →
        ∃ s, b.get? r.name = some s ∧ b.get? (r.name ++ " Reversed") =
          some { s with name := r.name ++ " Reversed", reversed := true }) ∧
    ∀ f, compile rs colors = .error f ↔
      ∃ before r after, rs = before ++ r :: after ∧ ValidSuits colors before ∧
        (r.faults colors before).head? = some f := by
  refine ⟨?_, fun b hb => ?_, fun f => compile_eq_error_iff⟩
  · simp [compile_eq_ok_iff_of_valid]
  · have hnames : b.names = rs.flatMap SuitEntry.expanded := by
      obtain ⟨-, rfl⟩ := compile_eq_ok_iff_of_valid.1 hb
      exact SuitEntry.map_name_flatMap_declared rs
    refine ⟨hnames, fun x => ?_, fun r hr htwin => get?_twin hb hr htwin⟩
    rw [isSome_get?_iff, hnames]

/-- A suit may not bear the name of a twin before it. -/
example :
    let red : SuitEntry := ⟨"Red", none, none, false, true, false, false, false, true⟩
    compile [red, { red with name := "Red Reversed" }] ⟨[]⟩ =
      .error (.nameTaken .suit "Red Reversed") := by
  decide +kernel

end SuitBook

end GameHall.Rules
