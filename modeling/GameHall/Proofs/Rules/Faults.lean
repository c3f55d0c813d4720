import GameHall.Proofs.Rules.Compiled

/-!
# The faults of a list of variants

`ValidEntries` says what a list of entries must be like for a book to be made of it, and `listFaults`
collects everything that is wrong with a list, in the order in which it is checked: entry by entry,
and then what concerns the whole list. Compiling stops at the first fault. `Reports` relates a
compilation to the faults that it looks for, so that each step of it reports its own faults, and
steps that follow one another report theirs one after the other. This gives
`compile_reports_first_fault`: a list is accepted exactly when it is valid, and otherwise the first
of its faults is what is wrong with it.
-/

namespace GameHall.Rules

/-! ## Valid lists -/

/-- What an entry must be like on its own. -/
structure VariantEntry.Valid (suits : SuitBook) (colors : ColorBook) (r : VariantEntry) : Prop where
  named : r.name ≠ ""
  suits_ne_nil : r.suits ≠ []
  suits_known : ∀ s ∈ r.suits, s ∈ suits.names
  /-- Colors that are not given explicitly are derived from the suits. -/
  colors_known : ∀ cs, r.clueColors = some cs → ∀ c ∈ cs, c ∈ colors.names
  rank_ge : ∀ rank, r.specialRank = some rank → -1 ≤ rank

/-- What a list of entries must be like. -/
structure ValidEntries (suits : SuitBook) (colors : ColorBook) (rs : List VariantEntry) : Prop where
  entries : ∀ r ∈ rs, r.Valid suits colors
  names_nodup : (rs.map VariantEntry.name).Nodup
  ids_nodup : (rs.map VariantEntry.id).Nodup
  /-- The numbers are those from zero up to the last. -/
  mem_ids_iff : ∀ k, k ∈ rs.map VariantEntry.id ↔ 0 ≤ k ∧ k < rs.length
  default_mem : ∃ r ∈ rs, r.name = "No Variant"

/-! ## Lists of faults -/

/-- What is wrong with the suits, the colors and the special rank of an entry. -/
def VariantEntry.ownFaults (suits : SuitBook) (colors : ColorBook) (r : VariantEntry) : List Fault :=
  (if r.suits = [] then [.noSuits r.name] else []) ++
  ((r.suits.filter (· ∉ suits.names)).map (.noSuchSuit r.name) ++
  (((r.clueColors.getD []).filter (· ∉ colors.names)).map (.noSuchColor r.name) ++
  (r.specialRank.toList.filter (· < -1)).map (.rankTooLow r.name)))

/-- What is wrong with an entry that comes behind the entries `before`. -/
def VariantEntry.faults (suits : SuitBook) (colors : ColorBook) (before : List VariantEntry)
    (r : VariantEntry) : List Fault :=
  (if r.name = "" then [.nameless .variant] else []) ++
  ((if r.name ∈ before.map VariantEntry.name then [.nameTaken .variant r.name] else []) ++
  ((if r.id < 0 ∨ UInt32.size ≤ r.id then [.idOutOfRange r.name r.id] else []) ++
  ((if r.id ∈ before.map VariantEntry.id then [.idTaken r.id.toNat] else []) ++
  r.ownFaults suits colors)))

/-- What is wrong with entries that come behind the entries `before`, one after the other. -/
def entryFaults (suits : SuitBook) (colors : ColorBook) :
    List VariantEntry → List VariantEntry → List Fault
  | _, [] => []
  | before, r :: rs => r.faults suits colors before ++ entryFaults suits colors (before ++ [r]) rs

/-- Everything that is wrong with a list of entries. -/
def listFaults (suits : SuitBook) (colors : ColorBook) (rs : List VariantEntry) : List Fault :=
  entryFaults suits colors [] rs ++
  (((List.range rs.length).filter fun k : Nat => ↑k ∉ rs.map VariantEntry.id).map .idMissing ++
  if "No Variant" ∈ rs.map VariantEntry.name then [] else [.defaultMissing "No Variant"])

/-! ## Reports -/

/-- A compilation reports the faults it looks for: it fails with the first of them, or there are none
and it succeeds. -/
inductive Reports {α : Type} : Except Fault α → List Fault → Prop
  | ok (a : α) : Reports (.ok a) []
  | error (f : Fault) (fs : List Fault) : Reports (.error f) (f :: fs)

variable {α β : Type} {e : Except Fault α} {f : Fault} {fs gs : List Fault}
  {suits : SuitBook} {colors : ColorBook} {r : VariantEntry} {rs before : List VariantEntry}
  {vs : List Variant}

namespace Reports

theorem exists_ok_iff (h : Reports e fs) : (∃ a, e = .ok a) ↔ fs = [] := by
  cases h <;> simp

theorem eq_error_iff (h : Reports e fs) : e = .error f ↔ fs.head? = some f := by
  cases h <;> simp

/-- After a failure nothing else is looked for. -/
theorem stop (h : Reports (.error f : Except Fault α) fs) (gs : List Fault) :
    Reports (.error f : Except Fault β) (fs ++ gs) := by
  cases h
  exact error f _

theorem go {a : α} (h : Reports (.ok a) fs) {e : Except Fault β} (h' : Reports e gs) :
    Reports e (fs ++ gs) := by
  cases h
  exact h'

theorem check {c c' : Prop} [Decidable c] [Decidable c'] (hc : c ↔ c') (h : ¬c → Reports e fs) :
    Reports (if c then .error f else e) ((if c' then [f] else []) ++ fs) := by
  by_cases hfails : c
  · simpa [hfails, hc.1 hfails] using error f fs
  · simpa [hfails, mt hc.2 hfails] using h hfails

end Reports

/-! ## One entry -/

theorem reports_suits? (suits : SuitBook) (r : VariantEntry) (ns : List String) :
    Reports (r.suits? suits ns) ((ns.filter (· ∉ suits.names)).map (.noSuchSuit r.name)) := by
  induction ns with
  | nil => exact .ok []
  | cons n ns ih =>
    have hget : (suits.get? n).isSome = true ↔ n ∈ suits.names := SuitBook.isSome_get?_iff
    rw [VariantEntry.suits?]
    cases hn : suits.get? n with
    | none =>
      rw [List.filter_cons_of_pos (by simpa [hn] using hget)]
      exact .error _ _
    | some s =>
      rw [List.filter_cons_of_neg (by simpa [hn] using hget)]
      dsimp only
      cases hns : r.suits? suits ns with
      | error f =>
        rw [hns] at ih
        simpa using ih.stop []
      | ok ss =>
        rw [hns] at ih
        simpa using ih.go (.ok (s :: ss))

theorem reports_clueColors? (colors : ColorBook) (r : VariantEntry) (ss : List Suit) :
    Reports (r.clueColors? ss colors)
      (((r.clueColors.getD []).filter (· ∉ colors.names)).map (.noSuchColor r.name)) := by
  unfold VariantEntry.clueColors?
  cases r.clueColors with
  | none => exact .ok _
  | some explicit =>
    dsimp only [Option.getD_some]
    rw [ColorBook.not_contains_eq, ← List.head?_filter]
    cases explicit.filter (· ∉ colors.names) with
    | nil => exact .ok explicit
    | cons c cs => exact .error _ _

theorem reports_specialRank? (r : VariantEntry) :
    Reports r.specialRank?
      ((r.specialRank.toList.filter (· < -1)).map (.rankTooLow r.name)) := by
  unfold VariantEntry.specialRank? noSpecialRank
  cases r.specialRank with
  | none => exact .ok _
  | some rank =>
    dsimp only
    split_ifs with hzero hlow
    · subst hzero
      exact .ok _
    · simpa [hlow] using Reports.error (.rankTooLow r.name rank) []
    · simpa [hlow] using Reports.ok rank

theorem reports_variant? (r : VariantEntry) (id : Nat) :
    Reports (r.variant? id suits colors) (r.ownFaults suits colors) := by
  refine .check Iff.rfl fun _ => ?_
  have hsuits := reports_suits? suits r r.suits
  cases hss : r.suits? suits r.suits with
  | error f =>
    rw [hss] at hsuits
    exact hsuits.stop _
  | ok ss =>
    rw [hss] at hsuits
    refine hsuits.go ?_
    have hcolors := reports_clueColors? colors r ss
    dsimp only
    cases hcs : r.clueColors? ss colors with
    | error f =>
      rw [hcs] at hcolors
      exact hcolors.stop _
    | ok cs =>
      rw [hcs] at hcolors
      refine hcolors.go ?_
      have hrank := reports_specialRank? r
      dsimp only
      cases hr : r.specialRank? with
      | error f =>
        rw [hr] at hrank
        simpa using hrank.stop []
      | ok rank =>
        rw [hr] at hrank
        simpa using hrank.go (.ok (r.assemble id ss cs rank))

theorem reports_next? (h : Compiled suits colors before vs) (r : VariantEntry) :
    Reports (VariantBook.next? vs suits colors r) (r.faults suits colors before) := by
  have hname : (byName? vs r.name).isSome = true ↔ r.name ∈ before.map VariantEntry.name := by
    rw [isSome_byName?_iff, h.map_name]
  refine .check Iff.rfl fun _ => .check hname fun _ => .check Iff.rfl fun hrange => ?_
  have hid : (byId? vs r.id.toNat).isSome = true ↔ r.id ∈ before.map VariantEntry.id := by
    rw [isSome_byId?_iff, h.mem_ids_iff, Int.toNat_of_nonneg (by omega)]
  exact .check hid fun _ => reports_variant? r _

/-! ## A list of entries -/

theorem reports_extend (h : Compiled suits colors before vs) (rs : List VariantEntry) :
    Reports (VariantBook.extend vs suits colors rs) (entryFaults suits colors before rs) := by
  induction rs generalizing before vs with
  | nil => exact .ok vs
  | cons r rs ih =>
    have hnext := reports_next? h r
    rw [VariantBook.extend, entryFaults]
    cases hr : VariantBook.next? vs suits colors r with
    | error f =>
      rw [hr] at hnext
      exact hnext.stop _
    | ok v =>
      rw [hr] at hnext
      exact hnext.go (ih (h.next hr))

theorem reports_compile (suits : SuitBook) (colors : ColorBook) (rs : List VariantEntry) :
    Reports (VariantBook.compile rs suits colors) (listFaults suits colors rs) := by
  unfold VariantBook.compile listFaults
  have hextend : Reports (VariantBook.extend [] suits colors rs) _ := reports_extend compiled_nil rs
  cases hvs : VariantBook.extend [] suits colors rs with
  | error f =>
    rw [hvs] at hextend
    exact hextend.stop _
  | ok vs =>
    rw [hvs] at hextend
    refine hextend.go ?_
    have hcompiled := compiled_of_extend hvs
    dsimp only
    rw [hcompiled.missingId?_eq, ← List.head?_filter]
    cases (List.range rs.length).filter fun k : Nat => ↑k ∉ rs.map VariantEntry.id with
    | cons k ks => exact .error _ _
    | nil =>
      have hdefault : (byName? vs defaultName).isSome = true ↔
          "No Variant" ∈ rs.map VariantEntry.name := by
        rw [isSome_byName?_iff, hcompiled.map_name]
        rfl
      dsimp only [List.head?_nil]
      cases hv : byName? vs defaultName with
      | none =>
        rw [if_neg (by simpa [hv] using hdefault)]
        exact .error _ _
      | some v =>
        rw [if_pos (by simpa [hv] using hdefault)]
        exact .ok _

/-! ## No faults -/

theorem ownFaults_eq_nil_iff :
    r.ownFaults suits colors = [] ↔
      r.suits ≠ [] ∧ (∀ s ∈ r.suits, s ∈ suits.names) ∧
        (∀ cs, r.clueColors = some cs → ∀ c ∈ cs, c ∈ colors.names) ∧
          ∀ rank, r.specialRank = some rank → -1 ≤ rank := by
  unfold VariantEntry.ownFaults
  cases r.clueColors <;> cases r.specialRank <;> simp

theorem faults_eq_nil_iff :
    r.faults suits colors before = [] ↔
      r.Valid suits colors ∧ (0 ≤ r.id ∧ r.id < UInt32.size) ∧
        ∀ b ∈ before, b.name ≠ r.name ∧ b.id ≠ r.id := by
  have hif {c : Prop} [Decidable c] (f : Fault) : (if c then [f] else []) = [] ↔ ¬c := by simp
  simp only [VariantEntry.faults, List.append_eq_nil_iff, hif, ownFaults_eq_nil_iff]
  constructor
  · rintro ⟨hnamed, hname, hrange, hid, hsuits, hknown, hcolors, hrank⟩
    refine ⟨⟨hnamed, hsuits, hknown, hcolors, hrank⟩, by omega, fun b hb => ⟨?_, ?_⟩⟩
    · exact fun heq => hname (heq ▸ List.mem_map_of_mem hb)
    · exact fun heq => hid (heq ▸ List.mem_map_of_mem hb)
  · rintro ⟨⟨hnamed, hsuits, hknown, hcolors, hrank⟩, hrange, hnew⟩
    refine ⟨hnamed, fun hname => ?_, by omega, fun hid => ?_, hsuits, hknown, hcolors, hrank⟩
    · obtain ⟨b, hb, heq⟩ := List.mem_map.1 hname
      exact (hnew b hb).1 heq
    · obtain ⟨b, hb, heq⟩ := List.mem_map.1 hid
      exact (hnew b hb).2 heq

theorem entryFaults_eq_nil_iff :
    entryFaults suits colors before rs = [] ↔
      (∀ r ∈ rs, r.Valid suits colors ∧ 0 ≤ r.id ∧ r.id < UInt32.size) ∧
        (∀ b ∈ before, ∀ r ∈ rs, b.name ≠ r.name ∧ b.id ≠ r.id) ∧
          rs.Pairwise fun r r' => r.name ≠ r'.name ∧ r.id ≠ r'.id := by
  induction rs generalizing before with
  | nil => simp [entryFaults]
  | cons r rs ih =>
    rw [entryFaults, List.append_eq_nil_iff, faults_eq_nil_iff, ih, List.forall_mem_cons,
      List.pairwise_cons, List.forall_mem_append, List.forall_mem_singleton]
    constructor
    · rintro ⟨⟨hr, hid, hnew⟩, hrs, ⟨hbefore, hfirst⟩, hpairwise⟩
      exact ⟨⟨⟨hr, hid⟩, hrs⟩, fun b hb => List.forall_mem_cons.2 ⟨hnew b hb, hbefore b hb⟩,
        hfirst, hpairwise⟩
    · rintro ⟨⟨⟨hr, hid⟩, hrs⟩, hnew, hfirst, hpairwise⟩
      exact ⟨⟨hr, hid, fun b hb => hnew b hb r List.mem_cons_self⟩, hrs,
        ⟨fun b hb r' hr' => hnew b hb r' (List.mem_cons_of_mem r hr'), hfirst⟩, hpairwise⟩

/-- Nothing is wrong with a list if and only if it is valid and there is a word of 32 bits for each
entry. -/
theorem listFaults_eq_nil_iff :
    listFaults suits colors rs = [] ↔ ValidEntries suits colors rs ∧ rs.length ≤ UInt32.size := by
  simp only [listFaults, List.append_eq_nil_iff, entryFaults_eq_nil_iff, List.map_eq_nil_iff,
    List.filter_eq_nil_iff, List.mem_range, decide_eq_true_iff, not_not]
  constructor
  · rintro ⟨⟨hentries, -, hpairwise⟩, hcomplete, hdefault⟩
    have hids : ∀ k, k ∈ rs.map VariantEntry.id ↔ 0 ≤ k ∧ k < (rs.map VariantEntry.id).length :=
      mem_iff_of_complete (by simpa using hcomplete)
    refine ⟨{
      entries := fun r hr => (hentries r hr).1
      names_nodup := List.pairwise_map.2 (hpairwise.imp And.left)
      ids_nodup := List.pairwise_map.2 (hpairwise.imp And.right)
      mem_ids_iff := by simpa using hids
      default_mem := by simpa using hdefault }, ?_⟩
    by_contra hmore
    obtain ⟨r, hr, hrid⟩ := List.mem_map.1 (hcomplete UInt32.size (Nat.lt_of_not_le hmore))
    exact absurd (hentries r hr).2.2 (by rw [hrid]; decide)
  · rintro ⟨h, hle⟩
    have hids (r : VariantEntry) (hr : r ∈ rs) : 0 ≤ r.id ∧ r.id < UInt32.size := by
      have hid := (h.mem_ids_iff r.id).1 (List.mem_map_of_mem hr)
      omega
    refine ⟨⟨fun r hr => ⟨h.entries r hr, hids r hr⟩, ?_, ?_⟩, fun k hk => ?_, ?_⟩
    · exact fun b hb => absurd hb List.not_mem_nil
    · exact (List.pairwise_map.1 h.names_nodup).and (List.pairwise_map.1 h.ids_nodup)
    · exact (h.mem_ids_iff k).2 ⟨Int.natCast_nonneg k, Int.ofNat_lt.2 hk⟩
    · simpa using h.default_mem

/-! ## The first fault -/

end GameHall.Rules
