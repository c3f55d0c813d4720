import Mathlib.Data.List.Perm.Basic
import GameHall.Proofs.Rules.Declared
import GameHall.Proofs.Rules.Faults
import GameHall.Proofs.Rules.References

/-!
# Rearranged documents

Compiling stops at the first fault, so which fault is reported depends on the order of the entries.
Whether there is one does not, and neither does what a name or a number leads to:
`Book.compile_rearranged` proves this of all three documents at once, for any rearrangement of each.
It also proves that variants do not depend on colors and suits that they do not name. Where more of
these are declared, the variants that come of the same entries are the same.

Both follow from what a single entry declares. `Declares.mono` carries it over to a book of suits
that finds whatever the old one found (`SuitBook.Within`), in which order ever. As an entry declares
one variant only, rearranged entries declare rearranged variants.
-/

namespace GameHall.Rules

/-- Where no key occurs twice, the order of a list does not matter for looking a key up. -/
theorem find?_key_eq_of_perm {α κ : Type} [DecidableEq κ] {key : α → κ} {l l' : List α}
    (hperm : l.Perm l') (h : (l.map key).Nodup) (k : κ) :
    (l.find? fun x => key x == k) = l'.find? fun x => key x == k := by
  have h' : (l'.map key).Nodup := (hperm.map key).nodup_iff.1 h
  ext a
  rw [find?_key_eq_some_iff h, find?_key_eq_some_iff h', hperm.mem_iff]

variable {colors colors' : ColorBook} {suits suits' : SuitBook}

/-! ## Colors -/

section Color

variable {rc rc' : List ColorEntry}

theorem ColorBook.compile_perm (hperm : rc.Perm rc') (h : ColorBook.compile rc = .ok colors) :
    ∃ colors', ColorBook.compile rc' = .ok colors' ∧ colors.colors.Perm colors'.colors := by
  obtain ⟨hnamed, hnodup, rfl⟩ := ColorBook.compile_eq_ok_iff.1 h
  refine ⟨⟨rc'.map ColorEntry.color⟩, ColorBook.compile_eq_ok_iff.2 ⟨fun r hr => ?_, ?_, rfl⟩,
    hperm.map _⟩
  · exact hnamed r (hperm.mem_iff.2 hr)
  · exact (hperm.map _).nodup_iff.1 hnodup

theorem ColorBook.names_nodup (h : ColorBook.compile rc = .ok colors) : colors.names.Nodup := by
  rw [ColorBook.names_of_compile h]
  exact (ColorBook.compile_eq_ok_iff.1 h).2.1

/-- Longer lists of entries know more colors. -/
theorem ColorBook.names_subset (hsub : rc ⊆ rc') (h : ColorBook.compile rc = .ok colors)
    (h' : ColorBook.compile rc' = .ok colors') : colors.names ⊆ colors'.names := by
  rw [ColorBook.names_of_compile h, ColorBook.names_of_compile h']
  exact List.map_subset _ hsub

end Color

/-! ## Suits -/

section Suit

variable {rs rs' : List SuitEntry} {r : SuitEntry} {name : String}

theorem SuitEntry.Fits.mono (h : r.Fits colors) (hcolors : colors.names ⊆ colors'.names) :
    r.Fits colors' :=
  ⟨h.named, fun c hc => hcolors (h.known c hc)⟩

theorem SuitBook.compile_perm (hcolors : colors.names ⊆ colors'.names) (hperm : rs.Perm rs')
    (h : SuitBook.compile rs colors = .ok suits) :
    ∃ suits', SuitBook.compile rs' colors' = .ok suits' ∧ suits.suits.Perm suits'.suits := by
  obtain ⟨hfits, hnodup, rfl⟩ := SuitBook.compile_eq_ok_iff.1 h
  have hdeclared := hperm.flatMap_right SuitEntry.declared
  refine ⟨⟨rs'.flatMap SuitEntry.declared⟩, SuitBook.compile_eq_ok_iff.2 ⟨fun r hr => ?_, ?_, rfl⟩,
    hdeclared⟩
  · exact (hfits r (hperm.mem_iff.2 hr)).mono hcolors
  · exact (hdeclared.map _).nodup_iff.1 hnodup

theorem SuitBook.names_nodup (h : SuitBook.compile rs colors = .ok suits) :
    suits.names.Nodup := by
  obtain ⟨-, hnodup, rfl⟩ := SuitBook.compile_eq_ok_iff.1 h
  exact hnodup

/-- Whatever suit one book finds, the other finds too. -/
def SuitBook.Within (suits suits' : SuitBook) : Prop :=
  ∀ name s, suits.get? name = some s → suits'.get? name = some s

theorem SuitBook.Within.names_subset (h : suits.Within suits') : suits.names ⊆ suits'.names := by
  intro name hname
  obtain ⟨s, hs⟩ := Option.isSome_iff_exists.1 (SuitBook.isSome_get?_iff.2 hname)
  exact SuitBook.isSome_get?_iff.1 (Option.isSome_iff_exists.2 ⟨s, h name s hs⟩)

theorem SuitBook.within_of_subset (h : SuitBook.compile rs colors = .ok suits)
    (h' : SuitBook.compile rs' colors' = .ok suits') (hsub : suits.suits ⊆ suits'.suits) :
    suits.Within suits' := by
  intro name s hs
  obtain ⟨hmem, hname⟩ := (find?_key_eq_some_iff (SuitBook.names_nodup h)).1 hs
  exact (find?_key_eq_some_iff (SuitBook.names_nodup h')).2 ⟨hsub hmem, hname⟩

/-- Longer lists of entries find all suits that the shorter ones find, twins included. -/
theorem SuitBook.within_of_entries (hsub : rs ⊆ rs') (h : SuitBook.compile rs colors = .ok suits)
    (h' : SuitBook.compile rs' colors' = .ok suits') : suits.Within suits' := by
  refine SuitBook.within_of_subset h h' ?_
  obtain ⟨-, -, rfl⟩ := SuitBook.compile_eq_ok_iff.1 h
  obtain ⟨-, -, rfl⟩ := SuitBook.compile_eq_ok_iff.1 h'
  intro s hs
  obtain ⟨r, hr, hdeclared⟩ := List.mem_flatMap.1 hs
  exact List.mem_flatMap.2 ⟨r, hsub hr, hdeclared⟩

end Suit

/-! ## Variants -/

section Variant

variable {r : VariantEntry} {rv rv' : List VariantEntry} {v w : Variant} {ss : List Suit}
  {cs ns : List String} {b : VariantBook}

namespace VariantEntry

theorem suits?_mono (hsuits : suits.Within suits') (h : r.suits? suits ns = .ok ss) :
    r.suits? suits' ns = .ok ss := by
  have hfound := forall₂_of_suits? h
  clear h
  induction hfound with
  | nil => rfl
  | cons hn _ ih => rw [suits?, hsuits _ _ hn, ih]

theorem clueColors?_mono (hcolors : colors.names ⊆ colors'.names)
    (h : r.clueColors? ss colors = .ok cs) : r.clueColors? ss colors' = .ok cs := by
  unfold clueColors?
  obtain ⟨hnone, rfl⟩ | ⟨hsome, hknown⟩ := of_clueColors?_eq_ok h
  · rw [hnone]
  · have hnone : (cs.find? fun c => !colors'.contains c) = none := by
      rw [ColorBook.not_contains_eq, List.find?_eq_none]
      simpa using fun c hc => hcolors (hknown c hc)
    simp only [hsome, hnone]

/-- What an entry declares stays the same where more suits and colors are known. -/
theorem Declares.mono (h : r.Declares suits colors v) (hsuits : suits.Within suits')
    (hcolors : colors.names ⊆ colors'.names) : r.Declares suits' colors' v := by
  obtain ⟨hne, ss, hss, cs, hcs, rank, hrank, hv⟩ := variant?_eq_ok_iff.1 h.variant?_eq
  refine ⟨h.id_nonneg, h.id_lt, variant?_eq_ok_iff.2 ?_⟩
  exact ⟨hne, ss, suits?_mono hsuits hss, cs, clueColors?_mono hcolors hcs, rank, hrank, hv⟩

/-- An entry declares one variant only. -/
theorem Declares.unique (hv : r.Declares suits colors v) (hw : r.Declares suits colors w) :
    v = w :=
  Except.ok.inj (hv.variant?_eq.symm.trans hw.variant?_eq)

theorem Valid.mono (h : r.Valid suits colors) (hsuits : suits.names ⊆ suits'.names)
    (hcolors : colors.names ⊆ colors'.names) : r.Valid suits' colors' where
  named := h.named
  suits_ne_nil := h.suits_ne_nil
  suits_known := fun s hs => hsuits (h.suits_known s hs)
  colors_known := fun cs hcs c hc => hcolors (h.colors_known cs hcs c hc)
  rank_ge := h.rank_ge

end VariantEntry

theorem ValidEntries.mono (h : ValidEntries suits colors rv) (hsuits : suits.names ⊆ suits'.names)
    (hcolors : colors.names ⊆ colors'.names) (hperm : rv.Perm rv') :
    ValidEntries suits' colors' rv' where
  entries := fun r hr => (h.entries r (hperm.mem_iff.2 hr)).mono hsuits hcolors
  names_nodup := (hperm.map _).nodup_iff.1 h.names_nodup
  ids_nodup := (hperm.map _).nodup_iff.1 h.ids_nodup
  mem_ids_iff := fun k => by rw [← (hperm.map _).mem_iff, h.mem_ids_iff, hperm.length_eq]
  default_mem := by
    obtain ⟨r, hr, hname⟩ := h.default_mem
    exact ⟨r, hperm.mem_iff.1 hr, hname⟩

namespace VariantBook

/-- Rearranged entries declare rearranged variants, also where more suits and colors are known. -/
theorem compile_perm (hsuits : suits.Within suits') (hcolors : colors.names ⊆ colors'.names)
    (hperm : rv.Perm rv') (h : compile rv suits colors = .ok b) :
    ∃ b', compile rv' suits' colors' = .ok b' ∧ b.variants.Perm b'.variants := by
  have hfaults := (reports_compile suits colors rv).exists_ok_iff.1 ⟨b, h⟩
  obtain ⟨hvalid, hlength⟩ := listFaults_eq_nil_iff.1 hfaults
  have hfaults' : listFaults suits' colors' rv' = [] := by
    refine listFaults_eq_nil_iff.2 ⟨?_, hperm.length_eq ▸ hlength⟩
    exact hvalid.mono hsuits.names_subset hcolors hperm
  obtain ⟨b', h'⟩ := (reports_compile suits' colors' rv').exists_ok_iff.2 hfaults'
  refine ⟨b', h', ?_⟩
  have hdeclares := (of_compile_eq_ok h).1.declares.imp fun _ _ hr => hr.mono hsuits hcolors
  have hdeclares' := (of_compile_eq_ok h').1.declares
  exact List.rel_perm_imp (fun _ _ _ hv hw => hv.unique hw) hdeclares hdeclares' hperm

/-- The default is found by its name, wherever it stands. -/
theorem default_eq_of_perm {b' : VariantBook} (hperm : b.variants.Perm b'.variants)
    (h : compile rv suits colors = .ok b) (h' : compile rv' suits' colors' = .ok b') :
    b.default = b'.default := by
  obtain ⟨hc, -, hdefault⟩ := of_compile_eq_ok h
  obtain ⟨-, -, hdefault'⟩ := of_compile_eq_ok h'
  have hname := find?_key_eq_of_perm hperm hc.names_nodup defaultName
  exact Option.some.inj (hdefault.symm.trans (hname.trans hdefault'))

/-- The same entries declare the same variants where more suits and colors are known. -/
theorem compile_mono (hsuits : suits.Within suits') (hcolors : colors.names ⊆ colors'.names)
    (h : compile rv suits colors = .ok b) : compile rv suits' colors' = .ok b := by
  obtain ⟨b', h', hperm⟩ := compile_perm hsuits hcolors (List.Perm.refl rv) h
  have hdeclares := (of_compile_eq_ok h).1.declares.imp fun _ _ hr => hr.mono hsuits hcolors
  have hdeclares' := (of_compile_eq_ok h').1.declares
  have hvariants : b.variants = b'.variants :=
    List.right_unique_forall₂' (fun _ _ _ hv hw => hv.unique hw) hdeclares hdeclares'
  have hdefault := default_eq_of_perm hperm h h'
  have hb : b = b' := by
    cases b
    cases b'
    congr
  rwa [hb]

end VariantBook

end Variant

/-! ## Books -/

/-- Two books list the same in different orders, and whatever is looked up in them is the same. -/
structure Book.Rearranges (b b' : Book) : Prop where
  colors_perm : b.colors.colors.Perm b'.colors.colors
  suits_perm : b.suits.suits.Perm b'.suits.suits
  variants_perm : b.variants.variants.Perm b'.variants.variants
  color_eq : ∀ name, b.colors.get? name = b'.colors.get? name
  suit_eq : ∀ name, b.suits.get? name = b'.suits.get? name
  byName?_eq : ∀ name, b.variants.byName? name = b'.variants.byName? name
  byId?_eq : ∀ id, b.variants.byId? id = b'.variants.byId? id
  default_eq : b.variants.default = b'.variants.default

namespace Book

variable {rc rc' : List ColorEntry} {rs rs' : List SuitEntry} {rv rv' : List VariantEntry}
  {b : Book}

/-- A book can be made of rearranged entries if it can be made of the entries, and it is the
rearranged book. -/
theorem exists_rearranges (hrc : rc.Perm rc') (hrs : rs.Perm rs') (hrv : rv.Perm rv')
    (h : compile rc rs rv = .ok b) : ∃ b', compile rc' rs' rv' = .ok b' ∧ b.Rearranges b' := by
  obtain ⟨hcolors, hsuits, hvariants⟩ := compile_eq_ok_iff.1 h
  obtain ⟨colors', hcolors', hcperm⟩ := ColorBook.compile_perm hrc hcolors
  have hnames := ColorBook.names_subset hrc.subset hcolors hcolors'
  obtain ⟨suits', hsuits', hsperm⟩ := SuitBook.compile_perm hnames hrs hsuits
  have hwithin := SuitBook.within_of_subset hsuits hsuits' hsperm.subset
  obtain ⟨variants', hvariants', hvperm⟩ := VariantBook.compile_perm hwithin hnames hrv hvariants
  have hc := (of_compile_eq_ok hvariants).1
  exact ⟨⟨colors', suits', variants'⟩, compile_eq_ok_iff.2 ⟨hcolors', hsuits', hvariants'⟩, {
    colors_perm := hcperm
    suits_perm := hsperm
    variants_perm := hvperm
    color_eq := find?_key_eq_of_perm hcperm (ColorBook.names_nodup hcolors)
    suit_eq := find?_key_eq_of_perm hsperm (SuitBook.names_nodup hsuits)
    byName?_eq := find?_key_eq_of_perm hvperm hc.names_nodup
    byId?_eq := find?_key_eq_of_perm hvperm hc.ids_nodup
    default_eq := VariantBook.default_eq_of_perm hvperm hvariants hvariants' }⟩

/-- **Neither the order of the entries nor what is not referred to matters.** Rearranging the three
documents keeps whether a book can be made of them, and all lookups in it. And where more colors and
suits are declared, in any order, the same entries make the same book of variants. -/
theorem compile_rearranged (rc : List ColorEntry) (rs : List SuitEntry) (rv : List VariantEntry) :
    (∀ rc' rs' rv', rc.Perm rc' → rs.Perm rs' → rv.Perm rv' →
      ((∃ b, compile rc rs rv = .ok b) ↔ ∃ b', compile rc' rs' rv' = .ok b') ∧
      ∀ b b', compile rc rs rv = .ok b → compile rc' rs' rv' = .ok b' → b.Rearranges b') ∧
    ∀ b, compile rc rs rv = .ok b → ∀ rc' rs' colors' suits', rc ⊆ rc' → rs ⊆ rs' →
      ColorBook.compile rc' = .ok colors' → SuitBook.compile rs' colors' = .ok suits' →
        VariantBook.compile rv suits' colors' = .ok b.variants := by
  constructor
  · intro rc' rs' rv' hrc hrs hrv
    refine ⟨⟨?_, ?_⟩, ?_⟩
    · rintro ⟨b, hb⟩
      obtain ⟨b', hb', -⟩ := exists_rearranges hrc hrs hrv hb
      exact ⟨b', hb'⟩
    · rintro ⟨b', hb'⟩
      obtain ⟨b, hb, -⟩ := exists_rearranges hrc.symm hrs.symm hrv.symm hb'
      exact ⟨b, hb⟩
    · intro b b' hb hb'
      obtain ⟨b₁, hb₁, hrearranges⟩ := exists_rearranges hrc hrs hrv hb
      obtain rfl : b₁ = b' := Except.ok.inj (hb₁.symm.trans hb')
      exact hrearranges
  · intro b hb rc' rs' colors' suits' hrc hrs hcolors' hsuits'
    obtain ⟨hcolors, hsuits, hvariants⟩ := compile_eq_ok_iff.1 hb
    exact VariantBook.compile_mono (SuitBook.within_of_entries hrs hsuits hsuits')
      (ColorBook.names_subset hrc hcolors hcolors') hvariants

/-- Two entries in each document, turned around, and a third color and suit before them. -/
theorem compile_rearranged_of_two_entries :
    let untwisted : Twists := ⟨false, false, false, false, false, false, false, false, false, false⟩
    let color (name : String) : ColorEntry := ⟨name, none, ""⟩
    let suit (name : String) : SuitEntry :=
      ⟨name, none, none, false, false, false, false, false, true⟩
    let rc := [color "Red", color "Blue"]
    let rs := [suit "Red", suit "Blue"]
    let rv : List VariantEntry :=
      [⟨"No Variant", 0, ["Red", "Blue"], none, none, none, untwisted, false⟩,
        ⟨"Backwards", 1, ["Blue Reversed"], none, none, none, untwisted, false⟩]
    ∃ b b' colors' suits', compile rc rs rv = .ok b ∧
      compile rc.reverse rs.reverse rv.reverse = .ok b' ∧ b.Rearranges b' ∧
        ColorBook.compile (color "Green" :: rc) = .ok colors' ∧
          SuitBook.compile (suit "Green" :: rs) colors' = .ok suits' ∧
            VariantBook.compile rv suits' colors' = .ok b.variants := by
  intro untwisted color suit rc rs rv
  have hbook : (compile rc rs rv).isOk = true := by decide +kernel
  have hlonger :
      (compile (color "Green" :: rc) (suit "Green" :: rs) rv).isOk = true := by decide +kernel
  have hmade {e : Except Fault Book} (h : e.isOk = true) : ∃ b, e = .ok b := by
    cases e with
    | error f => exact absurd h nofun
    | ok b => exact ⟨b, rfl⟩
  obtain ⟨b, hb⟩ := hmade hbook
  obtain ⟨longer, hlonger⟩ := hmade hlonger
  obtain ⟨hcolors', hsuits', -⟩ := compile_eq_ok_iff.1 hlonger
  obtain ⟨hperm, hmono⟩ := compile_rearranged rc rs rv
  obtain ⟨hiff, hrearranges⟩ := hperm rc.reverse rs.reverse rv.reverse
    (List.reverse_perm rc).symm (List.reverse_perm rs).symm (List.reverse_perm rv).symm
  obtain ⟨b', hb'⟩ := hiff.1 ⟨b, hb⟩
  refine ⟨b, b', longer.colors, longer.suits, hb, hb', hrearranges b b' hb hb', hcolors', hsuits',
    ?_⟩
  exact hmono b hb _ _ _ _ (List.subset_cons_self _ _) (List.subset_cons_self _ _) hcolors' hsuits'

end Book

end GameHall.Rules
