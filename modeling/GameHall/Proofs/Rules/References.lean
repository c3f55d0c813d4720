import GameHall.Proofs.Rules.Declared
import GameHall.Rules.Book

/-!
# What a rule book refers to

Variants name their suits, and suits and variants name the colors that touch them. Colors may be
given explicitly, a suit without them is touched by the color of its own name, a reversed twin by
the colors of its suit, and a variant without them by those of its suits. `Book.IsClosed` says that
no name leads nowhere, and `VariantEntry.Settles` what follows for a variant from its entry.
`isClosed_of_ofTexts` proves both of every book that is made of three texts.

Colors that are derived from suits are listed in the order in which they first appear
(`FirstSeen`). There is only one such list, and it is the one that `List.eraseDups` leaves
(`firstSeen_iff`).
-/

namespace GameHall.Rules

/-! ## First appearances -/

section FirstSeen

variable {α : Type} [DecidableEq α] {l ds es : List α} {a b : α}

/-- The list `ds` has the elements of `l`, each once, in the order in which they first appear. -/
structure FirstSeen (l ds : List α) : Prop where
  nodup : ds.Nodup
  mem_iff : ∀ a, a ∈ ds ↔ a ∈ l
  order : ds.Pairwise fun a b => l.idxOf a < l.idxOf b

/-- There is only one list of first appearances. -/
theorem FirstSeen.unique (hds : FirstSeen l ds) (hes : FirstSeen l es) : ds = es := by
  have hperm : ds.Perm es := (List.perm_ext_iff_of_nodup hds.nodup hes.nodup).2 fun a =>
    (hds.mem_iff a).trans (hes.mem_iff a).symm
  exact hperm.eq_of_pairwise (fun a b _ _ hab hba => absurd hab (Nat.lt_asymm hba)) hds.order
    hes.order

/-- What comes first among the elements that are kept comes first among all. -/
theorem idxOf_lt_of_filter {p : α → Bool} (ha : p a = true) (hb : p b = true)
    (h : (l.filter p).idxOf a < (l.filter p).idxOf b) : l.idxOf a < l.idxOf b := by
  induction l with
  | nil => simp at h
  | cons c l ih =>
    by_cases hc : p c = true
    · rw [List.filter_cons_of_pos hc] at h
      by_cases hca : c = a
      · have hcb : c ≠ b := by
          rintro rfl
          simp at h
        rw [hca, List.idxOf_cons_self, ← hca, List.idxOf_cons_ne l hcb]
        exact Nat.succ_pos _
      · have hcb : c ≠ b := by
          rintro rfl
          simp at h
        rw [List.idxOf_cons_ne _ hca, List.idxOf_cons_ne _ hcb] at h ⊢
        exact Nat.succ_lt_succ (ih (Nat.lt_of_succ_lt_succ h))
    · rw [List.filter_cons_of_neg hc] at h
      have hca : c ≠ a := fun heq => hc (heq ▸ ha)
      have hcb : c ≠ b := fun heq => hc (heq ▸ hb)
      rw [List.idxOf_cons_ne _ hca, List.idxOf_cons_ne _ hcb]
      exact Nat.succ_lt_succ (ih h)

theorem firstSeen_cons (h : FirstSeen (l.filter fun b => !b == a) ds) :
    FirstSeen (a :: l) (a :: ds) := by
  have hds (b : α) : b ∈ ds ↔ b ∈ l ∧ b ≠ a := by simpa using h.mem_iff b
  refine ⟨List.nodup_cons.2 ⟨fun ha => ((hds a).1 ha).2 rfl, h.nodup⟩, fun b => ?_,
    List.pairwise_cons.2 ⟨fun b hb => ?_, h.order.imp_of_mem fun {b c} hb hc hbc => ?_⟩⟩
  · by_cases hb : b = a <;> simp [hb, hds]
  · rw [List.idxOf_cons_self, List.idxOf_cons_ne l (Ne.symm ((hds b).1 hb).2)]
    exact Nat.succ_pos _
  · have hba := ((hds b).1 hb).2
    have hca := ((hds c).1 hc).2
    rw [List.idxOf_cons_ne l hba.symm, List.idxOf_cons_ne l hca.symm]
    exact Nat.succ_lt_succ (idxOf_lt_of_filter (by simpa using hba) (by simpa using hca) hbc)

theorem firstSeen_eraseDups (l : List α) : FirstSeen l l.eraseDups := by
  -- The first element stays, and the rest is what remains once it is filtered out.
  match l with
  | [] => exact ⟨List.nodup_nil, fun _ => Iff.rfl, List.Pairwise.nil⟩
  | a :: l =>
    rw [List.eraseDups_cons]
    exact firstSeen_cons (firstSeen_eraseDups _)
termination_by l.length
decreasing_by exact Nat.lt_succ_of_le (List.length_filter_le _ l)

theorem firstSeen_iff : FirstSeen l ds ↔ ds = l.eraseDups :=
  ⟨fun h => h.unique (firstSeen_eraseDups l), fun h => h ▸ firstSeen_eraseDups l⟩

end FirstSeen

/-! ## Suits -/

variable {colors : ColorBook} {suits : SuitBook} {cs : List String} {ss : List Suit}

theorem ColorBook.forall_mem_of_find? (h : (cs.find? fun c => !colors.contains c) = none) :
    ∀ c ∈ cs, c ∈ colors.names := by
  rw [not_contains_eq, List.find?_eq_none] at h
  simpa using h

/-- All suits of the book are touched by colors that are known. -/
def SuitBook.IsTouchedBy (colors : ColorBook) (b : SuitBook) : Prop :=
  ∀ s ∈ b.suits, ∀ c ∈ s.clueColors, c ∈ colors.names

/-- A suit and its twin are touched by the same colors. -/
theorem SuitEntry.clueColors_of_mem_suits {r : SuitEntry} {s : Suit} (h : s ∈ r.suits cs) :
    s.clueColors = cs := by
  unfold SuitEntry.suits at h
  split at h
  · obtain rfl | rfl := List.mem_pair.1 h <;> rfl
  · obtain rfl := List.mem_singleton.1 h
    rfl

namespace SuitBook

variable {b : SuitBook} {rs : List SuitEntry} {name : String} {s : Suit}

theorem name_of_get? (h : b.get? name = some s) : s.name = name := by
  simpa using List.find?_some h

theorem mem_of_get? (h : b.get? name = some s) : s ∈ b.suits :=
  List.mem_of_find?_eq_some h

theorem isTouchedBy_of_compile (h : compile rs colors = .ok b) : b.IsTouchedBy colors := by
  obtain ⟨hfits, -, rfl⟩ := compile_eq_ok_iff.1 h
  intro s hs
  obtain ⟨r, hr, hs⟩ := List.mem_flatMap.1 hs
  -- What is declared is a suit or its twin.
  rw [SuitEntry.clueColors_of_mem_suits hs]
  exact (hfits r hr).known

end SuitBook

/-! ## Variants -/

/-- What follows for a variant from its entry. -/
structure VariantEntry.Settles (r : VariantEntry) (v : Variant) : Prop where
  map_name : v.suits.map Suit.name = r.suits
  clueColors_of_some : ∀ cs, r.clueColors = some cs → v.clueColors = cs
  /-- Colors that are not given are those of the suits that not every color touches. -/
  clueColors_of_none : r.clueColors = none → ∀ ds,
    FirstSeen ((v.suits.filter fun s => !s.allClueColors).flatMap Suit.clueColors) ds ↔
      ds = v.clueColors
  specialRank : v.specialRank = -1 ∨ 1 ≤ v.specialRank
  hasSpecialRank_iff : v.hasSpecialRank = true ↔
    ∃ rank, r.specialRank = some rank ∧ rank ≠ 0 ∧ rank ≠ -1
  startRank_mem_iff : startRank ∈ v.ranks ↔ v.isUpOrDown = true
  showSuitNames : (∃ s ∈ v.suits, s.reversed = true) → v.showSuitNames = true
  maxScore_eq : v.maxScore = 5 * v.suits.length

namespace VariantEntry

variable {r : VariantEntry} {v : Variant} {ns : List String} {rank : Int} {id : Nat}

theorem forall₂_of_suits? (h : r.suits? suits ns = .ok ss) :
    List.Forall₂ (fun n s => suits.get? n = some s) ns ss := by
  induction ns generalizing ss with
  | nil =>
    obtain rfl : [] = ss := Except.ok.inj h
    exact .nil
  | cons n ns ih =>
    unfold VariantEntry.suits? at h
    split at h
    · exact absurd h nofun
    · rename_i s hs
      split at h
      · exact absurd h nofun
      · rename_i ss hss
        obtain rfl := Except.ok.inj h
        exact .cons hs (ih hss)

/-- The colors of a variant are derived from its suits, or given and all of them known. -/
theorem of_clueColors?_eq_ok (h : r.clueColors? ss colors = .ok cs) :
    (r.clueColors = none ∧ cs = derivedColors ss) ∨
      (r.clueColors = some cs ∧ ∀ c ∈ cs, c ∈ colors.names) := by
  unfold clueColors? at h
  split at h
  · rename_i hnone
    exact .inl ⟨hnone, (Except.ok.inj h).symm⟩
  · rename_i hsome
    split at h
    · exact absurd h nofun
    · rename_i hknown
      obtain rfl := Except.ok.inj h
      exact .inr ⟨hsome, ColorBook.forall_mem_of_find? hknown⟩

theorem mem_derivedColors_iff {c : String} :
    c ∈ derivedColors ss ↔ ∃ s ∈ ss, s.allClueColors = false ∧ c ∈ s.clueColors := by
  simp [derivedColors, and_assoc]

/-- Every special rank but zero and the one that stands for none is kept, and it is positive. -/
theorem of_specialRank?_eq_ok (h : r.specialRank? = .ok rank) :
    (rank = -1 ∧ ∀ k, r.specialRank = some k → k = 0 ∨ k = -1) ∨
      (1 ≤ rank ∧ r.specialRank = some rank) := by
  unfold specialRank? noSpecialRank at h
  cases hrank : r.specialRank with
  | none =>
    rw [hrank] at h
    exact .inl ⟨(Except.ok.inj h).symm, nofun⟩
  | some k =>
    rw [hrank] at h
    dsimp only at h
    split_ifs at h with hzero hlow
    · exact .inl ⟨(Except.ok.inj h).symm, fun k' hk' => .inl (Option.some.inj hk' ▸ hzero)⟩
    · obtain rfl := Except.ok.inj h
      by_cases hnone : k = -1
      · exact .inl ⟨hnone, fun k' hk' => .inr (Option.some.inj hk' ▸ hnone)⟩
      · exact .inr ⟨by omega, rfl⟩

theorem specialRank?_ne_iff (h : r.specialRank? = .ok rank) :
    rank ≠ noSpecialRank ↔ ∃ k, r.specialRank = some k ∧ k ≠ 0 ∧ k ≠ -1 := by
  obtain ⟨hnone, hgiven⟩ | ⟨hpos, hgiven⟩ := of_specialRank?_eq_ok h
  · refine ⟨fun hne => absurd hnone hne, ?_⟩
    rintro ⟨k, hk, hzero, hone⟩
    exact absurd (hgiven k hk) (not_or.2 ⟨hzero, hone⟩)
  · refine ⟨fun hne => ⟨rank, hgiven, by omega, hne⟩, fun _ => ?_⟩
    unfold noSpecialRank
    omega

theorem startRank_mem_assemble_iff :
    startRank ∈ (r.assemble id ss cs rank).ranks ↔
      (r.assemble id ss cs rank).isUpOrDown = true := by
  change startRank ∈ (if startsUpOrDown r.name then ordinaryRanks ++ [startRank] else ordinaryRanks)
    ↔ startsUpOrDown r.name = true
  split_ifs with hname
  · simp [hname]
  · simp [hname, ordinaryRanks, startRank]

namespace Declares

theorem get?_name (h : r.Declares suits colors v) : ∀ s ∈ v.suits, suits.get? s.name = some s := by
  obtain ⟨-, ss, hss, cs, -, rank, -, rfl⟩ := variant?_eq_ok_iff.1 h.variant?_eq
  intro s hs
  obtain ⟨n, -, hn⟩ := exists_of_forall₂ (forall₂_of_suits? hss).flip hs
  rwa [SuitBook.name_of_get? hn]

/-- Where the colors of the suits are known, so are those of the variants. -/
theorem clueColor_mem (h : r.Declares suits colors v) (hsuits : suits.IsTouchedBy colors) :
    ∀ c ∈ v.clueColors, c ∈ colors.names := by
  have hget := h.get?_name
  obtain ⟨-, ss, -, cs, hcs, rank, -, rfl⟩ := variant?_eq_ok_iff.1 h.variant?_eq
  obtain ⟨-, rfl⟩ | ⟨-, hknown⟩ := of_clueColors?_eq_ok hcs
  · intro c hc
    obtain ⟨s, hs, -, hsc⟩ := mem_derivedColors_iff.1 hc
    exact hsuits s (SuitBook.mem_of_get? (hget s hs)) c hsc
  · exact hknown

theorem settles (h : r.Declares suits colors v) : r.Settles v := by
  obtain ⟨-, ss, hss, cs, hcs, rank, hrank, rfl⟩ := variant?_eq_ok_iff.1 h.variant?_eq
  have hnames : ss.map Suit.name = r.suits.map fun n => n :=
    map_eq_of_forall₂ ((forall₂_of_suits? hss).imp fun n s => SuitBook.name_of_get?)
  exact {
    map_name := hnames.trans (List.map_id' _)
    clueColors_of_some := fun explicit hexplicit => by
      obtain ⟨hnone, -⟩ | ⟨hsome, -⟩ := of_clueColors?_eq_ok hcs
      · exact absurd (hnone.symm.trans hexplicit) nofun
      · exact Option.some.inj (hsome.symm.trans hexplicit)
    clueColors_of_none := fun hnone ds => by
      obtain ⟨-, rfl⟩ | ⟨hsome, -⟩ := of_clueColors?_eq_ok hcs
      · exact firstSeen_iff
      · exact absurd (hnone.symm.trans hsome) nofun
    specialRank := (of_specialRank?_eq_ok hrank).imp And.left And.left
    hasSpecialRank_iff := bne_iff_ne.trans (specialRank?_ne_iff hrank)
    startRank_mem_iff := startRank_mem_assemble_iff
    showSuitNames := fun hreversed => Bool.or_eq_true_iff.2 (.inr (List.any_eq_true.2 hreversed))
    maxScore_eq := Nat.mul_comm _ _ }

end Declares

end VariantEntry

/-! ## Books -/

/-- Every name that is in a book leads somewhere. -/
structure Book.IsClosed (b : Book) : Prop where
  get?_name : ∀ v ∈ b.variants.variants, ∀ s ∈ v.suits, b.suits.get? s.name = some s
  suitColor_mem : ∀ s ∈ b.suits.suits, ∀ c ∈ s.clueColors, c ∈ b.colors.names
  variantColor_mem : ∀ v ∈ b.variants.variants, ∀ c ∈ v.clueColors, c ∈ b.colors.names

theorem bind_eq_ok_iff {α β : Type} {e : Except Fault α} {f : α → Except Fault β} {y : β} :
    e >>= f = .ok y ↔ ∃ x, e = .ok x ∧ f x = .ok y := by
  cases e with
  | error fault => exact ⟨nofun, nofun⟩
  | ok x => exact ⟨fun h => ⟨x, rfl, h⟩, fun ⟨_, hx, h⟩ => Except.ok.inj hx ▸ h⟩

namespace Book

variable {b : Book}

section Compile

variable {rc : List ColorEntry} {rs : List SuitEntry} {rv : List VariantEntry}

/-- Each part of a book is made of its entries and of the parts before it. -/
theorem compile_eq_ok_iff :
    compile rc rs rv = .ok b ↔ ColorBook.compile rc = .ok b.colors ∧
      SuitBook.compile rs b.colors = .ok b.suits ∧
        VariantBook.compile rv b.suits b.colors = .ok b.variants := by
  unfold Book.compile
  simp only [bind_eq_ok_iff]
  constructor
  · rintro ⟨colors, hcolors, suits, hsuits, variants, hvariants, hb⟩
    obtain rfl := Except.ok.inj hb
    exact ⟨hcolors, hsuits, hvariants⟩
  · rintro ⟨hcolors, hsuits, hvariants⟩
    exact ⟨_, hcolors, _, hsuits, _, hvariants, rfl⟩

theorem isClosed_of_compile (h : compile rc rs rv = .ok b) : b.IsClosed := by
  obtain ⟨-, hsuits, hvariants⟩ := compile_eq_ok_iff.1 h
  have htouched := SuitBook.isTouchedBy_of_compile hsuits
  have hdeclared (v : Variant) (hv : v ∈ b.variants.variants) :
      ∃ r, r ∈ rv ∧ VariantEntry.Declares b.suits b.colors r v :=
    exists_of_forall₂ (of_compile_eq_ok hvariants).1.declares.flip hv
  refine ⟨fun v hv => ?_, htouched, fun v hv => ?_⟩
  · obtain ⟨r, -, hr⟩ := hdeclared v hv
    exact hr.get?_name
  · obtain ⟨r, -, hr⟩ := hdeclared v hv
    exact hr.clueColor_mem htouched

theorem forall₂_settles_of_compile (h : compile rc rs rv = .ok b) :
    List.Forall₂ VariantEntry.Settles rv b.variants.variants :=
  (of_compile_eq_ok (compile_eq_ok_iff.1 h).2.2).1.declares.imp fun _ _ hr => hr.settles

end Compile

variable {colors suits variants : String}

/-- The book of three texts is that of the entries that they hold. -/
theorem ofTexts_eq_ok_iff :
    ofTexts colors suits variants = .ok b ↔
      ∃ rc, entries .color ColorEntry.read? colors = .ok rc ∧
        ∃ rs, entries .suit SuitEntry.read? suits = .ok rs ∧
          ∃ rv, entries .variant VariantEntry.read? variants = .ok rv ∧
            compile rc rs rv = .ok b := by
  have hbind {α β : Type} (e : Except Fault α) (f : α → Except Fault β) : e.bind f = e >>= f := rfl
  simp only [ofTexts, hbind, bind_eq_ok_iff, Book.compile]
  constructor
  · rintro ⟨cs, ⟨rc, hrc, hcs⟩, ss, ⟨rs, hrs, hss⟩, vs, ⟨rv, hrv, hvs⟩, hb⟩
    exact ⟨rc, hrc, rs, hrs, rv, hrv, cs, hcs, ss, hss, vs, hvs, hb⟩
  · rintro ⟨rc, hrc, rs, hrs, rv, hrv, cs, hcs, ss, hss, vs, hvs, hb⟩
    exact ⟨cs, ⟨rc, hrc, hcs⟩, ss, ⟨rs, hrs, hss⟩, vs, ⟨rv, hrv, hvs⟩, hb⟩

/-- **A book that is made of three texts refers to nothing that is not in it**, and its variants are
settled by the entries of the third. -/
theorem isClosed_of_ofTexts (h : ofTexts colors suits variants = .ok b) :
    b.IsClosed ∧ ∃ rs, entries .variant VariantEntry.read? variants = .ok rs ∧
      List.Forall₂ VariantEntry.Settles rs b.variants.variants := by
  obtain ⟨rc, -, rs, -, rv, hvariants, hcompile⟩ := ofTexts_eq_ok_iff.1 h
  exact ⟨isClosed_of_compile hcompile, rv, hvariants, forall₂_settles_of_compile hcompile⟩

/-- A book with a reversed suit and one that every color touches. -/
theorem isClosed_of_short_texts :
    let colors := "[[\"Red\",null,\"\"]]"
    let suits := "[[\"Red\",null,null,false,false,false,false,false,true],[\"Omni\",null,null,true]]"
    let variants := "[[\"No Variant\",1,[\"Red\"]],[\"Up or Down\",0,[\"Red Reversed\",\"Omni\"]]]"
    ∃ b, ofTexts colors suits variants = .ok b ∧ b.IsClosed ∧
      ∃ rs, entries .variant VariantEntry.read? variants = .ok rs ∧
        List.Forall₂ VariantEntry.Settles rs b.variants.variants := by
  intro colors suits variants
  have hmade : (ofTexts colors suits variants).isOk = true := by decide +kernel
  cases hb : ofTexts colors suits variants with
  | error f =>
    rw [hb] at hmade
    exact absurd hmade nofun
  | ok b => exact ⟨b, rfl, isClosed_of_ofTexts hb⟩

end Book

end GameHall.Rules
