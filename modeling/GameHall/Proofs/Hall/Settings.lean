import GameHall.Proofs.Hall.Permanence

/-!
# What a hall is set up with

The limits and the variants of a hall never change (`limits_after`, `variants_after`), and neither do
the options that a table was opened with. So the variant of a table stays one that can be played
(`Reachable.variant_mem`).
-/

namespace GameHall

namespace Hall

variable {h h' : Hall} {s : Session} {t t' : Table} {o : Option Table}
  {ts : List Table} {m : List Delivery}

/-! ## Limits and variants -/

theorem Change.limits_eq (c : h.Change o m h') : h'.limits = h.limits := by
  cases c <;> rfl

theorem Change.variants_eq (c : h.Change o m h') : h'.variants = h.variants := by
  cases c <;> rfl

theorem Changes.settings_eq (cs : Changes h ts m h') :
    h'.limits = h.limits ∧ h'.variants = h.variants := by
  induction cs with
  | none => exact ⟨rfl, rfl⟩
  | cons c _ ih => exact ⟨ih.1.trans c.limits_eq, ih.2.trans c.variants_eq⟩

theorem settings_run (h : Hall) (ops : List (Luck × Operation)) :
    (h.run ops).limits = h.limits ∧ (h.run ops).variants = h.variants := by
  induction ops generalizing h with
  | nil => exact ⟨rfl, rfl⟩
  | cons op ops ih =>
    obtain ⟨ts, hts, -⟩ := perform_changes h op.1 op.2
    have hstep := Changes.settings_eq hts
    have hrest := ih (h.perform op.1 op.2).hall
    exact ⟨hrest.1.trans hstep.1, hrest.2.trans hstep.2⟩

variable (limits : Limits) (variants : List String) (ops : List (Luck × Operation))

theorem limits_after : (after limits variants ops).limits = limits :=
  (settings_run (fresh limits variants) ops).1

theorem variants_after : (after limits variants ops).variants = variants :=
  (settings_run (fresh limits variants) ops).2

/-! ## Options -/

theorem Opening.variant_mem (o : h.Opening s t) : t.options.variant ∈ h.variants := by
  cases o with
  | lobby _ _ known => exact known
  | review _ _ known => exact known

/-- Tables open with a variant that can be played, and keep their options. -/
theorem Change.variant_mem (c : h.Change o m h')
    (hk : ∀ x ∈ h.tables, x.options.variant ∈ h.variants) :
    ∀ x ∈ h'.tables, x.options.variant ∈ h'.variants := by
  have hkeep {t t' : Table} (c : t.Continues t') (ht : t.options.variant ∈ h.variants) :
      t'.options.variant ∈ h.variants := c.options ▸ ht
  rw [c.variants_eq]
  exact c.forall_tables hk Opening.variant_mem (fun a => hkeep a.continues)
    (fun d => hkeep d.continues) (fun a => hkeep a.continues)

/-- **The variant of every table can be played.** -/
theorem Reachable.variant_mem (hr : h.Reachable) : ∀ t ∈ h.tables, t.options.variant ∈ h.variants :=
  hr.induction_on_changes (fun _ _ _ ht => by cases ht) Change.variant_mem

end Hall

end GameHall
