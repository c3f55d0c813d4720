import GameHall.Text.Blank
import GameHall.Text.Case
import Mathlib.Data.List.Basic

/-!
# Lowercase texts

What is in lowercase stays as it is. The partners in the table of lowercase letters belong to no run
of the table themselves (`lowerRuns_apart`), and are neither blank nor the dotted capital I nor
outside of the code points (`lowerRuns_miss`, `lowerRuns_within`); this is checked run by run. Hence
every letter of a lowercase form is settled: casing maps it to itself (`lowerChar_of_mem`). So it
goes for a whole text, where the context decides about sigma (`lowerChars_lowerChars`).

Casing does not look past a space: `lowerChars_append_space` puts a text into lowercase on either
side of one.
-/

namespace GameHall

/-! ## Letters with rules of their own -/

namespace Text

/-- The letters that come into a lowercase form by a rule of their own: both small sigmas, and those
of the dotted capital I. -/
def ruledLetters : List Char := smallSigma :: finalSigma :: lowerDottedI

theorem settled_of_mem_ruledLetters {d : Char} (hd : d ∈ ruledLetters) :
    lowerChar d = [d] ∧ isBlank d = false := by
  have hletters : (ruledLetters.all fun d => lowerChar d == [d] && !isBlank d) = true := by
    decide +kernel
  simpa using List.all_eq_true.1 hletters d hd

theorem lowerChar_capitalSigma : lowerChar capitalSigma = [smallSigma] := by decide +kernel

/-- A space has no case, and casing does not look through it. -/
theorem case_of_space :
    lowerChar ' ' = [' '] ∧ isCaseIgnorable ' ' = false ∧ isCased ' ' = false := by decide +kernel

theorem mem_ruledLetters_of_mem_lowerDottedI {d : Char} (hd : d ∈ lowerDottedI) :
    d ∈ ruledLetters :=
  List.mem_cons_of_mem _ (List.mem_cons_of_mem _ hd)

end Text

/-! ## The table -/

namespace CaseRun

/-- Whether the partners of a run reach into a range. -/
def meets (r : CaseRun) (range : Nat × Nat) : Bool :=
  Nat.ble range.1 (r.last + r.shift).toNat && Nat.ble (r.first + r.shift).toNat range.2

/-- Whether the partners of a run lie outside of another run, or between the letters of it. -/
def apart (r r' : CaseRun) : Bool :=
  !r.meets (r'.first, r'.last) ||
    (r.stride == r'.stride || r.first == r.last) &&
      (r.first + r.shift - r'.first) % r'.stride != 0

variable {r r' : CaseRun} {n m : Nat} {range : Nat × Nat}

theorem covers_iff :
    r.covers n = true ↔ r.first ≤ n ∧ n ≤ r.last ∧ (r.stride : Int) ∣ n - r.first := by
  simp only [covers, Bool.and_eq_true, decide_eq_true_iff, beq_iff_eq, and_assoc]
  refine and_congr_right fun hfirst => and_congr_right fun _ => ?_
  rw [← Nat.dvd_iff_mod_eq_zero, ← Int.natCast_dvd_natCast, Int.natCast_sub hfirst]

theorem not_mem_of_not_meets (h : r.meets range = false) (hn : r.covers n = true)
    (hm : (m : Int) = n + r.shift) : ¬(range.1 ≤ m ∧ m ≤ range.2) := by
  obtain ⟨hfirst, hlast, -⟩ := covers_iff.1 hn
  rw [meets, ← Bool.not_eq_true, Bool.and_eq_true, Nat.ble_eq, Nat.ble_eq] at h
  omega

theorem not_covers_of_apart (h : r.apart r' = true) (hn : r.covers n = true)
    (hm : (m : Int) = n + r.shift) : r'.covers m = false := by
  rw [← Bool.not_eq_true, covers_iff]
  rintro ⟨hfirst', hlast', hdvd'⟩
  obtain ⟨hfirst, hlast, hdvd⟩ := covers_iff.1 hn
  simp only [apart, Bool.or_eq_true, Bool.and_eq_true, Bool.not_eq_true', beq_iff_eq, bne_iff_ne,
    ← Int.dvd_iff_emod_eq_zero, ne_eq] at h
  obtain houtside | ⟨hstep, hbetween⟩ := h
  · exact not_mem_of_not_meets houtside hn hm ⟨hfirst', hlast'⟩
  · have hmeet : (r'.stride : Int) ∣ n - r.first := by
      obtain hstride | hsingle := hstep
      · exact hstride ▸ hdvd
      · obtain rfl : n = r.first := by omega
        simp
    -- Both letters lie on the steps of `r'`, so the distance of the two beginnings does, too.
    have hdiff : (m : Int) - r'.first - (n - r.first) = r.first + r.shift - r'.first := by omega
    exact hbetween (hdiff ▸ Int.dvd_sub hdvd' hmeet)

end CaseRun

/-- No partner has a partner of its own. -/
theorem lowerRuns_apart : (lowerRuns.all fun r => lowerRuns.all r.apart) = true := by decide +kernel

/-- The partners are code points. -/
theorem lowerRuns_within :
    ∀ r ∈ lowerRuns, 0 ≤ r.first + r.shift ∧ r.last + r.shift < 0x110000 := by decide +kernel

/-- No partner is the dotted capital I, half of a surrogate pair, or blank. -/
theorem lowerRuns_miss :
    ∀ r ∈ lowerRuns, ∀ range ∈ (0x130, 0x130) :: (0xD800, 0xDFFF) :: blankRanges,
      r.meets range = false := by decide +kernel

namespace Text

variable {c d : Char} {cs ds before after : List Char} {r : CaseRun}

/-! ## One character -/

theorem shifted_eq (runs : List CaseRun) (c : Char) :
    (∃ r ∈ runs, r.covers c.toNat = true ∧
      shifted runs c = Char.ofNat (c.toNat + r.shift).toNat) ∨ shifted runs c = c := by
  unfold shifted
  cases hr : runs.find? fun r => r.covers c.toNat with
  | none => exact .inr rfl
  | some r =>
    have hcovers : r.covers c.toNat = true := by simpa using List.find?_some hr
    exact .inl ⟨r, List.mem_of_find?_eq_some hr, hcovers, rfl⟩

theorem shifted_eq_self {runs : List CaseRun} (h : ∀ r ∈ runs, r.covers c.toNat = false) :
    shifted runs c = c := by
  rw [shifted, List.find?_eq_none.2 (by simpa using h)]

/-- The partner of a letter stands at its distance. -/
theorem toNat_partner (hr : r ∈ lowerRuns) (hc : r.covers c.toNat = true) :
    ((Char.ofNat (c.toNat + r.shift).toNat).toNat : Int) = c.toNat + r.shift := by
  obtain ⟨hfirst, hlast, -⟩ := CaseRun.covers_iff.1 hc
  obtain ⟨hnonneg, hlt⟩ := lowerRuns_within r hr
  have hcast : ((c.toNat + r.shift).toNat : Int) = c.toNat + r.shift := Int.toNat_of_nonneg (by omega)
  have hmiss := lowerRuns_miss r hr (0xD800, 0xDFFF) (by simp)
  have hsurrogate := CaseRun.not_mem_of_not_meets hmiss hc hcast
  have hvalid : (c.toNat + r.shift).toNat.isValidChar := by
    unfold Nat.isValidChar
    omega
  have hcode : (Char.ofNat (c.toNat + r.shift).toNat).toNat = (c.toNat + r.shift).toNat := by
    rw [Char.ofNat, dif_pos hvalid]
    rfl
  rw [hcode, hcast]

/-- A letter of a lowercase form is its own lowercase form. -/
theorem lowerChar_of_mem (hd : d ∈ lowerChar c) : lowerChar d = [d] := by
  unfold lowerChar at hd
  split at hd
  · exact (settled_of_mem_ruledLetters (mem_ruledLetters_of_mem_lowerDottedI hd)).1
  · rename_i hdotted
    obtain rfl := List.mem_singleton.1 hd
    obtain ⟨r, hr, hc, heq⟩ | heq := shifted_eq lowerRuns c
    · rw [heq]
      have hpartner := toNat_partner hr hc
      generalize Char.ofNat (c.toNat + r.shift).toNat = d at hpartner
      have hd : d ≠ dottedI := by
        rintro rfl
        have hmiss := lowerRuns_miss r hr (0x130, 0x130) (by simp)
        exact CaseRun.not_mem_of_not_meets hmiss hc hpartner (by decide)
      have hapart := List.all_eq_true.1 (List.all_eq_true.1 lowerRuns_apart r hr)
      rw [lowerChar, if_neg hd, shifted_eq_self fun r' hr' =>
        CaseRun.not_covers_of_apart (hapart r' hr') hc hpartner]
    · rw [heq, lowerChar, if_neg hdotted, heq]

theorem not_isBlank_of_mem_lowerChar (hc : isBlank c = false) (hd : d ∈ lowerChar c) :
    isBlank d = false := by
  unfold lowerChar at hd
  split at hd
  · exact (settled_of_mem_ruledLetters (mem_ruledLetters_of_mem_lowerDottedI hd)).2
  · obtain rfl := List.mem_singleton.1 hd
    obtain ⟨r, hr, hcovers, heq⟩ | heq := shifted_eq lowerRuns c
    · rw [heq, isBlank, inRanges, List.any_eq_false]
      intro range hrange
      have hmiss := lowerRuns_miss r hr range (by simp [hrange])
      simpa using CaseRun.not_mem_of_not_meets hmiss hcovers (toNat_partner hr hcovers)
    · rwa [heq]

/-! ## Whole texts -/

/-- What holds of the letters with a rule of their own and of the lowercase form of each letter holds
of the letters of the lowercase form of a text. -/
theorem forall_mem_lowerAfter {p : Char → Prop} (hruled : ∀ d ∈ ruledLetters, p d)
    (h : ∀ c ∈ cs, ∀ d ∈ lowerChar c, p d) : ∀ d ∈ lowerAfter before cs, p d := by
  have hsmall : p smallSigma := hruled smallSigma List.mem_cons_self
  have hfinal : p finalSigma := hruled finalSigma (List.mem_cons_of_mem _ List.mem_cons_self)
  induction cs generalizing before with
  | nil => exact fun d hd => absurd hd List.not_mem_nil
  | cons c cs ih =>
    rw [List.forall_mem_cons] at h
    rw [lowerAfter, List.forall_mem_append]
    refine ⟨?_, ih h.2⟩
    split
    · unfold lowerSigma
      split <;> simpa
    · exact h.1

theorem lowerChar_of_mem_lowerChars (hd : d ∈ lowerChars cs) : lowerChar d = [d] :=
  forall_mem_lowerAfter (fun _ h => (settled_of_mem_ruledLetters h).1)
    (fun _ _ _ => lowerChar_of_mem) d hd

theorem not_isBlank_of_mem_lowerChars (hcs : ∀ c ∈ cs, isBlank c = false) (hd : d ∈ lowerChars cs) :
    isBlank d = false :=
  forall_mem_lowerAfter (fun _ h => (settled_of_mem_ruledLetters h).2)
    (fun c hc _ => not_isBlank_of_mem_lowerChar (hcs c hc)) d hd

/-- A text of settled letters is in lowercase. -/
theorem lowerAfter_eq_self (h : ∀ c ∈ cs, lowerChar c = [c]) : lowerAfter before cs = cs := by
  induction cs generalizing before with
  | nil => rfl
  | cons c cs ih =>
    rw [List.forall_mem_cons] at h
    have hsigma : c ≠ capitalSigma := by
      rintro rfl
      rw [lowerChar_capitalSigma] at h
      cases h.1
    rw [lowerAfter, if_neg hsigma, h.1, ih h.2, List.singleton_append]

/-- A lowercase form is its own lowercase form. -/
theorem lowerChars_lowerChars (cs : List Char) : lowerChars (lowerChars cs) = lowerChars cs :=
  lowerAfter_eq_self fun _ => lowerChar_of_mem_lowerChars

theorem lowerChars_ne_nil (h : cs ≠ []) : lowerChars cs ≠ [] := by
  obtain ⟨c, cs, rfl⟩ := List.exists_cons_of_ne_nil h
  rw [lowerChars, lowerAfter]
  refine List.append_ne_nil_of_left_ne_nil ?_ _
  unfold lowerChar lowerDottedI
  split_ifs <;> exact List.cons_ne_nil _ _

/-! ## Spaces -/

/-- Casing looks for a letter up to the next space. -/
theorem meetsCased_append_space (cs ds : List Char) :
    meetsCased (cs ++ ' ' :: ds) = meetsCased cs := by
  obtain ⟨-, hignorable, hcased⟩ := case_of_space
  unfold meetsCased
  induction cs with
  | nil => simp [hignorable, hcased]
  | cons c cs ih =>
    rw [List.cons_append, List.dropWhile_cons, List.dropWhile_cons]
    cases isCaseIgnorable c
    · rfl
    · exact ih

theorem lowerAfter_append_space (before cs ds : List Char) :
    lowerAfter before (cs ++ ' ' :: ds) =
      lowerAfter before cs ++ ' ' :: lowerAfter (' ' :: (cs.reverse ++ before)) ds := by
  induction cs generalizing before with
  | nil =>
    have hsigma : ' ' ≠ capitalSigma := by decide
    simp [lowerAfter, case_of_space.1, hsigma]
  | cons c cs ih =>
    simp only [List.cons_append, lowerAfter, ih, lowerSigma, meetsCased_append_space,
      List.reverse_cons, List.append_assoc, List.nil_append]

/-- What stands before a space does not matter behind it. -/
theorem lowerAfter_space (before cs ds : List Char) :
    lowerAfter (cs ++ ' ' :: before) ds = lowerAfter cs ds := by
  induction ds generalizing cs with
  | nil => rfl
  | cons d ds ih =>
    rw [lowerAfter, lowerAfter, ← List.cons_append, ih (d :: cs), lowerSigma, lowerSigma,
      meetsCased_append_space]

theorem lowerChars_append_space (cs ds : List Char) :
    lowerChars (cs ++ ' ' :: ds) = lowerChars cs ++ ' ' :: lowerChars ds := by
  have hbehind : lowerAfter (' ' :: (cs.reverse ++ [])) ds = lowerAfter [] ds :=
    lowerAfter_space _ [] ds
  rw [lowerChars, lowerAfter_append_space, hbehind]
  rfl

end Text

end GameHall
