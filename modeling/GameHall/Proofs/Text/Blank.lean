import GameHall.Text.Blank
import Mathlib.Data.List.DropRight

/-!
# Blank texts

A text is blank when all its characters are: this is what trimming finds out.
-/

namespace GameHall

theorem Text.trim_eq_nil_iff {cs : List Char} : Text.trim cs = [] ↔ ∀ c ∈ cs, isBlank c := by
  have hdrop : ∀ {ds : List Char}, ds.dropWhile isBlank = [] ↔ ∀ c ∈ ds, isBlank c :=
    List.dropWhile_eq_nil_iff
  rw [Text.trim, List.reverse_eq_nil_iff, hdrop]
  simp only [List.mem_reverse]
  constructor
  · intro htail c hc
    rw [← List.takeWhile_append_dropWhile (p := isBlank) (l := cs), List.mem_append] at hc
    rcases hc with hc | hc
    · exact List.mem_takeWhile_imp hc
    · exact htail c hc
  · intro hall c hc
    exact hall c ((List.dropWhile_sublist isBlank).subset hc)

theorem isBlankText_iff {s : String} : isBlankText s ↔ ∀ c ∈ s.toList, isBlank c := by
  rw [isBlankText, List.isEmpty_iff, Text.trim_eq_nil_iff]

theorem isBlankText_append {s t : String} :
    isBlankText (s ++ t) ↔ isBlankText s ∧ isBlankText t := by
  simp only [isBlankText_iff, String.toList_append, List.mem_append, or_imp, forall_and]

end GameHall
