import GameHall.Proofs.Text.Blank
import GameHall.Proofs.Text.Lowercase
import GameHall.Text.NormalForm

/-!
# Normal forms of names

`Text.HasWords` says what the words of a text are, without taking it apart: words stand in it one
behind the other, with blanks between them and around them. They are those that `Text.words` lists
(`Text.hasWords_iff`).

Words with spaces between them make a text in which the same words are found again
(`Text.words_unwords`). Casing goes word by word, as it does not look past a space, and makes a word
of a word (`Text.IsWord.lower`). So the words of a normal form are the lowercase forms of the words
of the name, with single spaces between them, and the normal form is a normal form itself.
`normalForm_normalizes` says all of this at once.
-/

namespace GameHall

namespace Text

variable {b c : Char} {w cs ds before after : List Char} {ws : List (List Char)}

/-! ## Words -/

/-- A word has letters, and none of them is blank. -/
structure IsWord (w : List Char) : Prop where
  ne_nil : w ≠ []
  not_isBlank : ∀ c ∈ w, isBlank c = false

/-- The words of a text: what stands between its blanks. -/
inductive HasWords : List Char → List (List Char) → Prop
  | blank {gap : List Char} (hgap : ∀ c ∈ gap, isBlank c = true) : HasWords gap []
  /-- A word stands behind blanks, and a blank stands behind the word unless the text ends there. -/
  | word {gap w cs : List Char} {ws : List (List Char)} (hgap : ∀ c ∈ gap, isBlank c = true)
    (hw : IsWord w) (hend : ∀ b ∈ cs.head?, isBlank b = true) (h : HasWords cs ws) :
    HasWords (gap ++ w ++ cs) (w :: ws)

theorem wordsFrom_append (hw : ∀ c ∈ w, isBlank c = false) :
    wordsFrom ds (w ++ cs) = wordsFrom (w.reverse ++ ds) cs := by
  induction w generalizing ds with
  | nil => rfl
  | cons c w ih =>
    rw [List.forall_mem_cons] at hw
    rw [List.cons_append, wordsFrom, hw.1, if_neg Bool.false_ne_true, ih hw.2, List.reverse_cons,
      List.append_assoc, List.singleton_append]

theorem closeWord_reverse (hw : w ≠ []) : closeWord w.reverse = [w] := by
  rw [closeWord, if_neg (mt List.reverse_eq_nil_iff.1 hw), List.reverse_reverse]

namespace IsWord

theorem words_eq (hw : IsWord w) : words w = [w] := by
  have hread : wordsFrom [] (w ++ []) = wordsFrom (w.reverse ++ []) [] :=
    wordsFrom_append hw.not_isBlank
  rw [List.append_nil, List.append_nil] at hread
  rw [words, hread, wordsFrom, closeWord_reverse hw.ne_nil]

/-- A blank ends a word. -/
theorem words_append (hw : IsWord w) (hb : isBlank b = true) :
    words (w ++ b :: cs) = w :: words cs := by
  rw [words, wordsFrom_append hw.not_isBlank, wordsFrom, if_pos hb, List.append_nil,
    closeWord_reverse hw.ne_nil, List.singleton_append, words]

theorem lower (hw : IsWord w) : IsWord (lowerChars w) where
  ne_nil := lowerChars_ne_nil hw.ne_nil
  not_isBlank _ := not_isBlank_of_mem_lowerChars hw.not_isBlank

end IsWord

theorem isWord_of_mem_closeWord (hds : ∀ c ∈ ds, isBlank c = false) (hw : w ∈ closeWord ds) :
    IsWord w := by
  unfold closeWord at hw
  split at hw
  · exact absurd hw List.not_mem_nil
  · rename_i hne
    obtain rfl := List.mem_singleton.1 hw
    exact ⟨mt List.reverse_eq_nil_iff.1 hne, fun c hc => hds c (List.mem_reverse.1 hc)⟩

theorem isWord_of_mem_wordsFrom (hds : ∀ c ∈ ds, isBlank c = false) (hw : w ∈ wordsFrom ds cs) :
    IsWord w := by
  induction cs generalizing ds with
  | nil => exact isWord_of_mem_closeWord hds hw
  | cons c cs ih =>
    rw [wordsFrom] at hw
    split at hw
    · obtain hw | hw := List.mem_append.1 hw
      · exact isWord_of_mem_closeWord hds hw
      · exact ih (fun _ h => absurd h List.not_mem_nil) hw
    · rename_i hc
      exact ih (List.forall_mem_cons.2 ⟨Bool.not_eq_true _ ▸ hc, hds⟩) hw

theorem isWord_of_mem_words (hw : w ∈ words cs) : IsWord w :=
  isWord_of_mem_wordsFrom (fun _ h => absurd h List.not_mem_nil) hw

theorem wordsFrom_eq_nil_iff : wordsFrom ds cs = [] ↔ ds = [] ∧ ∀ c ∈ cs, isBlank c = true := by
  have hclose (ds : List Char) : closeWord ds = [] ↔ ds = [] := by
    unfold closeWord
    split <;> simp [*]
  induction cs generalizing ds with
  | nil => simp [wordsFrom, hclose]
  | cons c cs ih =>
    rw [wordsFrom]
    split <;> simp [*]

theorem words_eq_nil_iff : words cs = [] ↔ ∀ c ∈ cs, isBlank c = true := by
  simp [words, wordsFrom_eq_nil_iff]

theorem words_blank_append {gap : List Char} (hgap : ∀ c ∈ gap, isBlank c = true) :
    words (gap ++ cs) = words cs := by
  induction gap with
  | nil => rfl
  | cons c gap ih =>
    rw [List.forall_mem_cons] at hgap
    rw [List.cons_append, words, wordsFrom, if_pos hgap.1, ← words, ih hgap.2]
    rfl

theorem HasWords.words_eq (h : HasWords cs ws) : words cs = ws := by
  induction h with
  | blank hgap => exact words_eq_nil_iff.2 hgap
  | @word gap w cs ws hgap hw hend _ ih =>
    rw [List.append_assoc, words_blank_append hgap]
    cases cs with
    | nil => rw [List.append_nil, hw.words_eq, ← ih, words_eq_nil_iff.2 (List.forall_mem_nil _)]
    | cons b cs =>
      have hb : isBlank b = true := hend b rfl
      have hskip : words ([b] ++ cs) = words cs := words_blank_append (by simpa using hb)
      rw [hw.words_append hb, ← ih, ← hskip, List.singleton_append]

theorem HasWords.cons_blank (h : HasWords cs ws) (hb : isBlank b = true) : HasWords (b :: cs) ws := by
  cases h with
  | blank hgap => exact .blank (List.forall_mem_cons.2 ⟨hb, hgap⟩)
  | @word gap w cs ws hgap hw hend h =>
    have hgap' : ∀ c ∈ b :: gap, isBlank c = true := List.forall_mem_cons.2 ⟨hb, hgap⟩
    exact .word hgap' hw hend h

/-- A word that has been read and what stands behind it. -/
theorem HasWords.closeWord_append (h : HasWords cs ws) (hend : ∀ b ∈ cs.head?, isBlank b = true)
    (hds : ∀ c ∈ ds, isBlank c = false) : HasWords (ds.reverse ++ cs) (closeWord ds ++ ws) := by
  unfold closeWord
  split
  · rename_i hnone
    simpa [hnone] using h
  · rename_i hne
    have hw : IsWord ds.reverse :=
      ⟨mt List.reverse_eq_nil_iff.1 hne, fun c hc => hds c (List.mem_reverse.1 hc)⟩
    exact .word (List.forall_mem_nil _) hw hend h

theorem hasWords_wordsFrom (hds : ∀ c ∈ ds, isBlank c = false) :
    HasWords (ds.reverse ++ cs) (wordsFrom ds cs) := by
  induction cs generalizing ds with
  | nil =>
    have hnone : HasWords [] [] := .blank (List.forall_mem_nil _)
    simpa [wordsFrom] using hnone.closeWord_append (by simp) hds
  | cons c cs ih =>
    rw [wordsFrom]
    split
    · rename_i hc
      have hrest : HasWords (c :: cs) (wordsFrom [] cs) := (ih (List.forall_mem_nil _)).cons_blank hc
      exact hrest.closeWord_append (by simpa using hc) hds
    · rename_i hc
      have hrest := ih (List.forall_mem_cons.2 ⟨Bool.not_eq_true _ ▸ hc, hds⟩)
      rwa [List.reverse_cons, List.append_assoc, List.singleton_append] at hrest

/-- Every text has its words and no others. -/
theorem hasWords_iff : HasWords cs ws ↔ words cs = ws := by
  constructor
  · exact HasWords.words_eq
  · rintro rfl
    exact hasWords_wordsFrom (List.forall_mem_nil _)

/-! ## Words and spaces -/

theorem isBlank_space : isBlank ' ' = true := by decide

theorem unwords_cons (w : List Char) (hws : ws ≠ []) :
    unwords (w :: ws) = w ++ ' ' :: unwords ws := by
  cases ws with
  | nil => exact absurd rfl hws
  | cons w' ws => rfl

theorem unwords_eq_intercalate (ws : List (List Char)) : unwords ws = [' '].intercalate ws := by
  induction ws using unwords.induct with
  | case1 => rfl
  | case2 w => simp [unwords]
  | case3 w ws hne ih =>
    obtain ⟨w', ws, rfl⟩ := List.exists_cons_of_ne_nil hne
    rw [unwords_cons w hne, ih]
    simp

/-- The words of a text that has spaces between its words. -/
theorem words_unwords (hws : ∀ w ∈ ws, IsWord w) : words (unwords ws) = ws := by
  induction ws using unwords.induct with
  | case1 => rfl
  | case2 w => exact (hws w List.mem_cons_self).words_eq
  | case3 w ws hne ih =>
    rw [List.forall_mem_cons] at hws
    rw [unwords_cons w hne, hws.1.words_append isBlank_space, ih hws.2]

theorem unwords_eq_nil_iff (hws : ∀ w ∈ ws, IsWord w) : unwords ws = [] ↔ ws = [] := by
  constructor
  · intro h
    rw [← words_unwords hws, h]
    rfl
  · rintro rfl
    rfl

/-- A text that has spaces between its words starts with a letter. -/
theorem exists_head?_unwords (hws : ∀ w ∈ ws, IsWord w) (hne : ws ≠ []) :
    ∃ c, (unwords ws).head? = some c ∧ isBlank c = false := by
  obtain ⟨w, ws, rfl⟩ := List.exists_cons_of_ne_nil hne
  obtain ⟨hw, hws⟩ := List.forall_mem_cons.1 hws
  obtain ⟨c, w, rfl⟩ := List.exists_cons_of_ne_nil hw.ne_nil
  refine ⟨c, ?_, hw.not_isBlank c List.mem_cons_self⟩
  cases ws <;> rfl

theorem IsWord.exists_getLast? (hw : IsWord w) : ∃ c, w.getLast? = some c ∧ isBlank c = false :=
  ⟨_, List.getLast?_eq_some_getLast hw.ne_nil, hw.not_isBlank _ (List.getLast_mem hw.ne_nil)⟩

/-- What is blank in a text that has spaces between its words is a space with a letter on either
side. -/
theorem blank_in_unwords (hws : ∀ w ∈ ws, IsWord w) (hsplit : unwords ws = before ++ b :: after)
    (hb : isBlank b = true) :
    b = ' ' ∧ (∃ c, before.getLast? = some c ∧ isBlank c = false) ∧
      ∃ c, after.head? = some c ∧ isBlank c = false := by
  induction ws using unwords.induct generalizing before with
  | case1 => exact absurd hsplit (by simp [unwords])
  | case2 w =>
    have hmem : b ∈ w := by
      rw [unwords] at hsplit
      simp [hsplit]
    exact absurd hb (by simp [(hws w List.mem_cons_self).not_isBlank b hmem])
  | case3 w ws hne ih =>
    rw [List.forall_mem_cons] at hws
    rw [unwords_cons w hne] at hsplit
    -- The blank is the space behind the first word, or it comes later; it is not in the word.
    obtain ⟨gap, rfl, hgap⟩ | ⟨rest, rfl, hrest⟩ := List.append_eq_append_iff.1 hsplit
    · cases gap with
      | nil =>
        obtain ⟨rfl, rfl⟩ := List.cons.inj hgap
        rw [List.append_nil]
        exact ⟨rfl, hws.1.exists_getLast?, exists_head?_unwords hws.2 hne⟩
      | cons c gap =>
        obtain ⟨rfl, htail⟩ := List.cons.inj hgap
        obtain ⟨hspace, ⟨d, hlast, hd⟩, hafter⟩ := ih hws.2 htail
        refine ⟨hspace, ⟨d, ?_, hd⟩, hafter⟩
        rw [List.getLast?_append, List.getLast?_cons, hlast]
        rfl
    · cases rest with
      | nil =>
        obtain ⟨rfl, rfl⟩ := List.cons.inj hrest
        rw [List.append_nil] at hws
        exact ⟨rfl, hws.1.exists_getLast?, exists_head?_unwords hws.2 hne⟩
      | cons c rest =>
        obtain ⟨rfl, -⟩ := List.cons.inj hrest
        exact absurd hb (by simp [hws.1.not_isBlank b (by simp)])

/-! ## Lowercase words -/

/-- Casing goes word by word. -/
theorem lowerChars_unwords (ws : List (List Char)) :
    lowerChars (unwords ws) = unwords (ws.map lowerChars) := by
  induction ws using unwords.induct with
  | case1 => rfl
  | case2 w => rfl
  | case3 w ws hne ih =>
    rw [unwords_cons w hne, lowerChars_append_space, ih, List.map_cons,
      unwords_cons _ (mt List.map_eq_nil_iff.1 hne)]

theorem isWord_of_mem_map_lowerChars (hw : w ∈ (words cs).map lowerChars) : IsWord w := by
  obtain ⟨plain, hplain, rfl⟩ := List.mem_map.1 hw
  exact (isWord_of_mem_words hplain).lower

/-- The words of a normal form are the lowercase forms of the words. -/
theorem words_normalChars (cs : List Char) : words (normalChars cs) = (words cs).map lowerChars := by
  rw [normalChars, lowerChars_unwords]
  exact words_unwords fun _ => isWord_of_mem_map_lowerChars

/-- A normal form is its own normal form. -/
theorem normalChars_normalChars (cs : List Char) : normalChars (normalChars cs) = normalChars cs := by
  have hwords : ((words cs).map lowerChars).map lowerChars = (words cs).map lowerChars := by
    simp only [List.map_map, Function.comp_def, lowerChars_lowerChars]
  rw [normalChars, words_normalChars, lowerChars_unwords, hwords, normalChars, lowerChars_unwords]

theorem normalChars_eq_nil_iff : normalChars cs = [] ↔ ∀ c ∈ cs, isBlank c = true := by
  rw [normalChars, lowerChars_unwords, unwords_eq_nil_iff fun _ => isWord_of_mem_map_lowerChars,
    List.map_eq_nil_iff, words_eq_nil_iff]

end Text

/-! ## Names -/

/-- **Normal forms.** The normal form of a name is a normal form itself. A name has its words, and its
normal form has the same, each in lowercase on its own, with single spaces between them: what is
blank in it is a space with a letter on either side. It is empty if and only if the name has nothing
but blanks, so that nothing is left when these are dropped from its ends. Names with the same words
have the same normal form. -/
theorem normalForm_normalizes (x : String) :
    normalForm (normalForm x) = normalForm x ∧
    (∃ ws, Text.HasWords x.toList ws ∧
      (normalForm x).toList = [' '].intercalate (ws.map Text.lowerChars)) ∧
    (∀ before b after, (normalForm x).toList = before ++ b :: after → isBlank b = true →
      b = ' ' ∧ (∃ c, before.getLast? = some c ∧ isBlank c = false) ∧
        ∃ c, after.head? = some c ∧ isBlank c = false) ∧
    (normalForm x = "" ↔ ∀ c ∈ x.toList, isBlank c = true) ∧
    ((∀ c ∈ x.toList, isBlank c = true) ↔ trimmed x = "") ∧
    ∀ (y : String) ws, Text.HasWords x.toList ws → Text.HasWords y.toList ws →
      normalForm y = normalForm x := by
  have hchars : (normalForm x).toList = Text.normalChars x.toList := String.toList_ofList
  have hwords : Text.normalChars x.toList =
      Text.unwords ((Text.words x.toList).map Text.lowerChars) := Text.lowerChars_unwords _
  refine ⟨?_, ⟨_, Text.hasWords_iff.2 rfl, ?_⟩, fun before b after hsplit hb => ?_, ?_, ?_,
    fun y ws hx hy => ?_⟩
  · rw [normalForm, hchars, Text.normalChars_normalChars, normalForm]
  · rw [hchars, hwords, Text.unwords_eq_intercalate]
  · rw [hchars, hwords] at hsplit
    exact Text.blank_in_unwords (fun _ => Text.isWord_of_mem_map_lowerChars) hsplit hb
  · rw [← Text.normalChars_eq_nil_iff, ← hchars, String.toList_eq_nil_iff]
  · rw [← Text.trim_eq_nil_iff, trimmed, String.ofList_eq_empty_iff]
  · rw [normalForm, normalForm, Text.normalChars, Text.normalChars, hx.words_eq, hy.words_eq]

/-- At the end of a word sigma is a final one, whatever comes behind the space. -/
example : normalForm " ΟΔΟΣ\tΑΣ " = "οδος ας" := by decide +kernel

end GameHall
