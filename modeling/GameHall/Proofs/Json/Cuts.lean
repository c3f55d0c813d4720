import Mathlib.Tactic.FinCases
import GameHall.Proofs.Json.Scanned

/-!
# Texts that are put together and cut apart

A separator is a blank or a mark of punctuation: it ends the token before it and is not part of the
token behind it. So the tokens of two texts with a separator between them are those of the one, the
separator if it is a token, and those of the other (`tokens?_append_separator`), and blanks between
tokens change nothing (`tokens?_insert_blanks`).

The other way round, a text with a mark among its tokens can be cut there
(`exists_cut_of_tokens?`), and a text without tokens is blank (`blank_of_tokens?`). Both follow the
scanner character by character. `Scanner.Moves` says what a character can do: a mark is there with
its own character and never held back (`Scanner.Moves.mark`), and a token that has been begun is not
given up (`Scanner.Moves.begun_le`).
-/

namespace GameHall

/-- The blanks of JSON. -/
def jsonBlanks : List Char := [' ', '\t', '\n', '\r']

/-- The marks of punctuation with their tokens. -/
def marks : List (Char × Token) :=
  [('[', .arrayOpen), (']', .arrayClose), ('\x7b', .objectOpen), ('\x7d', .objectClose),
    (',', .comma), (':', .colon)]

/-- The characters that stand between tokens, with what they are themselves. -/
inductive Separates : Char → List Token → Prop
  | blank {c : Char} (h : c ∈ jsonBlanks) : Separates c []
  | mark {c : Char} {m : Token} (h : (c, m) ∈ marks) : Separates c [m]

namespace Scanner

variable {s s' : Scanner} {c : Char} {m : Token} {cs : List Char} {ms ts us : List Token}

/-! ## Tokens that come first -/

/-- The scanner with tokens before its own. -/
def onto (s : Scanner) (us : List Token) : Scanner := ⟨s.mode, s.tokens ++ us⟩

theorem begin?_onto (s : Scanner) (c : Char) (us : List Token) :
    (s.onto us).begin? c = (s.begin? c).map fun s' => s'.onto us := by
  unfold begin?
  split <;> simp [onto, emit, Option.map_map, Function.comp_def]

theorem quote?_onto (s : Scanner) (q : Quoted) (part : QuotedPart) (c : Char) (us : List Token) :
    (s.onto us).quote? q part c = (s.quote? q part c).map fun s' => s'.onto us := by
  unfold quote?
  cases part with
  | plain => split_ifs <;> rfl
  | escape => split_ifs <;> simp [onto, Option.map_map, Function.comp_def]
  | hex due value =>
    cases hexDigit? c with
    | none => rfl
    | some d =>
      dsimp only [Option.map_some]
      split_ifs <;> rfl

theorem step_onto (s : Scanner) (c : Char) (us : List Token) :
    (s.onto us).step c = (s.step c).map fun s' => s'.onto us := by
  obtain ⟨mode, ts⟩ := s
  cases mode with
  | between => exact begin?_onto ⟨.between, ts⟩ c us
  | word token due =>
    match due with
    | [] => rfl
    | [d] | d :: _ :: _ =>
      simp only [step, onto]
      split_ifs <;> rfl
  | number scan =>
    simp only [step, onto]
    cases scan.next? c with
    | some scan' => rfl
    | none =>
      cases scan.numeral? with
      | none => rfl
      | some n => exact begin?_onto ⟨.between, .number n :: ts⟩ c us
  | quoted q part => exact quote?_onto ⟨.quoted q part, ts⟩ q part c us

theorem feed_onto (s : Scanner) (cs : List Char) (us : List Token) :
    (s.onto us).feed cs = (s.feed cs).map fun s' => s'.onto us := by
  induction cs generalizing s with
  | nil => rfl
  | cons c cs ih =>
    rw [feed, feed, step_onto]
    cases s.step c with
    | none => rfl
    | some s' => exact ih s'

theorem holds_onto_iff : (s.onto us).Holds (ts ++ us) ↔ s.Holds ts := by
  obtain ⟨mode, tokens⟩ := s
  constructor
  · intro h
    generalize hs : onto ⟨mode, tokens⟩ us = s' at h
    generalize hts : ts ++ us = ts' at h
    cases h with
    | between ts' =>
      obtain ⟨rfl, hcat⟩ := Scanner.mk.inj hs
      obtain rfl := List.append_cancel_right (hcat.trans hts.symm)
      exact .between tokens
    | number ts' hn =>
      obtain ⟨rfl, rfl⟩ := Scanner.mk.inj hs
      obtain rfl := List.append_cancel_right (hts.trans (List.cons_append ..).symm)
      exact .number tokens hn
  · intro h
    cases h with
    | between => exact .between _
    | number ts hn => exact .number _ hn

theorem finish_eq_some_iff : s.finish = some ts ↔ s.Holds ts.reverse := by
  constructor
  · intro h
    obtain ⟨mode, tokens⟩ := s
    cases mode with
    | between =>
      obtain rfl := Option.some.inj h
      rw [List.reverse_reverse]
      exact .between tokens
    | number scan =>
      obtain ⟨n, hn, hts⟩ := Option.map_eq_some_iff.1 h
      rw [← hts, List.reverse_reverse]
      exact .number tokens hn
    | word | quoted => exact absurd h nofun
  · intro h
    rw [h.finish, List.reverse_reverse]

/-- The tokens of a text are found behind any others. -/
theorem scans_of_tokens? (h : tokens? cs = some ts) (us : List Token) :
    (Scanner.mk .between us).Scans cs (ts.reverse ++ us) := by
  obtain ⟨s, hfeed, hfinish⟩ := Option.bind_eq_some_iff.1 h
  have hrun := feed_onto start cs us
  rw [hfeed, Option.map_some] at hrun
  exact ⟨s.onto us, hrun, holds_onto_iff.2 (finish_eq_some_iff.1 hfinish)⟩

theorem tokens?_of_scans (us : List Token)
    (h : (Scanner.mk .between us).Scans cs (ts.reverse ++ us)) : tokens? cs = some ts := by
  obtain ⟨s, hfeed, hholds⟩ := h
  have hrun : (start.onto us).feed cs = some s := hfeed
  rw [feed_onto] at hrun
  obtain ⟨s₀, hfeed₀, rfl⟩ := Option.map_eq_some_iff.1 hrun
  rw [tokens?, hfeed₀, Option.bind_some, finish_eq_some_iff]
  exact holds_onto_iff.1 hholds

/-! ## Separators -/

theorem Holds.step_separator (h : s.Holds ts) (hc : Separates c ms) :
    s.step c = some ⟨.between, ms ++ ts⟩ := by
  cases hc with
  | blank hc =>
    rw [h.step_eq_begin?]
    · fin_cases hc <;> rfl
    all_goals fin_cases hc <;> decide
  | mark hc =>
    rw [h.step_eq_begin?]
    · fin_cases hc <;> rfl
    all_goals fin_cases hc <;> decide

end Scanner

section Texts

open Scanner

variable {c : Char} {m : Token} {cs ds w : List Char} {ms ts us : List Token}

theorem tokens?_append_separator (hcs : tokens? cs = some ts) (hds : tokens? ds = some us)
    (hc : Separates c ms) : tokens? (cs ++ c :: ds) = some (ts ++ ms ++ us) := by
  have hms : ms.reverse = ms := by cases hc <;> rfl
  refine tokens?_of_scans [] ((scans_of_tokens? hcs []).append fun s hs => ?_)
  have hbehind := scans_of_tokens? hds (ms ++ (ts.reverse ++ []))
  simpa [hms] using Scans.cons (hs.step_separator hc) hbehind

theorem tokens?_blanks_append (hw : ∀ c ∈ w, c ∈ jsonBlanks) (hcs : tokens? cs = some ts) :
    tokens? (w ++ cs) = some ts := by
  induction w with
  | nil => exact hcs
  | cons c w ih =>
    rw [List.forall_mem_cons] at hw
    have hnil : tokens? [] = some [] := rfl
    exact tokens?_append_separator hnil (ih hw.2) (.blank hw.1)

/-- Blanks may be put between tokens: where the tokens of a text are those of its two parts. -/
theorem tokens?_insert_blanks (hcs : tokens? cs = some ts) (hds : tokens? ds = some us)
    (h : tokens? (cs ++ ds) = some (ts ++ us)) (hw : ∀ c ∈ w, c ∈ jsonBlanks) :
    tokens? (cs ++ w ++ ds) = some (ts ++ us) := by
  cases w with
  | nil => rwa [List.append_nil]
  | cons c w =>
    rw [List.forall_mem_cons] at hw
    have hbehind := tokens?_blanks_append hw.2 hds
    simpa using tokens?_append_separator hcs hbehind (.blank hw.1)

end Texts

/-! ## Moves of the scanner -/

/-- A token is a mark of punctuation. -/
def Token.IsMark (t : Token) : Prop := t ∈ marks.map Prod.snd

/-- The scanner is in the middle of a token, and this is not a mark. -/
def Mode.Inside : Mode → Prop
  | .between => False
  | .word t _ => ¬t.IsMark
  | .number _ | .quoted .. => True

namespace Scanner

variable {s s' : Scanner} {c : Char} {m : Token} {cs ds : List Char} {ms ts us vs : List Token}

/-- What a character can do to the scanner. -/
inductive Moves (s : Scanner) (c : Char) : Scanner → Prop
  /-- The character stands between tokens. -/
  | separates {ts ms : List Token} (h : s.Holds ts) (hc : Separates c ms) :
    Moves s c ⟨.between, ms ++ ts⟩
  /-- The character begins a token. -/
  | begins {ts : List Token} {mode : Mode} (h : s.Holds ts) (hmode : mode.Inside) :
    Moves s c ⟨mode, ts⟩
  /-- The character continues a token. -/
  | continues {mode : Mode} (hs : s.mode.Inside) (hmode : mode.Inside) : Moves s c ⟨mode, s.tokens⟩
  /-- The character ends a word or a string. -/
  | ends {t : Token} (hs : s.mode.Inside) (ht : ¬t.IsMark) : Moves s c ⟨.between, t :: s.tokens⟩

theorem moves_of_begin? (h : s.Holds ts) (hbegin : (Scanner.mk .between ts).begin? c = some s') :
    s.Moves c s' := by
  unfold begin? at hbegin
  split at hbegin
  case h_15 =>
    obtain ⟨n, -, rfl⟩ := Option.map_eq_some_iff.1 hbegin
    exact .begins h trivial
  all_goals obtain rfl := Option.some.inj hbegin
  case h_1 | h_2 | h_3 | h_4 => exact .separates h (.blank (by simp [jsonBlanks]))
  case h_5 | h_6 | h_7 | h_8 | h_9 | h_10 => exact .separates h (.mark (by simp [marks]))
  all_goals exact .begins h (by simp [Mode.Inside, Token.IsMark, marks])

theorem moves_of_quote? {q : Quoted} {part : QuotedPart} (hs : s.mode.Inside)
    (h : s.quote? q part c = some s') : s.Moves c s' := by
  cases part with
  | plain =>
    unfold quote? at h
    dsimp only at h
    split_ifs at h with hclose hescape hcontrol
    · obtain rfl := Option.some.inj h
      exact .ends hs (by simp [Token.IsMark, marks])
    · obtain rfl := Option.some.inj h
      exact .continues hs trivial
    · obtain rfl := Option.some.inj h
      exact .continues hs trivial
  | escape =>
    unfold quote? at h
    dsimp only at h
    split_ifs at h with hunit
    · obtain rfl := Option.some.inj h
      exact .continues hs trivial
    · obtain ⟨e, -, rfl⟩ := Option.map_eq_some_iff.1 h
      exact .continues hs trivial
  | hex due value =>
    obtain ⟨d, -, rfl⟩ := Option.map_eq_some_iff.1 h
    split_ifs <;> exact .continues hs trivial

/-- Between tokens, or in the middle of one that is not a mark. -/
def Proper (s : Scanner) : Prop := s.mode = .between ∨ s.mode.Inside

theorem Moves.proper (h : s.Moves c s') : s'.Proper := by
  cases h with
  | separates | ends => exact .inl rfl
  | begins _ hmode | continues _ hmode => exact .inr hmode

theorem moves_of_step (hs : s.Proper) (h : s.step c = some s') : s.Moves c s' := by
  obtain ⟨mode, ts⟩ := s
  unfold step at h
  cases mode with
  | between => exact moves_of_begin? (.between ts) h
  | word t due =>
    have ht : ¬t.IsMark := hs.resolve_left nofun
    match due with
    | [] => exact absurd h nofun
    | [d] =>
      dsimp only at h
      split_ifs at h
      obtain rfl := Option.some.inj h
      exact .ends ht ht
    | d :: _ :: _ =>
      dsimp only at h
      split_ifs at h
      obtain rfl := Option.some.inj h
      exact .continues ht ht
  | number scan =>
    dsimp only at h
    cases hnext : scan.next? c with
    | some scan' =>
      rw [hnext] at h
      obtain rfl := Option.some.inj h
      exact .continues trivial trivial
    | none =>
      rw [hnext] at h
      dsimp only at h
      cases hn : scan.numeral? with
      | none =>
        rw [hn] at h
        exact absurd h nofun
      | some n =>
        rw [hn] at h
        exact moves_of_begin? (.number ts hn) h
  | quoted q part => exact moves_of_quote? trivial h

/-! ## Cuts -/

/-- Tokens are only added. -/
theorem Moves.suffix (h : s.Moves c s') : s.tokens <:+ s'.tokens := by
  have held {ts : List Token} (h : s.Holds ts) : s.tokens <:+ ts := by
    cases h with
    | between => exact List.suffix_rfl
    | number => exact List.suffix_cons _ _
  cases h with
  | separates h => exact (held h).trans (List.suffix_append _ _)
  | begins h => exact held h
  | continues => exact List.suffix_rfl
  | ends => exact List.suffix_cons _ _

theorem suffix_of_feed (hs : s.Proper) (h : s.feed cs = some s') : s.tokens <:+ s'.tokens := by
  induction cs generalizing s with
  | nil =>
    obtain rfl := Option.some.inj h
    exact List.suffix_rfl
  | cons c cs ih =>
    rw [feed] at h
    split at h
    · rename_i s₁ hs₁
      have hmoves := moves_of_step hs hs₁
      exact hmoves.suffix.trans (ih hmoves.proper h)
    · cases h

/-- What the scanner holds beyond its tokens is no mark. -/
theorem Holds.suffix_tokens (h : s.Holds us) (hm : m.IsMark) (hsuffix : m :: ts <:+ us) :
    m :: ts <:+ s.tokens := by
  cases h with
  | between => exact hsuffix
  | number us hn =>
    obtain heq | hbefore := List.suffix_cons_iff.1 hsuffix
    · obtain ⟨rfl, -⟩ := List.cons.inj heq
      exact absurd hm (by simp [Token.IsMark, marks])
    · exact hbefore

/-- A character that brings a mark is that mark. -/
theorem Moves.mark (h : s.Moves c s') (hm : m.IsMark) (hlen : s.tokens.length ≤ ts.length)
    (hsuffix : m :: ts <:+ s'.tokens) :
    (c, m) ∈ marks ∧ s.Holds ts ∧ s' = ⟨.between, m :: ts⟩ := by
  have hnew : ¬m :: ts <:+ s.tokens := fun hbefore =>
    absurd (hbefore.length_le.trans hlen) (Nat.not_succ_le_self _)
  cases h with
  | separates h hc =>
    cases hc with
    | blank => exact absurd (h.suffix_tokens hm hsuffix) hnew
    | mark hc =>
      obtain heq | hbefore := List.suffix_cons_iff.1 hsuffix
      · obtain ⟨rfl, rfl⟩ := List.cons.inj heq
        exact ⟨hc, h, rfl⟩
      · exact absurd (h.suffix_tokens hm hbefore) hnew
  | begins h => exact absurd (h.suffix_tokens hm hsuffix) hnew
  | continues => exact absurd hsuffix hnew
  | ends _ ht =>
    obtain heq | hbefore := List.suffix_cons_iff.1 hsuffix
    · obtain ⟨rfl, -⟩ := List.cons.inj heq
      exact absurd hm ht
    · exact absurd hbefore hnew

/-- Where a mark is among the tokens, its character is in the text. -/
theorem exists_cut_of_feed (hs : s.Proper) (h : s.feed cs = some s') (hm : m.IsMark)
    (hlen : s.tokens.length ≤ ts.length) (hsuffix : m :: ts <:+ s'.tokens) :
    ∃ c before after, cs = before ++ c :: after ∧ (c, m) ∈ marks ∧ s.Scans before ts ∧
      (Scanner.mk .between (m :: ts)).feed after = some s' := by
  induction cs generalizing s with
  | nil =>
    obtain rfl := Option.some.inj h
    exact absurd (hsuffix.length_le.trans hlen) (Nat.not_succ_le_self _)
  | cons c cs ih =>
    rw [feed] at h
    split at h
    · rename_i s₁ hs₁
      have hmoves := moves_of_step hs hs₁
      by_cases hlater : s₁.tokens.length ≤ ts.length
      · obtain ⟨c', before, after, rfl, hc, ⟨s₂, hbefore, hholds⟩, hafter⟩ :=
          ih hmoves.proper h hlater
        exact ⟨c', c :: before, after, rfl, hc, ⟨s₂, (feed_cons hs₁ _).trans hbefore, hholds⟩,
          hafter⟩
      · have hhere : m :: ts <:+ s₁.tokens :=
          List.suffix_of_suffix_length_le hsuffix (suffix_of_feed hmoves.proper h)
            (Nat.lt_of_not_le hlater)
        obtain ⟨hc, hholds, rfl⟩ := hmoves.mark hm hlen hhere
        exact ⟨c, [], cs, rfl, hc, hholds.scans_nil, h⟩
    · cases h

/-! ## Blanks -/

/-- The tokens that have been begun: those that are finished and the one that the scanner is in the
middle of. -/
def begun (s : Scanner) : Nat :=
  if s.mode = .between then s.tokens.length else s.tokens.length + 1

theorem Holds.begun_eq (h : s.Holds ts) : s.begun = ts.length := by
  cases h <;> rfl

theorem begun_of_inside {mode : Mode} (h : mode.Inside) :
    (Scanner.mk mode ts).begun = ts.length + 1 := by
  cases mode with
  | between => exact absurd h id
  | _ => rfl

/-- A token that has been begun is not given up. -/
theorem Moves.begun_le (h : s.Moves c s') : s.begun ≤ s'.begun := by
  cases h with
  | separates h =>
    rw [h.begun_eq]
    simp [begun]
  | begins h hmode =>
    rw [h.begun_eq, begun_of_inside hmode]
    exact Nat.le_succ _
  | continues hs hmode => exact (begun_of_inside hs).trans_le (begun_of_inside hmode).ge
  | ends hs => exact (begun_of_inside hs).le

theorem begun_le_of_feed (hs : s.Proper) (h : s.feed cs = some s') : s.begun ≤ s'.begun := by
  induction cs generalizing s with
  | nil =>
    obtain rfl := Option.some.inj h
    exact le_rfl
  | cons c cs ih =>
    rw [feed] at h
    split at h
    · rename_i s₁ hs₁
      have hmoves := moves_of_step hs hs₁
      exact hmoves.begun_le.trans (ih hmoves.proper h)
    · cases h

/-- A character that begins nothing is blank. -/
theorem Moves.blank (h : start.Moves c s') (hs' : s'.begun = 0) : c ∈ jsonBlanks ∧ s' = start := by
  cases h with
  | separates h hc =>
    obtain ⟨rfl, rfl⟩ := List.append_eq_nil_iff.1 (List.length_eq_zero_iff.1 hs')
    cases hc with
    | blank hc => exact ⟨hc, rfl⟩
  | begins _ hmode => exact absurd (begun_of_inside hmode ▸ hs') (Nat.succ_ne_zero _)
  | continues hs => exact absurd hs id
  | ends hs => exact absurd hs id

theorem blank_of_feed (h : start.feed cs = some s') (hs' : s'.begun = 0) :
    ∀ c ∈ cs, c ∈ jsonBlanks := by
  induction cs with
  | nil => exact fun c hc => absurd hc List.not_mem_nil
  | cons c cs ih =>
    rw [feed] at h
    split at h
    · rename_i s₁ hs₁
      have hmoves := moves_of_step (.inl rfl) hs₁
      have hnone := Nat.le_zero.1 (hs' ▸ begun_le_of_feed hmoves.proper h)
      obtain ⟨hc, rfl⟩ := hmoves.blank hnone
      exact List.forall_mem_cons.2 ⟨hc, ih h⟩
    · cases h

end Scanner

section Texts

open Scanner

variable {m : Token} {cs : List Char} {ts us : List Token}

/-- A text can be cut where a mark is among its tokens. -/
theorem exists_cut_of_tokens? (hm : m.IsMark) (h : tokens? cs = some (ts ++ m :: us)) :
    ∃ c before after, cs = before ++ c :: after ∧ (c, m) ∈ marks ∧
      tokens? before = some ts ∧ tokens? after = some us := by
  obtain ⟨s, hfeed, hfinish⟩ := Option.bind_eq_some_iff.1 h
  have hholds := finish_eq_some_iff.1 hfinish
  rw [List.reverse_append, List.reverse_cons, List.append_assoc, List.singleton_append] at hholds
  obtain ⟨c, before, after, hcs, hc, hbefore, hafter⟩ :=
    exists_cut_of_feed (.inl rfl) hfeed hm (Nat.zero_le _)
      (hholds.suffix_tokens hm (List.suffix_append _ _))
  refine ⟨c, before, after, hcs, hc, tokens?_of_scans [] ?_,
    tokens?_of_scans _ ⟨s, hafter, hholds⟩⟩
  rwa [List.append_nil]

/-- A text without tokens is blank. -/
theorem blank_of_tokens? (h : tokens? cs = some []) : ∀ c ∈ cs, c ∈ jsonBlanks := by
  obtain ⟨s, hfeed, hfinish⟩ := Option.bind_eq_some_iff.1 h
  exact blank_of_feed hfeed (finish_eq_some_iff.1 hfinish).begun_eq

end Texts

end GameHall
