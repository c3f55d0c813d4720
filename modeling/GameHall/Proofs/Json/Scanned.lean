import Mathlib.Data.Nat.Digits.Defs
import Mathlib.Tactic.IntervalCases
import GameHall.Json.Printer
import GameHall.Json.Token

/-!
# Strings and numbers are scanned as they are written

The scanner gives back the tokens of what the printer writes. A string comes back character by
character, whether a character is written as it stands or as an escape (`feed_escape`), and a number
digit by digit (`Numeral.Scan.reads_chars`).

A number ends only with the character behind it, so behind a number the scanner is still in the
middle of it. `Scanner.Holds` does not tell the two apart: the tokens so far are finished, or the
last one is a number that may end here. Either way a mark of punctuation ends it
(`Scanner.Holds.step`), and so does the end of the text (`Scanner.Holds.finish`).
-/

namespace GameHall

/-! ## Decimal digits -/

theorem digit?_digitChar (d : Fin 10) : digit? (Nat.digitChar d) = some d := by
  revert d
  decide

/-- Decimal numbers are those of one digit, and the others with one more digit behind them. -/
theorem decimal_induction {P : Nat → List Char → Prop}
    (first : ∀ d : Fin 10, P d [Nat.digitChar d])
    (next : ∀ n, 0 < n → ∀ d : Fin 10, P n (decimal n) →
      P (10 * n + d) (decimal n ++ [Nat.digitChar d])) (n : Nat) : P n (decimal n) := by
  induction n using Nat.strong_induction_on with
  | h n ih =>
    unfold decimal
    rw [Nat.toDigits_eq_if (by decide)]
    split_ifs with hn
    · exact first ⟨n, hn⟩
    · have hmod : n % 10 < 10 := Nat.mod_lt n (by decide)
      have hlast := next (n / 10) (by omega) ⟨n % 10, hmod⟩ (ih (n / 10) (by omega))
      rwa [Nat.div_add_mod] at hlast

theorem decimal_eq_cons (n : Nat) : ∃ (d : Fin 10) (cs : List Char),
    decimal n = Nat.digitChar d :: cs := by
  induction n using decimal_induction with
  | first d => exact ⟨d, [], rfl⟩
  | next n hn d ih =>
    obtain ⟨d', cs, hcs⟩ := ih
    exact ⟨d', cs ++ [Nat.digitChar d], by rw [hcs, List.cons_append]⟩

/-! ## Numbers -/

namespace Numeral.Scan

variable {s t u : Scan} {c : Char} {cs ds : List Char}

/-- All of the characters continue the numeral. -/
def Reads (s : Scan) (cs : List Char) (t : Scan) : Prop := cs.foldlM next? s = some t

theorem reads_nil (s : Scan) : s.Reads [] s := rfl

theorem reads_cons_iff : s.Reads (c :: cs) u ↔ ∃ t, s.next? c = some t ∧ t.Reads cs u := by
  simp [Reads, Option.bind_eq_some_iff]

theorem Reads.cons (h : s.next? c = some t) (h' : t.Reads cs u) : s.Reads (c :: cs) u :=
  reads_cons_iff.2 ⟨t, h, h'⟩

theorem Reads.append (h : s.Reads cs t) (h' : t.Reads ds u) : s.Reads (cs ++ ds) u := by
  unfold Reads at h
  simpa [Reads, h] using h'

/-- The scan after a number, given the scans after its first digits. -/
theorem reads_decimal {f : Nat → Scan}
    (first : ∀ d : Fin 10, s.next? (Nat.digitChar d) = some (f d))
    (next : ∀ n, 0 < n → ∀ d : Fin 10,
      (f n).next? (Nat.digitChar d) = some (f (10 * n + d))) (n : Nat) :
    s.Reads (decimal n) (f n) := by
  induction n using decimal_induction with
  | first d => exact .cons (first d) (reads_nil _)
  | next n hn d ih => exact ih.append (.cons (next n hn d) (reads_nil _))

theorem reads_whole (h : s.part = .sign) (n : Nat) :
    s.Reads (decimal n) { s with part := if n = 0 then .zero else .whole, whole := n } := by
  let f (n : Nat) : Scan := { s with part := if n = 0 then .zero else .whole, whole := n }
  refine reads_decimal (f := f) (fun d => ?_) (fun n hn d => ?_) n
  · simp [f, next?, h, digit?_digitChar]
  · simp [f, next?, digit?_digitChar, Nat.pos_iff_ne_zero.1 hn]

theorem reads_fraction (h : s.part = .fraction) (ds : List (Fin 10)) :
    s.Reads (ds.map fun (d : Fin 10) => Char.ofNat (48 + d.val))
      { s with fraction := ds.reverse ++ s.fraction } := by
  have hdigit : ∀ d : Fin 10, digit? (Char.ofNat (48 + d.val)) = some d := by decide
  induction ds generalizing s with
  | nil => exact reads_nil s
  | cons d ds ih =>
    have hnext : s.next? (Char.ofNat (48 + d.val)) = some { s with fraction := d :: s.fraction } := by
      simp only [next?, h, hdigit]
    simpa using Reads.cons hnext (ih h)

theorem next?_of_mark (h : s.part = .mark ∨ s.part = .markSign ∨ s.part = .exponent) (d : Fin 10) :
    s.next? (Nat.digitChar d) =
      some { s with part := .exponent, exponent := 10 * s.exponent + d } := by
  have hsign : ∀ d : Fin 10, Nat.digitChar d ≠ '+' ∧ Nat.digitChar d ≠ '-' := by decide
  obtain ⟨hplus, hminus⟩ := hsign d
  obtain h | h | h := h <;> simp [next?, h, hplus, hminus, toExponent?, digit?_digitChar]

theorem reads_exponent (h : s.part = .mark ∨ s.part = .markSign) (hzero : s.exponent = 0)
    (n : Nat) : s.Reads (decimal n) { s with part := .exponent, exponent := n } := by
  refine reads_decimal (fun d => ?_) (fun n _ d => ?_) n
  · rw [next?_of_mark (h.imp_right .inl), hzero, Nat.mul_zero, Nat.zero_add]
  · exact next?_of_mark (.inr (.inr rfl)) d

/-- The digits after the point are read behind a whole number, if there are any. -/
theorem reads_fractionChars (h : s.part = .zero ∨ s.part = .whole) (hnone : s.fraction = [])
    (ds : List (Fin 10)) :
    s.Reads (fractionChars ds)
      { s with part := if ds = [] then s.part else .fraction, fraction := ds.reverse } := by
  cases ds with
  | nil =>
    have hs : { s with part := s.part, fraction := [] } = s := by rw [← hnone]
    simpa [fractionChars, hs] using reads_nil s
  | cons d ds =>
    have hpoint : s.next? '.' = some { s with part := .point } := by
      obtain h | h := h <;> simp [next?, h, toPoint?, show digit? '.' = none from rfl]
    have hdigit : ∀ d : Fin 10, digit? (Char.ofNat (48 + d.val)) = some d := by decide
    have hfirst : ({ s with part := .point } : Scan).next? (Char.ofNat (48 + d.val)) =
        some { s with part := .fraction, fraction := [d] } := by
      simp [next?, hdigit, hnone]
    refine .cons hpoint (.cons hfirst ?_)
    simpa using reads_fraction (s := { s with part := .fraction, fraction := [d] }) rfl ds

/-- The exponent is read behind everything else, if there is one. -/
theorem reads_exponentChars (h : s.part = .zero ∨ s.part = .whole ∨ s.part = .fraction)
    (hsign : s.exponentNegative = false) (hzero : s.exponent = 0) (e : Int) :
    ∃ t, s.Reads (exponentChars (some e)) t ∧
      t = { s with part := .exponent, exponentNegative := decide (e < 0), exponent := e.natAbs } := by
  have hmark : s.next? 'e' = some { s with part := .mark } := by
    obtain h | h | h := h <;>
      simp [next?, h, toPoint?, toMark?, show digit? 'e' = none from rfl]
  refine ⟨_, .cons hmark ?_, rfl⟩
  by_cases he : e < 0
  · have hminus : ({ s with part := .mark } : Scan).next? '-' =
        some { s with part := .markSign, exponentNegative := true } := rfl
    have hdigits := reads_exponent (s := { s with part := .markSign, exponentNegative := true })
      (.inr rfl) hzero e.natAbs
    simpa [he] using Reads.cons hminus hdigits
  · simpa [he, hsign] using
      reads_exponent (s := { s with part := .mark }) (.inl rfl) hzero e.natAbs

/-- Where a numeral may end, nothing continues it but a digit, a point or the letter of an
exponent. -/
theorem next?_eq_none {n : Numeral} (hn : s.numeral? = some n) (hdigit : digit? c = none)
    (hpoint : c ≠ '.') (hmark : ¬(c = 'e' ∨ c = 'E')) : s.next? c = none := by
  unfold numeral? at hn
  unfold next?
  cases hpart : s.part <;> simp [hpart] at hn <;>
    simp [hdigit, toPoint?, toMark?, toExponent?, hpoint, hmark]

/-- A numeral is read as it is written. Its sign comes first and is read before. -/
theorem reads_chars (n : Numeral) :
    ∃ s, Reads ⟨.sign, n.negative, 0, [], false, 0⟩
      (decimal n.whole ++ fractionChars n.fraction ++ exponentChars n.exponent) s ∧
        s.numeral? = some n := by
  obtain ⟨negative, whole, fraction, exponent⟩ := n
  have hwhole := reads_whole (s := ⟨.sign, negative, 0, [], false, 0⟩) rfl whole
  have hpart : (if whole = 0 then Part.zero else .whole) = .zero ∨
      (if whole = 0 then Part.zero else .whole) = .whole := by
    split_ifs
    · exact .inl rfl
    · exact .inr rfl
  have hfraction := hwhole.append (reads_fractionChars hpart rfl fraction)
  cases exponent with
  | none =>
    refine ⟨_, hfraction.append (reads_nil _), ?_⟩
    by_cases hnone : fraction = []
    · obtain hpart | hpart := hpart <;> simp [numeral?, hnone, hpart]
    · simp [numeral?, hnone]
  | some e =>
    obtain ⟨t, ht, rfl⟩ := reads_exponentChars (s := ⟨if fraction = [] then
      if whole = 0 then .zero else .whole else .fraction, negative, whole, fraction.reverse, false,
      0⟩) (by split_ifs <;> simp) rfl rfl e
    refine ⟨_, hfraction.append ht, ?_⟩
    have hvalue : (if e < 0 then -(e.natAbs : Int) else e.natAbs) = e := by omega
    simpa [numeral?, exponentValue] using hvalue

end Numeral.Scan

/-! ## The machine -/

namespace Scanner

variable {s s' : Scanner} {c : Char} {t : Token} {cs ds : List Char} {ts us : List Token}

theorem feed_append (s : Scanner) (cs ds : List Char) :
    s.feed (cs ++ ds) = (s.feed cs).bind fun s' => s'.feed ds := by
  induction cs generalizing s with
  | nil => rfl
  | cons c cs ih =>
    rw [List.cons_append, feed, feed]
    cases s.step c with
    | none => rfl
    | some s' => exact ih s'

theorem feed_cons (h : s.step c = some s') (cs : List Char) : s.feed (c :: cs) = s'.feed cs := by
  rw [feed, h]

/-- The tokens of the text so far, last first, if it may end here. -/
inductive Holds : Scanner → List Token → Prop
  | between (ts : List Token) : Holds ⟨.between, ts⟩ ts
  /-- The last token is a number that may end here. -/
  | number {scan : Numeral.Scan} {n : Numeral} (ts : List Token) (h : scan.numeral? = some n) :
    Holds ⟨.number scan, ts⟩ (.number n :: ts)

theorem Holds.finish (h : s.Holds ts) : s.finish = some ts.reverse := by
  cases h with
  | between => rfl
  | number ts hn => simp [Scanner.finish, hn]

/-- The marks that may stand behind a value. -/
inductive Ends : Char → Token → Prop
  | comma : Ends ',' .comma
  | arrayClose : Ends ']' .arrayClose
  | objectClose : Ends '\x7d' .objectClose

/-- A character that does not continue a number is read as between tokens. -/
theorem Holds.step_eq_begin? (h : s.Holds ts) (hdigit : digit? c = none) (hpoint : c ≠ '.')
    (hmark : ¬(c = 'e' ∨ c = 'E')) : s.step c = (Scanner.mk .between ts).begin? c := by
  cases h with
  | between ts => rfl
  | number ts hn =>
    rename_i scan n
    have hnext : scan.next? c = none := Numeral.Scan.next?_eq_none hn hdigit hpoint hmark
    unfold Scanner.step
    dsimp only
    rw [hnext]
    dsimp only
    rw [hn]
    rfl

/-- Behind a value a mark is a token of its own, and it ends the value if it is a number. -/
theorem Holds.step (h : s.Holds ts) (hc : Ends c t) : s.step c = some ⟨.between, t :: ts⟩ := by
  rw [h.step_eq_begin?]
  · cases hc <;> rfl
  all_goals cases hc <;> decide

/-- The characters bring the scanner to a point where it holds the tokens. -/
def Scans (s : Scanner) (cs : List Char) (ts : List Token) : Prop :=
  ∃ s', s.feed cs = some s' ∧ s'.Holds ts

theorem Holds.scans_nil (h : s.Holds ts) : s.Scans [] ts := ⟨s, rfl, h⟩

theorem Scans.append (h : s.Scans cs ts) (h' : ∀ s' : Scanner, s'.Holds ts → s'.Scans ds us) :
    s.Scans (cs ++ ds) us := by
  obtain ⟨s₁, hfeed, hholds⟩ := h
  obtain ⟨s₂, hfeed', hholds'⟩ := h' s₁ hholds
  refine ⟨s₂, ?_, hholds'⟩
  rw [feed_append, hfeed, Option.bind_some, hfeed']

theorem Scans.cons (h : s.step c = some s') (h' : s'.Scans cs ts) : s.Scans (c :: cs) ts := by
  obtain ⟨s₁, hfeed, hholds⟩ := h'
  exact ⟨s₁, (feed_cons h cs).trans hfeed, hholds⟩

theorem Holds.scans_mark (h : s.Holds ts) (hc : Ends c t) : s.Scans [c] (t :: ts) :=
  .cons (h.step hc) (Holds.between _).scans_nil

/-! ## Values without parts -/

theorem feed_of_reads {scan scan' : Numeral.Scan} (h : scan.Reads cs scan') :
    (Scanner.mk (.number scan) ts).feed cs = some ⟨.number scan', ts⟩ := by
  induction cs generalizing scan with
  | nil =>
    obtain rfl : scan = scan' := Option.some.inj h
    rfl
  | cons c cs ih =>
    obtain ⟨next, hnext, hrest⟩ := Numeral.Scan.reads_cons_iff.1 h
    have hstep : (Scanner.mk (.number scan) ts).step c = some ⟨.number next, ts⟩ := by
      simp only [step, hnext]
    rw [feed_cons hstep, ih hrest]

/-- A digit begins a number without a sign. -/
theorem step_digitChar (d : Fin 10) :
    (Scanner.mk .between ts).step (Nat.digitChar d) =
      (Numeral.Scan.next? ⟨.sign, false, 0, [], false, 0⟩ (Nat.digitChar d)).map fun scan =>
        ⟨.number scan, ts⟩ := by
  obtain ⟨d, hd⟩ := d
  interval_cases d <;> rfl

theorem scans_number (n : Numeral) (ts : List Token) :
    (Scanner.mk .between ts).Scans n.chars (.number n :: ts) := by
  obtain ⟨scan, hreads, hn⟩ := Numeral.Scan.reads_chars n
  have hholds : (Scanner.mk (.number scan) ts).Holds (.number n :: ts) := .number ts hn
  unfold Numeral.chars
  cases hsign : n.negative with
  | true =>
    rw [hsign] at hreads
    have hminus : (Scanner.mk .between ts).step '-' =
        some ⟨.number ⟨.sign, true, 0, [], false, 0⟩, ts⟩ := rfl
    simpa using Scans.cons hminus ⟨_, feed_of_reads hreads, hholds⟩
  | false =>
    rw [hsign] at hreads
    -- Without a sign the first digit begins the number.
    obtain ⟨d, cs, hdigits⟩ := decimal_eq_cons n.whole
    rw [hdigits] at hreads ⊢
    obtain ⟨next, hnext, hrest⟩ := Numeral.Scan.reads_cons_iff.1 hreads
    have hfirst : (Scanner.mk .between ts).step (Nat.digitChar d) = some ⟨.number next, ts⟩ := by
      rw [step_digitChar, hnext, Option.map_some]
    exact Scans.cons hfirst ⟨_, feed_of_reads hrest, hholds⟩

theorem hexDigit?_hexDigit {n : Nat} (h : n < 16) : hexDigit? (hexDigit n) = some n := by
  have hall : ∀ n : Fin 16, hexDigit? (hexDigit n) = some n.val := by decide
  exact hall ⟨n, h⟩

/-- The scanner in a string, behind the characters `text`, last first. -/
def inside (text : List Char) (ts : List Token) : Scanner := ⟨.quoted ⟨some text, none⟩ .plain, ts⟩

/-- A control character is read off the two digits that tell it from the others. -/
theorem feed_control (text : List Char) (hc : c.toNat < 0x20) (cs : List Char) :
    (inside text ts).feed
      ('\\' :: 'u' :: '0' :: '0' :: hexDigit (c.toNat / 16) :: hexDigit (c.toNat % 16) :: cs) =
        (inside (c :: text) ts).feed cs := by
  have hhigh := hexDigit?_hexDigit (n := c.toNat / 16) (by omega)
  have hlow := hexDigit?_hexDigit (n := c.toNat % 16) (by omega)
  have hunit : 16 * (c.toNat / 16) + c.toNat % 16 = c.toNat := Nat.div_add_mod _ _
  have hpush : Quoted.pushUnit ⟨some text, none⟩ c.toNat = ⟨some (c :: text), none⟩ := by
    have hhalf : ¬(0xD800 ≤ c.toNat ∧ c.toNat ≤ 0xDBFF) := by omega
    have hhalf' : ¬(0xDC00 ≤ c.toNat ∧ c.toNat ≤ 0xDFFF) := by omega
    simp [Quoted.pushUnit, hhalf, hhalf']
  have hzeros : (inside text ts).feed ('\\' :: 'u' :: '0' :: '0' :: hexDigit (c.toNat / 16) ::
      hexDigit (c.toNat % 16) :: cs) = (Scanner.mk (.quoted ⟨some text, none⟩ (.hex 2 0)) ts).feed
        (hexDigit (c.toNat / 16) :: hexDigit (c.toNat % 16) :: cs) := rfl
  have hfirst : (Scanner.mk (.quoted ⟨some text, none⟩ (.hex 2 0)) ts).step
      (hexDigit (c.toNat / 16)) = some ⟨.quoted ⟨some text, none⟩ (.hex 1 (c.toNat / 16)), ts⟩ := by
    simp [step, quote?, hhigh]
  have hsecond : (Scanner.mk (.quoted ⟨some text, none⟩ (.hex 1 (c.toNat / 16))) ts).step
      (hexDigit (c.toNat % 16)) = some (inside (c :: text) ts) := by
    simp [inside, step, quote?, hlow, hunit, hpush]
  rw [hzeros, feed_cons hfirst, feed_cons hsecond]

/-- A character is read as it is written, whether it stands for itself or is escaped. -/
theorem feed_escape (text : List Char) (c : Char) (cs : List Char) :
    (inside text ts).feed (escape c ++ cs) = (inside (c :: text) ts).feed cs := by
  unfold escape
  split
  all_goals try rfl
  rename_i hquote hbackslash _ _ _ _ _
  split_ifs with hcontrol
  · exact feed_control text hcontrol cs
  · have hplain : (inside text ts).step c = some (inside (c :: text) ts) := by
      unfold step inside quote?
      dsimp only
      rw [if_neg hquote, if_neg hbackslash, if_neg hcontrol]
      rfl
    exact feed_cons hplain cs

theorem feed_flatMap_escape (text : List Char) (cs ds : List Char) :
    (inside text ts).feed (cs.flatMap escape ++ ds) = (inside (cs.reverse ++ text) ts).feed ds := by
  induction cs generalizing text with
  | nil => rfl
  | cons c cs ih => simp [List.append_assoc, feed_escape, ih]

/-- A string is read as it is written, also one that spells no text. -/
theorem feed_quote (text : Option String) (ts : List Token) (cs : List Char) :
    (Scanner.mk .between ts).feed (quote text ++ cs) =
      (Scanner.mk .between (.string text :: ts)).feed cs := by
  cases text with
  | none => rfl
  | some s =>
    have hopen : (Scanner.mk .between ts).step '"' = some (inside [] ts) := rfl
    have hclose : (inside s.toList.reverse ts).step '"' = some ⟨.between, .string s :: ts⟩ := by
      simp [inside, step, quote?, emit, Quoted.close]
    simp only [quote, List.cons_append, List.append_assoc]
    rw [feed_cons hopen, feed_flatMap_escape, List.append_nil]
    exact feed_cons hclose cs

end Scanner

end GameHall
