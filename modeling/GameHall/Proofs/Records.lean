import GameHall.Options
import GameHall.Proofs.Json.Rewritten
import GameHall.Rules.Variant

/-!
# Options and the entries of a rule book are read stably

The options of a game and the colors, suits and variants of a rule book are kinds of records, with
the defaults of their fields beside the names. Each reader is lawful: it looks up its fields by name,
and a field that may be missing means the same whether it is or holds its default. So they are all
read stably (`records_stable`).
-/

namespace GameHall

namespace RecordKind.Agree

variable {α : Type} {R : RecordKind α} {field field' : String → Option Json} {f : String}

/-- A flag is off when it is missing. -/
theorem flag (h : R.Agree field field') (hf : (f, some (.bool false)) ∈ R.fields) :
    GameHall.orElse false Json.bool? (field f) = GameHall.orElse false Json.bool? (field' f) :=
  h.orElse hf Json.bool? rfl

/-- A number is zero when it is missing. -/
theorem number (h : R.Agree field field') (hf : (f, some (.nat 0)) ∈ R.fields) :
    GameHall.orElse 0 Json.word32? (field f) = GameHall.orElse 0 Json.word32? (field' f) := by
  have hzero : Json.word32? (.nat 0) = some 0 := by
    have hword := Json.word32?_nat 0
    rwa [UInt32.toNat_zero] at hword
  exact h.orElse (d := .nat 0) hf Json.word32? hzero

end RecordKind.Agree

-- The fields of a kind are spelled out wherever a name is looked up among them, so these are
-- abbreviations.

/-- Options. -/
abbrev Options.record : RecordKind Options where
  fields :=
    [("variant", none), ("timed", some (.bool false)), ("baseTime", some (.nat 0)),
      ("timePerTurn", some (.nat 0)), ("speedrun", some (.bool false)),
      ("deckPlays", some (.bool false)), ("emptyClues", some (.bool false)),
      ("characterAssignments", some (.bool false))]
  read? := Options.read?

theorem Options.record_lawful : ∃ build, record.Lawful build :=
  ⟨_, {
    names_nodup := by decide
    exists_needed := ⟨"variant", by simp⟩
    read?_eq := fun _ => rfl
    of_agree := fun h => by simp (disch := simp) only [h.required, h.flag, h.number]
    needed := fun {field f} hf hnone => by
      obtain rfl : f = "variant" := by simpa using hf
      simp [hnone, required] }⟩

namespace Rules

/-- Colors. -/
abbrev ColorEntry.record : RecordKind ColorEntry where
  fields := [("name", none), ("abbreviation", some .null), ("fill", none)]
  read? := ColorEntry.read?

theorem ColorEntry.record_lawful : ∃ build, record.Lawful build :=
  ⟨_, {
    names_nodup := by decide
    exists_needed := ⟨"name", by simp⟩
    read?_eq := fun _ => rfl
    of_agree := fun h => by simp (disch := simp) only [h.required, h.nullable]
    needed := fun {field f} hf hnone => by
      obtain rfl | rfl : f = "name" ∨ f = "fill" := by simpa using hf
      all_goals simp [hnone, required] }⟩

/-- Suits. -/
abbrev SuitEntry.record : RecordKind SuitEntry where
  fields :=
    [("name", none), ("abbreviation", some .null), ("clueColors", some .null),
      ("allClueColors", some (.bool false)), ("noClueColors", some (.bool false)),
      ("allClueRanks", some (.bool false)), ("noClueRanks", some (.bool false)),
      ("oneOfEach", some (.bool false)), ("createReversed", some (.bool false))]
  read? := SuitEntry.read?

theorem SuitEntry.record_lawful : ∃ build, record.Lawful build :=
  ⟨_, {
    names_nodup := by decide
    exists_needed := ⟨"name", by simp⟩
    read?_eq := fun _ => rfl
    of_agree := fun h => by simp (disch := simp) only [h.required, h.nullable, h.flag]
    needed := fun {field f} hf hnone => by
      obtain rfl : f = "name" := by simpa using hf
      simp [hnone, required] }⟩

/-- Variants. -/
abbrev VariantEntry.record : RecordKind VariantEntry where
  fields :=
    [("name", none), ("id", none), ("suits", none), ("clueColors", some .null),
      ("clueRanks", some .null), ("specialRank", some .null),
      ("colorCluesTouchNothing", some (.bool false)), ("rankCluesTouchNothing", some (.bool false)),
      ("specialAllClueColors", some (.bool false)), ("specialAllClueRanks", some (.bool false)),
      ("specialNoClueColors", some (.bool false)), ("specialNoClueRanks", some (.bool false)),
      ("specialDeceptive", some (.bool false)), ("oddsAndEvens", some (.bool false)),
      ("funnels", some (.bool false)), ("chimneys", some (.bool false)),
      ("showSuitNames", some (.bool false))]
  read? := VariantEntry.read?

theorem VariantEntry.record_lawful : ∃ build, record.Lawful build :=
  ⟨_, {
    names_nodup := by decide
    exists_needed := ⟨"name", by simp⟩
    read?_eq := fun _ => rfl
    of_agree := fun h => by simp (disch := simp) only [twists?, h.required, h.nullable, h.flag]
    needed := fun {field f} hf hnone => by
      obtain rfl | rfl | rfl : f = "name" ∨ f = "id" ∨ f = "suits" := by simpa using hf
      all_goals simp [hnone, required] }⟩

end Rules

open Rules in
/-- **Records are read stably.** Options, colors, suits and variants that are written as JSON objects
are read as before when their members change places, when members with unknown names come in with
whatever values, when members that hold their defaults are left out or put in, and when blanks are
put between tokens, as often as one likes. A known member that is given twice is always an error, and
so is one that is missing and has no default. -/
theorem records_stable :
    Options.record.Stable ∧ ColorEntry.record.Stable ∧ SuitEntry.record.Stable ∧
      VariantEntry.record.Stable := by
  obtain ⟨_, hoptions⟩ := Options.record_lawful
  obtain ⟨_, hcolors⟩ := ColorEntry.record_lawful
  obtain ⟨_, hsuits⟩ := SuitEntry.record_lawful
  obtain ⟨_, hvariants⟩ := VariantEntry.record_lawful
  exact ⟨hoptions.stable, hcolors.stable, hsuits.stable, hvariants.stable⟩

/-- Clocks that are off need not be mentioned, and an unknown member is passed over with all that is
nested in it. The variant is given once. -/
theorem records_stable_duo :
    Options.record.readText? "\x7b\"variant\":\"Duo\",\"timed\":false\x7d" =
        some ⟨"Duo", false, 0, 0, false, false, false, false⟩ ∧
      Options.record.readText?
          "\x7b\"old\":[\x7b\"variant\":1\x7d,[]],\"variant\":\"Duo\"\x7d" =
        some ⟨"Duo", false, 0, 0, false, false, false, false⟩ ∧
      Options.record.readText? "\x7b\"variant\":\"Duo\",\"variant\":\"Duo\"\x7d" = none ∧
      Options.record.readText? "\x7b\"timed\":false\x7d" = none := by
  have hstable : Options.record.Stable := records_stable.1
  have hduo : Options.record.readText? "\x7b\"variant\":\"Duo\",\"timed\":false\x7d" =
      some ⟨"Duo", false, 0, 0, false, false, false, false⟩ := by
    decide +kernel
  obtain ⟨variant, hvariant⟩ : ∃ m : MemberText, m = .plain "variant" (.str "Duo") := ⟨_, rfl⟩
  obtain ⟨timed, htimed⟩ : ∃ m : MemberText, m = .plain "timed" (.bool false) := ⟨_, rfl⟩
  obtain ⟨old, hold⟩ : ∃ m : MemberText,
    m = .plain "old" (.array [.members [("variant", .nat 1)], .array []]) := ⟨_, rfl⟩
  -- The members are opaque here, so that nothing computes with their texts before it has to.
  have hdrop := @RecordKind.Rewrites.drop _ Options.record
    ⟨"", [variant, timed], "", by simp, by simp⟩ [variant] [] timed rfl
    (by simp [htimed, MemberText.plain])
  have hinsert := @RecordKind.Rewrites.insert _ Options.record
    ⟨"", [variant], "", by simp, by simp⟩ [] [variant] old rfl
    (by simp [hold, MemberText.plain, RecordKind.names])
  have hrewritten := (Relation.ReflTransGen.single hdrop).tail hinsert
  have htwice := hstable.repeated (f := "variant")
    (ObjectText.read?_text ⟨"", [variant, variant], "", by simp, by simp⟩) (by decide)
    (by simp [hvariant, MemberText.plain, MemberText.member])
  have hnone := hstable.missing (f := "variant")
    (ObjectText.read?_text ⟨"", [timed], "", by simp, by simp⟩) (by simp)
    (by simp [htimed, MemberText.plain, MemberText.member])
  subst hvariant htimed hold
  refine ⟨hduo, hstable.rewritten hduo ?_, ?_, ?_⟩
  · convert hrewritten using 1 <;> decide +kernel
  · convert htwice using 2
    decide +kernel
  · convert hnone using 2
    decide +kernel

end GameHall
