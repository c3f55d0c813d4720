import Mathlib.Logic.Relation
import GameHall.Proofs.Json.Layout
import GameHall.Proofs.Wire

/-!
# Records in rewritten texts

The text of a record can be rewritten in many ways that do not change the record: blanks are put
between tokens, members change places, members with unknown names come in, and members that say what
holds without them come and go (`RecordKind.Rewrites`). A kind of record is read stably
(`RecordKind.Stable`) if texts that are rewritten like this are read as before, and if a known member
that is repeated, or one that is missing and has no default, is an error.

`RecordKind.Lawful` is what a reader must do for that: look at nothing but its own fields, take a
missing one as if its default stood there, and not do without those that have none.
`RecordKind.Lawful.stable` draws the conclusion.
-/

namespace GameHall

/-- A kind of record: its fields, with the values that they have when they are missing, and how it is
read. -/
structure RecordKind (α : Type) where
  /-- The fields with their defaults. -/
  fields : List (String × Option Json)
  read? : Json → Option α

variable {α : Type} {R : RecordKind α} {field field' : String → Option Json} {f n : String}
  {d v : Json} {ms ms' before after : List (String × Json)}

namespace RecordKind

/-- The names of the fields. -/
def names (R : RecordKind α) : List String := R.fields.map Prod.fst

/-- Reads a record out of a text. -/
def readText? (R : RecordKind α) (text : String) : Option α := (Json.read? text).bind R.read?

/-! ## Rewriting -/

/-- One change to a text that is to make no difference. -/
inductive Rewrites (R : RecordKind α) : String → String → Prop
  /-- Blanks are put between two tokens. -/
  | blanks {before w after : String} {ts us : List Token}
    (hbefore : tokens? before.toList = some ts) (hafter : tokens? after.toList = some us)
    (h : tokens? (before ++ after).toList = some (ts ++ us)) (hw : ∀ c ∈ w.toList, c ∈ jsonBlanks) :
    Rewrites R (before ++ after) (before ++ w ++ after)
  /-- The members change places. -/
  | permute (o : ObjectText) {ms : List MemberText} (h : o.members.Perm ms) :
    Rewrites R o.text { o with members := ms }.text
  /-- A member with an unknown name comes in, with any value. -/
  | insert (o : ObjectText) {before after : List MemberText} (m : MemberText)
    (h : o.members = before ++ after) (hm : m.name ∉ R.names) :
    Rewrites R o.text { o with members := before ++ m :: after }.text
  /-- A member that holds its default is left out. -/
  | drop (o : ObjectText) {before after : List MemberText} (m : MemberText)
    (h : o.members = before ++ m :: after) (hm : (m.name, some m.value) ∈ R.fields) :
    Rewrites R o.text { o with members := before ++ after }.text
  /-- A member that is missing comes in and holds its default. -/
  | supply (o : ObjectText) {before after : List MemberText} (m : MemberText)
    (h : o.members = before ++ after) (hm : (m.name, some m.value) ∈ R.fields)
    (hnew : m.name ∉ o.members.map MemberText.name) :
    Rewrites R o.text { o with members := before ++ m :: after }.text

/-- Records of a kind are read stably. -/
structure Stable (R : RecordKind α) : Prop where
  /-- Every text of an object that is read as a record is laid out member by member. -/
  laid_out : ∀ {text : String} {ms : List (Option String × Json)} {a : α},
    R.readText? text = some a → Json.read? text = some (.object ms) → ∃ o : ObjectText, o.text = text
  /-- However its text is rewritten, a record is read as before. -/
  rewritten : ∀ {text text' : String} {a : α}, R.readText? text = some a →
    Relation.ReflTransGen R.Rewrites text text' → R.readText? text' = some a
  /-- A known member that is repeated is an error. -/
  repeated : ∀ {text : String} {ms : List (Option String × Json)} {f : String},
    Json.read? text = some (.object ms) → f ∈ R.names → 2 ≤ (ms.map Prod.fst).count (some f) →
      R.readText? text = none
  /-- A missing member without a default is an error. -/
  missing : ∀ {text : String} {ms : List (Option String × Json)} {f : String},
    Json.read? text = some (.object ms) → (f, none) ∈ R.fields → some f ∉ ms.map Prod.fst →
      R.readText? text = none

/-! ## What a reader must do -/

/-- Two ways to give the fields say the same, with the defaults of what is missing. -/
def Agree (R : RecordKind α) (field field' : String → Option Json) : Prop :=
  ∀ f d, (f, d) ∈ R.fields → (field f).or d = (field' f).or d

/-- What a reader must do that makes records of fields. -/
structure Lawful (R : RecordKind α) (build : (String → Option Json) → Option α) : Prop where
  names_nodup : R.names.Nodup
  exists_needed : ∃ f, (f, none) ∈ R.fields
  /-- The fields are found in the value, and nothing else counts. -/
  read?_eq : ∀ v, R.read? v = (v.record? R.names).bind build
  /-- A missing field means its default. -/
  of_agree : ∀ {field field' : String → Option Json}, R.Agree field field' →
    build field = build field'
  /-- A field without a default is needed. -/
  needed : ∀ {field : String → Option Json} {f : String}, (f, none) ∈ R.fields → field f = none →
    build field = none

namespace Agree

theorem required {β : Type} (h : R.Agree field field') (hf : (f, none) ∈ R.fields)
    (read : Json → Option β) : required read (field f) = required read (field' f) := by
  have hagree := h f none hf
  rw [Option.or_none, Option.or_none] at hagree
  rw [hagree]

theorem orElse {β : Type} {default : β} (h : R.Agree field field') (hf : (f, some d) ∈ R.fields)
    (read : Json → Option β) (hd : read d = some default) :
    orElse default read (field f) = orElse default read (field' f) := by
  have hfilled (x : Option Json) : GameHall.orElse default read x = (x.or (some d)).bind read := by
    cases x with
    | none => exact hd.symm
    | some v => rfl
  rw [hfilled, hfilled, h f (some d) hf]

theorem nullable {β : Type} (h : R.Agree field field') (hf : (f, some .null) ∈ R.fields)
    (read : Json → Option β) : nullable read (field f) = nullable read (field' f) := by
  have hfilled (x : Option Json) :
      GameHall.nullable read x = GameHall.nullable read (x.or (some .null)) := by
    cases x <;> rfl
  rw [hfilled (field f), hfilled (field' f), h f (some .null) hf]

end Agree

end RecordKind

/-! ## Members of an object -/

namespace Json

theorem lookup_eq_none_of_not_mem (h : f ∉ ms.map Prod.fst) : ms.lookup f = none := by
  rw [List.lookup_eq_none_iff]
  intro m hm
  rw [bne_iff_ne]
  rintro rfl
  exact h (List.mem_map_of_mem hm)

/-- A name that is not given twice is looked up wherever it stands. -/
theorem lookup_eq_some_iff_mem (h : (ms.map Prod.fst).count f ≤ 1) :
    ms.lookup f = some v ↔ (f, v) ∈ ms := by
  induction ms with
  | nil => simp
  | cons m ms ih =>
    obtain ⟨n, w⟩ := m
    rw [List.map_cons, List.count_cons] at h
    rw [List.lookup_cons, List.mem_cons]
    by_cases hn : n = f
    · subst hn
      have hnew : n ∉ ms.map Prod.fst := by
        rw [← List.count_eq_zero]
        simpa using h
      have hmem : (n, v) ∉ ms := fun hv => hnew (List.mem_map_of_mem hv)
      simp [hmem, eq_comm]
    · have hne : (f == n) = false := beq_false_of_ne (Ne.symm hn)
      rw [hne, ih (by omega)]
      simp [Ne.symm hn]

theorem lookup_eq_of_perm (hperm : ms.Perm ms') (h : (ms.map Prod.fst).count f ≤ 1) :
    ms.lookup f = ms'.lookup f := by
  have h' : (ms'.map Prod.fst).count f ≤ 1 := by rwa [← (hperm.map Prod.fst).count_eq]
  ext v
  rw [lookup_eq_some_iff_mem h, lookup_eq_some_iff_mem h', hperm.mem_iff]

/-- An object without nameless members is one of named members. -/
theorem eq_of_named? {ms : List (Option String × Json)} {ms' : List (String × Json)}
    (h : named? ms = some ms') : ms = ms'.map fun m => (some m.1, m.2) := by
  induction ms generalizing ms' with
  | nil =>
    obtain rfl := Option.some.inj h
    rfl
  | cons m ms ih =>
    obtain ⟨name, v⟩ := m
    cases name with
    | none => exact absurd h nofun
    | some n =>
      obtain ⟨rest, hrest, rfl⟩ := Option.map_eq_some_iff.1 h
      rw [ih hrest, List.map_cons]

end Json

/-! ## Objects that are read as records -/

namespace RecordKind.Lawful

variable {build : (String → Option Json) → Option α} (hR : R.Lawful build)

include hR

theorem read?_members (ms : List (String × Json)) :
    R.read? (.members ms) =
      if Json.givenOnce R.names ms then build fun f => ms.lookup f else none := by
  rw [hR.read?_eq, Json.members, Json.record?, Json.objectFields?_members_eq]
  split <;> rfl

/-- A record gives each of its fields at most once. -/
theorem count_le_one {a : α} (h : R.read? (.members ms) = some a) (hf : f ∈ R.names) :
    (ms.map Prod.fst).count f ≤ 1 := by
  rw [hR.read?_members, Option.ite_none_right_eq_some] at h
  exact Json.givenOnce_iff.1 h.1 f hf

/-- Objects are read as the same record if they give the same fields more than once, and agree where
they give none more than once. -/
theorem read?_congr (honce : Json.givenOnce R.names ms = Json.givenOnce R.names ms')
    (hagree : Json.givenOnce R.names ms = true →
      R.Agree (fun f => ms.lookup f) fun f => ms'.lookup f) :
    R.read? (.members ms) = R.read? (.members ms') := by
  rw [hR.read?_members, hR.read?_members, ← honce]
  split
  · rename_i hms
    exact hR.of_agree (hagree hms)
  · rfl

theorem read?_perm (hperm : ms.Perm ms') : R.read? (.members ms) = R.read? (.members ms') := by
  refine hR.read?_congr ?_ fun honce f d hf => ?_
  · rw [Bool.eq_iff_iff, Json.givenOnce_iff, Json.givenOnce_iff]
    simp only [(hperm.map Prod.fst).count_eq]
  · have hcount := Json.givenOnce_iff.1 honce f (List.mem_map_of_mem hf)
    dsimp only
    rw [Json.lookup_eq_of_perm hperm hcount]

/-- A member makes no difference if its name is unknown, or if it holds the default of its field and
is the only one to give it. -/
theorem read?_cons (hm : n ∉ R.names ∨ (n, some v) ∈ R.fields ∧ n ∉ ms.map Prod.fst) :
    R.read? (.members ((n, v) :: ms)) = R.read? (.members ms) := by
  refine hR.read?_congr ?_ fun honce f d hf => ?_
  · rw [Bool.eq_iff_iff, Json.givenOnce_iff, Json.givenOnce_iff]
    refine forall₂_congr fun f hf => ?_
    rw [List.map_cons, List.count_cons]
    obtain hunknown | ⟨-, hnew⟩ := hm
    · have hne : n ≠ f := fun heq => hunknown (heq ▸ hf)
      simp [hne]
    · by_cases hn : n = f
      · subst hn
        simp [List.count_eq_zero.2 hnew]
      · simp [hn]
  · dsimp only
    rw [List.lookup_cons]
    by_cases hn : f = n
    · subst hn
      obtain hunknown | ⟨hdefault, hnew⟩ := hm
      · exact absurd (List.mem_map_of_mem hf) hunknown
      · have hd : (f, d) = (f, some v) :=
          List.inj_on_of_nodup_map hR.names_nodup hf hdefault rfl
        obtain ⟨-, rfl⟩ := Prod.mk.inj hd
        simp [Json.lookup_eq_none_of_not_mem hnew]
    · rw [beq_false_of_ne hn]

theorem read?_insert (hm : n ∉ R.names ∨ (n, some v) ∈ R.fields ∧ n ∉ (before ++ after).map Prod.fst) :
    R.read? (.members (before ++ (n, v) :: after)) = R.read? (.members (before ++ after)) :=
  (hR.read?_perm List.perm_middle).trans (hR.read?_cons hm)

/-- A member that holds its default can be left out. -/
theorem read?_drop {a : α} (h : R.read? (.members (before ++ (n, v) :: after)) = some a)
    (hm : (n, some v) ∈ R.fields) : R.read? (.members (before ++ after)) = some a := by
  have hcount := hR.count_le_one h (f := n) (List.mem_map_of_mem hm)
  have hnew : n ∉ (before ++ after).map Prod.fst := by
    rw [← List.count_eq_zero]
    simp only [List.map_append, List.map_cons, List.count_append, List.count_cons_self] at hcount ⊢
    omega
  rwa [← hR.read?_insert (.inr ⟨hm, hnew⟩)]

theorem read?_eq_none_of_missing (hf : (f, none) ∈ R.fields) (hmissing : f ∉ ms.map Prod.fst) :
    R.read? (.members ms) = none := by
  rw [hR.read?_members, hR.needed hf (Json.lookup_eq_none_of_not_mem hmissing), ite_self]

/-! ## Texts -/

omit hR in
theorem readText?_text (o : ObjectText) :
    R.readText? o.text = R.read? (.members (o.members.map MemberText.member)) := by
  rw [readText?, o.read?_text, Option.bind_some]

theorem rewrites {text text' : String} {a : α} (h : R.Rewrites text text')
    (ha : R.readText? text = some a) : R.readText? text' = some a := by
  cases h with
  | blanks hbefore hafter hcut hw =>
    rw [String.toList_append] at hcut
    have hspaced := tokens?_insert_blanks hbefore hafter hcut hw
    rw [readText?, Json.read?] at ha ⊢
    rw [String.toList_append, hcut] at ha
    rwa [String.toList_append, String.toList_append, hspaced]
  | permute o hperm =>
    rw [readText?_text] at ha ⊢
    rwa [← hR.read?_perm (hperm.map _)]
  | insert o m hmembers hm =>
    rw [readText?_text] at ha ⊢
    rw [hmembers, List.map_append] at ha
    rw [List.map_append, List.map_cons]
    rwa [MemberText.member, hR.read?_insert (.inl hm)]
  | drop o m hmembers hm =>
    rw [readText?_text] at ha ⊢
    rw [hmembers, List.map_append, List.map_cons] at ha
    rw [List.map_append]
    exact hR.read?_drop ha hm
  | supply o m hmembers hm hnew =>
    rw [← MemberText.map_fst_member, hmembers, List.map_append] at hnew
    rw [readText?_text] at ha ⊢
    rw [hmembers, List.map_append] at ha
    rw [List.map_append, List.map_cons]
    rwa [MemberText.member, hR.read?_insert (.inr ⟨hm, hnew⟩)]

/-- The members of an object that is read as a record all have names. -/
theorem exists_members {ms : List (Option String × Json)} {a : α}
    (h : R.read? (.object ms) = some a) : ∃ ms', Json.object ms = .members ms' := by
  cases hnamed : Json.named? ms with
  | none =>
    rw [hR.read?_eq, Json.record?, Json.objectFields?, hnamed] at h
    cases h
  | some ms' => exact ⟨ms', by rw [Json.eq_of_named? hnamed, Json.members]⟩

theorem laid_out {text : String} {ms : List (Option String × Json)} {a : α}
    (ha : R.readText? text = some a) (hms : Json.read? text = some (.object ms)) :
    ∃ o : ObjectText, o.text = text := by
  rw [readText?, hms, Option.bind_some] at ha
  obtain ⟨ms', hmembers⟩ := hR.exists_members ha
  rw [hmembers] at hms ha
  have hne : ms' ≠ [] := by
    rintro rfl
    obtain ⟨f, hf⟩ := hR.exists_needed
    rw [hR.read?_eq_none_of_missing hf List.not_mem_nil] at ha
    cases ha
  obtain ⟨o, ho, -⟩ := exists_objectText hms hne
  exact ⟨o, ho⟩

omit hR in
theorem map_fst_of_members {ms : List (Option String × Json)} {ms' : List (String × Json)}
    (h : Json.object ms = .members ms') : ms.map Prod.fst = (ms'.map Prod.fst).map some := by
  obtain rfl := Json.object.inj h
  rw [List.map_map, List.map_map]
  rfl

theorem repeated {text : String} {ms : List (Option String × Json)}
    (hms : Json.read? text = some (.object ms)) (hf : f ∈ R.names)
    (htwice : 2 ≤ (ms.map Prod.fst).count (some f)) : R.readText? text = none := by
  rw [readText?, hms, Option.bind_some]
  by_contra hsome
  obtain ⟨a, ha⟩ := Option.ne_none_iff_exists'.1 hsome
  obtain ⟨ms', hmembers⟩ := hR.exists_members ha
  rw [map_fst_of_members hmembers,
    List.count_map_of_injective _ _ (Option.some_injective String)] at htwice
  rw [hmembers] at ha
  exact absurd (htwice.trans (hR.count_le_one ha hf)) (by decide)

theorem missing {text : String} {ms : List (Option String × Json)}
    (hms : Json.read? text = some (.object ms)) (hf : (f, none) ∈ R.fields)
    (hmissing : some f ∉ ms.map Prod.fst) : R.readText? text = none := by
  rw [readText?, hms, Option.bind_some]
  by_contra hsome
  obtain ⟨a, ha⟩ := Option.ne_none_iff_exists'.1 hsome
  obtain ⟨ms', hmembers⟩ := hR.exists_members ha
  rw [map_fst_of_members hmembers] at hmissing
  refine hsome (hmembers ▸ hR.read?_eq_none_of_missing hf fun hmem => hmissing ?_)
  exact List.mem_map_of_mem hmem

/-- What a lawful reader reads is read stably. -/
theorem stable : R.Stable where
  laid_out := hR.laid_out
  rewritten ha hrewrites := by
    induction hrewrites with
    | refl => exact ha
    | tail _ hlast ih => exact hR.rewrites hlast ih
  repeated := hR.repeated
  missing := hR.missing

end RecordKind.Lawful

end GameHall
