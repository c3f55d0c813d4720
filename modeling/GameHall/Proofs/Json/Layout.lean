import GameHall.Proofs.Json.Cuts
import GameHall.Proofs.Json.Spelled

/-!
# How objects are laid out

The text of an object is put together of the texts of its members, and any well-formed text may stand
there: `MemberText` is a text for a name and one for a value, with blanks wherever they may be, and
`ObjectText` lists members and has blanks around them. `ObjectText.read?_text` reads the object off
its text, and `exists_objectText` finds a layout of every text that spells an object with members.
-/

namespace GameHall

/-- A member of an object as it is written. -/
structure MemberText where
  name : String
  value : Json
  nameText : String
  valueText : String
  name_spelled : Json.read? nameText = some (.str name)
  value_spelled : Json.read? valueText = some value

namespace MemberText

/-- The text of a member. -/
def text (m : MemberText) : String := m.nameText ++ ":" ++ m.valueText

/-- A member as the printer writes it. -/
def plain (name : String) (value : Json) : MemberText where
  name := name
  value := value
  nameText := (Json.str name).text
  valueText := value.text
  name_spelled := Json.read?_text _
  value_spelled := Json.read?_text _

/-- What a member spells. -/
def member (m : MemberText) : String × Json := (m.name, m.value)

theorem map_fst_member (ms : List MemberText) : (ms.map member).map Prod.fst = ms.map name := by
  rw [List.map_map]
  rfl

end MemberText

/-- The texts of members with commas between them. -/
def membersText : List MemberText → String
  | [] => ""
  | [m] => m.text
  | m :: ms => m.text ++ "," ++ membersText ms

/-- An object as it is written. -/
structure ObjectText where
  before : String
  members : List MemberText
  after : String
  before_blank : ∀ c ∈ before.toList, c ∈ jsonBlanks
  after_blank : ∀ c ∈ after.toList, c ∈ jsonBlanks

/-- The text of an object. -/
def ObjectText.text (o : ObjectText) : String :=
  o.before ++ "\x7b" ++ membersText o.members ++ "\x7d" ++ o.after

/-! ## Texts are read as they are laid out -/

theorem tokens?_of_blank {w : List Char} (hw : ∀ c ∈ w, c ∈ jsonBlanks) :
    tokens? w = some [] := by
  have hnil : tokens? [] = some [] := rfl
  simpa only [List.append_nil] using tokens?_blanks_append hw hnil

/-- The tokens of a member. -/
theorem MemberText.tokens?_text (m : MemberText) :
    tokens? m.text.toList = some (.string (some m.name) :: .colon :: m.value.tokens) := by
  have hname : tokens? m.nameText.toList = some [.string (some m.name)] :=
    Json.read?_eq_some_iff.1 m.name_spelled
  have hvalue := Json.read?_eq_some_iff.1 m.value_spelled
  have htext : m.text.toList = m.nameText.toList ++ ':' :: m.valueText.toList := by simp [text]
  rw [htext]
  exact tokens?_append_separator hname hvalue (.mark (by simp [marks]))

/-- The tokens of members with commas between them. -/
theorem tokens?_membersText (m : MemberText) (ms : List MemberText) :
    tokens? (membersText (m :: ms)).toList =
      some (.string (some m.name) :: .colon :: m.value.tokens ++
        Json.memberTokens ((ms.map MemberText.member).map fun m => (some m.1, m.2))) := by
  induction ms generalizing m with
  | nil =>
    rw [membersText, m.tokens?_text]
    simp [Json.memberTokens]
  | cons m' ms ih =>
    have htext : (membersText (m :: m' :: ms)).toList =
        m.text.toList ++ ',' :: (membersText (m' :: ms)).toList := by simp [membersText]
    have hcomma : Separates ',' [.comma] := .mark (by simp [marks])
    rw [htext, tokens?_append_separator m.tokens?_text (ih m') hcomma]
    simp [Json.memberTokens, MemberText.member]

/-- What a text is laid out as is read off it. -/
theorem ObjectText.read?_text (o : ObjectText) :
    Json.read? o.text = some (.members (o.members.map MemberText.member)) := by
  have htext : o.text.toList =
      o.before.toList ++ '\x7b' :: ((membersText o.members).toList ++ '\x7d' :: o.after.toList) := by
    simp [text]
  have hafter := tokens?_of_blank o.after_blank
  have hbefore := tokens?_of_blank o.before_blank
  have hopen : Separates '\x7b' [.objectOpen] := .mark (by simp [marks])
  have hclose : Separates '\x7d' [.objectClose] := .mark (by simp [marks])
  rw [Json.read?_eq_some_iff, htext]
  cases hms : o.members with
  | nil =>
    have hmembers : tokens? (membersText []).toList = some [] := rfl
    exact tokens?_append_separator hbefore (tokens?_append_separator hmembers hafter hclose) hopen
  | cons m ms =>
    have hmembers := tokens?_membersText m ms
    rw [tokens?_append_separator hbefore (tokens?_append_separator hmembers hafter hclose) hopen]
    simp [Json.members, Json.tokens, MemberText.member]

/-! ## Every text of an object is laid out -/

section

variable {c : Char} {cs : List Char}

/-- A mark has one character. -/
theorem eq_of_mem_marks {d : Char} {m : Token} (hc : (c, m) ∈ marks) (hd : (d, m) ∈ marks) :
    c = d := by
  fin_cases hd <;> simpa [marks] using hc

/-- A text can be cut at a mark that is known. -/
theorem exists_cut {m : Token} (ts us : List Token) (hc : (c, m) ∈ marks)
    (h : tokens? cs = some (ts ++ m :: us)) :
    ∃ before after, cs = before ++ c :: after ∧ tokens? before = some ts ∧
      tokens? after = some us := by
  have hm : m.IsMark := List.mem_map_of_mem hc
  obtain ⟨d, before, after, rfl, hd, hbefore, hafter⟩ := exists_cut_of_tokens? hm h
  exact ⟨before, after, eq_of_mem_marks hc hd ▸ rfl, hbefore, hafter⟩

theorem exists_memberText {n : String} {v : Json}
    (h : tokens? cs = some (.string (some n) :: .colon :: v.tokens)) :
    ∃ m : MemberText, m.text.toList = cs ∧ m.member = (n, v) := by
  obtain ⟨name, value, rfl, hname, hvalue⟩ :=
    exists_cut (c := ':') [.string (some n)] v.tokens (by simp [marks]) h
  refine ⟨{
    name := n
    value := v
    nameText := String.ofList name
    valueText := String.ofList value
    name_spelled := ?_
    value_spelled := ?_ }, by simp [MemberText.text], rfl⟩
  · rwa [Json.read?_eq_some_iff, String.toList_ofList]
  · rwa [Json.read?_eq_some_iff, String.toList_ofList]

theorem exists_membersText {n : String} {v : Json} {ms : List (String × Json)}
    (h : tokens? cs = some (.string (some n) :: .colon :: v.tokens ++
      Json.memberTokens (ms.map fun m => (some m.1, m.2)))) :
    ∃ mts : List MemberText, (membersText mts).toList = cs ∧
      mts.map MemberText.member = (n, v) :: ms := by
  induction ms generalizing cs n v with
  | nil =>
    rw [List.map_nil, Json.memberTokens, List.append_nil] at h
    obtain ⟨m, hm, hmember⟩ := exists_memberText h
    exact ⟨[m], hm, by rw [List.map_singleton, hmember]⟩
  | cons m ms ih =>
    obtain ⟨n', v'⟩ := m
    rw [List.map_cons, Json.memberTokens] at h
    obtain ⟨first, rest, rfl, hfirst, hrest⟩ := exists_cut (c := ',') _ _ (by simp [marks]) h
    obtain ⟨m, rfl, hmember⟩ := exists_memberText hfirst
    obtain ⟨mts, rfl, hmembers⟩ := ih hrest
    refine ⟨m :: mts, ?_, by rw [List.map_cons, hmember, hmembers]⟩
    cases mts with
    | nil => exact absurd hmembers.symm (List.cons_ne_nil _ _)
    | cons m' mts => simp [membersText]

/-- A text that spells an object with members is laid out as one. -/
theorem exists_objectText {text : String} {ms : List (String × Json)}
    (h : Json.read? text = some (.members ms)) (hne : ms ≠ []) :
    ∃ o : ObjectText, o.text = text ∧ o.members.map MemberText.member = ms := by
  obtain ⟨⟨n, v⟩, ms, rfl⟩ := List.exists_cons_of_ne_nil hne
  rw [Json.read?_eq_some_iff] at h
  obtain ⟨before, rest, hcut, hbefore, hrest⟩ :=
    exists_cut (c := '\x7b') (m := .objectOpen) [] _ (by simp [marks]) h
  obtain ⟨members, after, rfl, hmembers, hafter⟩ :=
    exists_cut (c := '\x7d') _ [] (by simp [marks]) hrest
  obtain ⟨mts, rfl, hmts⟩ := exists_membersText hmembers
  refine ⟨{
    before := String.ofList before
    members := mts
    after := String.ofList after
    before_blank := by simpa using blank_of_tokens? hbefore
    after_blank := by simpa using blank_of_tokens? hafter }, ?_, hmts⟩
  apply String.toList_injective
  simp [ObjectText.text, hcut]

end

end GameHall
