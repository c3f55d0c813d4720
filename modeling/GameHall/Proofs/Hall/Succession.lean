import GameHall.Proofs.Hall.Names
import GameHall.Proofs.Hall.Ownership
import GameHall.Proofs.Text.Blank

/-!
# Succession

What it takes to pass the lead of a table, and what comes of it: `passLead_succeeds`. The heir is the
first candidate of the given name, and in the lobby the two leaders exchange their seats
(`Table.Exchanges`), so that the new one sits leftmost as the old one did.

The owner of a table for a game has a seat there, so the lead is never refused for want of one. What
keeps owners from passing the lead to themselves is a comparison of names and not of users. It does
so for users who go by one name in all of their sessions.
-/

namespace GameHall

theorem getElem?_exchange {α : Type} {l : List α} {i j : Nat} (hi : i < l.length)
    (hj : j < l.length) (k : Nat) :
    (exchange l i j)[k]? = if k = i then l[j]? else if k = j then l[i]? else l[k]? := by
  simp only [exchange, List.getElem?_eq_getElem hi, List.getElem?_eq_getElem hj]
  rw [List.getElem?_set, List.getElem?_set, List.length_set]
  by_cases hki : k = i
  · subst hki
    by_cases hkj : j = k
    · subst hkj
      simp [hj]
    · simp [hkj, hi]
  · simp only [hki, Ne.symm hki, if_false]
    by_cases hkj : k = j
    · subst hkj
      simp [hj]
    · simp [hkj, Ne.symm hkj]

namespace Table

variable {l : Limits} {t t' : Table} {s : Session} {name : String} {heir : Named}

theorem sameName_iff {a b : String} : sameName a b = true ↔ normalForm a = normalForm b := beq_iff_eq

/-- The heir is the first candidate of the name. -/
theorem heir?_eq_some_iff :
    t.heir? name = some heir ↔ normalForm heir.2 = normalForm name ∧
      ∃ before behind, t.candidates = before ++ heir :: behind ∧
        ∀ c ∈ before, normalForm c.2 ≠ normalForm name := by
  unfold heir?
  rw [List.find?_eq_some_iff_append]
  simp only [sameName_iff, Bool.not_eq_true', ← Bool.not_eq_true, ne_eq]

theorem isSome_heir?_iff :
    (∃ heir, t.heir? name = some heir) ↔ ∃ c ∈ t.candidates, normalForm c.2 = normalForm name := by
  unfold heir?
  rw [← Option.isSome_iff_exists, List.find?_isSome]
  simp only [sameName_iff]

/-- The seats of two users are exchanged and all others stay. -/
structure Exchanges (t t' : Table) (u v : UserId) : Prop where
  perm : t'.seats.Perm t.seats
  places : ∃ i j : Nat, (t.seats[i]?).map Seat.user = some u ∧ (t.seats[j]?).map Seat.user = some v ∧
    ∀ k : Nat, t'.seats[k]? = if k = i then t.seats[j]? else if k = j then t.seats[i]? else t.seats[k]?

/-- The table has passed to a new leader. -/
structure Passes (t t' : Table) (heir : UserId) : Prop where
  eq_with : t' = { t with owner := heir, seats := t'.seats }
  seats_eq : t.phase ≠ .pregame → t'.seats = t.seats
  exchanges : t.phase = .pregame → t.Exchanges t' t.owner heir
  leftmost : t.phase = .pregame → t'.seats.head?.map Seat.user = some heir

theorem InLobby.exchanges (h : t.InLobby l) (hh : t.heir? name = some heir) :
    t.Exchanges (t.passedTo name heir.1) t.owner heir.1 where
  perm := seats_passedTo_perm name heir.1
  places := by
    obtain ⟨p, hp, hpu⟩ := seats_find_of_heir h.phase_ne hh
    rw [List.find?_eq_getElem?_findIdx] at hp
    have hleft := h.leftmost
    rw [seated, List.head?_map, List.head?_eq_getElem?] at hleft
    obtain ⟨q, hq, -⟩ := Option.map_eq_some_iff.1 hleft
    have hi := (List.getElem?_eq_some_iff.1 hq).1
    have hj := (List.getElem?_eq_some_iff.1 hp).1
    refine ⟨0, _, hleft, by rw [hp, Option.map_some, hpu], fun k => ?_⟩
    simp only [Table.passedTo, h.phase, if_true, h.findIdx_owner]
    exact getElem?_exchange hi hj k

theorem Sound.passes (h : t.Sound l) (hh : t.heir? name = some heir) :
    t.Passes (t.passedTo name heir.1) heir.1 where
  eq_with := rfl
  seats_eq := fun hphase => by simp [passedTo, hphase]
  exchanges := fun hphase => (h.inLobby hphase).exchanges hh
  leftmost := fun hphase => by
    rw [← List.head?_map]
    exact ((h.inLobby hphase).passedTo hh).leftmost

end Table

namespace Hall

variable {l : Limits} {h : Hall} {s : Session} {id : TableId} {t : Table} {name : String}
  {heir : Named}

/-- The owner of a lobby has a seat there, so the last of the checks never fails. -/
theorem heirOrRejection_eq (ht : t.Sound l) :
    heirOrRejection s t name =
      if isBlankText name then .error .nameless
      else if t.isSoloReplay then .error .keptReplay
      else if t.owner ≠ s.user then .error .notLeader
      else if Table.sameName name s.name then .error .leadsAlready
      else
        match t.heir? name with
        | none => .error (if t.isReplay then .notWatching name else .notSeated name)
        | some heir => .ok heir := by
  unfold heirOrRejection
  by_cases howner : t.owner = s.user
  · have hseat : ¬(t.phase = .pregame ∧ !t.hasSeat s.user) := by
      rintro ⟨hphase, hnone⟩
      have hmem := Table.hasSeat_iff.2 (ht.inLobby hphase).owner_seated
      rw [howner] at hmem
      simp [hmem] at hnone
    cases t.heir? name with
    | none => rfl
    | some heir => simp only [if_neg hseat]
  · simp only [ne_eq, howner, not_false_eq_true, if_true]

theorem heirOrRejection_eq_ok_iff (ht : t.Sound l) :
    heirOrRejection s t name = .ok heir ↔
      isBlankText name = false ∧ t.isSoloReplay = false ∧ t.owner = s.user ∧
        Table.sameName name s.name = false ∧ t.heir? name = some heir := by
  rw [heirOrRejection_eq ht]
  split_ifs with hblank hsolo howner hself hreplay
  · simp [hblank]
  · simp [hsolo]
  · simp [howner]
  · simp [hself]
  all_goals
    rw [not_not] at howner
    cases hheir : t.heir? name <;> simp [hblank, hsolo, howner, hself]

/-- A session that gives its own name is told that it leads already. -/
theorem heirOrRejection_ne_notSeated (ht : t.Sound l) :
    heirOrRejection s t name ≠ .error (.notSeated s.name) := by
  rw [heirOrRejection_eq ht]
  split_ifs with hblank hsolo howner hself hreplay
  · simp
  · simp
  · simp
  · simp
  · cases t.heir? name <;> simp
  · cases t.heir? name with
    | some heir => simp
    | none =>
      intro heq
      obtain rfl := Rejection.notSeated.inj (Except.error.inj heq)
      exact hself (Table.sameName_iff.2 rfl)

/-- What it takes to pass the lead of a table to a name. -/
structure MayPass (s : Session) (name : String) (t : Table) : Prop where
  named : ∃ c ∈ name.toList, isBlank c = false
  shared : ¬t.isSoloReplay
  leads : t.owner = s.user
  other : normalForm name ≠ normalForm s.name
  found : ∃ c ∈ t.candidates, normalForm c.2 = normalForm name

theorem mayPass_iff (ht : t.Sound l) :
    MayPass s name t ↔ ∃ heir, heirOrRejection s t name = .ok heir := by
  have hblank : isBlankText name = false ↔ ∃ c ∈ name.toList, isBlank c = false := by
    rw [← Bool.not_eq_true, isBlankText_iff]
    simp
  have hself : Table.sameName name s.name = false ↔ normalForm name ≠ normalForm s.name := by
    rw [← Bool.not_eq_true, Table.sameName_iff]
  simp only [heirOrRejection_eq_ok_iff ht, exists_and_left, Table.isSome_heir?_iff, hblank, hself]
  constructor
  · intro h
    exact ⟨h.named, by simpa using h.shared, h.leads, h.other, h.found⟩
  · rintro ⟨hnamed, hshared, hleads, hother, hfound⟩
    exact ⟨hnamed, by simpa using hshared, hleads, hother, hfound⟩

theorem passLead_eq_ok_iff :
    (h.passLead s id name).result = .ok () ↔
      ∃ t, h.table? id = some t ∧ ∃ heir, heirOrRejection s t name = .ok heir := by
  unfold passLead
  cases h.table? id with
  | none => simp [refuse]
  | some t =>
    cases hheir : heirOrRejection s t name with
    | error e => simp [refuse, hheir]
    | ok heir => exact iff_of_true (by simp only [hheir]) ⟨t, rfl, heir, hheir⟩

theorem passLead_of_ok (here : h.table? id = some t)
    (hheir : heirOrRejection s t name = .ok heir) :
    (h.passLead s id name).hall =
      { h with tables := h.tables.map fun x => if x.id = id then t.passedTo name heir.1 else x } := by
  obtain rfl := table?_id here
  unfold passLead
  simp only [here, hheir]
  rfl

theorem passLead_ne_notSeated (hs : h.Sound) :
    (h.passLead s id name).result ≠ .error (.notSeated s.name) := by
  unfold passLead
  cases here : h.table? id with
  | none => simp [refuse]
  | some t =>
    have ht := hs.tables t (hs.table?_eq_some_iff.1 here).1
    cases hheir : heirOrRejection s t name with
    | error e =>
      have hne : e ≠ .notSeated s.name := fun heq => heirOrRejection_ne_notSeated ht (heq ▸ hheir)
      simpa [hheir, refuse] using hne
    | ok heir => simp [hheir]

/-- **Passing the lead.** It succeeds iff the name may be passed the lead by the session. Then the
first candidate of the name leads the table and nothing else has changed but two seats in the lobby.
It is never refused for the owner's want of a seat. And where a user goes by one name in all
sessions, the lead goes to somebody else. -/
theorem passLead_succeeds (limits : Limits) (variants : List String)
    (ops : List (Luck × Operation)) (s : Session) (id : TableId) (name : String) :
    let h := after limits variants ops
    let o := h.passLead s id name
    (o.result = .ok () ↔ ∃ t, h.table? id = some t ∧ MayPass s name t) ∧
    (o.result = .ok () → ∃ t t' heir before behind, h.table? id = some t ∧
      t.candidates = before ++ heir :: behind ∧ normalForm heir.2 = normalForm name ∧
      (∀ c ∈ before, normalForm c.2 ≠ normalForm name) ∧ t.Passes t' heir.1 ∧
      o.hall = { h with tables := h.tables.map fun x => if x.id = id then t' else x } ∧
      ((∀ op ∈ ops, ∀ w, op.2.session? = some w → w.user = s.user → w.name = s.name) →
        heir.1 ≠ t.owner)) ∧
    o.result ≠ .error (.notSeated s.name) := by
  intro h o
  have hs : h.Sound := sound_after limits variants ops
  have hsound {t : Table} (here : h.table? id = some t) : t.Sound h.limits :=
    hs.tables t (hs.table?_eq_some_iff.1 here).1
  refine ⟨passLead_eq_ok_iff.trans ?_, fun hok => ?_, passLead_ne_notSeated hs⟩
  · refine exists_congr fun t => and_congr_right fun here => ?_
    exact (mayPass_iff (hsound here)).symm
  · obtain ⟨t, here, heir, hheir⟩ := passLead_eq_ok_iff.1 hok
    obtain ⟨-, -, howner, hother, hfound⟩ := (heirOrRejection_eq_ok_iff (hsound here)).1 hheir
    obtain ⟨hname, before, behind, hsplit, hbefore⟩ := Table.heir?_eq_some_iff.1 hfound
    refine ⟨t, _, heir, before, behind, here, hsplit, hname, hbefore, (hsound here).passes hfound,
      passLead_of_ok here hheir, fun hnames => ?_⟩
    -- The owner is known here under a name that is not the heir's.
    have hknown : h.Knows fun c => c.1 = s.user → c.2 = s.name :=
      knows_after limits variants fun op hop w hw hu => hnames op hop w hw hu
    have hmem : heir ∈ t.candidates := hsplit ▸ List.mem_append_right _ List.mem_cons_self
    intro hsame
    have hheir' : heir.2 = s.name := hknown.of_table here heir hmem (hsame.trans howner)
    rw [← Bool.not_eq_true, Table.sameName_iff, ← hheir'] at hother
    exact hother hname.symm

/-- Alice passes the lead of a lobby to Carol, who sat on the right. -/
theorem passLead_succeeds_to_carol :
    let alice : Session := ⟨⟨1⟩, "Alice", 0⟩
    let bob : Session := ⟨⟨2⟩, "Bob", 1⟩
    let carol : Session := ⟨⟨3⟩, "Carol", 2⟩
    let options : Options := ⟨"No Variant", false, 0, 0, false, false, false, false⟩
    let ops : List (Luck × Operation) := [(⟨0, 0⟩, .command alice (.openTable "one" options)),
      (⟨0, 0⟩, .command bob (.join ⟨1⟩)), (⟨0, 0⟩, .command carol (.join ⟨1⟩))]
    let h := after ⟨6, 2⟩ ["No Variant"] ops
    ∃ t t' heir before behind, h.table? ⟨1⟩ = some t ∧
      t.candidates = before ++ heir :: behind ∧ normalForm heir.2 = normalForm " cAROL" ∧
      (∀ c ∈ before, normalForm c.2 ≠ normalForm " cAROL") ∧ t.Passes t' heir.1 ∧
      (h.passLead alice ⟨1⟩ " cAROL").hall =
        { h with tables := h.tables.map fun x => if x.id = ⟨1⟩ then t' else x } ∧
      heir.1 ≠ t.owner := by
  intro alice bob carol options ops h
  obtain ⟨-, hpasses, -⟩ := passLead_succeeds ⟨6, 2⟩ ["No Variant"] ops alice ⟨1⟩ " cAROL"
  obtain ⟨t, t', heir, before, behind, here, hsplit, hname, hbefore, hpassed, hhall, hother⟩ :=
    hpasses (by decide +kernel)
  refine ⟨t, t', heir, before, behind, here, hsplit, hname, hbefore, hpassed, hhall, hother ?_⟩
  decide +kernel

end Hall

end GameHall
