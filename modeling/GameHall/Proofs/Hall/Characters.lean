import GameHall.Proofs.Hall.Permanence
import Mathlib.Data.List.InsertIdx
import Mathlib.Data.List.Perm.Basic

/-!
# Characters at a table

A game that starts with character assignments deals the eligible characters from left to right, in an
order that chance picks out of all orders (`exists_shuffle_eq_iff`). `FairDeal` says what the players
get: characters that are eligible for their number and that differ, and the players on the left get
theirs first. There are as many as `characters` has, so at a larger table the players on the right go
without.

Characters are dealt at the start and at no other time. `Table.WellDealt` is the rule for a table,
and `Reachable.wellDealt` says that it holds at all times. `start_deals_characters` is the start.
-/

namespace GameHall

/-! ## Shuffles -/

theorem shuffle_perm {α : Type} (luck : Nat) (l : List α) : (shuffle luck l).Perm l := by
  induction l generalizing luck with
  | nil => exact .nil
  | cons a as ih =>
    have hle : luck % (as.length + 1) ≤ (shuffle (luck / (as.length + 1)) as).length := by
      rw [(ih _).length_eq]
      exact Nat.le_of_lt_succ (Nat.mod_lt _ as.length.succ_pos)
    exact (List.perm_insertIdx a _ hle).trans ((ih _).cons a)

theorem exists_shuffle_eq {α : Type} {l l' : List α} (h : l'.Perm l) :
    ∃ luck, shuffle luck l = l' := by
  induction l generalizing l' with
  | nil => exact ⟨0, h.eq_nil.symm⟩
  | cons a as ih =>
    obtain ⟨i, hi, rfl⟩ := List.getElem_of_mem (h.symm.subset List.mem_cons_self)
    have hrest : (l'.eraseIdx i).Perm as := ((List.getElem_cons_eraseIdx_perm hi).trans h).cons_inv
    obtain ⟨luck, hluck⟩ := ih hrest
    have hlt : i < as.length + 1 := by simpa only [h.length_eq, List.length_cons] using hi
    have hmod : (i + (as.length + 1) * luck) % (as.length + 1) = i := by
      rw [Nat.add_mul_mod_self_left, Nat.mod_eq_of_lt hlt]
    have hdiv : (i + (as.length + 1) * luck) / (as.length + 1) = luck := by
      rw [Nat.add_mul_div_left _ _ as.length.succ_pos, Nat.div_eq_of_lt hlt, Nat.zero_add]
    refine ⟨i + (as.length + 1) * luck, ?_⟩
    rw [shuffle, hmod, hdiv, hluck, List.insertIdx_eraseIdx_getElem hi]

/-- The outcomes of a shuffle are all orders of the list. -/
theorem exists_shuffle_eq_iff {α : Type} {l l' : List α} :
    (∃ luck, shuffle luck l = l') ↔ l'.Perm l := by
  constructor
  · rintro ⟨luck, rfl⟩
    exact shuffle_perm luck l
  · exact exists_shuffle_eq

/-! ## Deals -/

theorem nodup_ids_characters : (characters.map Character.id).Nodup := by decide

theorem deal_perm (luck n : Nat) : (deal luck n).Perm ((eligible n).map Character.id) :=
  (shuffle_perm luck (eligible n)).map Character.id

theorem nodup_deal (luck n : Nat) : (deal luck n).Nodup :=
  (deal_perm luck n).nodup_iff.2 (nodup_ids_characters.sublist (List.filter_sublist.map _))

theorem length_deal (luck n : Nat) : (deal luck n).length = (eligible n).length := by
  rw [(deal_perm luck n).length_eq, List.length_map]

/-- Two players have fewer characters to choose from, but still more than they need. -/
theorem lt_length_eligible_iff {i n : Nat} (hi : i < n) :
    i < (eligible n).length ↔ i < characters.length := by
  by_cases hn : 2 < n
  · simp [eligible, hn]
  · have htwo : (eligible n).length = 26 := by
      simp only [eligible, hn, decide_false, Bool.false_or]
      decide
    have hall : characters.length = 31 := rfl
    omega

/-- What players get, from left to right. Their characters are eligible for their number and differ,
and nobody goes without as long as there are characters left. -/
structure FairDeal (hands : List (Option Nat)) : Prop where
  eligible : ∀ c, some c ∈ hands → ∃ e ∈ eligible hands.length, e.id = c
  distinct : ∀ i j c : Nat, hands[i]? = some (some c) → hands[j]? = some (some c) → i = j
  leftmost : ∀ (i : Nat) (hand : Option Nat), hands[i]? = some hand →
    (hand.isSome ↔ i < characters.length)

theorem fairDeal_of_deal {hands : List (Option Nat)} (luck : Nat)
    (hdeal : ∀ i < hands.length, hands[i]? = some (deal luck hands.length)[i]?) :
    FairDeal hands := by
  have hget {i : Nat} {hand : Option Nat} (hi : hands[i]? = some hand) :
      i < hands.length ∧ hand = (deal luck hands.length)[i]? := by
    have hlt := (List.getElem?_eq_some_iff.1 hi).1
    exact ⟨hlt, Option.some.inj (hi.symm.trans (hdeal i hlt))⟩
  constructor
  case eligible =>
    intro c hc
    obtain ⟨i, hi⟩ := List.mem_iff_getElem?.1 hc
    have hmem : c ∈ deal luck hands.length := List.mem_of_getElem? (hget hi).2.symm
    exact List.mem_map.1 ((deal_perm luck hands.length).subset hmem)
  case distinct =>
    intro i j c hi hj
    have hlt := (List.getElem?_eq_some_iff.1 (hget hi).2.symm).1
    exact (List.getElem?_inj hlt (nodup_deal luck _)).1 ((hget hi).2.symm.trans (hget hj).2)
  case leftmost =>
    intro i hand hi
    rw [(hget hi).2, ← lt_length_eligible_iff (hget hi).1, ← length_deal luck]
    simp

/-- Everyone gets a character at tables of at most as many players as there are characters. -/
theorem FairDeal.forall_isSome_iff {hands : List (Option Nat)} (h : FairDeal hands) :
    (∀ hand ∈ hands, hand.isSome) ↔ hands.length ≤ characters.length := by
  constructor
  · intro hall
    by_contra hlt
    rw [not_le] at hlt
    have hget := List.getElem?_eq_getElem hlt
    exact absurd ((h.leftmost _ _ hget).1 (hall _ (List.getElem_mem hlt))) (Nat.lt_irrefl _)
  · intro hle hand hhand
    obtain ⟨i, hi⟩ := List.mem_iff_getElem?.1 hhand
    have hlt := (List.getElem?_eq_some_iff.1 hi).1
    exact (h.leftmost i hand hi).2 (Nat.lt_of_lt_of_le hlt hle)

theorem getElem?_dealTo {ps : List Seat} (hnone : ∀ p ∈ ps, p.character = none) (cs : List Nat)
    (i : Nat) :
    ((Table.dealTo cs ps).map Seat.character)[i]? = ps[i]?.map fun _ => cs[i]? := by
  induction cs generalizing ps i with
  | nil =>
    change (ps.map Seat.character)[i]? = ps[i]?.map fun _ => none
    rw [List.getElem?_map]
    exact Option.map_congr fun p hp => hnone p (List.mem_of_getElem? hp)
  | cons c cs ih =>
    cases ps with
    | nil => simp [Table.dealTo]
    | cons p ps =>
      cases i with
      | zero => simp [Table.dealTo]
      | succ i => simpa [Table.dealTo] using ih (fun q hq => hnone q (List.mem_cons_of_mem p hq)) i

/-! ## Tables -/

namespace Table

variable {t t' : Table}

/-- What the players were dealt, from left to right. -/
def dealt (t : Table) : List (Option Nat) := t.seats.map Seat.character

/-- The players of a running game with character assignments have their deal, and nobody else has a
character. -/
structure WellDealt (t : Table) : Prop where
  fair : t.phase = .running → t.options.characterAssignments = true → FairDeal t.dealt
  undealt : t.phase = .running → t.options.characterAssignments = false → ∀ c ∈ t.dealt, c = none
  fresh : t.phase ≠ .running → ∀ c ∈ t.dealt, c = none

/-- Before a game, what matters is that nobody comes to a character. -/
theorem WellDealt.of_subset (ht : t.WellDealt) (hphase : t.phase ≠ .running)
    (hphase' : t'.phase = t.phase) (hdealt : t'.dealt ⊆ none :: t.dealt) : t'.WellDealt := by
  rw [← hphase'] at hphase
  refine ⟨fun hp => absurd hp hphase, fun hp => absurd hp hphase, fun _ c hc => ?_⟩
  rcases List.mem_cons.1 (hdealt hc) with rfl | hc
  · rfl
  · exact ht.fresh (hphase' ▸ hphase) c hc

/-- In a game everyone keeps what they were dealt. -/
theorem WellDealt.of_continues (ht : t.WellDealt) (hphase : t.phase = .running)
    (c : t.Continues t') : t'.WellDealt := by
  have hdealt : t'.dealt = t.dealt := by
    have hlineUp := congrArg (List.map fun x => x.2.2) (c.lineUp hphase)
    rwa [lineUp, lineUp, List.map_map, List.map_map] at hlineUp
  refine ⟨fun _ ha => ?_, fun _ ha => ?_, fun hp => absurd (c.running hphase) hp⟩
  · rw [hdealt]
    exact ht.fair hphase (c.options ▸ ha)
  · rw [hdealt]
    exact ht.undealt hphase (c.options ▸ ha)

theorem WellDealt.seat (ht : t.WellDealt) (hphase : t.phase = .pregame) (s : Session) :
    (t.seat s).WellDealt := by
  refine ht.of_subset (hphase ▸ nofun) rfl fun c hc => ?_
  simpa [dealt, Table.seat, Seat.taken, or_comm] using hc

theorem WellDealt.unseat (ht : t.WellDealt) (hphase : t.phase = .pregame) (u : UserId) :
    (t.unseat u).WellDealt := by
  have hdealt : (t.unseat u).dealt ⊆ t.dealt := List.map_subset _ List.eraseP_subset
  exact ht.of_subset (hphase ▸ nofun) rfl (List.subset_cons_of_subset _ hdealt)

theorem WellDealt.addWatcher (ht : t.WellDealt) (s : Session) : (t.addWatcher s).WellDealt :=
  ⟨ht.fair, ht.undealt, ht.fresh⟩

theorem WellDealt.dropWatcher (ht : t.WellDealt) (u : UserId) : (t.dropWatcher u).WellDealt :=
  ⟨ht.fair, ht.undealt, ht.fresh⟩

theorem WellDealt.withdraw (ht : t.WellDealt) (u : UserId) : (t.withdraw u).1.WellDealt :=
  withdraw_induction t u ht (ht.dropWatcher u)
    (fun x hphase hx => hx.of_continues hphase (continues_detach x u))
    (fun _ hphase hx => hx.unseat hphase u)

theorem WellDealt.passedTo (ht : t.WellDealt) (name : String) (heir : UserId) :
    (t.passedTo name heir).WellDealt := by
  by_cases hphase : t.phase = .running
  · exact ht.of_continues hphase (continues_passedTo t name heir)
  · have hdealt : (t.passedTo name heir).dealt ⊆ t.dealt :=
      ((seats_passedTo_perm name heir).map _).subset
    exact ht.of_subset hphase rfl (List.subset_cons_of_subset _ hdealt)

theorem length_dealt_started (luck : Nat) : (t.started luck).dealt.length = t.seats.length := by
  rw [dealt, List.length_map, length_seats_eq (seated_started luck)]

/-- The start deals to everyone whom the characters reach. -/
theorem WellDealt.started (ht : t.WellDealt) (hphase : t.phase = .pregame) (luck : Nat) :
    (t.started luck).WellDealt := by
  have hnone : ∀ p ∈ t.seats, p.character = none := fun p hp =>
    ht.fresh (hphase ▸ nofun) _ (List.mem_map_of_mem hp)
  refine ⟨fun _ ha => fairDeal_of_deal luck fun i hi => ?_, fun _ ha c hc => ?_,
    fun hp => absurd rfl hp⟩
  · have hassigned : t.options.characterAssignments = true := ha
    rw [length_dealt_started] at hi ⊢
    simp only [dealt, Table.started, hassigned, if_true]
    rw [getElem?_dealTo hnone, List.getElem?_eq_getElem hi, Option.map_some]
  · have hunassigned : t.options.characterAssignments = false := ha
    simp only [dealt, Table.started, hunassigned, Bool.false_eq_true, if_false] at hc
    obtain ⟨p, hp, rfl⟩ := List.mem_map.1 hc
    exact hnone p hp

end Table

namespace Hall

variable {h h' : Hall} {s : Session} {u : UserId} {t t' : Table} {o : Option Table}
  {m : List Delivery}

/-! ## What may happen to a table -/

theorem Opening.wellDealt (o : h.Opening s t) : t.WellDealt := by
  cases o with
  | lobby => exact ⟨nofun, nofun, fun _ c hc => List.mem_singleton.1 hc⟩
  | review =>
    refine ⟨nofun, nofun, fun _ c hc => ?_⟩
    obtain ⟨p, hp, rfl⟩ := List.mem_map.1 hc
    obtain ⟨x, -, rfl⟩ := List.mem_map.1 hp
    rfl

theorem Arrival.wellDealt {news : News} (a : h.Arrival s t news t') (ht : t.WellDealt) :
    t'.WellDealt := by
  cases a with
  | seat _ _ phase => exact ht.seat phase s
  | reattach phase => exact ht.of_continues phase (Table.continues_reattach t s)
  | watch => exact ht.addWatcher s

theorem Departure.wellDealt {news : List News} (d : Departure u t news t') (ht : t.WellDealt) :
    t'.WellDealt := by
  cases d with
  | leave phase => exact ht.unseat phase u
  | stopWatching => exact ht.dropWatcher u
  | withdraw => exact ht.withdraw u

theorem Act.wellDealt (a : h.Act t m t') (ht : t.WellDealt) : t'.WellDealt := by
  cases a with
  | passLead => exact ht.passedTo _ _
  | start phase => exact ht.started phase _

theorem Change.wellDealt (c : h.Change o m h') (hd : ∀ t ∈ h.tables, t.WellDealt) :
    ∀ t ∈ h'.tables, t.WellDealt :=
  c.forall_tables hd Opening.wellDealt Arrival.wellDealt Departure.wellDealt Act.wellDealt

/-- **Characters are dealt at the start and at no other time.** -/
theorem Reachable.wellDealt (hr : h.Reachable) : ∀ t ∈ h.tables, t.WellDealt :=
  hr.induction_on_changes (fun _ _ _ ht => by cases ht) Change.wellDealt

/-! ## The start -/

theorem start_eq_ok {luck : Nat} {id : TableId} (here : h.table? id = some t)
    (hok : (h.start luck u id).result = .ok ()) :
    (h.start luck u id).hall = h.put (t.started luck) ∧
      h.Act t ((t.started luck).announce .started) (t.started luck) := by
  simp only [start, here] at hok ⊢
  cases hobstacle : h.startObstacle? u t with
  | some e => simp [hobstacle, refuse] at hok
  | none => exact ⟨rfl, act_of_startObstacle? hobstacle luck⟩

/-- **Who gets a character.** When a game with character assignments starts, whatever the luck, its
players are dealt characters that are eligible for their number and that differ, from left to right
for as long as there are any. So all of them get one iff they are no more than the characters. -/
theorem start_deals_characters (limits : Limits) (variants : List String)
    (ops : List (Luck × Operation)) (luck : Nat) (u : UserId) (id : TableId) (t : Table)
    (here : (after limits variants ops).table? id = some t)
    (assigned : t.options.characterAssignments = true)
    (hok : ((after limits variants ops).start luck u id).result = .ok ()) :
    ∃ t', ((after limits variants ops).start luck u id).hall.table? id = some t' ∧
      t'.phase = .running ∧ t'.seated = t.seated ∧ FairDeal t'.dealt ∧
      ((∀ p ∈ t'.seats, p.character.isSome) ↔ t'.seats.length ≤ characters.length) := by
  have hr : (after limits variants ops).Reachable := reachable_iff_after.2 ⟨_, _, _, rfl⟩
  obtain ⟨hhall, hact⟩ := start_eq_ok here hok
  have hstarted : (t.started luck).WellDealt :=
    hact.wellDealt (hr.wellDealt t (List.mem_of_find?_eq_some here))
  have hfair : FairDeal (t.started luck).dealt := hstarted.fair rfl assigned
  obtain rfl := table?_id here
  refine ⟨t.started luck, ?_, rfl, Table.seated_started luck, hfair, ?_⟩
  · rw [hhall]
    exact table?_put_self here rfl
  · simpa [Table.dealt] using hfair.forall_isSome_iff

/-- Three players. -/
theorem start_deals_characters_to_three :
    let alice : Session := ⟨⟨1⟩, "Alice", 0⟩
    let bob : Session := ⟨⟨2⟩, "Bob", 1⟩
    let carol : Session := ⟨⟨3⟩, "Carol", 2⟩
    let options : Options := ⟨"No Variant", false, 0, 0, false, false, false, true⟩
    let ops : List (Luck × Operation) := [(⟨0, 0⟩, .command alice (.openTable "one" options)),
      (⟨0, 0⟩, .command bob (.join ⟨1⟩)), (⟨0, 0⟩, .command carol (.join ⟨1⟩))]
    let o := (after ⟨6, 2⟩ ["No Variant"] ops).start 100 ⟨1⟩ ⟨1⟩
    ∃ t', o.hall.table? ⟨1⟩ = some t' ∧ t'.seated = [⟨1⟩, ⟨2⟩, ⟨3⟩] ∧ FairDeal t'.dealt ∧
      ∀ p ∈ t'.seats, p.character.isSome := by
  intro alice bob carol options ops o
  let t : Table :=
    { Table.lobby ⟨1⟩ "one" alice options 6 with seats := [.taken alice, .taken bob, .taken carol] }
  have here : (after ⟨6, 2⟩ ["No Variant"] ops).table? ⟨1⟩ = some t := by decide +kernel
  have hok : o.result = .ok () := by decide +kernel
  obtain ⟨t', hfound, -, hseated, hfair, hall⟩ :=
    start_deals_characters ⟨6, 2⟩ ["No Variant"] ops 100 ⟨1⟩ ⟨1⟩ t here rfl hok
  have hthree : t'.seats.length = 3 := Table.length_seats_eq hseated
  refine ⟨t', hfound, hseated, hfair, hall.2 ?_⟩
  rw [hthree]
  decide

/-- Thirty-two players, one more than there are characters: the player on the right has none. -/
theorem start_leaves_one_without_character :
    let player (n : Nat) : Session := ⟨⟨n.toUInt64⟩, "Player " ++ toString n, n⟩
    let options : Options := ⟨"No Variant", false, 0, 0, false, false, false, true⟩
    let ops : List (Luck × Operation) :=
      (⟨0, 0⟩, .command (player 1) (.openTable "one" options)) ::
        (List.range 31).map fun n => (⟨0, 0⟩, .command (player (n + 2)) (.join ⟨1⟩))
    let h := after ⟨40, 2⟩ ["No Variant"] ops
    let o := h.start 0 ⟨1⟩ ⟨1⟩
    (h.table? ⟨1⟩).map (fun t => (t.phase, t.options.characterAssignments, t.seats.length)) =
        some (.pregame, true, 32) ∧
      o.result = .ok () ∧
      (o.hall.table? ⟨1⟩).map (fun t => t.seats[31]?.map Seat.character) = some (some none) := by
  decide +kernel

end Hall

end GameHall
