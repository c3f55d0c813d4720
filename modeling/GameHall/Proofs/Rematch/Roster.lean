import GameHall.Proofs.Rematch.Outcome

/-!
# Who is missing from a rematch

A rematch is for the players of the finished game, and it is rejected where players are missing. The
check counts: there must be as many watchers with a name of the roster as there are seats
(`Table.returned`). So it is about everyone's name only as far as names tell people apart.

* `rejected_iff_missing`: where no two watchers share a name of the roster, the check fails iff a name
  of the roster is missing or the roster has a name twice.
* `rematch_without_bob`: where two watchers share a name, a second Alice stands in for Bob.
-/

namespace GameHall

namespace Table

variable {t : Table}

/-- The names of the players of the finished game. -/
def roster (t : Table) : List String := t.seats.map Seat.name

/-- The names of the roster that watchers bear, once for each watcher. -/
def returned (t : Table) : List String :=
  (t.watchers.map Session.name).filter fun name => decide (name ∈ t.roster)

theorem length_rematchPlayers (t : Table) : t.rematchPlayers.length = t.returned.length := by
  have hsame : (fun s : Session => t.seats.any fun p => p.name == s.name) =
      (fun name => decide (name ∈ t.roster)) ∘ Session.name := by
    funext s
    rw [Bool.eq_iff_iff]
    simp only [Function.comp_apply, List.any_eq_true, beq_iff_eq, decide_eq_true_eq, roster,
      List.mem_map]
  rw [rematchPlayers, returned, List.filter_map, List.length_map, hsame]

theorem mem_returned_iff {name : String} :
    name ∈ t.returned ↔ name ∈ t.watchers.map Session.name ∧ name ∈ t.roster := by
  rw [returned, List.mem_filter, decide_eq_true_eq]

/-- Counting names finds out who is missing, provided that nobody is counted twice. -/
theorem length_returned_eq_iff (h : t.returned.Nodup) :
    t.returned.length = t.roster.length ↔
      t.roster.Nodup ∧ ∀ name ∈ t.roster, name ∈ t.watchers.map Session.name := by
  have hsub : t.returned ⊆ t.roster := fun _ hname => (mem_returned_iff.1 hname).2
  constructor
  · intro hlength
    have hperm : t.returned.Perm t.roster :=
      (List.subperm_of_subset h hsub).perm_of_length_le (Nat.le_of_eq hlength.symm)
    refine ⟨hperm.nodup_iff.1 h, fun name hname => ?_⟩
    exact (mem_returned_iff.1 (hperm.mem_iff.2 hname)).1
  · rintro ⟨hnodup, hall⟩
    have hmem : ∀ name, name ∈ t.returned ↔ name ∈ t.roster := fun name =>
      ⟨fun hname => hsub hname, fun hname => mem_returned_iff.2 ⟨hall name hname, hname⟩⟩
    exact ((List.perm_ext_iff_of_nodup h hnodup).2 hmem).length_eq

end Table

namespace Hall

variable {h : Hall} {s : Session} {id : TableId} {t : Table}

/-- The steps after the checks have other errors than that players are missing. -/
theorem rematch_error_iff (hr : h.Reachable) (luck : Luck) :
    (h.rematch luck s id).result = .error .playersMissing ↔
      h.rematchPlan s id = .error .playersMissing := by
  cases hplan : h.rematchPlan s id with
  | error e =>
    rw [rematch_eq_refuse hplan]
    simp [refuse]
  | ok t =>
    obtain ⟨-, -, hok | ⟨e, herror | herror⟩⟩ := rematch_ends hr hplan luck
    · simp [hok]
    · simp [herror]
    · simp [herror]

theorem ofRefusal_ne_playersMissing (r : Refusal) : Rejection.ofRefusal r ≠ .playersMissing := by
  cases r <;> exact Rejection.noConfusion

theorem rematchPlan_error_iff (here : h.table? id = some t) (hshared : t.isSharedReplay)
    (hleads : t.owner = s.user) (hmany : 2 ≤ t.watchers.length) :
    h.rematchPlan s id = .error .playersMissing ↔ t.returned.length ≠ t.roster.length := by
  have hseats : t.roster.length = t.seats.length := List.length_map ..
  rw [← Table.length_rematchPlayers, hseats]
  have hfew : ¬t.watchers.length < 2 := by omega
  simp only [rematchPlan, here, hshared, hleads, if_neg hfew, Bool.not_true, Bool.false_eq_true,
    ne_eq, not_true_eq_false, if_false]
  split
  · rename_i hcount
    exact iff_of_true rfl hcount
  · rename_i hcount
    split
    · exact iff_of_false (fun heq => ofRefusal_ne_playersMissing _ (Except.error.inj heq)) hcount
    · exact iff_of_false (by simp) hcount

/-- **A rematch is rejected for missing players** iff those who bear names of the roster are more or
fewer than its seats. Where no two watchers share a name of the roster, that is iff the roster has a
name twice or some name of the roster is the name of no watcher. -/
theorem rejected_iff_missing (limits : Limits) (variants : List String)
    (ops : List (Luck × Operation)) (luck : Luck) (s : Session) (id : TableId) (t : Table)
    (here : (after limits variants ops).table? id = some t) (hshared : t.isSharedReplay)
    (hleads : t.owner = s.user) (hmany : 2 ≤ t.watchers.length) :
    (((after limits variants ops).rematch luck s id).result = .error .playersMissing ↔
      t.returned.length ≠ t.roster.length) ∧
    (t.returned.Nodup →
      (((after limits variants ops).rematch luck s id).result = .error .playersMissing ↔
        ¬t.roster.Nodup ∨ ∃ name ∈ t.roster, ∀ w ∈ t.watchers, w.name ≠ name)) := by
  have hr : (after limits variants ops).Reachable :=
    reachable_iff_after.2 ⟨limits, variants, ops, rfl⟩
  have hcount : ((after limits variants ops).rematch luck s id).result = .error .playersMissing ↔
      t.returned.length ≠ t.roster.length :=
    (rematch_error_iff hr luck).trans (rematchPlan_error_iff here hshared hleads hmany)
  refine ⟨hcount, fun hnodup => ?_⟩
  rw [hcount, ne_eq, Table.length_returned_eq_iff hnodup, not_and_or]
  simp only [not_forall, List.mem_map, not_exists, not_and, exists_prop, ne_eq]

/-- Bob is missing, and the rematch is rejected. -/
theorem rejected_without_bob :
    let alice : Session := ⟨⟨1⟩, "Alice", 0⟩
    let carol : Session := ⟨⟨3⟩, "Carol", 1⟩
    let options : Options := ⟨"No Variant", false, 0, 0, false, false, false, false⟩
    let ops : List (Luck × Operation) :=
      [(⟨0, 0⟩, .openReplay alice "one" [(⟨1⟩, "Alice"), (⟨2⟩, "Bob")] options true),
        (⟨0, 0⟩, .command carol (.watch ⟨1⟩))]
    ((after ⟨6, 2⟩ ["No Variant"] ops).rematch ⟨0, 0⟩ alice ⟨1⟩).result =
      .error .playersMissing := by
  intro alice carol options ops
  let replay : Table :=
    { Table.review ⟨1⟩ "one" [(⟨1⟩, "Alice"), (⟨2⟩, "Bob")] alice options true with
      watchers := [alice, carol] }
  have here : (after ⟨6, 2⟩ ["No Variant"] ops).table? ⟨1⟩ = some replay := by decide +kernel
  obtain ⟨-, hmissing⟩ := rejected_iff_missing ⟨6, 2⟩ ["No Variant"] ops ⟨0, 0⟩ alice ⟨1⟩ replay here
    rfl rfl (by decide)
  exact (hmissing (by decide)).2 (.inr ⟨"Bob", by decide, by decide⟩)

/-- Bob is missing, and the game starts with two users called Alice. -/
theorem rematch_without_bob :
    let alice : Session := ⟨⟨1⟩, "Alice", 0⟩
    let namesake : Session := ⟨⟨3⟩, "Alice", 1⟩
    let options : Options := ⟨"No Variant", false, 0, 0, false, false, false, false⟩
    let h := after ⟨6, 2⟩ ["No Variant"]
      [(⟨0, 0⟩, .openReplay alice "replay" [(⟨1⟩, "Alice"), (⟨2⟩, "Bob")] options true),
        (⟨0, 0⟩, .command namesake (.watch ⟨1⟩))]
    ∃ t, h.table? ⟨1⟩ = some t ∧ t.isSharedReplay ∧ t.owner = alice.user ∧ 2 ≤ t.watchers.length ∧
      (∃ name ∈ t.roster, ∀ w ∈ t.watchers, w.name ≠ name) ∧
      (h.rematch ⟨0, 0⟩ alice ⟨1⟩).result = .ok ⟨2⟩ := by
  intro alice namesake options h
  let replay : Table :=
    { Table.review ⟨1⟩ "replay" [(⟨1⟩, "Alice"), (⟨2⟩, "Bob")] alice options true with
      watchers := [alice, namesake] }
  refine ⟨replay, by decide +kernel, rfl, rfl, by decide, ⟨"Bob", by decide, by decide⟩, ?_⟩
  decide +kernel

/-- Both players are there, and a namesake of one of them stands in the way. -/
example :
    let alice : Session := ⟨⟨1⟩, "Alice", 0⟩
    let bob : Session := ⟨⟨2⟩, "Bob", 1⟩
    let namesake : Session := ⟨⟨3⟩, "Alice", 2⟩
    let options : Options := ⟨"No Variant", false, 0, 0, false, false, false, false⟩
    let h := after ⟨6, 2⟩ ["No Variant"]
      [(⟨0, 0⟩, .openReplay alice "replay" [(⟨1⟩, "Alice"), (⟨2⟩, "Bob")] options true),
        (⟨0, 0⟩, .command bob (.watch ⟨1⟩)), (⟨0, 0⟩, .command namesake (.watch ⟨1⟩))]
    (h.rematch ⟨0, 0⟩ alice ⟨1⟩).result = .error .playersMissing := by
  decide +kernel

end Hall

end GameHall
