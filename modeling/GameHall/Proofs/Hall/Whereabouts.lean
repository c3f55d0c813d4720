import GameHall.Proofs.Hall.Sound
import Mathlib.Data.List.Nodup

/-!
# Where users are

What the index of presence answers, after any operations on a fresh hall, against a scan of all
tables.

* `presence_exact`: a table is noted for a user iff the user is present there.
* `single_game`: a user is connected to one game at most, and `otherGame?` finds it.
-/

namespace GameHall

namespace Hall

variable {h : Hall} {u : UserId} {id : TableId}

/-! ## Presence -/

/-- The tables where a user is present, by a look at every table. -/
def scanPresence (h : Hall) (u : UserId) : List TableId :=
  (h.tables.filter fun t => t.isPresent u).map Table.id

theorem Sound.mem_tablesOf (hs : h.Sound) :
    id ∈ h.tablesOf u ↔ ∃ t, h.table? id = some t ∧ t.isPresent u := by
  simp only [hs.indexed, hs.table?_eq_some_iff, and_assoc]

theorem Sound.pairwise_scanPresence (hs : h.Sound) (u : UserId) :
    (h.scanPresence u).Pairwise fun a b => a < b :=
  List.pairwise_map.2 (hs.ascending.filter _)

theorem mem_scanPresence : id ∈ h.scanPresence u ↔ ∃ t ∈ h.tables, t.id = id ∧ t.isPresent u := by
  simp only [scanPresence, List.mem_map, List.mem_filter, and_assoc, and_comm (a := _ = id)]

theorem Sound.tablesOf_eq_scanPresence (hs : h.Sound) (u : UserId) :
    h.tablesOf u = h.scanPresence u :=
  TableId.eq_of_ascending (hs.tidy.pairwise_tablesOf u) (hs.pairwise_scanPresence u) fun id =>
    (hs.indexed u id).trans mem_scanPresence.symm

/-- **The index of presence is exact.** It notes a table for a user iff the table is there and the
user is present at it, it has no entry without a table, and so it gives the tables that a scan finds,
in ascending order. -/
theorem presence_exact (limits : Limits) (variants : List String) (ops : List (Luck × Operation))
    (u : UserId) :
    (∀ id, id ∈ (after limits variants ops).tablesOf u ↔
      ∃ t, (after limits variants ops).table? id = some t ∧ t.isPresent u) ∧
    (u, []) ∉ (after limits variants ops).presence.entries ∧
    (after limits variants ops).tablesOf u = (after limits variants ops).scanPresence u ∧
    ((after limits variants ops).tablesOf u).Pairwise fun a b => a < b := by
  have hs := sound_after limits variants ops
  exact ⟨fun id => hs.mem_tablesOf, fun hnil => hs.tidy.inhabited _ hnil rfl,
    hs.tablesOf_eq_scanPresence u, hs.tidy.pairwise_tablesOf u⟩

/-! ## Games -/

/-- A table where a user is playing, other than an excepted one, by a look at every table. -/
def scanForGame (h : Hall) (u : UserId) (except : Option TableId) : Option TableId :=
  (h.tables.find? fun t => decide (some t.id ≠ except) && t.isConnected u).map Table.id

variable {except : Option TableId}

theorem Sound.otherGame?_eq_some_iff (hs : h.Sound) :
    h.otherGame? u except = some id ↔
      some id ≠ except ∧ ∃ t, h.table? id = some t ∧ t.isConnected u := by
  constructor
  · intro hid
    have hp := List.find?_some hid
    simp only [Bool.and_eq_true, decide_eq_true_eq, Option.any_eq_true] at hp
    exact hp
  · rintro ⟨hne, t, here, hc⟩
    obtain ⟨ht, rfl⟩ := hs.table?_eq_some_iff.1 here
    cases hother : h.otherGame? u except with
    | none => exact absurd hc (hs.otherGame?_eq_none_iff.1 hother t ht hne)
    | some id' =>
      have hp := List.find?_some hother
      simp only [Bool.and_eq_true, decide_eq_true_eq, Option.any_eq_true] at hp
      obtain ⟨-, x, here', hxc⟩ := hp
      obtain ⟨hx, rfl⟩ := hs.table?_eq_some_iff.1 here'
      rw [hs.oneGame x hx t ht u hxc hc]

theorem Sound.scanForGame_eq_some_iff (hs : h.Sound) :
    h.scanForGame u except = some id ↔
      some id ≠ except ∧ ∃ t, h.table? id = some t ∧ t.isConnected u := by
  rw [scanForGame, Option.map_eq_some_iff]
  constructor
  · rintro ⟨t, hfind, rfl⟩
    have hp := List.find?_some hfind
    simp only [Bool.and_eq_true, decide_eq_true_eq] at hp
    exact ⟨hp.1, t, hs.table?_eq_some_iff.2 ⟨List.mem_of_find?_eq_some hfind, rfl⟩, hp.2⟩
  · rintro ⟨hne, t, here, hc⟩
    obtain ⟨ht, rfl⟩ := hs.table?_eq_some_iff.1 here
    have hsome : (h.tables.find? fun t => decide (some t.id ≠ except) && t.isConnected u).isSome :=
      List.find?_isSome.2 ⟨t, ht, by simp [hne, hc]⟩
    obtain ⟨x, hx⟩ := Option.isSome_iff_exists.1 hsome
    have hp := List.find?_some hx
    simp only [Bool.and_eq_true, decide_eq_true_eq] at hp
    exact ⟨x, hx, hs.oneGame x (List.mem_of_find?_eq_some hx) t ht u hp.2 hc⟩

/-- All tables that connect a user have one number, and no two tables have. -/
theorem Sound.countP_isConnected_le_one (hs : h.Sound) (u : UserId) :
    (h.tables.countP fun t => t.isConnected u) ≤ 1 := by
  have hnodup : ((h.tables.filter fun t => t.isConnected u).map Table.id).Nodup :=
    hs.nodup_ids.sublist (List.filter_sublist.map _)
  rw [List.countP_eq_length_filter]
  rcases hgames : h.tables.filter fun t => t.isConnected u with _ | ⟨t, ts⟩
  · rw [hgames]
    exact Nat.zero_le _
  · have ht : t ∈ h.tables.filter fun t => t.isConnected u := hgames ▸ List.mem_cons_self
    have hsame : ((t :: ts).map Table.id) = .replicate (t :: ts).length t.id := by
      refine List.eq_replicate_iff.2 ⟨List.length_map .., fun id hid => ?_⟩
      obtain ⟨x, hx, rfl⟩ := List.mem_map.1 hid
      rw [← hgames] at hx
      exact hs.oneGame x (List.mem_filter.1 hx).1 t (List.mem_filter.1 ht).1 u
        (List.mem_filter.1 hx).2 (List.mem_filter.1 ht).2
    rw [hgames, hsame] at hnodup
    rw [hgames]
    exact List.nodup_replicate.1 hnodup

/-- **A user plays one game at a time.** At most one table connects a user, and a look through the
tables noted for the user answers as a scan: with the table that connects the user, if it is not the
excepted one. -/
theorem single_game (limits : Limits) (variants : List String) (ops : List (Luck × Operation))
    (u : UserId) :
    ((after limits variants ops).tables.countP fun t => t.isConnected u) ≤ 1 ∧
    ∀ except,
      (after limits variants ops).otherGame? u except =
        (after limits variants ops).scanForGame u except ∧
      ∀ id, (after limits variants ops).otherGame? u except = some id ↔
        some id ≠ except ∧ ∃ t, (after limits variants ops).table? id = some t ∧ t.isConnected u := by
  have hs := sound_after limits variants ops
  refine ⟨hs.countP_isConnected_le_one u, fun except => ⟨?_, fun id => hs.otherGame?_eq_some_iff⟩⟩
  exact Option.ext fun id => hs.otherGame?_eq_some_iff.trans hs.scanForGame_eq_some_iff.symm

/-- A player whose connection to a running game closed may play another. -/
example :
    let luck : Luck := ⟨0, 0⟩
    let alice : Session := ⟨⟨1⟩, "Alice", 0⟩
    let bob : Session := ⟨⟨2⟩, "Bob", 1⟩
    let options : Options := ⟨"No Variant", false, 0, 0, false, false, false, false⟩
    let h := after ⟨6, 2⟩ ["No Variant"] [(luck, .command alice (.openTable "one" options)),
      (luck, .command bob (.join ⟨1⟩)), (luck, .command alice (.start ⟨1⟩)),
      (luck, .disconnect ⟨1⟩), (luck, .command alice (.openTable "two" options))]
    h.tablesOf ⟨1⟩ = [⟨2⟩] ∧ h.tablesOf ⟨2⟩ = [⟨1⟩] ∧ h.otherGame? ⟨1⟩ none = some ⟨2⟩ := by
  decide +kernel

end Hall

end GameHall
