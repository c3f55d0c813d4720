import GameHall.Proofs.Hall.Settings

/-!
# The shape of a table

`shape_of_table`: what can be said of seats and watchers together, for every table that operations
lead to from a fresh hall, whatever the limits. No operation checks all of it. A seat that was left
behind counts as much as a connected one, and whoever opens a table sits there even where the limits
allow nobody to.
-/

namespace GameHall

namespace Table

/-- How the seats and the watchers of a table lie together. -/
structure Shaped (l : Limits) (t : Table) : Prop where
  /-- Nobody watches twice. -/
  watchers : (t.watchers.map Session.user).Nodup
  /-- Nobody plays twice. -/
  players : t.phase ≠ .replay → (t.seats.map Seat.user).Nodup
  /-- Nobody both plays and watches. -/
  apart : t.phase ≠ .replay → ∀ u, t.hasSeat u → ¬t.isWatching u
  lobby : t.phase = .pregame → t.watchers = [] ∧ ∀ p ∈ t.seats, p.isConnected
  /-- The seats of a replay are history. -/
  replay : t.phase = .replay → ∀ p ∈ t.seats, ¬p.isConnected
  size : t.phase ≠ .replay → 1 ≤ t.seats.length ∧ t.seats.length ≤ max 1 t.capacity
  capacity : t.phase ≠ .replay → t.capacity = l.maxPlayers.toNat
  enough : t.phase = .running → l.minPlayersToStart.toNat ≤ t.seats.length

variable {l : Limits} {t : Table}

theorem Live.size_pos (h : t.Live l) : 1 ≤ t.seats.length := by
  obtain ⟨p, hp, -⟩ := List.mem_map.1 h.owner_seated
  exact List.length_pos_of_mem hp

theorem InLobby.shaped (h : t.InLobby l) : t.Shaped l where
  watchers := by
    rw [h.unwatched]
    exact List.nodup_nil
  players := fun _ => h.distinct
  apart := fun _ u _ => by
    rw [isWatching_iff, h.watching_eq]
    exact List.not_mem_nil
  lobby := fun _ => ⟨h.unwatched, h.connected⟩
  replay := fun hp => absurd hp h.phase_ne
  size := fun _ => ⟨h.size_pos, h.size⟩
  capacity := fun _ => h.capacity
  enough := fun hp => absurd (h.phase.symm.trans hp) Phase.noConfusion

theorem InGame.shaped (h : t.InGame l) : t.Shaped l where
  watchers := h.watching
  players := fun _ => h.distinct
  apart := fun _ u hseat hw => h.apart u (isWatching_iff.1 hw) (hasSeat_iff.1 hseat)
  lobby := fun hp => absurd (h.phase.symm.trans hp) Phase.noConfusion
  replay := fun hp => absurd hp h.phase_ne
  size := fun _ => ⟨h.size_pos, h.size⟩
  capacity := fun _ => h.capacity
  enough := fun _ => h.enough

theorem InReview.shaped (h : t.InReview) : t.Shaped l where
  watchers := h.watching
  players := fun hp => absurd h.phase hp
  apart := fun hp => absurd h.phase hp
  lobby := fun hp => absurd (h.phase.symm.trans hp) Phase.noConfusion
  replay := fun _ p hp => by simp [Seat.isConnected, h.past p hp]
  size := fun hp => absurd h.phase hp
  capacity := fun hp => absurd h.phase hp
  enough := fun hp => absurd (h.phase.symm.trans hp) Phase.noConfusion

end Table

namespace Hall

/-- **The shape of a table.** At every table that operations on a fresh hall lead to, nobody has two
entries; players and watchers of a game are different users; a lobby is not watched and all of its
players are connected, and at a replay no seat is; a game has at least one player, at most as many as
the limits allow (but for the one who opened it), and enough of them once it runs. -/
theorem shape_of_table (limits : Limits) (variants : List String) (ops : List (Luck × Operation))
    (t : Table) (ht : t ∈ (after limits variants ops).tables) : t.Shaped limits := by
  have hs : t.Sound (after limits variants ops).limits :=
    (sound_after limits variants ops).tables t ht
  rw [limits_after] at hs
  cases hs with
  | lobby h => exact h.shaped
  | game h => exact h.shaped
  | review h => exact h.shaped

/-- Where the limits allow nobody at a table, its creator plays alone. Others watch, and the creator
keeps the seat. -/
theorem shape_of_table_without_seats :
    let alice : Session := ⟨⟨1⟩, "Alice", 0⟩
    let bob : Session := ⟨⟨2⟩, "Bob", 1⟩
    let options : Options := ⟨"No Variant", false, 0, 0, false, false, false, false⟩
    let ops : List (Luck × Operation) := [(⟨0, 0⟩, .command alice (.openTable "one" options)),
      (⟨0, 0⟩, .command bob (.join ⟨1⟩)), (⟨0, 0⟩, .command alice (.start ⟨1⟩)),
      (⟨0, 0⟩, .command bob (.watch ⟨1⟩)), (⟨0, 0⟩, .disconnect ⟨1⟩),
      (⟨0, 0⟩, .command alice (.watch ⟨1⟩))]
    ∃ t ∈ (after ⟨0, 1⟩ ["No Variant"] ops).tables, t.phase = .running ∧
      t.seats = [⟨⟨1⟩, "Alice", none, none⟩] ∧ t.watchers = [bob] ∧ t.Shaped ⟨0, 1⟩ := by
  intro alice bob options ops
  let game : Table :=
    { Table.lobby ⟨1⟩ "one" alice options 0 with
      seats := [⟨⟨1⟩, "Alice", none, none⟩], watchers := [bob], phase := .running }
  have hgame : game ∈ (after ⟨0, 1⟩ ["No Variant"] ops).tables := by decide +kernel
  exact ⟨game, hgame, rfl, rfl, rfl, shape_of_table ⟨0, 1⟩ ["No Variant"] ops game hgame⟩

end Hall

end GameHall
