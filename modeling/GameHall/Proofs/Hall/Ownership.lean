import GameHall.Proofs.Hall.Numbering

/-!
# Who owns a table

`owner_of_table`: after any operations on a fresh hall, the owner of a table for a game is one of its
players, and the leftmost one in the lobby; the owner of a replay is one of its watchers; and a
replay that is kept to oneself has one watcher, its owner, who asked for it.

What happens to kept replays is that they open and go, and keep their owner in between
(`Changes.kept`); passing the lead is refused there, and the one watcher leaves nobody behind.
-/

namespace GameHall

namespace Table

variable {t : Table}

theorem isSoloReplay_iff : t.isSoloReplay ↔ t.phase = .replay ∧ t.visible = false := by
  rw [isSoloReplay, Bool.and_eq_true, isReplay_iff, Bool.not_eq_true']

theorem InReview.exists_watchers_eq (h : t.InReview) (hsolo : t.isSoloReplay) :
    ∃ s, t.watchers = [s] ∧ s.user = t.owner := by
  have hw : t.watchers.map Session.user = [t.owner] := h.solo (isSoloReplay_iff.1 hsolo).2
  exact List.map_eq_singleton_iff.1 hw

end Table

namespace Hall

variable {h h' : Hall} {l : Limits} {s : Session} {u : UserId} {id : TableId} {t t' : Table}
  {ts : List Table} {m : List Delivery}

/-! ## Kept replays -/

theorem Arrival.owner_eq {news : News} (a : h.Arrival s t news t') (hsolo : t'.isSoloReplay) :
    t.isSoloReplay ∧ t'.owner = t.owner := by
  cases a <;> exact ⟨hsolo, rfl⟩

/-- Whoever goes from a kept replay does not leave it to somebody else. -/
theorem Gone.owner_eq (g : Gone u t t') (ht : t.Sound l) (left : t'.isDeserted = false)
    (hsolo : t'.isSoloReplay) : t.isSoloReplay ∧ t'.owner = t.owner := by
  cases g with
  | absent => exact ⟨hsolo, rfl⟩
  | unseat phase => exact absurd (phase.symm.trans (Table.isSoloReplay_iff.1 hsolo).1) (by simp)
  | dropWatcher watching =>
    have hr := ht.inReview (Table.isSoloReplay_iff.1 hsolo).1
    have hw : t.watching = [t.owner] := hr.solo (Table.isSoloReplay_iff.1 hsolo).2
    obtain ⟨v, hv⟩ := Table.isDeserted_eq_false_iff.1 left
    obtain ⟨hvu, hv⟩ := ((Gone.dropWatcher watching).isPresent_iff ht).1 hv
    rw [hr.isPresent_iff_watching, hw, List.mem_singleton] at hv
    rw [Table.isWatching_iff, hw, List.mem_singleton] at watching
    exact absurd (hv.trans watching.symm) hvu
  | detach => exact ⟨hsolo, rfl⟩

theorem Act.not_isSoloReplay (a : h.Act t m t') : ¬t'.isSoloReplay := by
  cases a with
  | passLead _ shared => exact fun hsolo => by simp [show t.isSoloReplay from hsolo] at shared
  | start => exact fun hsolo => Phase.noConfusion (Table.isSoloReplay_iff.1 hsolo).1

/-- Among tables is a kept replay of a number and an owner. -/
def Kept (ts : List Table) (u : UserId) (id : TableId) : Prop :=
  ∃ t ∈ ts, t.isSoloReplay ∧ t.owner = u ∧ t.id = id

theorem kept_append {us : List Table} : Kept (ts ++ us) u id ↔ Kept ts u id ∨ Kept us u id := by
  simp only [Kept, List.mem_append, or_and_right, exists_or]

theorem kept_of_put (ht : t ∈ h.tables) (hid : t'.id = t.id)
    (hold : t'.isSoloReplay → t.isSoloReplay ∧ t'.owner = t.owner)
    (hk : Kept (h.put t').tables u id) : Kept h.tables u id := by
  obtain ⟨x, hx, hsolo, hu, hxid⟩ := hk
  rcases (mem_put ht hid).1 hx with rfl | ⟨hx, -⟩
  · exact ⟨t, ht, (hold hsolo).1, (hold hsolo).2 ▸ hu, hid ▸ hxid⟩
  · exact ⟨x, hx, hsolo, hu, hxid⟩

theorem Change.kept {o : Option Table} (c : h.Change o m h') (hs : h.Sound)
    (hk : Kept h'.tables u id) : Kept h.tables u id ∨ Kept o.toList u id := by
  cases c with
  | opens o => exact kept_append.1 hk
  | arrives here a =>
    exact .inl (kept_of_put (hs.table?_eq_some_iff.1 here).1 a.id_eq a.owner_eq hk)
  | departs here d left =>
    have ht := (hs.table?_eq_some_iff.1 here).1
    have g := d.gone (hs.tables _ ht)
    exact .inl (kept_of_put ht g.id_eq (g.owner_eq (hs.tables _ ht) left) hk)
  | deserts =>
    obtain ⟨x, hx, hk⟩ := hk
    exact .inl ⟨x, (List.mem_filter.1 hx).1, hk⟩
  | acts here a =>
    refine .inl (kept_of_put (hs.table?_eq_some_iff.1 here).1 a.id_eq (fun hsolo => ?_) hk)
    exact absurd hsolo a.not_isSoloReplay
  | windsDown => exact .inl hk
  | boots => exact .inl hk

/-- A kept replay was there before, with its owner, or is among the tables that were opened. -/
theorem Changes.kept (cs : Changes h ts m h') (hs : h.Sound) (hk : Kept h'.tables u id) :
    Kept h.tables u id ∨ Kept ts u id := by
  induction cs with
  | none => exact .inl hk
  | cons c _ ih =>
    rw [kept_append]
    rcases ih (c.sound hs) hk with hk | hk
    · exact (c.kept hs hk).imp_right .inl
    · exact .inr (.inr hk)

/-! ## Founders -/

variable {luck : Luck} {op : Operation}

theorem kept_of_perform (hs : h.Sound) (hk : Kept (h.perform luck op).hall.tables u id) :
    Kept h.tables u id ∨ h.opening? luck op = some (u, id) := by
  obtain ⟨ts, hts, -, hreplay⟩ := perform_changes h luck op
  refine (Changes.kept hts hs hk).imp_right ?_
  rintro ⟨t, ht, hsolo, rfl, rfl⟩
  obtain ⟨hr, s, name, roster, options, visible, rfl, hown⟩ :=
    hreplay t ht (Table.isSoloReplay_iff.1 hsolo).1
  exact opening?_eq_some_iff.2 ⟨hr, congrArg some hown⟩

/-- A kept replay was there before or was opened for its owner. -/
theorem kept_of_run (hs : h.Sound) {ops : List (Luck × Operation)}
    (hk : Kept (h.run ops).tables u id) : Kept h.tables u id ∨ (u, id) ∈ h.openings ops := by
  induction ops generalizing h with
  | nil => exact .inl hk
  | cons op ops ih =>
    obtain ⟨ts, hts, -⟩ := perform_changes h op.1 op.2
    rcases ih (Outcome.Follows.sound hts hs) hk with hk | hmem
    · refine (kept_of_perform hs hk).imp_right fun ho => List.mem_append_left _ ?_
      exact Option.mem_toList.2 ho
    · exact .inr (List.mem_append_right _ hmem)

/-! ## Owners -/

/-- **The owner of a table.** -/
theorem owner_of_table (limits : Limits) (variants : List String) (ops : List (Luck × Operation))
    (t : Table) (ht : t ∈ (after limits variants ops).tables) :
    (t.phase ≠ .replay → t.hasSeat t.owner) ∧
    (t.phase = .pregame → t.seats.head?.map Seat.user = some t.owner) ∧
    (t.phase = .replay → t.isWatching t.owner) ∧
    (t.isSoloReplay → (∃ s, t.watchers = [s] ∧ s.user = t.owner) ∧
      ∀ u, (u, t.id) ∈ (fresh limits variants).openings ops ↔ u = t.owner) := by
  have hs := (sound_after limits variants ops).tables t ht
  refine ⟨fun hp => ?_, fun hp => ?_, fun hp => ?_, fun hsolo => ⟨?_, fun u => ?_⟩⟩
  · rw [Table.hasSeat_iff]
    cases hs with
    | lobby hl => exact hl.owner_seated
    | game hg => exact hg.owner_seated
    | review hr => exact absurd hr.phase hp
  · rw [← List.head?_map]
    exact (hs.inLobby hp).leftmost
  · rw [Table.isWatching_iff]
    exact (hs.inReview hp).owner_watching
  · exact (hs.inReview (Table.isSoloReplay_iff.1 hsolo).1).exists_watchers_eq hsolo
  · have hfounder : (t.owner, t.id) ∈ (fresh limits variants).openings ops := by
      refine (kept_of_run (sound_fresh limits variants) ⟨t, ht, hsolo, rfl, rfl⟩).resolve_left ?_
      rintro ⟨x, hx, -⟩
      cases hx
    exact ⟨fun hu => founder_unique hu hfounder, fun hu => hu ▸ hfounder⟩

/-- A lobby whose lead was passed to the second player, and a kept replay. -/
theorem owner_of_lobby_and_kept_replay :
    let alice : Session := ⟨⟨1⟩, "Alice", 0⟩
    let bob : Session := ⟨⟨2⟩, "Bob", 1⟩
    let carol : Session := ⟨⟨3⟩, "Carol", 2⟩
    let options : Options := ⟨"No Variant", false, 0, 0, false, false, false, false⟩
    let ops : List (Luck × Operation) := [(⟨0, 0⟩, .command alice (.openTable "one" options)),
      (⟨0, 0⟩, .command bob (.join ⟨1⟩)), (⟨0, 0⟩, .command alice (.passLead ⟨1⟩ "bob")),
      (⟨0, 0⟩, .openReplay carol "two" [(⟨1⟩, "Alice"), (⟨2⟩, "Bob")] options false)]
    let h := after ⟨6, 2⟩ ["No Variant"] ops
    ∃ lobby replay, lobby ∈ h.tables ∧ lobby.phase = .pregame ∧ lobby.owner = bob.user ∧
      lobby.hasSeat bob.user ∧ lobby.seats.head?.map Seat.user = some bob.user ∧
      replay ∈ h.tables ∧ replay.isSoloReplay ∧ replay.isWatching carol.user ∧
      (∃ s, replay.watchers = [s] ∧ s.user = carol.user) ∧
      ∀ u, (u, replay.id) ∈ (fresh ⟨6, 2⟩ ["No Variant"]).openings ops ↔ u = carol.user := by
  intro alice bob carol options ops h
  let lobby : Table :=
    { Table.lobby ⟨1⟩ "one" alice options 6 with owner := ⟨2⟩, seats := [.taken bob, .taken alice] }
  let replay : Table := .review ⟨2⟩ "two" [(⟨1⟩, "Alice"), (⟨2⟩, "Bob")] carol options false
  have hl : lobby ∈ h.tables := by decide +kernel
  have hr : replay ∈ h.tables := by decide +kernel
  obtain ⟨hseat, hleft, -, -⟩ := owner_of_table ⟨6, 2⟩ ["No Variant"] ops lobby hl
  obtain ⟨-, -, hwatch, hkept⟩ := owner_of_table ⟨6, 2⟩ ["No Variant"] ops replay hr
  exact ⟨lobby, replay, hl, rfl, rfl, hseat (by decide), hleft rfl, hr, rfl, hwatch rfl,
    (hkept rfl).1, (hkept rfl).2⟩

end Hall

end GameHall
