import GameHall.Hall.Membership
import GameHall.Proofs.Table.Membership

/-!
# Sound tables

What holds of every table that a hall comes to, phase by phase: `InLobby`, `InGame` and `InReview`.
A table is `Sound` when the one of its phase holds.

In each phase the operations on a table keep it sound. Those that take a user away do so as long as
somebody is left.
-/

namespace GameHall

namespace Table

variable {l : Limits} {t : Table} {s : Session} {u v : UserId}

/-- What holds of a table for a game, before and after the start. -/
structure Live (l : Limits) (t : Table) : Prop where
  distinct : t.seated.Nodup
  /-- A seat is connected to a session of its own user. -/
  ownSession : ∀ p ∈ t.seats, ∀ s, p.session = some s → s.user = p.user
  owner_seated : t.owner ∈ t.seated
  capacity : t.capacity = l.maxPlayers.toNat
  /-- The first seat is there whatever the limits. -/
  size : t.seats.length ≤ max 1 t.capacity
  visible : t.visible = true

/-- What holds of a table before its game. -/
structure InLobby (l : Limits) (t : Table) : Prop extends t.Live l where
  phase : t.phase = .pregame
  leftmost : t.seated.head? = some t.owner
  connected : ∀ p ∈ t.seats, p.isConnected
  unwatched : t.watchers = []

/-- What holds of a table with its game in progress. -/
structure InGame (l : Limits) (t : Table) : Prop extends t.Live l where
  phase : t.phase = .running
  watching : t.watching.Nodup
  /-- Nobody both plays and watches. -/
  apart : ∀ u ∈ t.watching, u ∉ t.seated
  enough : l.minPlayersToStart.toNat ≤ t.seats.length
  attended : ∃ u, t.isPresent u

/-- What holds of a replay. -/
structure InReview (t : Table) : Prop where
  phase : t.phase = .replay
  watching : t.watching.Nodup
  owner_watching : t.owner ∈ t.watching
  roster : t.seats ≠ []
  capacity : t.capacity = t.seats.length
  /-- The seats are history. -/
  past : ∀ p ∈ t.seats, p.session = none
  solo : t.visible = false → t.watching = [t.owner]

/-- What holds of a table in its phase. -/
inductive Sound (l : Limits) (t : Table) : Prop
  | lobby (h : t.InLobby l)
  | game (h : t.InGame l)
  | review (h : t.InReview)

theorem Sound.inLobby (h : t.Sound l) (hp : t.phase = .pregame) : t.InLobby l := by
  cases h with
  | lobby h => exact h
  | game h => exact absurd (hp.symm.trans h.phase) Phase.noConfusion
  | review h => exact absurd (hp.symm.trans h.phase) Phase.noConfusion

theorem Sound.inGame (h : t.Sound l) (hp : t.phase = .running) : t.InGame l := by
  cases h with
  | lobby h => exact absurd (hp.symm.trans h.phase) Phase.noConfusion
  | game h => exact h
  | review h => exact absurd (hp.symm.trans h.phase) Phase.noConfusion

theorem Sound.inReview (h : t.Sound l) (hp : t.phase = .replay) : t.InReview := by
  cases h with
  | lobby h => exact absurd (hp.symm.trans h.phase) Phase.noConfusion
  | game h => exact absurd (hp.symm.trans h.phase) Phase.noConfusion
  | review h => exact h

/-! ## Who is there, phase by phase -/

theorem InLobby.watching_eq (h : t.InLobby l) : t.watching = [] := by
  rw [Table.watching, h.unwatched, List.map_nil]

theorem InLobby.isConnected_iff_seated (h : t.InLobby l) : t.isConnected u ↔ u ∈ t.seated := by
  rw [isConnected_iff, h.phase, seated, List.mem_map]
  constructor
  · rintro ⟨-, p, hp, hpu, -⟩
    exact ⟨p, hp, hpu⟩
  · rintro ⟨p, hp, hpu⟩
    exact ⟨by simp, p, hp, hpu, h.connected p hp⟩

theorem InLobby.isPresent_iff_seated (h : t.InLobby l) : t.isPresent u ↔ u ∈ t.seated := by
  rw [isPresent_iff, h.watching_eq, h.isConnected_iff_seated]
  simp

theorem Live.seated_of_isConnected (hc : t.isConnected u) : u ∈ t.seated := by
  obtain ⟨-, p, hp, rfl, -⟩ := isConnected_iff.1 hc
  exact List.mem_map_of_mem hp

theorem InGame.not_isConnected_of_watching (h : t.InGame l) (hu : u ∈ t.watching) :
    ¬t.isConnected u :=
  fun hc => h.apart u hu (Live.seated_of_isConnected hc)

theorem InReview.not_isConnected (h : t.InReview) : ¬t.isConnected u :=
  not_isConnected_of_replay h.phase

theorem InReview.isPresent_iff_watching (h : t.InReview) : t.isPresent u ↔ u ∈ t.watching :=
  Table.isPresent_iff_watching h.phase

/-- At a sound table somebody is present. -/
theorem Sound.attended (h : t.Sound l) : ∃ u, t.isPresent u := by
  cases h with
  | lobby h => exact ⟨t.owner, h.isPresent_iff_seated.2 h.owner_seated⟩
  | game h => exact h.attended
  | review h => exact ⟨t.owner, h.isPresent_iff_watching.2 h.owner_watching⟩

theorem isDeserted_eq_false_iff : t.isDeserted = false ↔ ∃ u, t.isPresent u := by
  rw [← Bool.not_eq_true, isDeserted_iff]
  simp

/-- The seats may change but for their users, as long as no seat gets a session of another. -/
theorem Live.of_seated_eq (h : t.Live l) {t' : Table} (hseated : t'.seated = t.seated)
    (hown : ∀ p ∈ t'.seats, ∀ s, p.session = some s → s.user = p.user)
    (howner : t'.owner = t.owner) (hcap : t'.capacity = t.capacity)
    (hvisible : t'.visible = t.visible) : t'.Live l where
  distinct := hseated ▸ h.distinct
  ownSession := hown
  owner_seated := by
    rw [hseated, howner]
    exact h.owner_seated
  capacity := hcap.trans h.capacity
  size := by
    rw [length_seats_eq hseated, hcap]
    exact h.size
  visible := hvisible.trans h.visible

theorem InLobby.phase_ne (h : t.InLobby l) : t.phase ≠ .replay := by
  simp [h.phase]

theorem InGame.phase_ne (h : t.InGame l) : t.phase ≠ .replay := by
  simp [h.phase]

/-! ## The lobby -/

theorem inLobby_lobby (l : Limits) (id : TableId) (name : String) (s : Session)
    (options : Options) : (lobby id name s options l.maxPlayers.toNat).InLobby l where
  distinct := List.nodup_singleton _
  ownSession := fun p hp s' hs => by
    obtain rfl := List.mem_singleton.1 hp
    obtain rfl : s = s' := Option.some.inj hs
    rfl
  owner_seated := List.mem_singleton.2 rfl
  capacity := rfl
  size := Nat.le_max_left ..
  visible := rfl
  phase := rfl
  leftmost := rfl
  connected := fun p hp => by
    obtain rfl := List.mem_singleton.1 hp
    rfl
  unwatched := rfl

theorem InLobby.seat (h : t.InLobby l) (hnew : t.hasSeat s.user = false)
    (hroom : t.isFull = false) : (t.seat s).InLobby l where
  distinct := nodup_seated_seat h.distinct hnew
  ownSession := fun p hp s' hs => by
    rcases List.mem_append.1 hp with hp | hp
    · exact h.ownSession p hp s' hs
    · obtain rfl := List.mem_singleton.1 hp
      obtain rfl : s = s' := Option.some.inj hs
      rfl
  owner_seated := by
    rw [seated_seat]
    exact List.mem_append_left _ h.owner_seated
  capacity := h.capacity
  size := by
    have hroom' : ¬t.capacity ≤ t.seats.length := by simpa [isFull] using hroom
    simp only [Table.seat, List.length_append, List.length_singleton]
    omega
  visible := h.visible
  phase := h.phase
  leftmost := by
    rw [seated_seat, List.head?_append_of_ne_nil _ (List.ne_nil_of_mem h.owner_seated)]
    exact h.leftmost
  connected := fun p hp => by
    rcases List.mem_append.1 hp with hp | hp
    · exact h.connected p hp
    · obtain rfl := List.mem_singleton.1 hp
      rfl
  unwatched := h.unwatched

/-- The first of those who stay leads the lobby. -/
theorem InLobby.leftmost_unseat (h : t.InLobby l) (hne : (t.unseat u).seated ≠ []) :
    (t.unseat u).seated.head? = some (t.unseat u).owner := by
  have howner : (t.unseat u).owner =
      if t.owner = u then ((t.unseat u).seated.head?).getD t.owner else t.owner := by
    simp only [unseat, seated, List.head?_map]
  obtain ⟨v, vs, hv⟩ := List.exists_cons_of_ne_nil hne
  rw [howner, hv]
  split
  · rfl
  · rename_i hou
    -- the owner stays, so the first of all is the first of those who stay
    obtain ⟨w, ws, hw⟩ := List.exists_cons_of_ne_nil (List.ne_nil_of_mem h.owner_seated)
    have hleft := h.leftmost
    rw [hw, List.head?_cons, Option.some.injEq] at hleft
    rw [seated_unseat h.distinct, hw, hleft, List.filter_cons_of_pos (by simpa using hou)] at hv
    rw [List.head?_cons, (List.cons.inj hv).1]

theorem InLobby.unseat (h : t.InLobby l) (hd : (t.unseat u).isDeserted = false) :
    (t.unseat u).InLobby l := by
  have hsub : (t.unseat u).seats.Sublist t.seats := List.eraseP_sublist
  have hne : (t.unseat u).seated ≠ [] := by
    obtain ⟨v, hv⟩ := isDeserted_eq_false_iff.1 hd
    rcases isPresent_iff.1 hv with hw | hc
    · rw [show (t.unseat u).watching = t.watching from rfl, h.watching_eq] at hw
      cases hw
    · exact List.ne_nil_of_mem (Live.seated_of_isConnected hc)
  have hleft := h.leftmost_unseat hne
  exact
    { distinct := h.distinct.sublist (hsub.map _)
      ownSession := fun p hp => h.ownSession p (hsub.subset hp)
      owner_seated := List.mem_of_mem_head? hleft
      capacity := h.capacity
      size := Nat.le_trans hsub.length_le h.size
      visible := h.visible
      phase := h.phase
      leftmost := hleft
      connected := fun p hp => h.connected p (hsub.subset hp)
      unwatched := h.unwatched }

/-- The heir of a lobby or a game is the first player of the name. -/
theorem seats_find_of_heir (hphase : t.phase ≠ .replay) {name : String} {heir : UserId × String}
    (hh : t.heir? name = some heir) :
    ∃ p, t.seats.find? (fun p => sameName p.name name) = some p ∧ p.user = heir.1 := by
  have hreplay : t.isReplay = false := by simpa [isReplay] using hphase
  rw [heir?, candidates, hreplay, if_neg Bool.false_ne_true, List.find?_map] at hh
  obtain ⟨p, hp, rfl⟩ := Option.map_eq_some_iff.1 hh
  exact ⟨p, hp, rfl⟩

theorem heir_seated (hphase : t.phase ≠ .replay) {name : String} {heir : UserId × String}
    (hh : t.heir? name = some heir) : heir.1 ∈ t.seated := by
  obtain ⟨p, hp, hpu⟩ := seats_find_of_heir hphase hh
  exact hpu ▸ List.mem_map_of_mem (List.mem_of_find?_eq_some hp)

theorem Live.passedTo (h : t.Live l) {name : String} {heir : UserId} (hheir : heir ∈ t.seated) :
    (t.passedTo name heir).Live l := by
  have hperm := seats_passedTo_perm (t := t) name heir
  exact
    { distinct := (hperm.map Seat.user).nodup_iff.2 h.distinct
      ownSession := fun p hp => h.ownSession p (hperm.mem_iff.1 hp)
      owner_seated := (hperm.map Seat.user).mem_iff.2 hheir
      capacity := h.capacity
      size := hperm.length_eq ▸ h.size
      visible := h.visible }

theorem InLobby.findIdx_owner (h : t.InLobby l) :
    (t.seats.findIdx fun p => p.user == t.owner) = 0 := by
  have hleft := h.leftmost
  rw [seated, List.head?_map, Option.map_eq_some_iff] at hleft
  obtain ⟨q, hq, hqo⟩ := hleft
  obtain ⟨qs, hqs⟩ := List.head?_eq_some_iff.1 hq
  simp [hqs, List.findIdx_cons, hqo]

/-- The exchange of seats brings the heir to the left, because the owner sat there. -/
theorem InLobby.passedTo (h : t.InLobby l) {name : String} {heir : UserId × String}
    (hh : t.heir? name = some heir) : (t.passedTo name heir.1).InLobby l := by
  have hperm := seats_passedTo_perm (t := t) name heir.1
  obtain ⟨p, hp, hpu⟩ := seats_find_of_heir h.phase_ne hh
  rw [List.find?_eq_getElem?_findIdx] at hp
  have hleft : (t.passedTo name heir.1).seated.head? = some heir.1 := by
    have hseats : (t.passedTo name heir.1).seats =
        exchange t.seats 0 (t.seats.findIdx fun p => sameName p.name name) := by
      simp only [Table.passedTo, h.phase, if_true, h.findIdx_owner]
    rw [seated, hseats, List.head?_map, head?_exchange hp, Option.map_some, hpu]
  exact
    { h.toLive.passedTo (heir_seated h.phase_ne hh) with
      phase := h.phase
      leftmost := hleft
      connected := fun p hp => h.connected p (hperm.mem_iff.1 hp)
      unwatched := h.unwatched }

theorem InLobby.started (h : t.InLobby l) (luck : Nat)
    (henough : l.minPlayersToStart.toNat ≤ t.seats.length) : (t.started luck).InGame l := by
  have hseated := seated_started (t := t) luck
  have hsessions := map_seats_started (t := t) (g := fun p => (p.user, p.session))
    (fun _ _ => rfl) luck
  have hown : ∀ p ∈ (t.started luck).seats, ∀ s, p.session = some s → s.user = p.user := by
    intro p hp s hs
    have hmem : (p.user, p.session) ∈ t.seats.map fun p => (p.user, p.session) :=
      hsessions ▸ List.mem_map_of_mem hp
    obtain ⟨q, hq, hqp⟩ := List.mem_map.1 hmem
    rw [Prod.mk.injEq] at hqp
    rw [← hqp.1]
    exact h.ownSession q hq s (hqp.2.trans hs)
  exact
    { h.toLive.of_seated_eq hseated hown rfl rfl rfl with
      phase := rfl
      watching := h.watching_eq ▸ List.nodup_nil
      apart := fun u hu => by
        rw [show (t.started luck).watching = t.watching from rfl, h.watching_eq] at hu
        cases hu
      enough := length_seats_eq hseated ▸ henough
      attended :=
        ⟨t.owner, isPresent_iff.2 (.inr ((isConnected_started h.phase_ne luck).2
          (h.isConnected_iff_seated.2 h.owner_seated)))⟩ }

/-! ## The game -/

theorem InGame.passedTo (h : t.InGame l) {name : String} {heir : UserId × String}
    (hh : t.heir? name = some heir) : (t.passedTo name heir.1).InGame l := by
  have hperm := seats_passedTo_perm (t := t) name heir.1
  obtain ⟨u, hu⟩ := h.attended
  exact
    { h.toLive.passedTo (heir_seated h.phase_ne hh) with
      phase := h.phase
      watching := h.watching
      apart := fun u hu hs => h.apart u hu ((hperm.map Seat.user).mem_iff.1 hs)
      enough := hperm.length_eq ▸ h.enough
      attended := ⟨u, isPresent_iff.2
        ((isPresent_iff.1 hu).imp_right (isConnected_passedTo name heir.1).2)⟩ }

theorem InGame.addWatcher (h : t.InGame l) (hseat : t.hasSeat s.user = false)
    (hnew : t.isWatching s.user = false) : (t.addWatcher s).InGame l where
  toLive := { h.toLive with }
  phase := h.phase
  watching := nodup_watching_addWatcher h.watching hnew
  apart := fun u hu => by
    rw [← Bool.not_eq_true, hasSeat_iff] at hseat
    rw [watching_addWatcher, List.mem_append, List.mem_singleton] at hu
    rcases hu with hu | rfl
    · exact h.apart u hu
    · exact hseat
  enough := h.enough
  attended := ⟨s.user, isPresent_iff.2 (.inl (by simp [watching_addWatcher]))⟩

theorem InGame.dropWatcher (h : t.InGame l) (hd : (t.dropWatcher u).isDeserted = false) :
    (t.dropWatcher u).InGame l := by
  have hsub : (t.dropWatcher u).watchers.Sublist t.watchers := List.eraseP_sublist
  have howner : (t.dropWatcher u).owner = t.owner := by
    simp [Table.dropWatcher, isReplay, h.phase]
  exact
    { h.toLive with
      owner_seated := howner ▸ h.owner_seated
      phase := h.phase
      watching := h.watching.sublist (hsub.map _)
      apart := fun u hu => h.apart u ((hsub.map _).subset hu)
      enough := h.enough
      attended := isDeserted_eq_false_iff.1 hd }

theorem InGame.detach (h : t.InGame l) (hd : (t.detach u).isDeserted = false) :
    (t.detach u).InGame l := by
  have hseated : (t.detach u).seated = t.seated := seated_detach
  have hown : ∀ p ∈ (t.detach u).seats, ∀ s, p.session = some s → s.user = p.user := by
    intro p hp s hs
    rw [seats_detach h.distinct, List.mem_map] at hp
    obtain ⟨q, hq, rfl⟩ := hp
    split at hs
    · cases hs
    · rename_i hqu
      rw [if_neg hqu]
      exact h.ownSession q hq s hs
  exact
    { h.toLive.of_seated_eq hseated hown rfl rfl rfl with
      phase := h.phase
      watching := h.watching
      apart := fun u hu => hseated ▸ h.apart u hu
      enough := length_seats_eq hseated ▸ h.enough
      attended := isDeserted_eq_false_iff.1 hd }

theorem InGame.reattach (h : t.InGame l) (hd : t.isDetached s.user) :
    (t.reattach s).InGame l := by
  have hseated : (t.reattach s).seated = t.seated := seated_reattach
  have hown : ∀ p ∈ (t.reattach s).seats, ∀ s, p.session = some s → s.user = p.user := by
    intro p hp s' hs
    rw [seats_reattach h.distinct, List.mem_map] at hp
    obtain ⟨q, hq, rfl⟩ := hp
    split at hs
    · rename_i hqs
      rw [if_pos hqs]
      obtain rfl := Option.some.inj hs
      simp only [Bool.and_eq_true, beq_iff_eq] at hqs
      exact hqs.1.symm
    · rename_i hqs
      rw [if_neg hqs]
      exact h.ownSession q hq s' hs
  exact
    { h.toLive.of_seated_eq hseated hown rfl rfl rfl with
      phase := h.phase
      watching := h.watching
      apart := fun u hu => hseated ▸ h.apart u hu
      enough := length_seats_eq hseated ▸ h.enough
      attended := ⟨s.user, isPresent_iff.2
        (.inr ((isConnected_reattach h.distinct hd).2 (.inl rfl)))⟩ }

/-! ## The replay -/

theorem inReview_review (id : TableId) (name : String) {roster : List (UserId × String)}
    (hr : roster ≠ []) (s : Session) (options : Options) (visible : Bool) :
    (review id name roster s options visible).InReview where
  phase := rfl
  watching := List.nodup_singleton _
  owner_watching := List.mem_singleton.2 rfl
  roster := by simpa [review] using hr
  capacity := by simp [review]
  past := fun p hp => by
    obtain ⟨q, -, rfl⟩ := List.mem_map.1 hp
    rfl
  solo := fun _ => rfl

theorem InReview.addWatcher (h : t.InReview)
    (hallowed : t.isSoloReplay = true → t.owner = s.user) (hnew : t.isWatching s.user = false) :
    (t.addWatcher s).InReview where
  phase := h.phase
  watching := nodup_watching_addWatcher h.watching hnew
  owner_watching := by
    rw [watching_addWatcher]
    exact List.mem_append_left _ h.owner_watching
  roster := h.roster
  capacity := h.capacity
  past := h.past
  solo := fun hv => by
    -- the owner is the only one allowed, and is watching already
    have ho : t.owner = s.user :=
      hallowed (by simp [isSoloReplay, isReplay, h.phase, show t.visible = false from hv])
    rw [← Bool.not_eq_true, isWatching_iff, ← ho] at hnew
    exact absurd h.owner_watching hnew

theorem InReview.dropWatcher (h : t.InReview) (hd : (t.dropWatcher u).isDeserted = false) :
    (t.dropWatcher u).InReview := by
  have hsub : (t.dropWatcher u).watchers.Sublist t.watchers := List.eraseP_sublist
  have hwatching := watching_dropWatcher (u := u) h.watching
  have howner : (t.dropWatcher u).owner ∈ (t.dropWatcher u).watching := by
    have heq : (t.dropWatcher u).owner =
        if t.owner = u then ((t.dropWatcher u).watching.head?).getD t.owner else t.owner := by
      simp [Table.dropWatcher, isReplay, h.phase, Table.watching]
    rw [heq]
    split
    · obtain ⟨v, hv⟩ := isDeserted_eq_false_iff.1 hd
      have hmem : v ∈ (t.dropWatcher u).watching := (isPresent_iff.1 hv).resolve_right fun hc =>
        (isConnected_iff.1 hc).1 h.phase
      obtain ⟨w, ws, hw⟩ := List.exists_cons_of_ne_nil (List.ne_nil_of_mem hmem)
      rw [hw, List.head?_cons, Option.getD_some]
      exact List.mem_cons_self
    · rename_i hou
      rw [hwatching, List.mem_filter]
      exact ⟨h.owner_watching, by simpa using hou⟩
  exact
    { phase := h.phase
      watching := h.watching.sublist (hsub.map _)
      owner_watching := howner
      roster := h.roster
      capacity := h.capacity
      past := h.past
      solo := fun hv => by
        -- nobody but the owner could have gone, and then nobody would be left
        rw [hwatching, h.solo hv, List.mem_filter, List.mem_singleton] at howner
        rw [hwatching, h.solo hv, howner.1]
        exact List.filter_eq_self.2 fun w hw => by
          obtain rfl := List.mem_singleton.1 hw
          exact howner.1 ▸ howner.2 }

theorem InReview.passedTo (h : t.InReview) (hsolo : t.isSoloReplay = false) {name : String}
    {heir : UserId × String} (hh : t.heir? name = some heir) :
    (t.passedTo name heir.1).InReview := by
  have hseats : (t.passedTo name heir.1).seats = t.seats := by
    simp [Table.passedTo, h.phase]
  have hreplay : t.isReplay = true := isReplay_iff.2 h.phase
  have hvisible : t.visible = true := by simpa [isSoloReplay, hreplay] using hsolo
  have hheir : heir.1 ∈ t.watching := by
    rw [heir?, candidates, if_pos hreplay] at hh
    obtain ⟨w, hw, rfl⟩ := List.mem_map.1 (List.mem_of_find?_eq_some hh)
    exact List.mem_map_of_mem hw
  exact
    { phase := h.phase
      watching := h.watching
      owner_watching := hheir
      roster := hseats ▸ h.roster
      capacity := hseats ▸ h.capacity
      past := hseats ▸ h.past
      solo := fun hv => absurd (hvisible.symm.trans hv) Bool.noConfusion }

/-! ## Withdrawing -/

theorem InLobby.withdraw_eq (h : t.InLobby l) (u : UserId) :
    (t.withdraw u).1 = if t.hasSeat u then t.unseat u else t := by
  have hw : t.isWatching u = false := by
    rw [← Bool.not_eq_true, isWatching_iff, h.watching_eq]
    exact List.not_mem_nil
  simp only [withdraw, hw, h.phase, Bool.false_eq_true, if_false]
  split <;> rfl

/-- A player who is connected detaches. A watcher just goes, having no seat. -/
theorem InGame.withdraw_eq (h : t.InGame l) (u : UserId) :
    (t.withdraw u).1 =
      if t.isWatching u then t.dropWatcher u
      else if t.isConnected u then t.detach u else t := by
  have hreplay : t.isReplay = false := by simp [isReplay, h.phase]
  have hconn : (t.seats.find? fun p => p.user == u).any Seat.isConnected = t.isConnected u := by
    rw [isConnected, hreplay, any_find?_eq (f := Seat.user) h.distinct]
    rfl
  simp only [withdraw, h.phase, hconn]
  by_cases hw : t.isWatching u
  · have hc := h.not_isConnected_of_watching (isWatching_iff.1 hw)
    rw [if_neg hc, if_pos hw, if_pos hw]
  · rw [if_neg hw, if_neg hw]
    split <;> rfl

theorem InReview.withdraw_eq (h : t.InReview) (u : UserId) :
    (t.withdraw u).1 = if t.isWatching u then t.dropWatcher u else t := by
  simp only [withdraw, h.phase]
  split <;> rfl

/-- **A user goes from a sound table** in one way only. -/
theorem Sound.withdraw_eq (h : t.Sound l) (u : UserId) :
    (t.withdraw u).1 =
      if t.isWatching u then t.dropWatcher u
      else if t.phase = .pregame ∧ t.hasSeat u then t.unseat u
      else if t.phase = .running ∧ t.isConnected u then t.detach u
      else t := by
  cases h with
  | lobby h =>
    have hw : t.isWatching u = false := by
      rw [← Bool.not_eq_true, isWatching_iff, h.watching_eq]
      exact List.not_mem_nil
    simp [h.withdraw_eq, h.phase, hw]
  | game h => simp [h.withdraw_eq, h.phase]
  | review h => simp [h.withdraw_eq, h.phase]

/-- Whoever has no way to go is not there. -/
theorem not_isPresent (hw : ¬t.isWatching u) (hseat : ¬(t.phase = .pregame ∧ t.hasSeat u))
    (hc : ¬(t.phase = .running ∧ t.isConnected u)) : ¬t.isPresent u := by
  intro hp
  rcases isPresent_iff.1 hp with hm | hconnected
  · exact hw (isWatching_iff.2 hm)
  · cases hphase : t.phase with
    | pregame => exact hseat ⟨hphase, hasSeat_iff.2 (Live.seated_of_isConnected hconnected)⟩
    | running => exact hc ⟨hphase, hconnected⟩
    | replay => exact not_isConnected_of_replay hphase hconnected

end Table

end GameHall
