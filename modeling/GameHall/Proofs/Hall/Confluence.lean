import GameHall.Proofs.Hall.Disconnection
import GameHall.Proofs.Table.Broadcast

/-!
# Many connections closing

When several connections close, one after the other, what is left of a table depends on who is gone
and not on the order. `Table.without` is the table that is left: without the seats of a lobby and the
watchers who are gone, with the connections of a running game lost, and led by its leader or else by
the first who is left of those next in line (`Table.successor`).

The lead may pass through several hands on the way. But whoever takes it over stands first, stays
first while the others go, and hands it on to the first who is left then. This is why going in two
groups is going at once (`Sound.without_append`), and why the order does not matter
(`disconnections_confluent`).
-/

namespace GameHall

/-- Leaving out some and then others is leaving out all of them. -/
theorem filter_not_mem_append {α : Type} (user : α → UserId) (us vs : List UserId) (l : List α) :
    (l.filter fun a => user a ∉ us).filter (fun a => user a ∉ vs) =
      l.filter fun a => user a ∉ us ++ vs := by
  rw [List.filter_filter]
  refine List.filter_congr fun a _ => ?_
  simp [Bool.and_comm]

theorem filter_bne_eq {α : Type} (user : α → UserId) (u : UserId) (l : List α) :
    (l.filter fun a => user a != u) = l.filter fun a => user a ∉ [u] := by
  refine List.filter_congr fun a _ => ?_
  rw [Bool.eq_iff_iff]
  simp

namespace Table

variable {l : Limits} {t : Table} {u v : UserId} {us vs gone : List UserId}

/-! ## Who leads -/

/-- Who leads when some users are gone: the first who is left in the line, if the leader is gone and
somebody is left. -/
def successor (leader : UserId) (line gone : List UserId) : UserId :=
  if leader ∈ gone then ((line.filter fun v => v ∉ gone).head?).getD leader else leader

/-- **The lead passes on in two groups as at once**, if somebody is left in the end. Who takes over in
between is the first of those left, and remains the first until gone. -/
theorem successor_append {leader : UserId} {line : List UserId}
    (hleft : (line.filter fun v => v ∉ us ++ vs) ≠ []) :
    successor (successor leader line us) (line.filter fun v => v ∉ us) vs =
      successor leader line (us ++ vs) := by
  have hfilter : (line.filter fun v => v ∉ us).filter (fun v => v ∉ vs) =
      line.filter fun v => v ∉ us ++ vs := filter_not_mem_append (fun v => v) us vs line
  by_cases hu : leader ∈ us
  · obtain ⟨next, rest, hnext⟩ : ∃ next rest, (line.filter fun v => v ∉ us) = next :: rest := by
      refine List.exists_cons_of_ne_nil fun hnil => hleft ?_
      rw [← hfilter, hnil, List.filter_nil]
    have htakes : successor leader line us = next := by
      rw [successor, if_pos hu, hnext, List.head?_cons, Option.getD_some]
    rw [htakes, successor, successor, if_pos (List.mem_append_left _ hu), ← hfilter]
    rw [← hfilter] at hleft
    rw [hnext] at hleft ⊢
    split
    · obtain ⟨last, others, hlast⟩ := List.exists_cons_of_ne_nil hleft
      rw [hlast]
      rfl
    · rename_i hstays
      rw [List.filter_cons_of_pos (by simpa using hstays)]
      rfl
  · have hstays : successor leader line us = leader := if_neg hu
    rw [hstays, successor, successor, hfilter]
    simp [hu]

/-- Those to whom the lead passes when its leader goes, in order. At a running game it does not pass
on. -/
def line (t : Table) : List UserId :=
  match t.phase with
  | .pregame => t.seated
  | .running => []
  | .replay => t.watching

/-! ## What is left of a table -/

/-- The seats that are left when some users are gone. A running game keeps them. -/
def seatsWithout (t : Table) (gone : List UserId) : List Seat :=
  match t.phase with
  | .pregame => t.seats.filter fun p => p.user ∉ gone
  | .running => t.seats.map fun p => if p.user ∈ gone then { p with session := none } else p
  | .replay => t.seats

/-- What is left of a table when some users are gone. -/
def without (t : Table) (gone : List UserId) : Table :=
  { t with
    owner := successor t.owner t.line gone
    seats := t.seatsWithout gone
    watchers := t.watchers.filter fun s => s.user ∉ gone }

/-- Only who is gone matters. -/
theorem without_congr (h : ∀ u, u ∈ us ↔ u ∈ vs) (t : Table) : t.without us = t.without vs := by
  simp only [without, successor, seatsWithout, h]

theorem watching_without (t : Table) (gone : List UserId) :
    (t.without gone).watching = t.watching.filter fun v => v ∉ gone := by
  rw [watching, watching, List.filter_map]
  rfl

theorem line_without (t : Table) (gone : List UserId) :
    (t.without gone).line = t.line.filter fun v => v ∉ gone := by
  have hphase : (t.without gone).phase = t.phase := rfl
  unfold line
  rw [hphase]
  split
  · rename_i hp
    have hseats : (t.without gone).seats = t.seats.filter fun p => p.user ∉ gone := by
      simp only [without, seatsWithout, hp]
    rw [seated, seated, hseats, List.filter_map]
    rfl
  · rfl
  · exact watching_without t gone

theorem isConnected_without :
    (t.without gone).isConnected v ↔ v ∉ gone ∧ t.isConnected v := by
  have hphase : (t.without gone).phase = t.phase := rfl
  have hseats : (t.without gone).seats = t.seatsWithout gone := rfl
  rw [isConnected_iff, isConnected_iff, hphase, hseats]
  unfold seatsWithout
  cases t.phase with
  | pregame =>
    simp only [List.mem_filter, decide_eq_true_eq]
    constructor
    · rintro ⟨hr, p, ⟨hp, hstays⟩, rfl, hc⟩
      exact ⟨hstays, hr, p, hp, rfl, hc⟩
    · rintro ⟨hstays, hr, p, hp, rfl, hc⟩
      exact ⟨hr, p, ⟨hp, hstays⟩, rfl, hc⟩
  | running =>
    simp only [List.mem_map]
    constructor
    · rintro ⟨hr, -, ⟨p, hp, rfl⟩, hv, hc⟩
      by_cases hgone : p.user ∈ gone
      · simp [hgone, Seat.isConnected] at hc
      · rw [if_neg hgone] at hv hc
        exact ⟨hv ▸ hgone, hr, p, hp, hv, hc⟩
    · rintro ⟨hstays, hr, p, hp, rfl, hc⟩
      exact ⟨hr, p, ⟨p, hp, if_neg hstays⟩, rfl, hc⟩
  | replay => simp

/-- **Who is gone is gone**, and nobody else is. -/
theorem isPresent_without : (t.without gone).isPresent v ↔ v ∉ gone ∧ t.isPresent v := by
  rw [isPresent_iff, isPresent_iff, isConnected_without, watching_without, List.mem_filter,
    decide_eq_true_eq, and_comm (a := v ∈ t.watching), and_or_left]

/-- Whoever is present at a lobby or a replay is in the line. -/
theorem Sound.mem_line (ht : t.Sound l) (hphase : t.phase ≠ .running) (hp : t.isPresent v) :
    v ∈ t.line := by
  unfold line
  cases ht with
  | lobby h => simpa [h.phase] using h.isPresent_iff_seated.1 hp
  | game h => exact absurd h.phase hphase
  | review h => simpa [h.phase] using h.isPresent_iff_watching.1 hp

theorem seatsWithout_append (t : Table) (us vs : List UserId) :
    (t.without us).seatsWithout vs = t.seatsWithout (us ++ vs) := by
  have hphase : (t.without us).phase = t.phase := rfl
  have hseats : (t.without us).seats = t.seatsWithout us := rfl
  unfold seatsWithout at hseats ⊢
  rw [hphase, hseats]
  cases t.phase with
  | pregame => exact filter_not_mem_append Seat.user us vs t.seats
  | running =>
    simp only [List.map_map]
    refine List.map_congr_left fun p _ => ?_
    by_cases hu : p.user ∈ us
    · simp [hu]
    · simp [hu]
  | replay => rfl

/-- **Going in two groups is going at once**, if somebody is left in the end. -/
theorem Sound.without_append (ht : t.Sound l) (hleft : (t.without (us ++ vs)).isPresent v) :
    (t.without us).without vs = t.without (us ++ vs) := by
  have howner : successor (t.without us).owner (t.without us).line vs =
      successor t.owner t.line (us ++ vs) := by
    rw [line_without]
    by_cases hphase : t.phase = .running
    · have hline : t.line = [] := by simp only [line, hphase]
      have hkeeps : ∀ leader gone, successor leader [] gone = leader := fun leader gone => by
        simp [successor]
      rw [hline, List.filter_nil, hkeeps, hkeeps]
      exact (congrArg (successor t.owner · us) hline).trans (hkeeps ..)
    · obtain ⟨hstays, hp⟩ := isPresent_without.1 hleft
      have hmem : v ∈ t.line.filter fun v => v ∉ us ++ vs :=
        List.mem_filter.2 ⟨ht.mem_line hphase hp, by simpa using hstays⟩
      exact successor_append (List.ne_nil_of_mem hmem)
  have hwatchers : (t.without us).watchers.filter (fun s => s.user ∉ vs) =
      t.watchers.filter fun s => s.user ∉ us ++ vs :=
    filter_not_mem_append Session.user us vs t.watchers
  show ({ t with
    owner := successor (t.without us).owner (t.without us).line vs
    seats := (t.without us).seatsWithout vs
    watchers := (t.without us).watchers.filter fun s => s.user ∉ vs } : Table) = _
  rw [howner, hwatchers, seatsWithout_append]
  rfl

/-! ## One user after the other -/

/-- Nothing is missing of a table where nobody was who is gone. -/
theorem Sound.without_of_absent (ht : t.Sound l) (haway : ∀ u ∈ gone, ¬t.isPresent u) :
    t.without gone = t := by
  have howner : successor t.owner t.line gone = t.owner := by
    cases ht with
    | lobby h =>
      exact if_neg fun hgone => haway _ hgone (h.isPresent_iff_seated.2 h.owner_seated)
    | game h => simp [successor, line, h.phase]
    | review h =>
      exact if_neg fun hgone => haway _ hgone (h.isPresent_iff_watching.2 h.owner_watching)
  have hwatchers : (t.watchers.filter fun s => s.user ∉ gone) = t.watchers := by
    refine List.filter_eq_self.2 fun s hs => decide_eq_true fun hgone => haway _ hgone ?_
    exact isPresent_iff.2 (.inl (List.mem_map_of_mem hs))
  have hseats : t.seatsWithout gone = t.seats := by
    unfold seatsWithout
    cases ht with
    | lobby h =>
      simp only [h.phase]
      refine List.filter_eq_self.2 fun p hp => decide_eq_true fun hgone => haway _ hgone ?_
      exact h.isPresent_iff_seated.2 (List.mem_map_of_mem hp)
    | game h =>
      simp only [h.phase]
      conv_rhs => rw [← List.map_id t.seats]
      refine List.map_congr_left fun p hp => ?_
      split
      · -- a player who is gone and was not present had no connection to lose
        rename_i hgone
        have hlost : p.session = none := by
          refine Option.not_isSome_iff_eq_none.1 fun hc => haway _ hgone ?_
          exact isPresent_iff.2 (.inr (isConnected_iff.2 ⟨h.phase_ne, p, hp, rfl, hc⟩))
        rw [← hlost]
        rfl
      · rfl
    | review h => simp only [h.phase]
  rw [without, howner, hwatchers, hseats]

theorem InLobby.unseat_eq (h : t.InLobby l) (u : UserId) : t.unseat u = t.without [u] := by
  have hseats : (t.unseat u).seats = t.seatsWithout [u] := by
    rw [seats_unseat h.distinct, seatsWithout, h.phase]
    exact filter_bne_eq Seat.user u t.seats
  have hline : (t.line.filter fun v => v ∉ [u]) = (t.unseat u).seated := by
    rw [seated_unseat h.distinct, line, h.phase]
    exact (filter_bne_eq (fun v => v) u t.seated).symm
  have howner : (t.unseat u).owner = successor t.owner t.line [u] := by
    rw [successor, hline]
    simp only [seated, List.head?_map, List.mem_singleton]
    rfl
  have hwatchers : t.watchers = t.watchers.filter fun s => s.user ∉ [u] := by
    rw [h.unwatched, List.filter_nil]
  calc
    t.unseat u = { t with owner := (t.unseat u).owner, seats := (t.unseat u).seats } := rfl
    _ = { t with
          owner := successor t.owner t.line [u]
          seats := t.seatsWithout [u]
          watchers := t.watchers.filter fun s => s.user ∉ [u] } := by
      rw [howner, hseats, ← hwatchers]

theorem InGame.detach_eq_without (h : t.InGame l) (hw : ¬t.isWatching u) :
    t.detach u = t.without [u] := by
  have hseats : (t.detach u).seats = t.seatsWithout [u] := by
    rw [seats_detach h.distinct, seatsWithout, h.phase]
    simp only [beq_iff_eq, List.mem_singleton]
  have howner : t.owner = successor t.owner t.line [u] := by
    simp [successor, line, h.phase]
  have hwatchers : t.watchers = t.watchers.filter fun s => s.user ∉ [u] := by
    refine (List.filter_eq_self.2 fun s hs => ?_).symm
    have hother : s.user ∉ [u] := fun hu => by
      rw [isWatching_iff, ← List.mem_singleton.1 hu] at hw
      exact hw (List.mem_map_of_mem hs)
    exact decide_eq_true hother
  calc
    t.detach u = { t with seats := (t.detach u).seats } := rfl
    _ = { t with
          owner := successor t.owner t.line [u]
          seats := t.seatsWithout [u]
          watchers := t.watchers.filter fun s => s.user ∉ [u] } := by
      rw [hseats, ← howner, ← hwatchers]

theorem Sound.dropWatcher_eq (ht : t.Sound l) (hw : t.isWatching u) :
    t.dropWatcher u = t.without [u] := by
  rw [isWatching_iff] at hw
  have hnodup : t.watching.Nodup := by
    cases ht with
    | lobby h => exact h.watching_eq ▸ List.nodup_nil
    | game h => exact h.watching
    | review h => exact h.watching
  have hwatchers : (t.dropWatcher u).watchers = t.watchers.filter fun s => s.user ∉ [u] := by
    rw [watchers_dropWatcher hnodup]
    exact filter_bne_eq Session.user u t.watchers
  have hline : (t.watching.filter fun v => v ∉ [u]) = (t.dropWatcher u).watching := by
    rw [watching_dropWatcher hnodup]
    exact (filter_bne_eq (fun v => v) u t.watching).symm
  have howner : (t.dropWatcher u).owner = successor t.owner t.line [u] := by
    cases ht with
    | lobby h =>
      rw [h.watching_eq] at hw
      cases hw
    | game h => simp [Table.dropWatcher, successor, line, isReplay, h.phase]
    | review h =>
      rw [successor, line, h.phase]
      simp only
      rw [hline]
      simp [Table.dropWatcher, isReplay, h.phase, watching]
  have hseats : t.seats = t.seatsWithout [u] := by
    cases ht with
    | lobby h =>
      rw [h.watching_eq] at hw
      cases hw
    | game h =>
      -- whoever watches has no seat
      simp only [seatsWithout, h.phase]
      conv_lhs => rw [← List.map_id t.seats]
      refine List.map_congr_left fun p hp => (if_neg fun hu => h.apart u hw ?_).symm
      rw [← List.mem_singleton.1 hu]
      exact List.mem_map_of_mem hp
    | review h => simp only [seatsWithout, h.phase]
  calc
    t.dropWatcher u =
        { t with owner := (t.dropWatcher u).owner, watchers := (t.dropWatcher u).watchers } := rfl
    _ = { t with
          owner := successor t.owner t.line [u]
          seats := t.seatsWithout [u]
          watchers := t.watchers.filter fun s => s.user ∉ [u] } := by
      rw [howner, hwatchers, ← hseats]

/-- A closed connection leaves the table without its user. -/
theorem Sound.withdraw_eq_without (ht : t.Sound l) (u : UserId) :
    (t.withdraw u).1 = t.without [u] := by
  rw [ht.withdraw_eq]
  split
  · rename_i hw
    exact ht.dropWatcher_eq hw
  · rename_i hw
    split
    · rename_i hseat
      exact (ht.inLobby hseat.1).unseat_eq u
    · rename_i hseat
      split
      · rename_i hc
        exact (ht.inGame hc.1).detach_eq_without hw
      · rename_i hc
        refine (ht.without_of_absent fun v hv => ?_).symm
        rw [List.mem_singleton.1 hv]
        exact not_isPresent hw hseat hc

/-- Going one after the other is going at once, as far as a table is left. -/
theorem Sound.standing?_without_cons (ht : t.Sound l) (u : UserId) (us : List UserId) :
    ((t.without [u]).standing?.bind fun t' => (t'.without us).standing?) =
      (t.without (u :: us)).standing? := by
  have hsame : ∀ v, ((t.without [u]).without us).isPresent v ↔ (t.without (u :: us)).isPresent v := by
    intro v
    simp only [isPresent_without, List.mem_cons, List.not_mem_nil, or_false, not_or]
    tauto
  by_cases hleft : ∃ v, (t.without (u :: us)).isPresent v
  · obtain ⟨v, hv⟩ := hleft
    have hone : (t.without [u]).isPresent v := (isPresent_without.1 ((hsame v).2 hv)).2
    obtain ⟨t', ht', -⟩ := exists_standing?_iff.2 hone
    obtain rfl := eq_of_standing? ht'
    have happend : (t.without [u]).without us = t.without ([u] ++ us) := ht.without_append hv
    rw [ht', Option.bind_some, happend]
    rfl
  · rw [not_exists] at hleft
    rw [standing?_eq_none_iff.2 fun v => Bool.eq_false_iff.2 (hleft v), Option.bind_eq_none_iff]
    intro t' ht'
    obtain rfl := eq_of_standing? ht'
    refine standing?_eq_none_iff.2 fun v => Bool.eq_false_iff.2 fun hp => hleft v ?_
    exact (hsame v).1 hp

end Table

namespace Hall

open Outcome

variable {h : Hall} {t : Table} {u v : UserId} {id : TableId} {us vs : List UserId}

/-! ## Halls -/

/-- What does not change with the whereabouts of users. -/
structure SameSettings (h h' : Hall) : Prop where
  nextId : h'.nextId = h.nextId
  windingDown : h'.windingDown = h.windingDown
  limits : h'.limits = h.limits
  variants : h'.variants = h.variants

theorem composes_sameSettings : Composes fun h _ h' => h.SameSettings h' where
  nothing := fun _ => ⟨rfl, rfl, rfl, rfl⟩
  append := fun a b => ⟨b.nextId.trans a.nextId, b.windingDown.trans a.windingDown,
    b.limits.trans a.limits, b.variants.trans a.variants⟩

theorem sameSettings_withdraw (h : Hall) (u : UserId) (id : TableId) :
    h.SameSettings (h.withdraw u id).hall := by
  unfold withdraw
  split
  · exact ⟨rfl, rfl, rfl, rfl⟩
  · rw [hall_depart]
    split <;> exact ⟨rfl, rfl, rfl, rfl⟩

theorem sameSettings_disconnect (h : Hall) (u : UserId) :
    h.SameSettings (h.disconnect u).hall :=
  composes_sameSettings.withdrawAll (fun h id => sameSettings_withdraw h u id) h (h.tablesOf u)

theorem Sound.disconnect (hs : h.Sound) (u : UserId) : (h.disconnect u).hall.Sound :=
  (follows_withdrawAll h u _).sound hs

/-- Every table is left without the user. -/
theorem Sound.table?_disconnect (hs : h.Sound) (u : UserId) (id : TableId) :
    (h.disconnect u).hall.table? id = (h.table? id).bind fun t => (t.without [u]).standing? := by
  rw [Hall.disconnect, table?_withdrawAll (hs.nodup_tablesOf u)]
  cases here : h.table? id with
  | none => simp
  | some t =>
    obtain ⟨ht, rfl⟩ := hs.table?_eq_some_iff.1 here
    have hst : t.Sound h.limits := hs.tables t ht
    rw [Option.bind_some, Option.bind_some, hst.withdraw_eq_without]
    split
    · rfl
    · rename_i haway
      rw [hs.mem_tablesOf_iff ht] at haway
      have hwhole : t.without [u] = t :=
        hst.without_of_absent fun v hv => List.mem_singleton.1 hv ▸ haway
      rw [hwhole, hst.standing?_eq]

/-- The connections of users close, one after the other. -/
def disconnectAll (h : Hall) (us : List UserId) : Hall :=
  us.foldl (fun h u => (h.disconnect u).hall) h

theorem Sound.disconnectAll (hs : h.Sound) (us : List UserId) : (h.disconnectAll us).Sound := by
  induction us generalizing h with
  | nil => exact hs
  | cons u us ih => exact ih (hs.disconnect u)

theorem sameSettings_disconnectAll (h : Hall) (us : List UserId) :
    h.SameSettings (h.disconnectAll us) := by
  induction us generalizing h with
  | nil => exact composes_sameSettings.nothing h
  | cons u us ih =>
    exact composes_sameSettings.append (m := []) (n := []) (sameSettings_disconnect h u) (ih _)

/-- **What is left of a table depends on who is gone**, and a table goes with the last who were
there. -/
theorem Sound.table?_disconnectAll (hs : h.Sound) (us : List UserId) (id : TableId) :
    (h.disconnectAll us).table? id = (h.table? id).bind fun t => (t.without us).standing? := by
  induction us generalizing h with
  | nil =>
    cases here : h.table? id with
    | none => exact here
    | some t =>
      have hst : t.Sound h.limits := hs.tables t (hs.table?_eq_some_iff.1 here).1
      have hwhole : t.without [] = t := hst.without_of_absent fun u hu => absurd hu List.not_mem_nil
      rw [Option.bind_some, hwhole, hst.standing?_eq]
      exact here
  | cons u us ih =>
    have hstep : h.disconnectAll (u :: us) = (h.disconnect u).hall.disconnectAll us := rfl
    rw [hstep, ih (hs.disconnect u), hs.table?_disconnect]
    cases here : h.table? id with
    | none => rfl
    | some t =>
      have hst : t.Sound h.limits := hs.tables t (hs.table?_eq_some_iff.1 here).1
      exact hst.standing?_without_cons u us

/-- A hall where nobody is left has no tables, and nobody is noted. -/
theorem Sound.eq_nil_of_deserted (hs : h.Sound) (hnobody : ∀ id, h.table? id = none) :
    h.tables = [] ∧ h.presence = .empty := by
  have htables : h.tables = [] := by
    refine List.eq_nil_iff_forall_not_mem.2 fun t ht => ?_
    have here : h.table? t.id = some t := hs.table?_eq_some_iff.2 ⟨ht, rfl⟩
    rw [hnobody] at here
    cases here
  refine ⟨htables, hs.tidy.ext Presence.tidy_empty fun u id => iff_of_false ?_ ?_⟩
  · intro hmem
    obtain ⟨t, here, -⟩ := hs.mem_tablesOf.1 hmem
    rw [hnobody] at here
    cases here
  · exact List.not_mem_nil

/-- **Closing connections is confluent.** After any operations on a fresh hall, the connections of the
same users may close in any order, and some of them more than once: the hall is the same afterwards.
If all who are present anywhere are among these users, no table is left, and nobody is noted
anywhere. -/
theorem disconnections_confluent (limits : Limits) (variants : List String)
    (ops : List (Luck × Operation)) (us vs : List UserId) (hsame : ∀ u, u ∈ us ↔ u ∈ vs) :
    let h := after limits variants ops
    h.disconnectAll us = h.disconnectAll vs ∧
    ((∀ t ∈ h.tables, ∀ u, t.isPresent u → u ∈ us) →
      (h.disconnectAll us).tables = [] ∧ (h.disconnectAll us).presence = .empty) := by
  intro h
  have hs : h.Sound := sound_after limits variants ops
  constructor
  · have hus := sameSettings_disconnectAll h us
    have hvs := sameSettings_disconnectAll h vs
    refine (hs.disconnectAll vs).ext (hs.disconnectAll us) (fun id => ?_)
      (hus.nextId.trans hvs.nextId.symm) (hus.windingDown.trans hvs.windingDown.symm)
      (hus.limits.trans hvs.limits.symm) (hus.variants.trans hvs.variants.symm)
    rw [hs.table?_disconnectAll, hs.table?_disconnectAll]
    simp only [Table.without_congr hsame]
  · intro hall
    refine (hs.disconnectAll us).eq_nil_of_deserted fun id => ?_
    rw [hs.table?_disconnectAll, Option.bind_eq_none_iff]
    intro t here
    have ht : t ∈ h.tables := (hs.table?_eq_some_iff.1 here).1
    refine Table.standing?_eq_none_iff.2 fun u => Bool.eq_false_iff.2 fun hp => ?_
    obtain ⟨hstays, hpresent⟩ := Table.isPresent_without.1 hp
    exact hstays (hall t ht u hpresent)

/-- Alice and Carol go from a replay, a lobby and a game. Carol leads the replay if she is the last of
the two to go, and Alice if she is, and in the end Bob does. When the others have gone too, nothing is
left. -/
theorem disconnections_confluent_at_three_tables :
    let luck : Luck := ⟨0, 0⟩
    let alice : Session := ⟨⟨1⟩, "Alice", 0⟩
    let bob : Session := ⟨⟨2⟩, "Bob", 1⟩
    let carol : Session := ⟨⟨3⟩, "Carol", 2⟩
    let dave : Session := ⟨⟨4⟩, "Dave", 3⟩
    let options : Options := ⟨"No Variant", false, 0, 0, false, false, false, false⟩
    let h := after ⟨6, 2⟩ ["No Variant"]
      [(luck, .openReplay carol "one" [(⟨1⟩, "Alice"), (⟨3⟩, "Carol")] options true),
        (luck, .command alice (.watch ⟨1⟩)), (luck, .command bob (.watch ⟨1⟩)),
        (luck, .command alice (.openTable "two" options)), (luck, .command bob (.join ⟨2⟩)),
        (luck, .command dave (.openTable "three" options)), (luck, .command carol (.join ⟨3⟩)),
        (luck, .command dave (.start ⟨3⟩))]
    (h.disconnectAll [⟨1⟩]).tables.map Table.owner = [⟨3⟩, ⟨2⟩, ⟨4⟩] ∧
      (h.disconnectAll [⟨3⟩]).tables.map Table.owner = [⟨1⟩, ⟨1⟩, ⟨4⟩] ∧
      (h.disconnectAll [⟨1⟩, ⟨3⟩]).tables.map Table.owner = [⟨2⟩, ⟨2⟩, ⟨4⟩] ∧
      h.disconnectAll [⟨1⟩, ⟨3⟩] = h.disconnectAll [⟨3⟩, ⟨1⟩] ∧
      (h.disconnectAll [⟨1⟩, ⟨2⟩, ⟨3⟩, ⟨4⟩]).tables = [] ∧
      (h.disconnectAll [⟨1⟩, ⟨2⟩, ⟨3⟩, ⟨4⟩]).presence = .empty := by
  intro luck alice bob carol dave options h
  let ops : List (Luck × Operation) :=
    [(luck, .openReplay carol "one" [(⟨1⟩, "Alice"), (⟨3⟩, "Carol")] options true),
      (luck, .command alice (.watch ⟨1⟩)), (luck, .command bob (.watch ⟨1⟩)),
      (luck, .command alice (.openTable "two" options)), (luck, .command bob (.join ⟨2⟩)),
      (luck, .command dave (.openTable "three" options)), (luck, .command carol (.join ⟨3⟩)),
      (luck, .command dave (.start ⟨3⟩))]
  have hs : h.Sound := sound_after ⟨6, 2⟩ ["No Variant"] ops
  have hhere : ∀ t ∈ h.tables, ∀ u ∈ t.sessions.map Session.user,
      u ∈ ([⟨1⟩, ⟨2⟩, ⟨3⟩, ⟨4⟩] : List UserId) := by decide +kernel
  have hall : ∀ t ∈ h.tables, ∀ u, t.isPresent u → u ∈ ([⟨1⟩, ⟨2⟩, ⟨3⟩, ⟨4⟩] : List UserId) :=
    fun t ht u hp => hhere t ht u ((hs.tables t ht).mem_users_iff.2 hp)
  obtain ⟨hsame, -⟩ := disconnections_confluent ⟨6, 2⟩ ["No Variant"] ops [⟨1⟩, ⟨3⟩] [⟨3⟩, ⟨1⟩]
    fun u => (List.Perm.swap ..).mem_iff
  obtain ⟨-, hnothing⟩ := disconnections_confluent ⟨6, 2⟩ ["No Variant"] ops
    [⟨1⟩, ⟨2⟩, ⟨3⟩, ⟨4⟩] [⟨1⟩, ⟨2⟩, ⟨3⟩, ⟨4⟩] fun _ => .rfl
  exact ⟨by decide +kernel, by decide +kernel, by decide +kernel, hsame, hnothing hall⟩

end Hall

end GameHall
