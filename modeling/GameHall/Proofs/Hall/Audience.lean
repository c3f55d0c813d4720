import GameHall.Proofs.Hall.Permanence
import GameHall.Proofs.Rematch.Outcome
import GameHall.Proofs.Table.Broadcast

/-!
# Who is told

A session is attached to a table if it sits or watches there. Whoever is told something of a table
is told right after a change, when some are no longer attached and others are already.

* `Hall.Disperses`: sessions only go, and those who are told were attached before. So it is with
  operations by which users go.
* `Hall.Gathers`: sessions only come, and those who are told are attached afterwards. So it is with
  all others but the rematch.
* A rematch disperses a replay and then gathers at a new table. So whoever is told something of a
  table by an operation was attached to it before or is attached to it afterwards
  (`attached_of_mem_perform`).
-/

namespace GameHall

/-! ## Sessions at a table -/

namespace Table

variable {t : Table} {s w : Session} {u : UserId}

theorem mem_sessions : w ∈ t.sessions ↔ (∃ p ∈ t.seats, p.session = some w) ∨ w ∈ t.watchers := by
  unfold sessions
  rw [List.mem_append, List.mem_filterMap]

theorem sessions_seat (t : Table) (s : Session) : t.sessions ⊆ (t.seat s).sessions := by
  intro w hw
  rw [mem_sessions] at hw ⊢
  refine hw.imp_left ?_
  rintro ⟨p, hp, hpw⟩
  exact ⟨p, List.mem_append_left _ hp, hpw⟩

theorem sessions_reattach (t : Table) (s : Session) : t.sessions ⊆ (t.reattach s).sessions := by
  intro w hw
  rw [mem_sessions] at hw ⊢
  refine hw.imp_left ?_
  rintro ⟨p, hp, hpw⟩
  exact ⟨p, mem_changeFirst hp (by simp [Seat.isConnected, hpw]), hpw⟩

theorem sessions_addWatcher (t : Table) (s : Session) : t.sessions ⊆ (t.addWatcher s).sessions := by
  intro w hw
  rw [mem_sessions] at hw ⊢
  exact hw.imp_right (List.mem_append_left _)

theorem sessions_unseat (t : Table) (u : UserId) : (t.unseat u).sessions ⊆ t.sessions := by
  intro w hw
  rw [mem_sessions] at hw ⊢
  refine hw.imp_left ?_
  rintro ⟨p, hp, hpw⟩
  exact ⟨p, List.eraseP_sublist.subset hp, hpw⟩

theorem sessions_dropWatcher (t : Table) (u : UserId) :
    (t.dropWatcher u).sessions ⊆ t.sessions := by
  intro w hw
  rw [mem_sessions] at hw ⊢
  exact hw.imp_right fun hw => List.eraseP_sublist.subset hw

theorem sessions_detach (t : Table) (u : UserId) : (t.detach u).sessions ⊆ t.sessions := by
  intro w hw
  rw [mem_sessions] at hw ⊢
  refine hw.imp_left ?_
  rintro ⟨p, hp, hpw⟩
  rcases of_mem_changeFirst hp with hp | ⟨q, -, rfl⟩
  · exact ⟨p, hp, hpw⟩
  · cases hpw

theorem sessions_withdraw (t : Table) (u : UserId) : (t.withdraw u).1.sessions ⊆ t.sessions :=
  withdraw_induction t u (List.Subset.refl _) (sessions_dropWatcher t u)
    (fun x _ hx => List.Subset.trans (sessions_detach x u) hx)
    (fun x _ hx => List.Subset.trans (sessions_unseat x u) hx)

theorem sessions_passedTo (t : Table) (name : String) (heir : UserId) :
    t.sessions ⊆ (t.passedTo name heir).sessions := by
  intro w hw
  rw [mem_sessions] at hw ⊢
  refine hw.imp_left ?_
  rintro ⟨p, hp, hpw⟩
  exact ⟨p, (seats_passedTo_perm name heir).mem_iff.2 hp, hpw⟩

theorem sessions_started (t : Table) (luck : Nat) : t.sessions ⊆ (t.started luck).sessions := by
  have hseats : (t.started luck).seats.map Seat.session = t.seats.map Seat.session :=
    map_seats_started (fun _ _ => rfl) luck
  intro w hw
  rw [mem_sessions] at hw ⊢
  refine hw.imp_left ?_
  rintro ⟨p, hp, hpw⟩
  have hmem : some w ∈ (t.started luck).seats.map Seat.session :=
    hseats ▸ List.mem_map.2 ⟨p, hp, hpw⟩
  exact List.mem_map.1 hmem

end Table

namespace Hall

variable {h : Hall} {s : Session} {u : UserId} {t t' : Table} {m : List Delivery}

theorem Arrival.sessions_subset {news : News} (a : h.Arrival s t news t') :
    t.sessions ⊆ t'.sessions := by
  cases a with
  | seat => exact t.sessions_seat s
  | reattach => exact t.sessions_reattach s
  | watch => exact t.sessions_addWatcher s

theorem Departure.sessions_subset {news : List News} (d : Departure u t news t') :
    t'.sessions ⊆ t.sessions := by
  cases d with
  | leave => exact t.sessions_unseat u
  | stopWatching => exact t.sessions_dropWatcher u
  | withdraw => exact t.sessions_withdraw u

theorem Act.sessions_subset (a : h.Act t m t') : t.sessions ⊆ t'.sessions := by
  cases a with
  | passLead => exact t.sessions_passedTo ..
  | start => exact t.sessions_started _

/-- Whatever is done at a table is told there. -/
theorem Act.broadcasts (a : h.Act t m t') :
    ∃ bs : List Broadcast, m = bs.flatMap Broadcast.copies ∧ ∀ b ∈ bs, b.table = t' := by
  cases a with
  | @passLead s name heir =>
    let passed := t.passedTo name heir.1
    let words := s.name ++ " has passed table ownership to: " ++ heir.2
    unfold Table.leadNews
    split
    · refine ⟨[.news passed (.newLeader heir.1)], ?_, by simp [Broadcast.news, passed]⟩
      rw [List.flatMap_singleton]
      rfl
    · refine ⟨[.line passed words], ?_, by simp [Broadcast.line, passed]⟩
      rw [List.flatMap_singleton]
      rfl
    · refine ⟨[.news passed .seatsChanged, .line passed words], ?_, by
        simp [Broadcast.news, Broadcast.line, passed]⟩
      rw [List.flatMap_cons, List.flatMap_singleton]
      rfl
  | @start luck =>
    refine ⟨[.news (t.started luck) .started], ?_, by simp [Broadcast.news]⟩
    rw [List.flatMap_singleton]
    rfl

/-- A session that sits or watches at a table. -/
def Attached (h : Hall) (s : Session) (id : TableId) : Prop :=
  ∃ t, h.table? id = some t ∧ s ∈ t.sessions

/-- Sessions only go, and whoever is told something of a table was attached to it. -/
structure Disperses (h : Hall) (m : List Delivery) (h' : Hall) : Prop where
  told : ∀ d ∈ m, ∀ id, d.message.IsAbout id → h.Attached d.session id
  back : ∀ s id, h'.Attached s id → h.Attached s id

/-- Sessions only come, and whoever is told something of a table is attached to it. -/
structure Gathers (h : Hall) (m : List Delivery) (h' : Hall) : Prop where
  told : ∀ d ∈ m, ∀ id, d.message.IsAbout id → h'.Attached d.session id
  stay : ∀ s id, h.Attached s id → h'.Attached s id

theorem composes_gathers : Composes Gathers where
  nothing := fun h => ⟨fun d hd => absurd hd List.not_mem_nil, fun _ _ hs => hs⟩
  append := by
    intro h k h' m n hm hn
    refine ⟨fun d hd id hid => ?_, fun s id hs => hn.stay s id (hm.stay s id hs)⟩
    rcases List.mem_append.1 hd with hd | hd
    · exact hn.stay d.session id (hm.told d hd id hid)
    · exact hn.told d hd id hid

end Hall

/-! ## One table -/

namespace Outcome

open Hall

variable {ε α : Type} {h : Hall} {s : Session} {u : UserId} {id : TableId} {t t' : Table}
  {x : Option Table} {o : Outcome ε α}

/-- An outcome that touches one table, and tells something to those who are there afterwards. -/
structure Turns (h : Hall) (t : Table) (x : Option Table) (o : Outcome ε α) : Prop extends
    o.Touches h t.id x where
  here : h.table? t.id = some t
  told : ∃ bs : List Broadcast, o.sent = bs.flatMap Broadcast.copies ∧ ∀ b ∈ bs, some b.table = x

theorem turns_arrive (here : h.table? t.id = some t) (hid : t'.id = t.id) (u : UserId)
    (news : News) : (h.arrive u t' news : Outcome ε Unit).Turns h t (some t') where
  toTouches := touches_arrive here u t' hid news
  here := here
  told := by
    refine ⟨[.news t' news], ?_, by simp [Broadcast.news]⟩
    rw [List.flatMap_singleton]
    rfl

theorem turns_depart (here : h.table? t.id = some t) (hid : t'.id = t.id) (u : UserId)
    (news : List News) : (h.depart u t' news : Outcome ε Unit).Turns h t t'.standing? where
  toTouches := touches_depart here u t' hid news
  here := here
  told := by
    unfold depart Table.standing?
    split
    · exact ⟨[], rfl, by simp⟩
    · refine ⟨news.map (Broadcast.news t'), ?_, by simp [Broadcast.news]⟩
      rw [List.flatMap_map]
      rfl

theorem turns_act {m : List Delivery} (here : h.table? t.id = some t) (a : h.Act t m t')
    (r : Except ε α) : (⟨h.put t', m, r⟩ : Outcome ε α).Turns h t (some t') where
  toTouches := touches_put here t' a.id_eq m r
  here := here
  told := by
    obtain ⟨bs, hbs, hall⟩ := a.broadcasts
    exact ⟨bs, hbs, fun b hb => congrArg some (hall b hb)⟩

/-- Whoever is told is at the table, and is told of it. -/
theorem Turns.attached (ho : o.Turns h t x) {d : Delivery} (hd : d ∈ o.sent)
    (hid : d.message.IsAbout id) : id = t.id ∧ ∃ t', x = some t' ∧ d.session ∈ t'.sessions := by
  obtain ⟨bs, hbs, hall⟩ := ho.told
  rw [hbs, List.mem_flatMap] at hd
  obtain ⟨b, hb, hd⟩ := hd
  obtain ⟨hs, hm⟩ := Broadcast.mem_copies.1 hd
  have hfound : o.hall.table? t.id = some b.table := ho.found.trans (hall b hb).symm
  have habout : id = b.table.id := (hm ▸ hid).unique b.about
  exact ⟨habout.trans (table?_id hfound), b.table, (hall b hb).symm, hs⟩

theorem Turns.gathers (ho : o.Turns h t (some t')) (hsub : t.sessions ⊆ t'.sessions) :
    o.Meets Gathers h where
  told := by
    intro d hd id hid
    obtain ⟨rfl, r, hr, hs⟩ := ho.attached hd hid
    exact ⟨r, ho.found.trans hr, hs⟩
  stay := by
    rintro s id ⟨r, here, hs⟩
    by_cases hid : id = t.id
    · subst hid
      obtain rfl : r = t := Option.some.inj (here.symm.trans ho.here)
      exact ⟨t', ho.found, hsub hs⟩
    · exact ⟨r, (ho.frame.table?_of_ne hid).trans here, hs⟩

theorem Arrives.gathers {news : News} {o : Outcome Refusal Unit} (ho : o.Arrives h s id news) :
    o.Meets Gathers h := by
  rcases ho with ⟨r, rfl⟩ | ⟨t, t', here, a, rfl⟩
  · exact composes_gathers.nothing h
  · exact (turns_arrive (table?_self here) a.id_eq s.user news).gathers a.sessions_subset

theorem Acts.gathers {o : Outcome Rejection Unit} (ho : o.Acts h id) : o.Meets Gathers h := by
  rcases ho with ⟨r, rfl⟩ | ⟨t, t', m, here, a, rfl⟩
  · exact composes_gathers.nothing h
  · exact (turns_act (table?_self here) a _).gathers a.sessions_subset

theorem gathers_add (h : Hall) (s : Session) (t : Table) :
    (h.add s t : Outcome ε TableId).Meets Gathers h where
  told := fun d hd => absurd hd List.not_mem_nil
  stay := by
    rintro w id ⟨r, here, hw⟩
    exact ⟨r, table?_add_of_some here s t, hw⟩

end Outcome

/-! ## Any operation -/

namespace Hall

open Outcome

variable {h h' : Hall} {m : List Delivery}

theorem Opens.gathers {s : Session} {o : Outcome Refusal TableId} (ho : h.Opens s o) :
    o.Meets Gathers h := by
  rcases ho with ⟨e, rfl⟩ | ⟨t, -, rfl⟩
  · exact composes_gathers.refuse e
  · exact gathers_add h s t

/-- Sessions first go, and then come. -/
def Regroups (h : Hall) (m : List Delivery) (h' : Hall) : Prop :=
  ∃ k m₁ m₂, m = m₁ ++ m₂ ∧ Disperses h m₁ k ∧ Gathers k m₂ h'

/-- Whoever is told something of a table was attached to it before or is so afterwards. -/
theorem Regroups.attached (r : Regroups h m h') {d : Delivery} (hd : d ∈ m) {id : TableId}
    (hid : d.message.IsAbout id) : h.Attached d.session id ∨ h'.Attached d.session id := by
  obtain ⟨k, m₁, m₂, rfl, hdisperses, hgathers⟩ := r
  rcases List.mem_append.1 hd with hd | hd
  · exact .inl (hdisperses.told d hd id hid)
  · exact .inr (hgathers.told d hd id hid)

end Hall

end GameHall
