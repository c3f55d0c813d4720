import GameHall.Hall.Lead
import GameHall.Hall.Start
import Mathlib.Data.List.Nodup

/-!
# Who is at a table

Who is at a table is read off the users `seated`, the users `watching`, and `isConnected`, which
tells whose seat at a game has a session. Each operation on a table is described by what it does to
the three.

A user is given up by the first entry that bears the user, so that the other entries stay. Where no
user has two entries, `eraseP_eq_filter` and `changeFirst_eq_map` say the same of all entries at
once.
-/

namespace GameHall

/-! ## First entries -/

section First

variable {α β : Type} {test : α → Bool} {change : α → α} {l : List α}

theorem map_changeFirst {g : α → β} (hg : ∀ a, g (change a) = g a) :
    (changeFirst test change l).map g = l.map g := by
  induction l with
  | nil => rfl
  | cons a l ih =>
    simp only [changeFirst]
    split
    · rw [List.map_cons, hg, List.map_cons]
    · rw [List.map_cons, ih, List.map_cons]

theorem of_mem_changeFirst {b : α} (hb : b ∈ changeFirst test change l) :
    b ∈ l ∨ ∃ a ∈ l, b = change a := by
  induction l with
  | nil => cases hb
  | cons a l ih =>
    unfold changeFirst at hb
    split at hb
    · rcases List.mem_cons.1 hb with rfl | hb
      · exact .inr ⟨a, List.mem_cons_self, rfl⟩
      · exact .inl (List.mem_cons_of_mem _ hb)
    · rcases List.mem_cons.1 hb with rfl | hb
      · exact .inl List.mem_cons_self
      · rcases ih hb with hb | ⟨c, hc, rfl⟩
        · exact .inl (List.mem_cons_of_mem _ hb)
        · exact .inr ⟨c, List.mem_cons_of_mem _ hc, rfl⟩

/-- What does not pass the test stays. -/
theorem mem_changeFirst {b : α} (hb : b ∈ l) (ht : test b = false) :
    b ∈ changeFirst test change l := by
  induction l with
  | nil => cases hb
  | cons a l ih =>
    unfold changeFirst
    split
    · rename_i hta
      rcases List.mem_cons.1 hb with rfl | hb
      · rw [ht] at hta
        cases hta
      · exact List.mem_cons_of_mem _ hb
    · rcases List.mem_cons.1 hb with rfl | hb
      · exact List.mem_cons_self
      · exact List.mem_cons_of_mem _ (ih hb)

variable {f : α → β} {k : β}

/-- Where keys differ, changing the first entry of a key changes every entry of the key. -/
theorem changeFirst_eq_map (h : (l.map f).Nodup) (ht : ∀ a, test a = true → f a = k) :
    changeFirst test change l = l.map fun a => if test a then change a else a := by
  induction l with
  | nil => rfl
  | cons a l ih =>
    rw [List.map_cons, List.nodup_cons] at h
    simp only [changeFirst, List.map_cons]
    split
    · rename_i hta
      have hrest : (l.map fun b => if test b then change b else b) = l := by
        conv_rhs => rw [← List.map_id l]
        refine List.map_congr_left fun b hb => if_neg fun htb => h.1 ?_
        exact List.mem_map.2 ⟨b, hb, (ht b htb).trans (ht a hta).symm⟩
      rw [hrest]
    · rw [ih h.2]

/-- Where keys differ, erasing the first entry of a key erases every entry of the key. -/
theorem eraseP_eq_filter [DecidableEq β] (h : (l.map f).Nodup) :
    (l.eraseP fun a => f a == k) = l.filter fun a => f a != k := by
  induction l with
  | nil => rfl
  | cons a l ih =>
    rw [List.map_cons, List.nodup_cons] at h
    by_cases hak : f a = k
    · have hall : ∀ b ∈ l, (f b != k) = true := fun b hb => by
        simp only [bne_iff_ne, ne_eq]
        exact fun hbk => h.1 (List.mem_map.2 ⟨b, hb, hbk.trans hak.symm⟩)
      rw [List.eraseP_cons_of_pos (by simpa using hak), List.filter_cons_of_neg (by simpa using hak),
        List.filter_eq_self.2 hall]
    · rw [List.eraseP_cons_of_neg (by simpa using hak), List.filter_cons_of_pos (by simpa using hak),
        ih h.2]

/-- Where keys differ, the first entry of a key is the only one to ask. -/
theorem any_find?_eq [DecidableEq β] (h : (l.map f).Nodup) :
    (l.find? fun a => f a == k).any test = l.any fun a => f a == k && test a := by
  induction l with
  | nil => rfl
  | cons a l ih =>
    rw [List.map_cons, List.nodup_cons] at h
    by_cases hak : f a = k
    · have hrest : (l.any fun b => f b == k && test b) = false := by
        simp only [List.any_eq_false, Bool.and_eq_true, beq_iff_eq, not_and]
        exact fun b hb hbk => absurd (List.mem_map.2 ⟨b, hb, hbk.trans hak.symm⟩) h.1
      rw [List.find?_cons_of_pos (by simpa using hak), List.any_cons, hrest]
      simp [hak]
    · rw [List.find?_cons_of_neg (by simpa using hak), List.any_cons, ih h.2]
      simp [hak]

end First

theorem exchange_perm {α : Type} (l : List α) (i j : Nat) : (exchange l i j).Perm l := by
  simp only [exchange]
  split
  · rename_i a b ha hb
    obtain ⟨hi, rfl⟩ := List.getElem?_eq_some_iff.1 ha
    obtain ⟨hj, rfl⟩ := List.getElem?_eq_some_iff.1 hb
    exact List.set_set_perm hi hj
  · exact .refl l

theorem head?_exchange {α : Type} {l : List α} {j : Nat} {a : α} (h : l[j]? = some a) :
    (exchange l 0 j).head? = some a := by
  cases l with
  | nil => cases h
  | cons b l =>
    simp only [exchange, List.getElem?_cons_zero, h]
    cases j with
    | zero =>
      rw [List.getElem?_cons_zero] at h
      simp [Option.some.inj h]
    | succ j => simp

theorem map_dealTo {β : Type} {g : Seat → β}
    (hg : ∀ p c, g { p with character := some c } = g p) (cs : List Nat) (ps : List Seat) :
    (Table.dealTo cs ps).map g = ps.map g := by
  induction cs generalizing ps with
  | nil => rfl
  | cons c cs ih =>
    cases ps with
    | nil => rfl
    | cons p ps => simp only [Table.dealTo, List.map_cons, hg, ih]

namespace Table

variable {t : Table} {s : Session} {u v : UserId}

/-- The users with a seat, from left to right. -/
def seated (t : Table) : List UserId := t.seats.map Seat.user

/-- The users watching, in the order of their arrival. -/
def watching (t : Table) : List UserId := t.watchers.map Session.user

theorem length_seats_eq {t' : Table} (h : t'.seated = t.seated) :
    t'.seats.length = t.seats.length := by
  simpa only [seated, List.length_map] using congrArg List.length h

theorem hasSeat_iff : t.hasSeat u ↔ u ∈ t.seated := by
  simp [hasSeat, seated]

theorem isWatching_iff : t.isWatching u ↔ u ∈ t.watching := by
  simp [isWatching, watching]

theorem isReplay_iff : t.isReplay ↔ t.phase = .replay := by
  simp [isReplay]

theorem isSharedReplay_iff : t.isSharedReplay ↔ t.phase = .replay ∧ t.visible = true := by
  rw [isSharedReplay, Bool.and_eq_true, isReplay_iff]

theorem isConnected_iff :
    t.isConnected u ↔ t.phase ≠ .replay ∧ ∃ p ∈ t.seats, p.user = u ∧ p.isConnected := by
  simp [isConnected, isReplay]

theorem isDetached_iff :
    t.isDetached u ↔ t.phase ≠ .replay ∧ ∃ p ∈ t.seats, p.user = u ∧ p.isConnected = false := by
  simp [isDetached, isReplay]

theorem isPresent_iff : t.isPresent u ↔ u ∈ t.watching ∨ t.isConnected u := by
  simp [isPresent, isWatching_iff]

theorem not_isConnected_of_replay (h : t.phase = .replay) : ¬t.isConnected u := fun hc =>
  (isConnected_iff.1 hc).1 h

theorem isPresent_iff_watching (h : t.phase = .replay) : t.isPresent u ↔ u ∈ t.watching :=
  isPresent_iff.trans (or_iff_left (not_isConnected_of_replay h))

/-- A table is deserted when nobody is present. -/
theorem isDeserted_iff : t.isDeserted ↔ ∀ u, t.isPresent u = false := by
  have hconn : (!t.isReplay && t.seats.any Seat.isConnected) = true ↔ ∃ u, t.isConnected u := by
    simp only [isConnected, Bool.and_eq_true, List.any_eq_true]
    constructor
    · rintro ⟨hr, p, hp, hc⟩
      exact ⟨p.user, hr, p, hp, by simp [hc]⟩
    · rintro ⟨u, hr, p, hp, hc⟩
      exact ⟨hr, p, hp, hc.2⟩
  rw [isDeserted, Bool.and_eq_true, Bool.not_eq_true', Bool.eq_false_iff, ne_eq, hconn,
    List.isEmpty_iff, ← List.map_eq_nil_iff (f := Session.user), List.eq_nil_iff_forall_not_mem]
  simp only [← Bool.not_eq_true, isPresent_iff, not_or, not_exists, forall_and]
  rfl

/-! ## Seats -/

theorem seated_seat : (t.seat s).seated = t.seated ++ [s.user] := by
  simp [seat, seated, Seat.taken]

theorem nodup_seated_seat (h : t.seated.Nodup) (hnew : t.hasSeat s.user = false) :
    (t.seat s).seated.Nodup := by
  rw [← Bool.not_eq_true, hasSeat_iff] at hnew
  rw [seated_seat, ← List.concat_eq_append]
  exact List.Nodup.concat hnew h

theorem isConnected_seat (h : t.phase ≠ .replay) :
    (t.seat s).isConnected v ↔ v = s.user ∨ t.isConnected v := by
  simp only [isConnected_iff, seat, h, ne_eq, not_false_eq_true, true_and, List.mem_append,
    List.mem_singleton]
  constructor
  · rintro ⟨p, hp | rfl, hpv, hc⟩
    · exact .inr ⟨p, hp, hpv, hc⟩
    · exact .inl hpv.symm
  · rintro (rfl | ⟨p, hp, hpv, hc⟩)
    · exact ⟨.taken s, .inr rfl, rfl, rfl⟩
    · exact ⟨p, .inl hp, hpv, hc⟩

theorem seats_unseat (h : t.seated.Nodup) :
    (t.unseat u).seats = t.seats.filter fun p => p.user != u :=
  eraseP_eq_filter h

theorem seated_unseat (h : t.seated.Nodup) :
    (t.unseat u).seated = t.seated.filter fun v => v != u := by
  rw [seated, seats_unseat h, seated, List.filter_map]
  rfl

theorem isConnected_unseat (h : t.seated.Nodup) :
    (t.unseat u).isConnected v ↔ v ≠ u ∧ t.isConnected v := by
  have hphase : (t.unseat u).phase = t.phase := rfl
  simp only [isConnected_iff, hphase, seats_unseat h, List.mem_filter, bne_iff_ne, ne_eq]
  constructor
  · rintro ⟨hr, p, ⟨hp, hpu⟩, rfl, hc⟩
    exact ⟨hpu, hr, p, hp, rfl, hc⟩
  · rintro ⟨hvu, hr, p, hp, rfl, hc⟩
    exact ⟨hr, p, ⟨hp, hvu⟩, rfl, hc⟩

theorem seats_detach (h : t.seated.Nodup) :
    (t.detach u).seats =
      t.seats.map fun p => if p.user == u then { p with session := none } else p :=
  changeFirst_eq_map (f := Seat.user) (k := u) h fun _ hp => by simpa using hp

theorem seated_detach : (t.detach u).seated = t.seated := map_changeFirst fun _ => rfl

theorem isConnected_detach (h : t.seated.Nodup) :
    (t.detach u).isConnected v ↔ v ≠ u ∧ t.isConnected v := by
  have hphase : (t.detach u).phase = t.phase := rfl
  simp only [isConnected_iff, hphase, seats_detach h, List.mem_map]
  constructor
  · rintro ⟨hr, _, ⟨p, hp, rfl⟩, hv, hc⟩
    by_cases hpu : p.user = u
    · simp [hpu, Seat.isConnected] at hc
    · simp only [beq_iff_eq, hpu, if_false] at hv hc
      exact ⟨fun hvu => hpu (hv.trans hvu), hr, p, hp, hv, hc⟩
  · rintro ⟨hvu, hr, p, hp, rfl, hc⟩
    exact ⟨hr, p, ⟨p, hp, by simp [hvu]⟩, rfl, hc⟩

theorem seats_reattach (h : t.seated.Nodup) :
    (t.reattach s).seats = t.seats.map fun p =>
      if p.user == s.user && !p.isConnected then { p with session := some s } else p :=
  changeFirst_eq_map (f := Seat.user) (k := s.user) h fun _ hp => by simp_all

theorem seated_reattach : (t.reattach s).seated = t.seated := map_changeFirst fun _ => rfl

theorem isConnected_reattach (h : t.seated.Nodup) (hd : t.isDetached s.user) :
    (t.reattach s).isConnected v ↔ v = s.user ∨ t.isConnected v := by
  have hphase : (t.reattach s).phase = t.phase := rfl
  obtain ⟨hr, q, hq, hqs, hqc⟩ := isDetached_iff.1 hd
  simp only [isConnected_iff, hphase, seats_reattach h, List.mem_map]
  constructor
  · rintro ⟨-, _, ⟨p, hp, rfl⟩, hv, hc⟩
    split at hv
    · rename_i hps
      simp only [Bool.and_eq_true, beq_iff_eq] at hps
      exact .inl (hv.symm.trans hps.1)
    · rename_i hps
      rw [if_neg hps] at hc
      exact .inr ⟨hr, p, hp, hv, hc⟩
  · rintro (rfl | ⟨-, p, hp, rfl, hc⟩)
    · exact ⟨hr, _, ⟨q, hq, if_pos (by simp [hqs, hqc])⟩, hqs, rfl⟩
    · exact ⟨hr, p, ⟨p, hp, by simp [hc]⟩, rfl, hc⟩

/-! ## Watchers -/

theorem watching_addWatcher : (t.addWatcher s).watching = t.watching ++ [s.user] := by
  simp [addWatcher, watching]

theorem nodup_watching_addWatcher (h : t.watching.Nodup) (hnew : t.isWatching s.user = false) :
    (t.addWatcher s).watching.Nodup := by
  rw [← Bool.not_eq_true, isWatching_iff] at hnew
  rw [watching_addWatcher, ← List.concat_eq_append]
  exact List.Nodup.concat hnew h

theorem watchers_dropWatcher (h : t.watching.Nodup) :
    (t.dropWatcher u).watchers = t.watchers.filter fun s => s.user != u :=
  eraseP_eq_filter h

theorem watching_dropWatcher (h : t.watching.Nodup) :
    (t.dropWatcher u).watching = t.watching.filter fun v => v != u := by
  rw [watching, watchers_dropWatcher h, watching, List.filter_map]
  rfl

/-- The lead moves when the leader goes from a replay and somebody is left there. -/
theorem leadMoves_iff :
    t.leadMoves u ↔ t.isReplay ∧ t.owner = u ∧ (t.dropWatcher u).watchers ≠ [] := by
  simp [leadMoves, and_assoc]

/-! ## Closed connections -/

/-- What holds of a table, and still holds where it loses a watcher, a connection or a seat of the
lobby, holds of it without a user whose connection closed. -/
theorem withdraw_induction {P : Table → Prop} (t : Table) (u : UserId) (ht : P t)
    (dropWatcher : P (t.dropWatcher u))
    (detach : ∀ x : Table, x.phase = .running → P x → P (x.detach u))
    (unseat : ∀ x : Table, x.phase = .pregame → P x → P (x.unseat u)) : P (t.withdraw u).1 := by
  -- a user who both watches and plays would first stop watching, and then go
  have hunwatched : ∀ news : Option News,
      (if t.isWatching u then (t.dropWatcher u, news) else (t, none)).1.phase = t.phase ∧
        P (if t.isWatching u then (t.dropWatcher u, news) else (t, none)).1 := by
    intro news
    split
    · exact ⟨rfl, dropWatcher⟩
    · exact ⟨rfl, ht⟩
  unfold withdraw
  dsimp only
  split
  · exact (hunwatched _).2
  · rename_i hphase
    split
    · exact detach _ ((hunwatched _).1.trans hphase) (hunwatched _).2
    · exact (hunwatched _).2
  · rename_i hphase
    split
    · exact unseat _ ((hunwatched _).1.trans hphase) (hunwatched _).2
    · exact (hunwatched _).2

/-! ## Passing the lead and starting -/

theorem seats_passedTo_perm (name : String) (heir : UserId) :
    (t.passedTo name heir).seats.Perm t.seats := by
  simp only [passedTo]
  split
  · exact exchange_perm ..
  · exact .refl _

theorem isConnected_passedTo (name : String) (heir : UserId) :
    (t.passedTo name heir).isConnected v ↔ t.isConnected v := by
  have hphase : (t.passedTo name heir).phase = t.phase := rfl
  simp only [isConnected_iff, hphase, (seats_passedTo_perm name heir).mem_iff]

theorem map_seats_started {β : Type} {g : Seat → β}
    (hg : ∀ p c, g { p with character := some c } = g p) (luck : Nat) :
    (t.started luck).seats.map g = t.seats.map g := by
  simp only [started]
  split
  · exact map_dealTo hg ..
  · rfl

theorem seated_started (luck : Nat) : (t.started luck).seated = t.seated :=
  map_seats_started (fun _ _ => rfl) luck

theorem isConnected_started (h : t.phase ≠ .replay) (luck : Nat) :
    (t.started luck).isConnected v ↔ t.isConnected v := by
  have hmap := map_seats_started (t := t) (g := fun p => (p.user, p.isConnected)) (fun _ _ => rfl) luck
  have hmem : ∀ x, (∃ p ∈ (t.started luck).seats, (p.user, p.isConnected) = x) ↔
      ∃ p ∈ t.seats, (p.user, p.isConnected) = x := fun x => by
    rw [← List.mem_map, hmap, List.mem_map]
  have hphase : (t.started luck).phase ≠ .replay := by simp [started]
  simpa only [isConnected_iff, h, hphase, ne_eq, not_false_eq_true, true_and, Prod.mk.injEq] using
    hmem (v, true)

end Table

end GameHall
