import GameHall.Proofs.Hall.Lookup

/-!
# What stays of a table

A table keeps its number, its name, its options, its capacity and its visibility for as long as it is
there, and a replay stays a replay. A game that runs goes on running, with the same players in the
same seats under the same names and characters. `Table.Continues` says that one table may be the
other at a later time, and `table_continues` that it is so along every run.

* `Arrival.continues`, `Departure.continues` and `Act.continues` are the rule for what may happen to
  a table.
* `Hall.Continues` is the rule for halls: a table that is found was there before, or its number is
  new. As numbers are not used again, the rule composes along a run.
-/

namespace GameHall

namespace Table

/-- The players from left to right, under their names and with their characters. -/
def lineUp (t : Table) : List (UserId × String × Option Nat) :=
  t.seats.map fun p => (p.user, p.name, p.character)

/-- One table may be the other at a later time. -/
structure Continues (t t' : Table) : Prop where
  id : t'.id = t.id
  name : t'.name = t.name
  options : t'.options = t.options
  capacity : t'.capacity = t.capacity
  visible : t'.visible = t.visible
  replay : t'.phase = .replay ↔ t.phase = .replay
  running : t.phase = .running → t'.phase = .running
  /-- Seats are taken, given up and exchanged in the lobby only. -/
  lineUp : t.phase = .running → t'.lineUp = t.lineUp

variable {t t' t'' : Table}

theorem Continues.refl (t : Table) : t.Continues t :=
  ⟨rfl, rfl, rfl, rfl, rfl, .rfl, fun hp => hp, fun _ => rfl⟩

theorem Continues.trans (c : t.Continues t') (d : t'.Continues t'') : t.Continues t'' where
  id := d.id.trans c.id
  name := d.name.trans c.name
  options := d.options.trans c.options
  capacity := d.capacity.trans c.capacity
  visible := d.visible.trans c.visible
  replay := d.replay.trans c.replay
  running := fun hp => d.running (c.running hp)
  lineUp := fun hp => (d.lineUp (c.running hp)).trans (c.lineUp hp)

/-- Seats, watchers and the owner may change, but the line-up of a running game may not. -/
theorem continues_of_lineUp (t : Table) (owner : UserId) (seats : List Seat)
    (watchers : List Session)
    (hlineUp : t.phase = .running → lineUp { t with seats := seats } = t.lineUp) :
    t.Continues { t with owner := owner, seats := seats, watchers := watchers } :=
  ⟨rfl, rfl, rfl, rfl, rfl, .rfl, fun hp => hp, hlineUp⟩

theorem continues_seat (hphase : t.phase = .pregame) (s : Session) : t.Continues (t.seat s) :=
  continues_of_lineUp t _ _ _ fun hp => absurd (hphase.symm.trans hp) Phase.noConfusion

theorem continues_unseat (hphase : t.phase = .pregame) (u : UserId) : t.Continues (t.unseat u) :=
  continues_of_lineUp t _ _ _ fun hp => absurd (hphase.symm.trans hp) Phase.noConfusion

theorem continues_addWatcher (t : Table) (s : Session) : t.Continues (t.addWatcher s) :=
  continues_of_lineUp t _ _ _ fun _ => rfl

theorem continues_dropWatcher (t : Table) (u : UserId) : t.Continues (t.dropWatcher u) :=
  continues_of_lineUp t _ _ _ fun _ => rfl

theorem continues_detach (t : Table) (u : UserId) : t.Continues (t.detach u) :=
  continues_of_lineUp t _ _ _ fun _ => map_changeFirst fun _ => rfl

theorem continues_reattach (t : Table) (s : Session) : t.Continues (t.reattach s) :=
  continues_of_lineUp t _ _ _ fun _ => map_changeFirst fun _ => rfl

theorem continues_passedTo (t : Table) (name : String) (heir : UserId) :
    t.Continues (t.passedTo name heir) :=
  continues_of_lineUp t _ _ _ fun hp => by
    simp [hp, lineUp]

theorem continues_started (hphase : t.phase = .pregame) (luck : Nat) :
    t.Continues (t.started luck) where
  id := rfl
  name := rfl
  options := rfl
  capacity := rfl
  visible := rfl
  replay := by simp [started, hphase]
  running := fun _ => rfl
  lineUp := fun hp => absurd (hphase.symm.trans hp) Phase.noConfusion

theorem continues_withdraw (t : Table) (u : UserId) : t.Continues (t.withdraw u).1 :=
  withdraw_induction t u (.refl t) (continues_dropWatcher t u)
    (fun x _ hx => hx.trans (continues_detach x u))
    (fun _ hphase hx => hx.trans (continues_unseat hphase u))

end Table

namespace Hall

variable {h h' h'' : Hall} {s : Session} {u : UserId} {id : TableId} {t t' : Table}
  {o : Option Table} {ts : List Table} {m : List Delivery}

/-! ## What happens to a table -/

theorem Arrival.continues {news : News} (a : h.Arrival s t news t') : t.Continues t' := by
  cases a with
  | seat _ _ phase => exact Table.continues_seat phase s
  | reattach => exact Table.continues_reattach t s
  | watch => exact Table.continues_addWatcher t s

theorem Departure.continues {news : List News} (d : Departure u t news t') : t.Continues t' := by
  cases d with
  | leave phase => exact Table.continues_unseat phase u
  | stopWatching => exact Table.continues_dropWatcher t u
  | withdraw => exact Table.continues_withdraw t u

theorem Act.continues (a : h.Act t m t') : t.Continues t' := by
  cases a with
  | passLead => exact Table.continues_passedTo t _ _
  | start phase => exact Table.continues_started phase _

/-! ## What happens to a hall -/

/-- Every table of the later hall is a table of the earlier one, or has a number that the earlier one
has not given yet. -/
structure Continues (h h' : Hall) : Prop where
  nextId : h.nextId ≤ h'.nextId
  tables : ∀ id t', h'.table? id = some t' → id.val < h.nextId →
    ∃ t, h.table? id = some t ∧ t.Continues t'

theorem Continues.refl (h : Hall) : h.Continues h :=
  ⟨Nat.le_refl _, fun _ t' here _ => ⟨t', here, .refl t'⟩⟩

theorem Continues.trans (c : h.Continues h') (d : h'.Continues h'') : h.Continues h'' where
  nextId := Nat.le_trans c.nextId d.nextId
  tables := fun id t'' here hid => by
    obtain ⟨t', here', hlater⟩ := d.tables id t'' here (Nat.lt_of_lt_of_le hid c.nextId)
    obtain ⟨t, here, hearlier⟩ := c.tables id t' here' hid
    exact ⟨t, here, hearlier.trans hlater⟩

theorem continues_put (here : h.table? t.id = some t) (c : t.Continues t') :
    h.Continues (h.put t') where
  nextId := Nat.le_refl _
  tables := fun id x hx _ => by
    rw [table?_put, c.id] at hx
    split at hx
    · rename_i hid
      subst hid
      rw [here, Option.map_some, Option.some.injEq] at hx
      exact ⟨t, here, hx ▸ c⟩
    · exact ⟨x, hx, .refl x⟩

theorem continues_remove (h : Hall) (i : TableId) : h.Continues (h.remove i) where
  nextId := Nat.le_refl _
  tables := fun id x hx _ => by
    rw [table?_remove] at hx
    split at hx
    · cases hx
    · exact ⟨x, hx, .refl x⟩

/-- Where users are noted does not matter to the tables. -/
theorem Continues.withPresence (c : h.Continues h') (p : Presence) :
    h.Continues { h' with presence := p } :=
  ⟨c.nextId, c.tables⟩

theorem Change.continues (c : h.Change o m h') : h.Continues h' := by
  cases c with
  | @opens s t o =>
    refine ⟨Nat.le_succ _, fun id x hx hid => ?_⟩
    rw [table?_append] at hx
    have hnew : t.id ≠ id := by
      rintro rfl
      rw [o.id_eq] at hid
      exact Nat.lt_irrefl _ hid
    rw [if_neg hnew, Option.or_none] at hx
    exact ⟨x, hx, .refl x⟩
  | arrives here a => exact (continues_put here a.continues).withPresence _
  | departs here d => exact (continues_put here d.continues).withPresence _
  | deserts => exact ⟨Nat.le_refl _, (continues_remove h _).tables⟩
  | acts here a => exact continues_put here a.continues
  | windsDown => exact ⟨Nat.le_refl _, (Continues.refl h).tables⟩
  | boots => exact .refl h

theorem Changes.continues (cs : Changes h ts m h') : h.Continues h' := by
  induction cs with
  | none => exact .refl _
  | cons c _ ih => exact c.continues.trans ih

theorem continues_run (h : Hall) (ops : List (Luck × Operation)) : h.Continues (h.run ops) := by
  induction ops generalizing h with
  | nil => exact .refl h
  | cons op ops ih =>
    obtain ⟨ts, hts, -⟩ := perform_changes h op.1 op.2
    exact (Changes.continues hts).trans (ih _)

/-- **What stays of a table.** A table that is found after some operations, and is still there after
more of them, has the number, name, options, capacity and visibility that it had, and is a replay iff
it was one. If its game was running, it runs still, with the same users in the same seats, under the
same names and with the same characters. -/
theorem table_continues (limits : Limits) (variants : List String)
    (earlier later : List (Luck × Operation)) (id : TableId) (t t' : Table)
    (before : (after limits variants earlier).table? id = some t)
    (afterwards : (after limits variants (earlier ++ later)).table? id = some t') :
    t.Continues t' := by
  have hs := sound_after limits variants earlier
  have hrun : after limits variants (earlier ++ later) =
      (after limits variants earlier).run later := run_append _ earlier later
  have hold : id.val < (after limits variants earlier).nextId := by
    obtain ⟨ht, rfl⟩ := hs.table?_eq_some_iff.1 before
    exact hs.below t ht
  rw [hrun] at afterwards
  obtain ⟨x, hx, hcontinues⟩ := (continues_run _ later).tables id t' afterwards hold
  rw [before, Option.some.injEq] at hx
  exact hx ▸ hcontinues

/-- A player whose connection closed comes back over another line, passes the lead on, and cannot
leave. Seats, names and characters are those of the start. -/
theorem table_continues_through_a_game :
    let alice : Session := ⟨⟨1⟩, "Alice", 0⟩
    let alice' : Session := ⟨⟨1⟩, "alice", 3⟩
    let bob : Session := ⟨⟨2⟩, "Bob", 1⟩
    let carol : Session := ⟨⟨3⟩, "Carol", 2⟩
    let options : Options := ⟨"No Variant", false, 0, 0, false, false, false, true⟩
    let earlier : List (Luck × Operation) :=
      [(⟨0, 0⟩, .command alice (.openTable "one" options)), (⟨0, 0⟩, .command bob (.join ⟨1⟩)),
        (⟨0, 0⟩, .command alice (.start ⟨1⟩))]
    let later : List (Luck × Operation) :=
      [(⟨0, 0⟩, .command carol (.watch ⟨1⟩)), (⟨0, 0⟩, .disconnect ⟨1⟩), (⟨0, 0⟩, .windDown),
        (⟨0, 0⟩, .command alice' (.join ⟨1⟩)), (⟨0, 0⟩, .command alice' (.passLead ⟨1⟩ "Bob")),
        (⟨0, 0⟩, .command alice' (.leave ⟨1⟩))]
    ∃ t t', (after ⟨6, 2⟩ ["No Variant"] earlier).table? ⟨1⟩ = some t ∧
      (after ⟨6, 2⟩ ["No Variant"] (earlier ++ later)).table? ⟨1⟩ = some t' ∧
      t.phase = .running ∧ t.lineUp = [(⟨1⟩, "Alice", some 0), (⟨2⟩, "Bob", some 1)] ∧
      t.owner ≠ t'.owner ∧ t'.watchers = [carol] ∧ t.Continues t' := by
  intro alice alice' bob carol options earlier later
  let t : Table :=
    { Table.lobby ⟨1⟩ "one" alice options 6 with
      seats := [⟨⟨1⟩, "Alice", some alice, some 0⟩, ⟨⟨2⟩, "Bob", some bob, some 1⟩]
      phase := .running }
  let t' : Table :=
    { t with
      owner := ⟨2⟩
      seats := [⟨⟨1⟩, "Alice", some alice', some 0⟩, ⟨⟨2⟩, "Bob", some bob, some 1⟩]
      watchers := [carol] }
  have before : (after ⟨6, 2⟩ ["No Variant"] earlier).table? ⟨1⟩ = some t := by decide +kernel
  have afterwards : (after ⟨6, 2⟩ ["No Variant"] (earlier ++ later)).table? ⟨1⟩ = some t' := by
    decide +kernel
  exact ⟨t, t', before, afterwards, rfl, rfl, by decide, rfl,
    table_continues ⟨6, 2⟩ ["No Variant"] earlier later ⟨1⟩ t t' before afterwards⟩

end Hall

end GameHall
