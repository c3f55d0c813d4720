import GameHall.Proofs.Hall.Audience
import GameHall.Proofs.Hall.Lifetime
import GameHall.Proofs.Rematch.Roster

/-!
# Who is sent away by a rematch, and who goes

A rematch that passes its checks sends everyone at the replay away, and then takes its users away
from the replay: its leader and those who bear a name of the roster. These are two lists
(`booted_of_rematch`), and whoever is on the first alone is told to leave and stays
(`booted_and_watching`).
-/

namespace GameHall

/-- A session is told to leave a table. -/
def Delivery.IsBoot (d : Delivery) : Prop := ∃ id, d.message = .table id .boot

namespace Hall

open Outcome

variable {h : Hall} {luck : Luck} {s w : Session} {u : UserId} {id : TableId} {t t' : Table}
  {news : News} {d : Delivery} {m : List Delivery}

/-! ## Who is sent away -/

theorem not_isBoot_of_mem_announce (hnews : news ≠ .boot) (hd : d ∈ t.announce news) :
    ¬d.IsBoot := by
  rintro ⟨i, hboot⟩
  exact hnews (Message.table.inj ((Table.mem_announce.1 hd).2.symm.trans hboot)).2

theorem not_isBoot_of_mem_say {text : String} (hd : d ∈ t.say text) : ¬d.IsBoot := by
  rintro ⟨i, hboot⟩
  exact Message.noConfusion ((Table.mem_say.1 hd).2.symm.trans hboot)

theorem Departure.boot_not_mem {ns : List News} (d : Departure u t ns t') : .boot ∉ ns := by
  cases d with
  | leave => simp
  | stopWatching => split <;> simp
  | withdraw =>
    have hdropped : some News.boot ≠
        some (if t.leadMoves u then .newLeader (t.dropWatcher u).owner else .watchersChanged) := by
      split <;> simp
    have hunwatched : ∀ news : Option News, some .boot ≠ news →
        News.boot ∉ (if t.isWatching u then (t.dropWatcher u, news) else (t, none)).2.toList := by
      intro news hnews
      split
      · exact fun hmem => hnews (Option.mem_toList.1 hmem).symm
      · exact List.not_mem_nil
    unfold Table.withdraw
    dsimp only
    split
    · exact hunwatched _ hdropped
    · split
      · simp
      · exact hunwatched _ hdropped
    · split
      · simp
      · exact hunwatched _ hdropped

theorem Act.not_isBoot (a : h.Act t m t') (hd : d ∈ m) : ¬d.IsBoot := by
  cases a with
  | passLead =>
    unfold Table.leadNews at hd
    split at hd
    · exact not_isBoot_of_mem_announce News.noConfusion hd
    · exact not_isBoot_of_mem_say hd
    · rcases List.mem_append.1 hd with hd | hd
      · exact not_isBoot_of_mem_announce News.noConfusion hd
      · exact not_isBoot_of_mem_say hd
  | start => exact not_isBoot_of_mem_announce News.noConfusion hd

end Hall

namespace Outcome

open Hall

variable {h : Hall} {luck : Luck} {s : Session} {u : UserId} {id : TableId}

/-- No message that is sent is a boot. -/
def Keeps {ε α : Type} (h : Hall) (o : Outcome ε α) : Prop :=
  o.Meets (fun _ m _ => ∀ d ∈ m, ¬d.IsBoot) h

theorem Departs.keeps {o : Outcome Refusal Unit} (ho : o.Departs h u id) : o.Keeps h := by
  rcases ho with ⟨r, rfl⟩ | ⟨t, t', news, -, d, rfl⟩
  · exact (composes_messages _).nothing h
  · intro m hm
    rw [sent_depart, List.mem_flatMap] at hm
    obtain ⟨r, -, hm⟩ := hm
    obtain ⟨n, hn, hm⟩ := List.mem_flatMap.1 hm
    refine not_isBoot_of_mem_announce ?_ hm
    rintro rfl
    exact d.boot_not_mem hn

theorem Arrives.keeps {o : Outcome Refusal Unit} {news : News} (ho : o.Arrives h s id news)
    (hnews : news ≠ .boot) : o.Keeps h := by
  rcases ho with ⟨r, rfl⟩ | ⟨t, t', -, -, rfl⟩
  · exact (composes_messages _).nothing h
  · exact fun d hd => not_isBoot_of_mem_announce hnews hd

theorem Acts.keeps {o : Outcome Rejection Unit} (ho : o.Acts h id) : o.Keeps h := by
  rcases ho with ⟨r, rfl⟩ | ⟨t, t', m, -, a, rfl⟩
  · exact (composes_messages _).nothing h
  · exact fun d hd => a.not_isBoot hd

end Outcome

namespace Hall

open Outcome

variable {h : Hall} {s w : Session} {id : TableId} {t : Table}

theorem Opens.keeps {o : Outcome Refusal TableId} (ho : h.Opens s o) : o.Keeps h := by
  rcases ho with ⟨e, rfl⟩ | ⟨t, -, rfl⟩
  · exact (composes_messages _).nothing h
  · exact fun _ hd => absurd hd List.not_mem_nil

/-- The steps of a rematch send nobody away. -/
theorem keeps_playAgain (h : Hall) (luck : Luck) (s : Session) (t : Table) :
    (h.playAgain luck s t).Keeps h := by
  refine (composes_messages fun d => ¬d.IsBoot).playAgain ?_ ?_ ?_ ?_ h
  · exact fun s _ h id => (arrives_join h s id).keeps News.noConfusion
  · exact fun h u id => (acts_start h luck.deal u id).keeps
  · exact fun h u id => (departs_stopWatching h u id).keeps
  · exact fun h name options => (opens_openTable h s name options).keeps

/-- **Everyone who watches is sent away.** -/
theorem boot_mem_sent_iff (hs : h.Sound) (hplan : h.rematchPlan s id = .ok t) (luck : Luck)
    (w : Session) : ⟨w, .table id .boot⟩ ∈ (h.rematch luck s id).sent ↔ w ∈ t.watchers := by
  obtain ⟨here, hphase, -⟩ := replay_of_plan hs hplan
  obtain rfl := table?_id (rematchPlan_eq_ok hplan).1
  have hreview : t.InReview := (hs.tables t (hs.table?_eq_some_iff.1 here).1).inReview hphase
  have hbooted : ⟨w, .table t.id .boot⟩ ∈ t.announce .boot ↔ w ∈ t.sessions :=
    Table.mem_announce.trans (and_iff_left rfl)
  rw [rematch_eq_andThen hplan, sent_andThen_of_ok rfl, List.mem_append, hbooted,
    hreview.sessions_eq]
  refine or_iff_left fun hd => ?_
  exact keeps_playAgain h luck s t _ hd ⟨t.id, rfl⟩

/-! ## Who goes -/

/-- The users of a rematch are the leader and those who bear a name of the roster. -/
theorem mem_rematchUsers_iff (hw : t.watching.Nodup) (hmem : w ∈ t.watchers) :
    w.user ∈ rematchUsers s t.rematchPlayers ↔ w.user = s.user ∨ w.name ∈ t.roster := by
  have hfollows : w.user ∈ (t.followers s).map Session.user ↔
      w.name ∈ t.roster ∧ w.user ≠ s.user := by
    rw [List.mem_map]
    constructor
    · rintro ⟨v, hv, hvw⟩
      obtain ⟨hv, hkept⟩ := List.mem_filter.1 hv
      obtain rfl : v = w := List.inj_on_of_nodup_map hw hv hmem hvw
      exact of_decide_eq_true hkept
    · exact fun hkept => ⟨w, List.mem_filter.2 ⟨hmem, decide_eq_true hkept⟩, rfl⟩
  rw [(rematchUsers_perm hw).mem_iff, List.mem_cons, hfollows]
  tauto

/-- **Whoever is no user of the rematch stays.** -/
theorem watching_rematch_iff (hr : h.Reachable) (hplan : h.rematchPlan s id = .ok t) (luck : Luck)
    (u : UserId) :
    (∃ r, (h.rematch luck s id).hall.table? id = some r ∧ r.isWatching u) ↔
      t.isWatching u ∧ u ∉ rematchUsers s t.rematchPlayers := by
  obtain ⟨-, hphase, hw⟩ := replay_of_plan hr.sound hplan
  obtain rfl := table?_id (rematchPlan_eq_ok hplan).1
  obtain ⟨new, hmoved, -⟩ := rematch_ends hr hplan luck
  have hleft : ∀ r, (t.dropWatchers (rematchUsers s t.rematchPlayers)).standing? = some r →
      (r.isWatching u ↔ r.isPresent u) := by
    intro r hr
    obtain rfl := Table.eq_of_standing? hr
    rw [Table.isPresent_iff_watching ((Table.phase_dropWatchers ..).trans hphase),
      Table.isWatching_iff]
  rw [Table.isWatching_iff, ← Table.isPresent_iff_watching hphase,
    ← Table.isPresent_dropWatchers hphase hw, ← Table.exists_standing?_iff, hmoved.replay]
  exact exists_congr fun r => and_congr_right (hleft r)

/-- **Who is sent away and who goes.** A rematch that succeeds or is cut short tells all watchers of
the replay, and nobody else, to leave it. Those whom it takes away are its leader and the watchers
who bear a name of the roster. -/
theorem booted_of_rematch (limits : Limits) (variants : List String) (ops : List (Luck × Operation))
    (luck : Luck) (s : Session) (id : TableId)
    (passed : ∀ e, ((after limits variants ops).rematch luck s id).result = .error e →
      e.isCutShort) :
    let o := (after limits variants ops).rematch luck s id
    ∃ t, (after limits variants ops).table? id = some t ∧ t.isSharedReplay ∧
      (∀ w, ⟨w, .table id .boot⟩ ∈ o.sent ↔ w ∈ t.watchers) ∧
      ∀ w ∈ t.watchers, (∃ r, o.hall.table? id = some r ∧ r.isWatching w.user) ↔
        w.user ≠ s.user ∧ w.name ∉ t.roster := by
  intro o
  have hr : (after limits variants ops).Reachable :=
    reachable_iff_after.2 ⟨limits, variants, ops, rfl⟩
  cases hplan : (after limits variants ops).rematchPlan s id with
  | error e =>
    have hcut := passed e (by rw [rematch_eq_refuse hplan]; rfl)
    rw [isCutShort_of_rematchPlan hplan] at hcut
    cases hcut
  | ok t =>
    obtain ⟨here, hshared, -⟩ := rematchPlan_eq_ok hplan
    obtain ⟨-, -, hw⟩ := replay_of_plan hr.sound hplan
    refine ⟨t, here, hshared, boot_mem_sent_iff hr.sound hplan luck, fun w hmem => ?_⟩
    have hwatching : t.isWatching w.user :=
      Table.isWatching_iff.2 (List.mem_map_of_mem hmem)
    rw [watching_rematch_iff hr hplan, mem_rematchUsers_iff hw hmem, and_iff_right hwatching,
      not_or]

/-- Alice and Bob go to their new table. -/
theorem booted_of_rematch_of_two :
    let alice : Session := ⟨⟨1⟩, "Alice", 0⟩
    let bob : Session := ⟨⟨2⟩, "Bob", 1⟩
    let options : Options := ⟨"No Variant", false, 0, 0, false, false, false, false⟩
    let ops : List (Luck × Operation) :=
      [(⟨0, 0⟩, .openReplay alice "one" [(⟨1⟩, "Alice"), (⟨2⟩, "Bob")] options true),
        (⟨0, 0⟩, .command bob (.watch ⟨1⟩))]
    let o := (after ⟨6, 2⟩ ["No Variant"] ops).rematch ⟨0, 0⟩ alice ⟨1⟩
    o.result = .ok ⟨2⟩ ∧ ⟨bob, .table ⟨1⟩ .boot⟩ ∈ o.sent ∧
      ¬∃ r, o.hall.table? ⟨1⟩ = some r ∧ r.isWatching bob.user := by
  intro alice bob options ops o
  have hok : o.result = .ok ⟨2⟩ := by decide +kernel
  have passed : ∀ e, o.result = .error e → e.isCutShort := by
    intro e he
    rw [hok] at he
    cases he
  obtain ⟨t, here, -, hbooted, hgone⟩ :=
    booted_of_rematch ⟨6, 2⟩ ["No Variant"] ops ⟨0, 0⟩ alice ⟨1⟩ passed
  let replay : Table :=
    { Table.review ⟨1⟩ "one" [(⟨1⟩, "Alice"), (⟨2⟩, "Bob")] alice options true with
      watchers := [alice, bob] }
  have hreplay : (after ⟨6, 2⟩ ["No Variant"] ops).table? ⟨1⟩ = some replay := by decide +kernel
  obtain rfl : t = replay := Option.some.inj (here.symm.trans hreplay)
  have hbob : bob ∈ replay.watchers := by decide
  refine ⟨hok, (hbooted bob).2 hbob, fun hstays => ?_⟩
  exact absurd ((hgone bob hbob).1 hstays).2 (by decide)

/-- Carol is told to leave and watches still, by herself. -/
theorem booted_and_watching :
    let alice : Session := ⟨⟨1⟩, "Alice", 0⟩
    let bob : Session := ⟨⟨2⟩, "Bob", 1⟩
    let carol : Session := ⟨⟨3⟩, "Carol", 2⟩
    let options : Options := ⟨"No Variant", false, 0, 0, false, false, false, false⟩
    let h := after ⟨6, 2⟩ ["No Variant"]
      [(⟨0, 0⟩, .openReplay alice "replay" [(⟨1⟩, "Alice"), (⟨2⟩, "Bob")] options true),
        (⟨0, 0⟩, .command bob (.watch ⟨1⟩)), (⟨0, 0⟩, .command carol (.watch ⟨1⟩))]
    let o := h.rematch ⟨0, 0⟩ alice ⟨1⟩
    o.result = .ok ⟨2⟩ ∧ ⟨carol, .table ⟨1⟩ .boot⟩ ∈ o.sent ∧
      ∃ r, o.hall.table? ⟨1⟩ = some r ∧ r.watchers = [carol] := by
  intro alice bob carol options h o
  let left : Table :=
    { Table.review ⟨1⟩ "replay" [(⟨1⟩, "Alice"), (⟨2⟩, "Bob")] alice options true with
      owner := ⟨3⟩
      watchers := [carol] }
  refine ⟨?_, ?_, left, ?_, rfl⟩
  · decide +kernel
  · decide +kernel
  · decide +kernel

end Hall

end GameHall
