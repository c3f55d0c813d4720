import GameHall.Hall.Request
import GameHall.Proofs.Hall.Change

/-!
# What a hall itself refuses

A hall has reasons of its own to refuse, and none of them is that its worker takes no more requests
or has not answered. `refuses_serve` says so of requests and `rejects_perform` of operations, where
the reason may lie under the step that ended a rematch (`Rejection.refusal?`).
-/

namespace GameHall

/-- Whether a refusal is one of the hall's own, and not one of its worker's. -/
def Refusal.isOwn : Refusal → Bool
  | closed _ | noAnswer => false
  | _ => true

/-- The refusal for which something was rejected, if there is one. -/
def Rejection.refusal? : Rejection → Option Refusal
  | refused r => some r
  | cutShort _ source => source.refusal?
  | _ => none

/-- Whether the hall itself rejected. -/
def Rejection.IsOwn (e : Rejection) : Prop := ∀ r, e.refusal? = some r → r.isOwn

theorem Rejection.isOwn_ofRefusal {r : Refusal} (hr : r.isOwn) : (ofRefusal r).IsOwn := by
  cases r <;> simp_all [IsOwn, ofRefusal, refusal?]

theorem Rejection.isOwn_of_none {e : Rejection} (he : e.refusal? = none) : e.IsOwn :=
  fun r hr => by simp [he] at hr

namespace Outcome

variable {α : Type}

/-- If the outcome is an error, the hall itself refused. -/
abbrev Refuses (o : Outcome Refusal α) : Prop := o.FailsAs fun r => r.isOwn

/-- If the outcome is an error, the hall itself rejected. -/
abbrev Rejects (o : Outcome Rejection α) : Prop := o.FailsAs Rejection.IsOwn

theorem Refuses.passOn {o : Outcome Refusal α} (ho : o.Refuses) (answer : α → Answer) :
    (o.passOn answer).Rejects :=
  (FailsAs.mapError fun r hr => Rejection.isOwn_ofRefusal (ho r hr)).map answer

end Outcome

namespace Hall

open Outcome

variable {h : Hall} {s : Session} {u : UserId} {id : TableId} {t : Table} {r : Refusal}

/-! ## Requests -/

theorem isOwn_of_openingObstacle? {name : String} {options : Options}
    (hr : h.openingObstacle? name options = some r) : r.isOwn := by
  simp only [openingObstacle?] at hr
  repeat' split at hr
  all_goals cases hr
  all_goals rfl

theorem isOwn_of_seatingObstacle? {users : List UserId}
    (hr : h.seatingObstacle? users = some r) : r.isOwn := by
  simp only [seatingObstacle?] at hr
  split at hr
  · cases hr
    rfl
  · obtain ⟨p, -, rfl⟩ := Option.map_eq_some_iff.1 hr
    rfl

theorem isOwn_of_joinObstacle? (hr : h.joinObstacle? u t = some r) : r.isOwn := by
  simp only [joinObstacle?] at hr
  repeat' split at hr
  all_goals cases hr
  all_goals rfl

theorem isOwn_of_leaveObstacle? (hr : leaveObstacle? u t = some r) : r.isOwn := by
  simp only [leaveObstacle?] at hr
  repeat' split at hr
  all_goals cases hr
  all_goals rfl

theorem isOwn_of_watchObstacle? (hr : watchObstacle? u t = some r) : r.isOwn := by
  simp only [watchObstacle?] at hr
  repeat' split at hr
  all_goals cases hr
  all_goals rfl

theorem refuses_openTable (h : Hall) (s : Session) (name : String) (options : Options) :
    (h.openTable s name options).Refuses := by
  unfold openTable
  split
  · exact failsAs_refuse (isOwn_of_openingObstacle? ‹_›)
  · split
    · exact failsAs_refuse rfl
    · exact failsAs_of_ok rfl

theorem refuses_openReplay (h : Hall) (s : Session) (name : String)
    (roster : List (UserId × String)) (options : Options) (visible : Bool) :
    (h.openReplay s name roster options visible).Refuses := by
  unfold openReplay
  split
  · exact failsAs_refuse (isOwn_of_openingObstacle? ‹_›)
  · split
    · exact failsAs_refuse rfl
    · exact failsAs_of_ok rfl

theorem refuses_join (h : Hall) (s : Session) (id : TableId) : (h.join s id).Refuses := by
  unfold join
  split
  · exact failsAs_refuse rfl
  · split
    · split
      · exact failsAs_refuse rfl
      · exact failsAs_of_ok rfl
    · split
      · exact failsAs_refuse (isOwn_of_joinObstacle? ‹_›)
      · exact failsAs_of_ok rfl

theorem refuses_leave (h : Hall) (u : UserId) (id : TableId) : (h.leave u id).Refuses := by
  unfold leave
  split
  · exact failsAs_refuse rfl
  · split
    · exact failsAs_refuse (isOwn_of_leaveObstacle? ‹_›)
    · exact failsAs_of_ok (result_depart ..)

theorem refuses_watch (h : Hall) (s : Session) (id : TableId) : (h.watch s id).Refuses := by
  unfold watch
  split
  · exact failsAs_refuse rfl
  · split
    · exact failsAs_refuse (isOwn_of_watchObstacle? ‹_›)
    · exact failsAs_of_ok rfl

theorem refuses_stopWatching (h : Hall) (u : UserId) (id : TableId) :
    (h.stopWatching u id).Refuses := by
  unfold stopWatching
  split
  · exact failsAs_refuse rfl
  · split
    · exact failsAs_of_ok (result_depart ..)
    · exact failsAs_refuse rfl

theorem refuses_checkSeating (h : Hall) (users : List UserId) :
    (h.checkSeating users).Refuses := by
  unfold checkSeating
  split
  · exact failsAs_refuse (isOwn_of_seatingObstacle? ‹_›)
  · exact failsAs_of_ok rfl

/-- **A request fails** for a reason of the hall's own. -/
theorem refuses_serve (h : Hall) (r : HallRequest) : (h.serve r).Refuses := by
  cases r with
  | openTable s name options => exact refuses_openTable h s name options
  | openReplay s name roster options visible =>
    exact refuses_openReplay h s name roster options visible
  | find | listings | tablesOf | windDown => exact failsAs_of_ok rfl
  | join s id => exact refuses_join h s id
  | leave u id => exact refuses_leave h u id
  | watch s id => exact refuses_watch h s id
  | stopWatching u id => exact refuses_stopWatching h u id
  | disconnect u => exact failsAs_of_ok (result_withdrawAll h u _)
  | checkSeating users => exact refuses_checkSeating h users

/-! ## Operations -/

theorem refusal?_of_heirOrRejection {name : String} {e : Rejection}
    (he : heirOrRejection s t name = .error e) : e.refusal? = none := by
  simp only [heirOrRejection] at he
  repeat' split at he
  all_goals cases he
  all_goals rfl

theorem refusal?_of_startObstacle? {e : Rejection} (he : h.startObstacle? u t = some e) :
    e.refusal? = none := by
  simp only [startObstacle?] at he
  repeat' split at he
  all_goals cases he
  all_goals rfl

theorem isOwn_of_rematchPlan {e : Rejection} (he : h.rematchPlan s id = .error e) : e.IsOwn := by
  simp only [rematchPlan] at he
  repeat' split at he
  all_goals cases he
  all_goals first
    | exact Rejection.isOwn_of_none rfl
    | exact Rejection.isOwn_ofRefusal (isOwn_of_seatingObstacle? ‹_›)

theorem rejects_passLead (h : Hall) (s : Session) (id : TableId) (name : String) :
    (h.passLead s id name).Rejects := by
  unfold passLead
  split
  · exact failsAs_refuse (Rejection.isOwn_of_none rfl)
  · split
    · exact failsAs_refuse (Rejection.isOwn_of_none (refusal?_of_heirOrRejection ‹_›))
    · exact failsAs_of_ok rfl

theorem rejects_start (h : Hall) (luck : Nat) (u : UserId) (id : TableId) :
    (h.start luck u id).Rejects := by
  unfold start
  split
  · exact failsAs_refuse (Rejection.isOwn_of_none rfl)
  · split
    · exact failsAs_refuse (Rejection.isOwn_of_none (refusal?_of_startObstacle? ‹_›))
    · exact failsAs_of_ok rfl

/-- A step of a rematch fails for the reason of what is done in it. -/
theorem rejects_incomplete {α : Type} {o : Outcome Refusal α} (ho : o.Refuses)
    (step : RematchStep) :
    (o.mapError (incomplete step)).Rejects :=
  FailsAs.mapError fun r hr => Rejection.isOwn_ofRefusal (ho r hr)

theorem rejects_playAgain (h : Hall) (luck : Luck) (s : Session) (t : Table) :
    (h.playAgain luck s t).Rejects := by
  have hleave := (chain_leaveReplay t.id).failsAs fun h u =>
    rejects_incomplete ((refuses_stopWatching h u t.id).forgive goneAlready) .leavingReplay
  have hseat := fun id => (chain_seatAll id).failsAs fun h w =>
    rejects_incomplete ((refuses_join h w id).forgive thereAlready) .seatingPlayers
  have hstart : ∀ (h : Hall) id,
      ((h.start luck.deal s.user id).mapError (.cutShort .startingGame)).Rejects :=
    fun h id => FailsAs.mapError (rejects_start h luck.deal s.user id)
  exact (hleave h _).andThen fun h _ =>
    (rejects_incomplete (refuses_openTable h s _ _) .openingTable).andThen fun h id =>
      (hseat id h _).andThen fun h _ => (hstart h id).map _

theorem rejects_rematch (h : Hall) (luck : Luck) (s : Session) (id : TableId) :
    (h.rematch luck s id).Rejects := by
  unfold rematch
  split
  · exact failsAs_refuse (isOwn_of_rematchPlan ‹_›)
  · exact rejects_playAgain h luck s _

theorem rejects_obey (h : Hall) (luck : Luck) (s : Session) (c : Command) :
    (h.obey luck s c).Rejects := by
  cases c with
  | openTable name options => exact (refuses_openTable h s name options).passOn _
  | join id => exact (refuses_join h s id).passOn _
  | leave id => exact (refuses_leave h s.user id).passOn _
  | watch id => exact (refuses_watch h s id).passOn _
  | stopWatching id => exact (refuses_stopWatching h s.user id).passOn _
  | passLead id name => exact (rejects_passLead h s id name).map _
  | start id => exact (rejects_start h luck.deal s.user id).map _
  | rematch id => exact (rejects_rematch h luck s id).map _

/-- **An operation fails** for a reason of the hall's own, also where a rematch stops part-way. -/
theorem rejects_perform (h : Hall) (luck : Luck) (op : Operation) :
    (h.perform luck op).Rejects := by
  cases op with
  | command s c => exact rejects_obey h luck s c
  | openReplay s name roster options visible =>
    exact (refuses_openReplay h s name roster options visible).passOn _
  | disconnect u => exact (refuses_serve h (.disconnect u)).passOn _
  | checkSeating users => exact (refuses_checkSeating h users).passOn _
  | windDown => exact (refuses_serve h .windDown).passOn _

end Hall

end GameHall
