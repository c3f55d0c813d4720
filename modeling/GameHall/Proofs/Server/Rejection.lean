import GameHall.Proofs.Hall.Change
import GameHall.Server

/-!
# Rejections change nothing

An operation makes all its checks before its first change. The exception is a rematch, which may
stop part-way and then says so: its error is a `Rejection.cutShort`.

* `perform_clean`: any other error of an operation leaves the hall as it was and sends nothing.
* `rejection_changes_nothing` is the same for servers. The session whose command is rejected gets one
  notice, with the wording of the error, and whoever is warned can rely on it that nothing changed.
-/

namespace GameHall

theorem Rejection.isCutShort_of_severity {e : Rejection} (hw : e.severity = .warning) :
    e.isCutShort = false := by
  cases e with
  | cutShort => cases hw
  | _ => rfl

/-- Whether a message is a notice. -/
def Message.isNotice : Message → Bool
  | .notice .. => true
  | _ => false

namespace Outcome

variable {ε δ α β : Type} {h : Hall} {o : Outcome ε α}

/-! ## Stopping part-way -/

/-- If the outcome is an error, a rematch stopped part-way. -/
def StopsPartway (o : Outcome Rejection α) : Prop :=
  ∀ e, o.result = .error e → e.isCutShort

theorem stopsPartway_mapError {f : ε → Rejection} (hf : ∀ e, (f e).isCutShort) :
    (o.mapError f).StopsPartway :=
  FailsAs.mapError fun e _ => hf e

/-! ## Clean errors -/

/-- An error means that nothing happened, unless a rematch stopped part-way. -/
def Clean (h : Hall) (o : Outcome Rejection α) : Prop :=
  ∀ e, o.result = .error e → e.isCutShort = false → o = h.refuse e

theorem Clean.map {o : Outcome Rejection α} (ho : o.Clean h) (f : α → β) : (o.map f).Clean h :=
  fun e he hc => by
    rw [ho e (result_map_eq_error.1 he) hc]
    rfl

/-- Where every error is a refusal, every error is clean. -/
theorem clean_passOn {o : Outcome Refusal α} (ho : ∀ e, o.result = .error e → o = h.refuse e)
    (answer : α → Answer) : (o.passOn answer).Clean h := fun e he _ => by
  obtain ⟨r, hr, rfl⟩ := result_mapError_eq_error.1 (result_map_eq_error.1 he)
  rw [ho r hr]
  rfl

theorem AtOnce.clean {o : Outcome Rejection α} (ho : o.AtOnce h) : o.Clean h :=
  fun _ he _ => ho.eq_refuse he

theorem AtOnce.clean_passOn {o : Outcome Refusal α} (ho : o.AtOnce h) (answer : α → Answer) :
    (o.passOn answer).Clean h :=
  Outcome.clean_passOn (fun _ => ho.eq_refuse) answer

end Outcome

namespace Hall

open Outcome

variable {h h' : Hall}

/-! ## Rematches -/

theorem stopsPartway_playAgain (h : Hall) (luck : Luck) (s : Session) (t : Table) :
    (h.playAgain luck s t).StopsPartway := by
  have hleave := (chain_leaveReplay t.id).failsAs fun _ _ => stopsPartway_mapError fun _ => rfl
  have hseat := fun id => (chain_seatAll id).failsAs fun _ _ => stopsPartway_mapError fun _ => rfl
  exact FailsAs.andThen (hleave h _) fun _ _ =>
    FailsAs.andThen (stopsPartway_mapError fun _ => rfl) fun h id =>
      FailsAs.andThen (hseat id h _) fun _ _ => FailsAs.map (stopsPartway_mapError fun _ => rfl) _

/-- The checks of a rematch come before everyone is sent away. -/
theorem clean_rematch (h : Hall) (luck : Luck) (s : Session) (id : TableId) :
    (h.rematch luck s id).Clean h := by
  intro e he hc
  simp only [rematch] at he ⊢
  split at he
  · rw [Except.error.inj he]
  · rename_i t hplan
    rw [stopsPartway_playAgain h luck s t e he] at hc
    cases hc

/-! ## Operations -/

theorem Opens.clean_passOn {s : Session} {o : Outcome Refusal TableId} (ho : h.Opens s o)
    (answer : TableId → Answer) : (o.passOn answer).Clean h := by
  refine Outcome.clean_passOn (fun e he => eq_refuse_of_error (ho.imp_right ?_) he) answer
  rintro ⟨t, -, rfl⟩
  exact ⟨t.id, rfl⟩

theorem obey_clean (h : Hall) (luck : Luck) (s : Session) (c : Command) :
    (h.obey luck s c).Clean h := by
  cases c with
  | openTable name options => exact (opens_openTable h s name options).clean_passOn _
  | join id => exact (atOnce_join h s id).clean_passOn _
  | leave id => exact (atOnce_leave h s.user id).clean_passOn _
  | watch id => exact (atOnce_watch h s id).clean_passOn _
  | stopWatching id => exact (atOnce_stopWatching h s.user id).clean_passOn _
  | passLead id name => exact (atOnce_passLead h s id name).clean.map _
  | start id => exact (atOnce_start h luck.deal s.user id).clean.map _
  | rematch id => exact (clean_rematch h luck s id).map _

/-- **An operation that fails has done nothing**, unless a rematch stopped part-way. -/
theorem perform_clean (h : Hall) (luck : Luck) (op : Operation) : (h.perform luck op).Clean h := by
  cases op with
  | command s c => exact obey_clean h luck s c
  | openReplay s name roster options visible =>
    exact (opens_openReplay h s name roster options visible).clean_passOn _
  | disconnect u =>
    refine clean_passOn (fun e he => ?_) _
    rw [disconnect, result_withdrawAll] at he
    cases he
  | checkSeating users => exact (atOnce_checkSeating h users).clean_passOn _
  | windDown => exact fun e he => by cases he

/-! ## Notices -/

theorem not_isNotice_of_mem_announce {t : Table} {news : News} {d : Delivery}
    (hd : d ∈ t.announce news) : d.message.isNotice = false := by
  obtain ⟨s, -, rfl⟩ := List.mem_map.1 hd
  rfl

theorem not_isNotice_of_mem_say {t : Table} {text : String} {d : Delivery}
    (hd : d ∈ t.say text) : d.message.isNotice = false := by
  obtain ⟨s, -, rfl⟩ := List.mem_map.1 hd
  rfl

theorem Act.not_isNotice {t t' : Table} {m : List Delivery} (a : h.Act t m t') {d : Delivery}
    (hd : d ∈ m) : d.message.isNotice = false := by
  cases a with
  | passLead =>
    simp only [Table.leadNews] at hd
    split at hd
    · exact not_isNotice_of_mem_announce hd
    · exact not_isNotice_of_mem_say hd
    · rcases List.mem_append.1 hd with hd | hd
      · exact not_isNotice_of_mem_announce hd
      · exact not_isNotice_of_mem_say hd
  | start => exact not_isNotice_of_mem_announce hd

/-- A change is told to those at its table, never by a notice. -/
theorem Change.not_isNotice {o : Option Table} {m : List Delivery} (c : h.Change o m h')
    {d : Delivery} (hd : d ∈ m) : d.message.isNotice = false := by
  cases c with
  | arrives => exact not_isNotice_of_mem_announce hd
  | departs =>
    obtain ⟨news, -, hd⟩ := List.mem_flatMap.1 hd
    exact not_isNotice_of_mem_announce hd
  | acts _ a => exact a.not_isNotice hd
  | boots => exact not_isNotice_of_mem_announce hd
  | opens | deserts | windsDown => cases hd

theorem Changes.not_isNotice {ts : List Table} {m : List Delivery} (cs : Changes h ts m h')
    {d : Delivery} (hd : d ∈ m) : d.message.isNotice = false := by
  induction cs with
  | none => cases hd
  | cons c _ ih =>
    rcases List.mem_append.1 hd with hd | hd
    · exact c.not_isNotice hd
    · exact ih hd

theorem not_isNotice_of_mem_perform {luck : Luck} {op : Operation} {d : Delivery}
    (hd : d ∈ (h.perform luck op).sent) : d.message.isNotice = false := by
  obtain ⟨ts, hts, -⟩ := perform_changes h luck op
  exact Changes.not_isNotice hts hd

end Hall

namespace Server

variable {srv : Server} {luck : Luck}

/-! ## Servers -/

theorem perform_of_rejected {op : Operation} {e : Rejection}
    (he : (srv.perform luck op).result = .error e) (hc : e.isCutShort = false) :
    (srv.perform luck op).server = srv ∧ (srv.perform luck op).sent = [] := by
  simp only [perform, ask] at he ⊢
  by_cases hstop : srv.stopped
  · simp only [if_pos hstop, and_self]
  · simp only [if_neg hstop] at he ⊢
    rw [Hall.perform_clean _ _ _ e he hc]
    exact ⟨rfl, rfl⟩

theorem handle_of_ok {s : Session} {c : Command} {a : Answer}
    (ha : (srv.perform luck (.command s c)).result = .ok a) :
    srv.handle luck s c =
      ⟨(srv.perform luck (.command s c)).server, (srv.perform luck (.command s c)).sent, .ok ()⟩ := by
  simp only [handle, ha]

theorem handle_of_error {s : Session} {c : Command} {e : Rejection}
    (he : (srv.perform luck (.command s c)).result = .error e) :
    srv.handle luck s c =
      ⟨(srv.perform luck (.command s c)).server,
        (srv.perform luck (.command s c)).sent ++ [e.notice s], .error e⟩ := by
  simp only [handle, he]

theorem handle_of_rejected {s : Session} {c : Command} {e : Rejection}
    (he : (srv.handle luck s c).result = .error e) (hc : e.isCutShort = false) :
    (srv.handle luck s c).server = srv ∧ (srv.handle luck s c).sent = [e.notice s] := by
  cases hr : (srv.perform luck (.command s c)).result with
  | ok a =>
    rw [handle_of_ok hr] at he
    cases he
  | error e' =>
    rw [handle_of_error hr] at he ⊢
    cases he
    obtain ⟨hsrv, hsent⟩ := perform_of_rejected hr hc
    rw [hsrv, hsent]
    exact ⟨rfl, rfl⟩

theorem not_isNotice_of_mem_perform {op : Operation} {d : Delivery}
    (hd : d ∈ (srv.perform luck op).sent) : d.message.isNotice = false := by
  simp only [perform, ask] at hd
  split at hd
  · cases hd
  · exact Hall.not_isNotice_of_mem_perform hd

/-- A notice is sent for an error only. -/
theorem eq_notice_of_mem_handle {s : Session} {c : Command} {d : Delivery}
    (hd : d ∈ (srv.handle luck s c).sent) (hn : d.message.isNotice) :
    ∃ e, (srv.handle luck s c).result = .error e ∧ d = e.notice s := by
  cases hr : (srv.perform luck (.command s c)).result with
  | ok a =>
    rw [handle_of_ok hr] at hd
    exact absurd hn (by simp [not_isNotice_of_mem_perform hd])
  | error e =>
    rw [handle_of_error hr] at hd ⊢
    refine ⟨e, rfl, ?_⟩
    rcases List.mem_append.1 hd with hd | hd
    · exact absurd hn (by simp [not_isNotice_of_mem_perform hd])
    · exact List.mem_singleton.1 hd

/-- **Rejections change nothing.** An operation that fails, unless as a rematch that stopped
part-way, leaves the server as it was and sends nothing; a session whose command is rejected so gets
one notice; and where a warning is sent, it is all that happened. -/
theorem rejection_changes_nothing (srv : Server) (luck : Luck) :
    (∀ op e, (srv.perform luck op).result = .error e → e.isCutShort = false →
      (srv.perform luck op).server = srv ∧ (srv.perform luck op).sent = []) ∧
    (∀ s c e, (srv.handle luck s c).result = .error e → e.isCutShort = false →
      (srv.handle luck s c).server = srv ∧
        (srv.handle luck s c).sent = [⟨s, .notice e.severity e.message⟩]) ∧
    ∀ s c d text, d ∈ (srv.handle luck s c).sent → d.message = .notice .warning text →
      (srv.handle luck s c).server = srv ∧ (srv.handle luck s c).sent = [d] := by
  refine ⟨fun op e => perform_of_rejected, fun s c e => handle_of_rejected,
    fun s c d text hd hw => ?_⟩
  obtain ⟨e, he, rfl⟩ := eq_notice_of_mem_handle hd (by rw [hw]; rfl)
  have hseverity : e.severity = .warning := (Message.notice.inj hw).1
  exact handle_of_rejected he (Rejection.isCutShort_of_severity hseverity)

/-- A player who is not the leader may not start the game, and is told so. -/
theorem rejection_changes_nothing_at_start :
    let alice : Session := ⟨⟨1⟩, "Alice", 0⟩
    let bob : Session := ⟨⟨2⟩, "Bob", 1⟩
    let options : Options := ⟨"No Variant", false, 0, 0, false, false, false, false⟩
    let untwisted : Rules.Twists :=
      ⟨false, false, false, false, false, false, false, false, false, false⟩
    let plain : Rules.Variant :=
      ⟨"No Variant", 0, [], [], [], [], Rules.noSpecialRank, untwisted, false, false, 0⟩
    let opened := (ofBook .standard ⟨[plain], plain⟩).perform ⟨0, 0⟩
      (.command alice (.openTable "one" options))
    let srv := (opened.server.perform ⟨0, 0⟩ (.command bob (.join ⟨1⟩))).server
    let told : Delivery := ⟨bob, .notice .warning "Only the table leader can do that."⟩
    (srv.perform ⟨0, 0⟩ (.command bob (.start ⟨1⟩))).result = .error .notLeader ∧
      (srv.perform ⟨0, 0⟩ (.command bob (.start ⟨1⟩))).server = srv ∧
      (srv.perform ⟨0, 0⟩ (.command bob (.start ⟨1⟩))).sent = [] ∧
      (srv.handle ⟨0, 0⟩ bob (.start ⟨1⟩)).result = .error .notLeader ∧
      (srv.handle ⟨0, 0⟩ bob (.start ⟨1⟩)).sent = [told] ∧
      told ∈ (srv.handle ⟨0, 0⟩ bob (.start ⟨1⟩)).sent ∧
      (srv.handle ⟨0, 0⟩ bob (.start ⟨1⟩)).server = srv := by
  intro alice bob options untwisted plain opened srv told
  obtain ⟨hperform, hhandle, hwarned⟩ := rejection_changes_nothing srv ⟨0, 0⟩
  have hr : (srv.perform ⟨0, 0⟩ (.command bob (.start ⟨1⟩))).result = .error .notLeader := by
    decide +kernel
  have hh : (srv.handle ⟨0, 0⟩ bob (.start ⟨1⟩)).result = .error .notLeader := by decide +kernel
  obtain ⟨hsrv, hsent⟩ := hperform (.command bob (.start ⟨1⟩)) .notLeader hr rfl
  have htold := (hhandle bob (.start ⟨1⟩) .notLeader hh rfl).2
  have hmem : told ∈ (srv.handle ⟨0, 0⟩ bob (.start ⟨1⟩)).sent := htold ▸ List.mem_singleton_self _
  exact ⟨hr, hsrv, hsent, hh, htold, hmem, (hwarned bob (.start ⟨1⟩) told _ hmem rfl).1⟩

end Server

end GameHall
