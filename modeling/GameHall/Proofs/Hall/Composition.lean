import GameHall.Hall.Operation
import Mathlib.Tactic.Common

/-!
# One thing after another

An operation that goes through several steps leaves one hall behind and sends one list of messages.
What is said of it is a relation between the hall before, what is sent, and the hall afterwards.

* `Hall.Composes R` says that such a relation holds where nothing happens, and of one thing after
  another where it holds of each.
* `Hall.Chain` says that an operation does one step for every entry of a list. What composes and
  holds of every step holds of the chain.
* `Outcome.FailsAs P` says the same of the error with which an operation may end.
-/

namespace GameHall

namespace Hall

/-- A relation between a hall, what is sent and the hall afterwards that holds where nothing happens
and of two things done one after the other if it holds of each. -/
structure Composes (R : Hall → List Delivery → Hall → Prop) : Prop where
  nothing : ∀ h, R h [] h
  append : ∀ {h k h' : Hall} {m n : List Delivery}, R h m k → R k n h' → R h (m ++ n) h'

/-- What holds of every message composes. -/
theorem composes_messages (P : Delivery → Prop) : Composes fun _ m _ => ∀ d ∈ m, P d where
  nothing := fun _ _ hd => absurd hd List.not_mem_nil
  append := fun hm hn d hd => (List.mem_append.1 hd).elim (hm d) (hn d)

/-- An operation that does a step for every entry of a list and ends with the first that fails. -/
structure Chain {ε α : Type} (step : Hall → α → Outcome ε Unit)
    (all : Hall → List α → Outcome ε Unit) : Prop where
  nil : ∀ h, all h [] = h.done
  cons : ∀ h a as, all h (a :: as) = (step h a).andThen fun k _ => all k as

theorem chain_withdrawAll (u : UserId) :
    Chain (fun h id => h.withdraw u id) fun h ids => h.withdrawAll u ids :=
  ⟨fun _ => rfl, fun _ _ _ => rfl⟩

theorem chain_leaveReplay (id : TableId) :
    Chain
      (fun h u => ((h.stopWatching u id).forgive goneAlready).mapError (incomplete .leavingReplay))
      fun h us => h.leaveReplay id us :=
  ⟨fun _ => rfl, fun _ _ _ => rfl⟩

theorem chain_seatAll (id : TableId) :
    Chain (fun h s => ((h.join s id).forgive thereAlready).mapError (incomplete .seatingPlayers))
      fun h ss => h.seatAll id ss :=
  ⟨fun _ => rfl, fun _ _ _ => rfl⟩

end Hall

namespace Outcome

open Hall

variable {ε δ α β : Type} {R : Hall → List Delivery → Hall → Prop} {h : Hall} {o : Outcome ε α}
  {next : Hall → α → Outcome ε β} {a : α} {e : ε}

theorem hall_andThen_of_ok (hr : o.result = .ok a) :
    (o.andThen next).hall = (next o.hall a).hall := by
  simp only [andThen, hr]

theorem sent_andThen_of_ok (hr : o.result = .ok a) :
    (o.andThen next).sent = o.sent ++ (next o.hall a).sent := by
  simp only [andThen, hr]

theorem result_andThen_of_ok (hr : o.result = .ok a) :
    (o.andThen next).result = (next o.hall a).result := by
  simp only [andThen, hr]

theorem hall_andThen_of_error (hr : o.result = .error e) : (o.andThen next).hall = o.hall := by
  simp only [andThen, hr]

theorem sent_andThen_of_error (hr : o.result = .error e) : (o.andThen next).sent = o.sent := by
  simp only [andThen, hr]

theorem result_andThen_of_error (hr : o.result = .error e) :
    (o.andThen next).result = .error e := by
  simp only [andThen, hr]

theorem hall_forgive (harmless : ε → Bool) (o : Outcome ε Unit) :
    (o.forgive harmless).hall = o.hall := by
  unfold Outcome.forgive
  split
  · rfl
  · split <;> rfl

theorem sent_forgive (harmless : ε → Bool) (o : Outcome ε Unit) :
    (o.forgive harmless).sent = o.sent := by
  unfold Outcome.forgive
  split
  · rfl
  · split <;> rfl

theorem result_mapError_eq_error {f : ε → δ} {d : δ} :
    (o.mapError f).result = .error d ↔ ∃ e, o.result = .error e ∧ f e = d := by
  rw [Outcome.mapError]
  cases o.result <;> simp [Except.mapError]

theorem result_map_eq_error {f : α → β} {e : ε} :
    (o.map f).result = .error e ↔ o.result = .error e := by
  rw [Outcome.map]
  cases o.result <;> simp [Except.map]

theorem result_andThen_eq_error (he : (o.andThen next).result = .error e) :
    o.result = .error e ∨ ∃ a, (next o.hall a).result = .error e := by
  simp only [Outcome.andThen] at he
  cases hr : o.result with
  | error e' =>
    rw [hr] at he
    cases he
    exact .inl rfl
  | ok a =>
    rw [hr] at he
    exact .inr ⟨a, he⟩

/-! ## Errors -/

/-- If the outcome is an error, then one of this kind. -/
def FailsAs (P : ε → Prop) (o : Outcome ε α) : Prop := ∀ e, o.result = .error e → P e

variable {P : ε → Prop}

theorem failsAs_of_ok (hr : o.result = .ok a) : o.FailsAs P := fun e he => by
  rw [hr] at he
  cases he

theorem failsAs_refuse {h : Hall} (he : P e) : (h.refuse e : Outcome ε α).FailsAs P :=
  fun _ h => Except.error.inj h ▸ he

theorem FailsAs.mapError {Q : δ → Prop} {f : ε → δ} (ho : o.FailsAs fun e => Q (f e)) :
    (o.mapError f).FailsAs Q := fun d hd => by
  obtain ⟨e, he, rfl⟩ := result_mapError_eq_error.1 hd
  exact ho e he

theorem FailsAs.map (ho : o.FailsAs P) (f : α → β) : (o.map f).FailsAs P :=
  fun e he => ho e (result_map_eq_error.1 he)

theorem FailsAs.andThen (ho : o.FailsAs P) (hn : ∀ h a, (next h a).FailsAs P) :
    (o.andThen next).FailsAs P := fun e he => by
  rcases result_andThen_eq_error he with he | ⟨a, he⟩
  · exact ho e he
  · exact hn _ a e he

theorem FailsAs.forgive {o : Outcome ε Unit} (ho : o.FailsAs P) (harmless : ε → Bool) :
    (o.forgive harmless).FailsAs P := by
  unfold Outcome.forgive
  split
  · exact ho
  · split
    · exact failsAs_of_ok rfl
    · exact ho

/-- A relation holds of an outcome. -/
def Meets (R : Hall → List Delivery → Hall → Prop) (h : Hall) (o : Outcome ε α) : Prop :=
  R h o.sent o.hall

theorem Meets.mapError (ho : o.Meets R h) (f : ε → δ) : (o.mapError f).Meets R h := ho

theorem Meets.map (ho : o.Meets R h) (f : α → β) : (o.map f).Meets R h := ho

theorem Meets.passOn {o : Outcome Refusal α} (ho : o.Meets R h) (answer : α → Answer) :
    (o.passOn answer).Meets R h := ho

theorem Meets.forgive {o : Outcome ε Unit} (ho : o.Meets R h) (harmless : ε → Bool) :
    (o.forgive harmless).Meets R h := by
  unfold Meets
  rw [sent_forgive, hall_forgive]
  exact ho

end Outcome

namespace Hall

open Outcome

/-- **What ends a chain** is an error of one of its steps. -/
theorem Chain.failsAs {ε α : Type} {P : ε → Prop} {step : Hall → α → Outcome ε Unit}
    {all : Hall → List α → Outcome ε Unit} (c : Chain step all)
    (hstep : ∀ h a, (step h a).FailsAs P) (h : Hall) (as : List α) : (all h as).FailsAs P := by
  induction as generalizing h with
  | nil =>
    rw [c.nil]
    exact failsAs_of_ok rfl
  | cons a as ih =>
    rw [c.cons]
    exact (hstep h a).andThen fun h _ => ih h

variable {ε α β : Type} {R : Hall → List Delivery → Hall → Prop} (hR : Composes R) {h : Hall}

include hR

theorem Composes.refuse (e : ε) : (h.refuse e : Outcome ε α).Meets R h := hR.nothing h

theorem Composes.done : (h.done : Outcome ε Unit).Meets R h := hR.nothing h

theorem Composes.andThen {o : Outcome ε α} {next : Hall → α → Outcome ε β} (ho : o.Meets R h)
    (hn : ∀ a, o.result = .ok a → (next o.hall a).Meets R o.hall) : (o.andThen next).Meets R h := by
  unfold Meets
  cases hr : o.result with
  | error e =>
    rw [sent_andThen_of_error hr, hall_andThen_of_error hr]
    exact ho
  | ok a =>
    rw [sent_andThen_of_ok hr, hall_andThen_of_ok hr]
    exact hR.append ho (hn a hr)

/-- **What holds of every step holds of a chain.** -/
theorem Composes.chain {step : Hall → α → Outcome ε Unit} {all : Hall → List α → Outcome ε Unit}
    (c : Chain step all) {as : List α} (hstep : ∀ a ∈ as, ∀ h, (step h a).Meets R h) (h : Hall) :
    (all h as).Meets R h := by
  induction as generalizing h with
  | nil =>
    rw [c.nil]
    exact hR.done
  | cons a as ih =>
    obtain ⟨ha, has⟩ := List.forall_mem_cons.1 hstep
    rw [c.cons]
    exact hR.andThen (ha h) fun _ _ => ih has _

theorem Composes.withdrawAll {u : UserId} (hstep : ∀ (h : Hall) id, (h.withdraw u id).Meets R h)
    (h : Hall) (ids : List TableId) : (h.withdrawAll u ids).Meets R h :=
  hR.chain (chain_withdrawAll u) (fun id _ h => hstep h id) h

theorem Composes.leaveReplay {id : TableId}
    (hstep : ∀ (h : Hall) u, (h.stopWatching u id).Meets R h) (h : Hall) (us : List UserId) :
    (h.leaveReplay id us).Meets R h :=
  hR.chain (chain_leaveReplay id) (fun u _ h => ((hstep h u).forgive _).mapError _) h

theorem Composes.seatAll {id : TableId} {ss : List Session}
    (hstep : ∀ s ∈ ss, ∀ h : Hall, (h.join s id).Meets R h) (h : Hall) :
    (h.seatAll id ss).Meets R h :=
  hR.chain (chain_seatAll id) (fun s hs h => ((hstep s hs h).forgive _).mapError _) h

end Hall

end GameHall
