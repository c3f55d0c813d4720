import GameHall.Proofs.Desk.Errands
import GameHall.Proofs.Hall.OwnErrors
import GameHall.Proofs.Server.Rejection

/-!
# After the shutdown of a server

A desk keeps a worker with a queue, and a command may make several requests of it. A server keeps
one flag, and does a command as one operation of the hall. `Serves.visit` shows that they answer
every visit alike: while the worker is open an errand does what the operation does, and once it has
stopped the first request of every errand is refused.

What a shutdown means is then read off the flag (`visit_of_stopped`, `stopped_run_iff`), and
`shutdown_is_final` says it of the desk.
-/

namespace GameHall

/-- The refusal behind a response, if it is an error for which something was refused. -/
def Response.refusal? : Response → Option Refusal
  | handled (.error e) | performed (.error e) => e.refusal?
  | called _ (.error r) => some r
  | _ => none

/-- What comes back when the worker takes no more requests. -/
def Visit.turnedAway : Visit → Response
  | handle .. => .handled (.error (.refused (.closed hallManager)))
  | perform .. => .performed (.error (.refused (.closed hallManager)))
  | call r => .called r (.error (.closed hallManager))
  | shutdown => .shutdown .exited

/-- What is sent when the worker takes no more requests. -/
def Visit.notices : Visit → List Delivery
  | handle _ s _ => [⟨s, .notice .error "table manager is closed to new requests"⟩]
  | _ => []

theorem Visit.refusal?_turnedAway {v : Visit} (hv : v ≠ .shutdown) :
    v.turnedAway.refusal? = some (.closed hallManager) := by
  cases v with
  | shutdown => exact absurd rfl hv
  | _ => rfl

namespace Server

variable {ε α : Type} {srv : Server} {luck : Luck} {s : Session} {c : Command} {v : Visit}
  {closed : Refusal → ε} {op : Hall → Outcome ε α}

/-! ## The flag of a server -/

theorem ask_of_stopped (hstop : srv.stopped = true) :
    srv.ask closed op = ⟨srv, [], .error (closed (.closed hallManager))⟩ :=
  if_pos hstop

theorem ask_of_running (running : srv.stopped = false) :
    srv.ask closed op =
      ⟨{ srv with hall := (op srv.hall).hall }, (op srv.hall).sent, (op srv.hall).result⟩ := by
  simp [ask, running]

theorem handle_of_stopped (hstop : srv.stopped = true) :
    srv.handle luck s c =
      ⟨srv, [(Rejection.refused (.closed hallManager)).notice s],
        .error (.refused (.closed hallManager))⟩ := by
  rw [handle, perform, ask_of_stopped hstop]
  rfl

theorem visit_of_stopped (hstop : srv.stopped = true) (v : Visit) :
    srv.visit v = ⟨srv, v.notices, v.turnedAway⟩ := by
  cases v with
  | handle luck s c =>
    rw [visit, handle_of_stopped hstop]
    rfl
  | perform luck op =>
    rw [visit, perform, ask_of_stopped hstop]
    rfl
  | call r =>
    rw [visit, ask_of_stopped hstop]
    rfl
  | shutdown =>
    have hsame : srv.shutdown = srv := by rw [shutdown, ← hstop]
    rw [visit, hsame]
    rfl

theorem stopped_visit (srv : Server) (v : Visit) :
    (srv.visit v).server.stopped = true ↔ srv.stopped = true ∨ v = .shutdown := by
  cases hstop : srv.stopped with
  | true =>
    rw [visit_of_stopped hstop]
    simpa using hstop
  | false =>
    cases v with
    | handle luck s c =>
      cases hr : (srv.perform luck (.command s c)).result with
      | ok a => simp [visit, Visited.ofReply, handle_of_ok hr, perform, ask_of_running hstop, hstop]
      | error e =>
        simp [visit, Visited.ofReply, handle_of_error hr, perform, ask_of_running hstop, hstop]
    | perform luck op => simp [visit, Visited.ofReply, perform, ask_of_running hstop, hstop]
    | call r => simp [visit, Visited.ofReply, ask_of_running hstop, hstop]
    | shutdown => simp [visit, shutdown]

theorem stopped_run_iff (srv : Server) (vs : List Visit) :
    (srv.run vs).stopped = true ↔ srv.stopped = true ∨ .shutdown ∈ vs := by
  induction vs generalizing srv with
  | nil => simp [run]
  | cons v vs ih => rw [run, ih, stopped_visit, List.mem_cons, or_assoc, eq_comm (a := v)]

/-- As long as the server was not shut down, every refusal is the hall's own. -/
theorem isOwn_of_visit (running : srv.stopped = false) {r : Refusal}
    (hr : (srv.visit v).response.refusal? = some r) : r.isOwn := by
  have hperform : ∀ luck op e, (srv.perform luck op).result = .error e → e.IsOwn := by
    intro luck op e he
    rw [perform, ask_of_running running] at he
    exact Hall.rejects_perform srv.hall luck op e he
  cases v with
  | handle luck s c =>
    cases hresult : (srv.perform luck (.command s c)).result with
    | ok a => simp [visit, Visited.ofReply, handle_of_ok hresult, Response.refusal?] at hr
    | error e =>
      rw [visit, handle_of_error hresult] at hr
      exact hperform _ _ e hresult r hr
  | perform luck op =>
    cases hresult : (srv.perform luck op).result with
    | ok a => simp [visit, Visited.ofReply, hresult, Response.refusal?] at hr
    | error e =>
      rw [visit, Visited.ofReply, hresult] at hr
      exact hperform _ _ e hresult r hr
  | call q =>
    rw [visit, ask_of_running running, Visited.ofReply] at hr
    cases hresult : (srv.hall.serve q).result with
    | ok a => simp [hresult, Response.refusal?] at hr
    | error e =>
      rw [hresult] at hr
      obtain rfl : e = r := Option.some.inj hr
      exact Hall.refuses_serve srv.hall q e hresult
  | shutdown => cases hr

/-- A command of a session, with the notice, is one operation of the hall. -/
theorem handle_of_running (running : srv.stopped = false) :
    srv.handle luck s c = srv.ask .ofRefusal fun h =>
      ((h.obey luck s c).map fun _ => ()).onError fun h e => ⟨h, [e.notice s], .error e⟩ := by
  have hperform : srv.perform luck (.command s c) = srv.ask .ofRefusal fun h => h.obey luck s c :=
    rfl
  rw [handle, hperform, ask_of_running running, ask_of_running running]
  cases hresult : (srv.hall.obey luck s c).result <;>
    simp [Outcome.onError, Outcome.map, Except.map, hresult]

end Server

namespace Desk

open Errand Server

variable {ε α : Type} {d : Desk} {srv : Server} {e : Errand ε α} {op : Hall → Outcome ε α}
  {closed : Refusal → ε}

/-! ## The desk of a server -/

/-- A desk of a server, between two visits. -/
structure Serves (d : Desk) (srv : Server) : Prop where
  hall : d.hall = srv.hall
  rests : d.Rests srv.stopped

/-- An errand at the desk comes out as the server replies. -/
structure Answers (d : Desk) (e : Errand ε α) (r : Reply ε α) : Prop where
  result : (d.attend e).1 = r.result
  serves : (d.attend e).2.Serves r.server
  sent : (d.attend e).2.sent = d.sent ++ r.sent

theorem serves_ofBook (config : Config) (variants : Rules.VariantBook) :
    (ofHall (.fresh config.limits variants.names)).Serves (.ofBook config variants) :=
  ⟨rfl, rests_ofHall _⟩

theorem Serves.answers_of_running (hs : d.Serves srv) (running : srv.stopped = false)
    (he : e.Does op) : d.Answers e (srv.ask closed op) := by
  obtain ⟨n, hn⟩ := he d (running ▸ hs.rests)
  rw [hs.hall] at hn
  rw [ask_of_running running]
  exact {
    result := by rw [hn]
    serves := by
      rw [hn]
      exact ⟨rfl, running ▸ rfl⟩
    sent := by
      rw [hn]
      rfl }

theorem Serves.answers (hs : d.Serves srv) (hdoes : e.Does op)
    (haway : e.TurnedAway (closed (.closed hallManager))) : d.Answers e (srv.ask closed op) := by
  cases hstop : srv.stopped with
  | false => exact hs.answers_of_running hstop hdoes
  | true =>
    have hattend := haway d (hstop ▸ hs.rests)
    rw [ask_of_stopped hstop]
    exact {
      result := by rw [hattend]
      serves := by rwa [hattend]
      sent := by rw [hattend, List.append_nil] }

theorem Serves.answers_handle (hs : d.Serves srv) (luck : Luck) (s : Session) (c : Command) :
    d.Answers (handle luck s c) (srv.handle luck s c) := by
  cases hstop : srv.stopped with
  | false =>
    rw [handle_of_running hstop]
    exact hs.answers_of_running hstop (does_handle luck s c)
  | true =>
    have hattend := attend_handle_of_stopped (hstop ▸ hs.rests) luck s c
    rw [handle_of_stopped hstop]
    exact {
      result := by rw [hattend]
      serves := by
        rw [hattend]
        exact ⟨hs.hall, hs.rests⟩
      sent := by rw [hattend] }

/-- **A desk and its server answer alike**, and go on together. -/
theorem Serves.visit (hs : d.Serves srv) (v : Visit) :
    (d.visit v).1 = (srv.visit v).response ∧ (d.visit v).2.Serves (srv.visit v).server ∧
      (d.visit v).2.sent = d.sent ++ (srv.visit v).sent := by
  cases v with
  | handle luck s c =>
    obtain ⟨hresult, hserves, hsent⟩ := hs.answers_handle luck s c
    exact ⟨congrArg Response.handled hresult, hserves, hsent⟩
  | perform luck op =>
    have hanswers : d.Answers (perform luck op) (srv.perform luck op) :=
      hs.answers (does_perform luck op) (turnedAway_perform luck op)
    obtain ⟨hresult, hserves, hsent⟩ := hanswers
    exact ⟨congrArg Response.performed hresult, hserves, hsent⟩
  | call r =>
    have hanswers : d.Answers (call r) (srv.ask id fun h => h.serve r) :=
      hs.answers (does_call r) (turnedAway_call r)
    obtain ⟨hresult, hserves, hsent⟩ := hanswers
    exact ⟨congrArg (Response.called r) hresult, hserves, hsent⟩
  | shutdown =>
    have hshut := shutdown_eq hs.rests
    rw [Desk.visit, hshut]
    exact ⟨rfl, ⟨hs.hall, rfl⟩, (List.append_nil _).symm⟩

theorem Serves.run (hs : d.Serves srv) (vs : List Visit) : (d.run vs).Serves (srv.run vs) := by
  induction vs generalizing d srv with
  | nil => exact hs
  | cons v vs ih => exact ih (hs.visit v).2.1

/-! ## After the shutdown -/

theorem visit_of_stopped (hd : d.Rests true) (v : Visit) :
    d.visit v = (v.turnedAway, { d with sent := d.sent ++ v.notices }) := by
  have hquiet : v.notices = [] → { d with sent := d.sent ++ v.notices } = d := fun h => by
    rw [h, List.append_nil]
  cases v with
  | handle luck s c =>
    rw [visit, attend_handle_of_stopped hd]
    rfl
  | perform luck op =>
    rw [visit, turnedAway_perform luck op d hd, hquiet rfl]
    rfl
  | call r =>
    rw [visit, turnedAway_call r d hd, hquiet rfl]
    rfl
  | shutdown =>
    rw [visit, shutdown_eq hd, ← hd, hquiet rfl]
    rfl

theorem run_of_stopped (hd : d.Rests true) (vs : List Visit) :
    d.run vs = { d with sent := d.sent ++ vs.flatMap Visit.notices } := by
  induction vs generalizing d with
  | nil => rw [List.flatMap_nil, List.append_nil, run]
  | cons v vs ih =>
    have hd' : ({ d with sent := d.sent ++ v.notices } : Desk).Rests true := hd
    rw [run, visit_of_stopped hd, ih hd', List.flatMap_cons, List.append_assoc]

/-! ## Errors -/

variable {v : Visit}

theorem Serves.isOwn_of_visit (hs : d.Serves srv) (running : srv.stopped = false) {r : Refusal}
    (hr : (d.visit v).1.refusal? = some r) : r.isOwn :=
  Server.isOwn_of_visit running ((hs.visit v).1 ▸ hr)

/-- The worker's refusal comes back as it is, and from no server that runs. -/
theorem Serves.stopped_of_closed (hs : d.Serves srv) {m : String}
    (hm : (d.visit v).1.refusal? = some (.closed m)) :
    srv.stopped = true ∧ (d.visit v).1 = v.turnedAway := by
  cases hstop : srv.stopped with
  | false => cases hs.isOwn_of_visit hstop hm
  | true =>
    refine ⟨rfl, ?_⟩
    rw [visit_of_stopped (hstop ▸ hs.rests)]

theorem Serves.turnedAway_iff (hs : d.Serves srv) (hv : v ≠ .shutdown) :
    (d.visit v).1 = v.turnedAway ↔ srv.stopped = true := by
  constructor
  · intro haway
    exact (hs.stopped_of_closed (haway ▸ Visit.refusal?_turnedAway hv)).1
  · intro hstop
    rw [visit_of_stopped (hstop ▸ hs.rests)]

/-- Whoever waits for an answer gets one. -/
theorem Serves.refusal?_ne_noAnswer (hs : d.Serves srv) (v : Visit) :
    (d.visit v).1.refusal? ≠ some .noAnswer := by
  intro hnone
  cases hstop : srv.stopped with
  | false => cases hs.isOwn_of_visit hstop hnone
  | true =>
    rw [visit_of_stopped (hstop ▸ hs.rests)] at hnone
    cases v <;> cases hnone

/-- **A shutdown is final, and nothing is left open by it.** Take any visits to the desk of a new
server, one after the other.

* A visit is turned away if and only if the server was shut down before. No refusal of the worker
  comes in any other form, as the reason why a rematch stopped part-way, say; and no visit is left
  without an answer.
* Once the server was shut down, every visit is turned away and changes nothing, a further shutdown
  included. The sessions whose commands are rejected get a notice that says so, and nothing else is
  ever sent.
* Every shutdown comes to an end. The worker has done every request that it accepted, in order.
* A server that only notes whether it was shut down answers every visit alike, keeps the same hall
  and sends the same, and shows nothing of its hall after the shutdown. -/
theorem shutdown_is_final (config : Config) (variants : Rules.VariantBook) (vs : List Visit) :
    let d := (ofHall (.fresh config.limits variants.names)).run vs
    let srv := (Server.ofBook config variants).run vs
    ((∀ v, v ≠ .shutdown → ((d.visit v).1 = v.turnedAway ↔ .shutdown ∈ vs)) ∧
      (∀ v m, (d.visit v).1.refusal? = some (.closed m) → (d.visit v).1 = v.turnedAway) ∧
      ∀ v, (d.visit v).1.refusal? ≠ some .noAnswer) ∧
    (.shutdown ∈ vs →
      (∀ v, d.visit v = (v.turnedAway, { d with sent := d.sent ++ v.notices })) ∧
      ∀ later, d.run later = { d with sent := d.sent ++ later.flatMap Visit.notices }) ∧
    ((d.visit .shutdown).1 = .shutdown .exited ∧ d.worker.queue = [] ∧
      d.worker.seen = (List.range d.accepted).map Nat.cast) ∧
    (∀ v, (d.visit v).1 = (srv.visit v).response ∧
      (d.visit v).2.hall = (srv.visit v).server.hall ∧
      (d.visit v).2.sent = d.sent ++ (srv.visit v).sent) ∧
    ∀ (α : Type) (look : Hall → α), srv.view look =
      if .shutdown ∈ vs then .error (.closed hallManager) else .ok (look d.hall) := by
  intro d srv
  have hs : d.Serves srv := (serves_ofBook config variants).run vs
  have hshut : srv.stopped = true ↔ .shutdown ∈ vs := by
    rw [stopped_run_iff]
    simp [ofBook]
  have hanswer : (d.visit .shutdown).1 = .shutdown .exited := by
    rw [visit, shutdown_eq hs.rests]
    rfl
  have hqueue : d.worker.queue = [] := by
    rw [hs.rests]
    rfl
  have hseen : d.worker.seen = (List.range d.accepted).map Nat.cast := by
    rw [hs.rests]
    rfl
  refine ⟨⟨fun v hv => (hs.turnedAway_iff hv).trans hshut,
    fun v m hm => (hs.stopped_of_closed hm).2, hs.refusal?_ne_noAnswer⟩,
    fun h => ?_, ⟨hanswer, hqueue, hseen⟩, fun v => ?_, fun α look => ?_⟩
  · have hrests : d.Rests true := hshut.2 h ▸ hs.rests
    exact ⟨visit_of_stopped hrests, run_of_stopped hrests⟩
  · obtain ⟨hresponse, hserves, hsent⟩ := hs.visit v
    exact ⟨hresponse, hserves.hall, hsent⟩
  · rw [Server.view, hs.hall]
    exact if_congr hshut rfl rfl

-- What was asked for before the shutdown is done, what is asked for afterwards is not even queued.
example (h : Hall) :
    ((ofHall h).run [.call .listings, .shutdown, .call .windDown]).worker =
      ⟨hallManager, [], true, true, [0], 0, 0⟩ := by
  rfl

end Desk

end GameHall
