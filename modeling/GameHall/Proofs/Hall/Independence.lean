import GameHall.Proofs.Hall.Audience

/-!
# Independent commands

Two users who do something at two tables do not get into each other's way. What a command of a user
at a table does is decided by the table, by the other game of the user if there is one, and by what
holds of the hall as a whole: halls that are `Hall.Alike` in this answer it alike
(`Alike.agrees_obey`). And a command leaves the hall alike for every other user at every other table
(`StaysAt.alike`): it may connect or disconnect its own user only, so that the search for another
game finds for the others what it found before.

So the order of two such commands does not matter (`independent_commands_commute`).
-/

namespace GameHall

/-- The table that a command is about, if it stays at one table. -/
def Command.table? : Command → Option TableId
  | .join id | .leave id | .watch id | .stopWatching id | .passLead id _ | .start id => some id
  | .openTable .. | .rematch _ => none

instance Message.decidableIsAbout (id : TableId) (m : Message) : Decidable (m.IsAbout id) :=
  match m with
  | .table i _ => inferInstanceAs (Decidable (i = id))
  | .chat room _ => inferInstanceAs (Decidable (room = id.room))
  | .notice .. => inferInstanceAs (Decidable False)

/-- What a session is told about a table. -/
def Session.toldAbout (s : Session) (id : TableId) (ds : List Delivery) : List Message :=
  (ds.filter fun d => d.session = s ∧ d.message.IsAbout id).map Delivery.message

section Told

variable {s : Session} {id i : TableId} {ds es : List Delivery}

theorem Session.toldAbout_append (s : Session) (id : TableId) (ds es : List Delivery) :
    s.toldAbout id (ds ++ es) = s.toldAbout id ds ++ s.toldAbout id es := by
  simp only [toldAbout, List.filter_append, List.map_append]

theorem Session.toldAbout_eq_nil (h : ∀ d ∈ ds, d.message.IsAbout i) (hne : i ≠ id) :
    s.toldAbout id ds = [] := by
  refine List.map_eq_nil_iff.2 (List.filter_eq_nil_iff.2 fun d hd hd' => hne ?_)
  simp only [decide_eq_true_eq] at hd'
  exact (h d hd).unique hd'.2

/-- Nobody who is told about two tables separately can tell in which order. -/
theorem Session.toldAbout_append_comm {j : TableId} (hds : ∀ d ∈ ds, d.message.IsAbout i)
    (hes : ∀ d ∈ es, d.message.IsAbout j) (hne : i ≠ j) (s : Session) (id : TableId) :
    s.toldAbout id (ds ++ es) = s.toldAbout id (es ++ ds) := by
  rw [toldAbout_append, toldAbout_append]
  by_cases hi : i = id
  · rw [toldAbout_eq_nil hes fun hj => hne (hi.trans hj.symm), List.append_nil, List.nil_append]
  · rw [toldAbout_eq_nil hds hi, List.append_nil, List.nil_append]

end Told

/-! ## What a command looks at -/

namespace Outcome

variable {ε α β : Type} {h k : Hall} {t t' : Table} {u : UserId} {id : TableId} {o p : Outcome ε α}

/-- Two outcomes with one answer, that send the same and leave the same of a table. -/
structure Agrees (id : TableId) (o p : Outcome ε α) : Prop where
  result : p.result = o.result
  sent : p.sent = o.sent
  found : p.hall.table? id = o.hall.table? id

theorem Agrees.map (a : o.Agrees id p) (f : α → β) : (o.map f).Agrees id (p.map f) :=
  ⟨congrArg (Except.map f) a.result, a.sent, a.found⟩

theorem Agrees.passOn {o p : Outcome Refusal α} (a : o.Agrees id p) (answer : α → Answer) :
    (o.passOn answer).Agrees id (p.passOn answer) :=
  ⟨congrArg (fun r => (r.mapError Rejection.ofRefusal).map answer) a.result, a.sent, a.found⟩

theorem agrees_refuse (same : k.table? id = h.table? id) (e : ε) :
    (h.refuse e : Outcome ε α).Agrees id (k.refuse e) :=
  ⟨rfl, rfl, same⟩

/-! The table is found in both halls, and the same is made of it. -/

theorem agrees_put {sent : List Delivery} {r : Except ε α} (here : h.table? t.id = some t)
    (here' : k.table? t.id = some t) (hid : t'.id = t.id) :
    (⟨h.put t', sent, r⟩ : Outcome ε α).Agrees t.id ⟨k.put t', sent, r⟩ :=
  ⟨rfl, rfl, (Hall.table?_put_self here' hid).trans (Hall.table?_put_self here hid).symm⟩

theorem agrees_arrive {news : News} (here : h.table? t.id = some t)
    (here' : k.table? t.id = some t) (hid : t'.id = t.id) :
    (h.arrive u t' news : Outcome ε Unit).Agrees t.id (k.arrive u t' news) :=
  ⟨rfl, rfl, (Hall.table?_put_self here' hid).trans (Hall.table?_put_self here hid).symm⟩

theorem agrees_depart {news : List News} (here : h.table? t.id = some t)
    (here' : k.table? t.id = some t) (hid : t'.id = t.id) :
    (h.depart u t' news : Outcome ε Unit).Agrees t.id (k.depart u t' news) where
  result := (Hall.result_depart ..).trans (Hall.result_depart ..).symm
  sent := (Hall.sent_depart ..).trans (Hall.sent_depart ..).symm
  found := (Hall.table?_depart here' hid).trans (Hall.table?_depart here hid).symm

end Outcome

namespace Hall

open Outcome

variable {h k : Hall} {s : Session} {u v : UserId} {id : TableId} {t t' : Table} {c : Command}

/-- Two halls that are alike to a user at a table. -/
structure Alike (u : UserId) (id : TableId) (h k : Hall) : Prop where
  found : k.table? id = h.table? id
  otherGame? : k.otherGame? u (some id) = h.otherGame? u (some id)
  windingDown : k.windingDown = h.windingDown
  limits : k.limits = h.limits

theorem Alike.agrees_join (a : Alike s.user id h k) : (h.join s id).Agrees id (k.join s id) := by
  unfold join
  rw [a.found]
  cases here : h.table? id with
  | none => exact agrees_refuse a.found _
  | some t =>
    obtain rfl := table?_id here
    have here' : k.table? t.id = some t := a.found.trans here
    have hobstacle : k.joinObstacle? s.user t = h.joinObstacle? s.user t := by
      simp only [joinObstacle?, a.windingDown, a.otherGame?]
    simp only [hobstacle, a.otherGame?]
    split
    · split
      · exact agrees_refuse a.found _
      · exact agrees_arrive here here' rfl
    · split
      · exact agrees_refuse a.found _
      · exact agrees_arrive here here' rfl

theorem Alike.agrees_leave (a : Alike u id h k) : (h.leave u id).Agrees id (k.leave u id) := by
  unfold leave
  rw [a.found]
  cases here : h.table? id with
  | none => exact agrees_refuse a.found _
  | some t =>
    obtain rfl := table?_id here
    dsimp only
    split
    · exact agrees_refuse a.found _
    · exact agrees_depart here (a.found.trans here) rfl

theorem Alike.agrees_watch (a : Alike s.user id h k) : (h.watch s id).Agrees id (k.watch s id) := by
  unfold watch
  rw [a.found]
  cases here : h.table? id with
  | none => exact agrees_refuse a.found _
  | some t =>
    obtain rfl := table?_id here
    dsimp only
    split
    · exact agrees_refuse a.found _
    · exact agrees_arrive here (a.found.trans here) rfl

theorem Alike.agrees_stopWatching (a : Alike u id h k) :
    (h.stopWatching u id).Agrees id (k.stopWatching u id) := by
  unfold stopWatching
  rw [a.found]
  cases here : h.table? id with
  | none => exact agrees_refuse a.found _
  | some t =>
    obtain rfl := table?_id here
    dsimp only
    split
    · exact agrees_depart here (a.found.trans here) rfl
    · exact agrees_refuse a.found _

theorem Alike.agrees_passLead (a : Alike u id h k) (s : Session) (name : String) :
    (h.passLead s id name).Agrees id (k.passLead s id name) := by
  unfold passLead
  rw [a.found]
  cases here : h.table? id with
  | none => exact agrees_refuse a.found _
  | some t =>
    obtain rfl := table?_id here
    dsimp only
    split
    · exact agrees_refuse a.found _
    · exact agrees_put here (a.found.trans here) rfl

theorem Alike.agrees_start (a : Alike u id h k) (luck : Nat) :
    (h.start luck u id).Agrees id (k.start luck u id) := by
  unfold start
  rw [a.found]
  cases here : h.table? id with
  | none => exact agrees_refuse a.found _
  | some t =>
    obtain rfl := table?_id here
    have hobstacle : k.startObstacle? u t = h.startObstacle? u t := by
      simp only [startObstacle?, a.limits]
    simp only [hobstacle]
    split
    · exact agrees_refuse a.found _
    · exact agrees_put here (a.found.trans here) rfl

/-- **Alike halls answer a command alike.** -/
theorem Alike.agrees_obey (a : Alike s.user id h k) (hc : c.table? = some id) (luck : Luck) :
    (h.obey luck s c).Agrees id (k.obey luck s c) := by
  cases c with
  | join i =>
    obtain rfl := Option.some.inj hc
    exact a.agrees_join.passOn _
  | leave i =>
    obtain rfl := Option.some.inj hc
    exact a.agrees_leave.passOn _
  | watch i =>
    obtain rfl := Option.some.inj hc
    exact a.agrees_watch.passOn _
  | stopWatching i =>
    obtain rfl := Option.some.inj hc
    exact a.agrees_stopWatching.passOn _
  | passLead i name =>
    obtain rfl := Option.some.inj hc
    exact (a.agrees_passLead s name).map _
  | start i =>
    obtain rfl := Option.some.inj hc
    exact (a.agrees_start luck.deal).map _
  | openTable => cases hc
  | rematch => cases hc

/-! ## What a command changes -/

/-- Something that a user does at a table: no other table is touched, nobody else gets or loses a
connection to a game, and whoever is told is told of the table. -/
structure StaysAt (u : UserId) (id : TableId) (h : Hall) (m : List Delivery) (h' : Hall) : Prop
    extends Frame [id] h h' where
  nextId : h'.nextId = h.nextId
  connected : ∀ v, v ≠ u → ((∃ t, h'.table? id = some t ∧ t.isConnected v) ↔
    ∃ t, h.table? id = some t ∧ t.isConnected v)
  about : ∀ d ∈ m, d.message.IsAbout id

theorem staysAt_of_nothing (u : UserId) (id : TableId) (h : Hall) : StaysAt u id h [] h :=
  { Frame.refl [id] h with
    nextId := rfl
    connected := fun _ _ => .rfl
    about := fun _ hd => absurd hd List.not_mem_nil }

/-- Nobody else is connected by an arrival. -/
theorem Arrival.isConnected_iff {news : News} (a : h.Arrival s t news t') (ht : t.Sound h.limits)
    (hv : v ≠ s.user) : t'.isConnected v ↔ t.isConnected v := by
  cases a with
  | seat _ _ phase => exact (Table.isConnected_seat (by simp [phase])).trans (or_iff_right hv)
  | reattach phase lost =>
    exact (Table.isConnected_reattach (ht.inGame phase).distinct lost).trans (or_iff_right hv)
  | watch => exact .rfl

/-- Nobody else loses a connection by a departure. -/
theorem Gone.isConnected_iff {l : Limits} (g : Gone u t t') (ht : t.Sound l) (hv : v ≠ u) :
    t'.isConnected v ↔ t.isConnected v := by
  cases g with
  | absent => exact .rfl
  | unseat phase =>
    exact (Table.isConnected_unseat (ht.inLobby phase).distinct).trans (and_iff_right hv)
  | dropWatcher => exact .rfl
  | detach phase =>
    exact (Table.isConnected_detach (ht.inGame phase).distinct).trans (and_iff_right hv)

end Hall

namespace Outcome

open Hall

variable {ε α : Type} {h : Hall} {s : Session} {u : UserId} {id : TableId} {t : Table}
  {x : Option Table} {o : Outcome ε α}

theorem Turns.about (ho : o.Turns h t x) : ∀ d ∈ o.sent, d.message.IsAbout t.id := by
  intro d hd
  obtain ⟨bs, hbs, hall⟩ := ho.told
  rw [hbs, List.mem_flatMap] at hd
  obtain ⟨b, hb, hd⟩ := hd
  have hid : b.table.id = t.id := table?_id (ho.found.trans (hall b hb).symm)
  rw [(Broadcast.mem_copies.1 hd).2, ← hid]
  exact b.about

theorem Turns.staysAt (ho : o.Turns h t x) (hnext : o.hall.nextId = h.nextId)
    (hconn : ∀ v, v ≠ u → ((∃ t', x = some t' ∧ t'.isConnected v) ↔ t.isConnected v)) :
    o.Meets (StaysAt u t.id) h :=
  { ho.frame with
    nextId := hnext
    connected := fun v hv => by
      rw [ho.found, ho.here, hconn v hv]
      simp
    about := ho.about }

theorem Arrives.staysAt {news : News} {o : Outcome Refusal Unit} (ho : o.Arrives h s id news)
    (hs : h.Sound) : o.Meets (StaysAt s.user id) h := by
  rcases ho with ⟨r, rfl⟩ | ⟨t, t', here, a, rfl⟩
  · exact staysAt_of_nothing s.user id h
  · obtain ⟨ht, rfl⟩ := hs.table?_eq_some_iff.1 here
    refine (turns_arrive here a.id_eq s.user news).staysAt rfl fun v hv => ?_
    rw [← a.isConnected_iff (hs.tables t ht) hv]
    simp

theorem Departs.staysAt {o : Outcome Refusal Unit} (ho : o.Departs h u id) (hs : h.Sound) :
    o.Meets (StaysAt u id) h := by
  rcases ho with ⟨r, rfl⟩ | ⟨t, t', news, here, d, rfl⟩
  · exact staysAt_of_nothing u id h
  · obtain ⟨ht, rfl⟩ := hs.table?_eq_some_iff.1 here
    have hnext : (h.depart u t' news : Outcome Refusal Unit).hall.nextId = h.nextId := by
      unfold depart
      split <;> rfl
    refine (turns_depart here d.continues.id u news).staysAt hnext fun v hv => ?_
    rw [← (d.gone (hs.tables t ht)).isConnected_iff (hs.tables t ht) hv]
    constructor
    · rintro ⟨r, hr, hc⟩
      exact Table.eq_of_standing? hr ▸ hc
    · -- a table where somebody is connected is not deserted
      intro hc
      have hstays : t'.isDeserted = false :=
        Table.isDeserted_eq_false_iff.2 ⟨v, Table.isPresent_iff.2 (.inr hc)⟩
      exact ⟨t', by rw [Table.standing?, hstays, if_neg Bool.false_ne_true], hc⟩

theorem Acts.staysAt {o : Outcome Rejection Unit} (ho : o.Acts h id) (u : UserId) :
    o.Meets (StaysAt u id) h := by
  rcases ho with ⟨r, rfl⟩ | ⟨t, t', m, here, a, rfl⟩
  · exact staysAt_of_nothing u id h
  · obtain rfl := table?_id here
    refine (turns_act here a _).staysAt rfl fun v _ => ?_
    rw [← a.isConnected_iff]
    simp

end Outcome

namespace Hall

open Outcome

variable {h h' : Hall} {u v : UserId} {id i : TableId} {c : Command} {m : List Delivery}

/-- **A command stays at its table.** -/
theorem Sound.staysAt_obey (hs : h.Sound) (hc : c.table? = some id) (luck : Luck) (s : Session) :
    (h.obey luck s c).Meets (StaysAt s.user id) h := by
  cases c with
  | join i =>
    obtain rfl := Option.some.inj hc
    exact ((arrives_join h s i).staysAt hs).passOn _
  | leave i =>
    obtain rfl := Option.some.inj hc
    exact ((departs_leave h s.user i).staysAt hs).passOn _
  | watch i =>
    obtain rfl := Option.some.inj hc
    exact ((arrives_watch h s i).staysAt hs).passOn _
  | stopWatching i =>
    obtain rfl := Option.some.inj hc
    exact ((departs_stopWatching h s.user i).staysAt hs).passOn _
  | passLead i name =>
    obtain rfl := Option.some.inj hc
    exact ((acts_passLead h s i name).staysAt s.user).map _
  | start i =>
    obtain rfl := Option.some.inj hc
    exact ((acts_start h luck.deal s.user i).staysAt s.user).map _
  | openTable => cases hc
  | rematch => cases hc

/-- What a user does at a table leaves the hall alike for another user at another table. -/
theorem StaysAt.alike (a : StaysAt u id h m h') (hs : h.Sound) (hs' : h'.Sound) (hv : v ≠ u)
    (hi : i ≠ id) : Alike v i h h' where
  found := a.table?_of_ne hi
  otherGame? := by
    refine Option.ext fun j => ?_
    rw [hs'.otherGame?_eq_some_iff, hs.otherGame?_eq_some_iff]
    refine and_congr_right fun _ => ?_
    by_cases hj : j = id
    · subst hj
      exact a.connected v hv
    · rw [a.table?_of_ne hj]
  windingDown := a.windingDown
  limits := a.limits

/-! ## Two commands -/

section Two

variable {s₁ s₂ : Session} {c₁ c₂ : Command} {id₁ id₂ : TableId}

theorem Reachable.obey (hr : h.Reachable) (luck : Luck) (s : Session) (c : Command) :
    (h.obey luck s c).hall.Reachable :=
  .step luck (.command s c) hr

/-- A command does the same after a command of another user at another table. -/
theorem Reachable.agrees_obey_obey (hr : h.Reachable) (hc₁ : c₁.table? = some id₁)
    (hc₂ : c₂.table? = some id₂) (husers : s₂.user ≠ s₁.user) (htables : id₂ ≠ id₁)
    (luck₁ luck₂ : Luck) :
    (h.obey luck₂ s₂ c₂).Agrees id₂ ((h.obey luck₁ s₁ c₁).hall.obey luck₂ s₂ c₂) :=
  have halike : Alike s₂.user id₂ h (h.obey luck₁ s₁ c₁).hall :=
    (hr.sound.staysAt_obey hc₁ luck₁ s₁).alike hr.sound (hr.obey luck₁ s₁ c₁).sound husers htables
  halike.agrees_obey hc₂ luck₂

/-- **Independent commands commute.** Two users who do something at two tables, by taking or giving up
a seat, beginning or no longer watching, passing the lead or starting the game, may do so in either
order: each gets the same answer, the hall is the same afterwards, and every session is told the same
about each table, in the same order. -/
theorem independent_commands_commute (limits : Limits) (variants : List String)
    (ops : List (Luck × Operation)) (luck₁ luck₂ : Luck) (s₁ s₂ : Session) (c₁ c₂ : Command)
    (hc₁ : c₁.table? = some id₁) (hc₂ : c₂.table? = some id₂) (husers : s₁.user ≠ s₂.user)
    (htables : id₁ ≠ id₂) :
    let h := after limits variants ops
    let one := h.obey luck₁ s₁ c₁
    let oneTwo := one.hall.obey luck₂ s₂ c₂
    let two := h.obey luck₂ s₂ c₂
    let twoOne := two.hall.obey luck₁ s₁ c₁
    twoOne.result = one.result ∧ oneTwo.result = two.result ∧ twoOne.hall = oneTwo.hall ∧
    ∀ (s : Session) id,
      s.toldAbout id (two.sent ++ twoOne.sent) = s.toldAbout id (one.sent ++ oneTwo.sent) := by
  intro h one oneTwo two twoOne
  have hr : h.Reachable := reachable_iff_after.2 ⟨limits, variants, ops, rfl⟩
  have hrone : one.hall.Reachable := hr.obey luck₁ s₁ c₁
  have hrtwo : two.hall.Reachable := hr.obey luck₂ s₂ c₂
  have one_stays : one.Meets (StaysAt s₁.user id₁) h := hr.sound.staysAt_obey hc₁ luck₁ s₁
  have two_stays : two.Meets (StaysAt s₂.user id₂) h := hr.sound.staysAt_obey hc₂ luck₂ s₂
  have oneTwo_stays : oneTwo.Meets (StaysAt s₂.user id₂) one.hall :=
    hrone.sound.staysAt_obey hc₂ luck₂ s₂
  have twoOne_stays : twoOne.Meets (StaysAt s₁.user id₁) two.hall :=
    hrtwo.sound.staysAt_obey hc₁ luck₁ s₁
  have oneTwo_agrees : two.Agrees id₂ oneTwo :=
    hr.agrees_obey_obey hc₁ hc₂ husers.symm htables.symm luck₁ luck₂
  have twoOne_agrees : one.Agrees id₁ twoOne :=
    hr.agrees_obey_obey hc₂ hc₁ husers htables luck₂ luck₁
  refine ⟨twoOne_agrees.result, oneTwo_agrees.result, ?_, fun s id => ?_⟩
  · have found : ∀ id, twoOne.hall.table? id = oneTwo.hall.table? id := by
      intro id
      by_cases hid₁ : id = id₁
      · subst hid₁
        rw [twoOne_agrees.found, oneTwo_stays.table?_of_ne htables]
      · by_cases hid₂ : id = id₂
        · subst hid₂
          rw [oneTwo_agrees.found, twoOne_stays.table?_of_ne hid₁]
        · rw [twoOne_stays.table?_of_ne hid₁, two_stays.table?_of_ne hid₂,
            oneTwo_stays.table?_of_ne hid₂, one_stays.table?_of_ne hid₁]
    have frame₁₂ : Frame [id₁, id₂] h oneTwo.hall :=
      (one_stays.toFrame.mono (by simp)).trans (oneTwo_stays.toFrame.mono (by simp))
    have frame₂₁ : Frame [id₁, id₂] h twoOne.hall :=
      (two_stays.toFrame.mono (by simp)).trans (twoOne_stays.toFrame.mono (by simp))
    have next₁₂ : oneTwo.hall.nextId = h.nextId := oneTwo_stays.nextId.trans one_stays.nextId
    have next₂₁ : twoOne.hall.nextId = h.nextId := twoOne_stays.nextId.trans two_stays.nextId
    exact (hrone.obey luck₂ s₂ c₂).sound.ext (hrtwo.obey luck₁ s₁ c₁).sound found
      (next₂₁.trans next₁₂.symm) (frame₂₁.windingDown.trans frame₁₂.windingDown.symm)
      (frame₂₁.limits.trans frame₁₂.limits.symm) (frame₂₁.variants.trans frame₁₂.variants.symm)
  · rw [twoOne_agrees.sent, oneTwo_agrees.sent]
    exact (Session.toldAbout_append_comm one_stays.about two_stays.about htables s id).symm

end Two

/-- Bob cannot take a seat in a lobby because he has one in Alice's lobby, whether or not Alice gives
up hers first and leaves him the lead. -/
theorem independent_commands_commute_at_two_lobbies :
    let luck : Luck := ⟨0, 0⟩
    let alice : Session := ⟨⟨1⟩, "Alice", 0⟩
    let bob : Session := ⟨⟨2⟩, "Bob", 1⟩
    let carol : Session := ⟨⟨3⟩, "Carol", 2⟩
    let options : Options := ⟨"No Variant", false, 0, 0, false, false, false, false⟩
    let h := after ⟨6, 2⟩ ["No Variant"] [(luck, .command carol (.openTable "one" options)),
      (luck, .command alice (.openTable "two" options)), (luck, .command bob (.join ⟨2⟩))]
    let joined := h.obey luck bob (.join ⟨1⟩)
    let joinedLeft := joined.hall.obey luck alice (.leave ⟨2⟩)
    let left := h.obey luck alice (.leave ⟨2⟩)
    let leftJoined := left.hall.obey luck bob (.join ⟨1⟩)
    bob.user ≠ alice.user ∧ joined.result = .error (.refused (.playingElsewhere ⟨2⟩ ⟨2⟩)) ∧
      left.result = .ok .done ∧ left.sent = [⟨bob, .table ⟨2⟩ .seatsChanged⟩] ∧
      leftJoined.result = joined.result ∧ joinedLeft.result = left.result ∧
      leftJoined.hall = joinedLeft.hall ∧
      ∀ (s : Session) id, s.toldAbout id (left.sent ++ leftJoined.sent) =
        s.toldAbout id (joined.sent ++ joinedLeft.sent) := by
  intro luck alice bob carol options h joined joinedLeft left leftJoined
  have hcommute := independent_commands_commute ⟨6, 2⟩ ["No Variant"]
    [(luck, .command carol (.openTable "one" options)),
      (luck, .command alice (.openTable "two" options)), (luck, .command bob (.join ⟨2⟩))]
    luck luck bob alice (.join ⟨1⟩) (.leave ⟨2⟩) rfl rfl (by decide) (by decide)
  exact ⟨by decide, by decide +kernel, by decide +kernel, by decide +kernel, hcommute⟩

end Hall

end GameHall
