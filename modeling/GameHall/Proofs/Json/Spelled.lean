import GameHall.Proofs.Json.ReadBack

/-!
# A value has one list of tokens

The builder makes a value of the tokens of that value and of no others
(`Json.ofTokens?_eq_some_iff`). So a text spells a value if and only if its tokens are those of the
value (`Json.read?_eq_some_iff`).

That a value can be built of its tokens is known from the reading back of what is written. For the
other direction, what is fed where a value is due starts with the tokens of one, if the builder is
ever done (`Json.exists_of_feed_value`). Items and members behind the first are taken off in the
same way, by induction on the number of tokens.
-/

namespace GameHall

namespace Json

open Builder

variable {v w : Json} {ts us : List Token} {fs : List Frame}

/-! ## Tokens that are fed to the end -/

theorem exists_step_of_feed {b : Builder} (h : b.feed ts = some (.done w)) :
    ts = [] ∧ b = .done w ∨
      ∃ t us b', ts = t :: us ∧ b.step t = some b' ∧ b'.feed us = some (.done w) := by
  cases ts with
  | nil => exact .inl ⟨rfl, Option.some.inj h⟩
  | cons t us =>
    rw [Builder.feed] at h
    split at h
    · rename_i b' hb'
      exact .inr ⟨t, us, b', rfl, hb', h⟩
    · cases h

theorem feed_done (h : (Builder.done v).feed ts = some (.done w)) : ts = [] ∧ v = w := by
  obtain ⟨hts, hv⟩ | ⟨t, us, b', -, hstep, -⟩ := exists_step_of_feed h
  · exact ⟨hts, Builder.done.inj hv⟩
  · exact absurd hstep (by simp [Builder.step])

/-- What is fed where a name is due is a name, its colon, and a value. -/
theorem exists_of_feed_name {ms : List (Option String × Json)}
    (h : (Builder.name false ms fs).feed ts = some (.done w)) :
    ∃ n us, ts = .string n :: .colon :: us ∧
      (Builder.value (.member ms n :: fs)).feed us = some (.done w) := by
  obtain ⟨-, hname⟩ | ⟨t, us, b', rfl, hstep, hrest⟩ := exists_step_of_feed h
  · exact absurd hname nofun
  cases t with
  | string n =>
    obtain rfl := Option.some.inj hstep
    obtain ⟨-, hcolon⟩ | ⟨t, us, b', rfl, hstep, hrest⟩ := exists_step_of_feed hrest
    · exact absurd hcolon nofun
    cases t with
    | colon =>
      obtain rfl := Option.some.inj hstep
      exact ⟨n, us, rfl, hrest⟩
    | _ => exact absurd hstep nofun
  | _ => exact absurd hstep nofun

/-- What is fed behind an item, given that values can be taken off shorter lists. -/
theorem exists_of_feed_items {k : Nat}
    (value : ∀ ts fs, ts.length ≤ k → (Builder.value fs).feed ts = some (.done w) →
      ∃ v us, ts = v.tokens ++ us ∧ (place v fs).feed us = some (.done w))
    (is : List Json) (hk : ts.length ≤ k) (h : (Builder.items is fs).feed ts = some (.done w)) :
    ∃ vs us, ts = itemTokens vs ++ .arrayClose :: us ∧
      (place (.array (is.reverse ++ vs)) fs).feed us = some (.done w) := by
  induction hlen : ts.length using Nat.strong_induction_on generalizing ts is with
  | h n ih =>
    obtain ⟨-, hitems⟩ | ⟨t, us, b', rfl, hstep, hrest⟩ := exists_step_of_feed h
    · exact absurd hitems nofun
    cases t with
    | arrayClose =>
      obtain rfl := Option.some.inj hstep
      exact ⟨[], us, rfl, by rwa [List.append_nil]⟩
    | comma =>
      obtain rfl := Option.some.inj hstep
      rw [List.length_cons] at hk hlen
      obtain ⟨v, us, rfl, hplace⟩ := value us _ (by omega) hrest
      rw [List.length_append] at hk hlen
      obtain ⟨vs, us, rfl, hdone⟩ := ih us.length (by omega) (v :: is) (by omega) hplace rfl
      refine ⟨v :: vs, us, by simp [itemTokens], ?_⟩
      rwa [List.reverse_cons, List.append_assoc] at hdone
    | _ => exact absurd hstep nofun

/-- What is fed behind a member, given that values can be taken off shorter lists. -/
theorem exists_of_feed_members {k : Nat}
    (value : ∀ ts fs, ts.length ≤ k → (Builder.value fs).feed ts = some (.done w) →
      ∃ v us, ts = v.tokens ++ us ∧ (place v fs).feed us = some (.done w))
    (before : List (Option String × Json)) (hk : ts.length ≤ k)
    (h : (Builder.members before fs).feed ts = some (.done w)) :
    ∃ ms us, ts = memberTokens ms ++ .objectClose :: us ∧
      (place (.object (before.reverse ++ ms)) fs).feed us = some (.done w) := by
  induction hlen : ts.length using Nat.strong_induction_on generalizing ts before with
  | h n ih =>
    obtain ⟨-, hmembers⟩ | ⟨t, us, b', rfl, hstep, hrest⟩ := exists_step_of_feed h
    · exact absurd hmembers nofun
    cases t with
    | objectClose =>
      obtain rfl := Option.some.inj hstep
      exact ⟨[], us, rfl, by rwa [List.append_nil]⟩
    | comma =>
      obtain rfl := Option.some.inj hstep
      obtain ⟨name, us, rfl, hvalue⟩ := exists_of_feed_name hrest
      simp only [List.length_cons] at hk hlen
      obtain ⟨v, us, rfl, hplace⟩ := value us _ (by omega) hvalue
      rw [List.length_append] at hk hlen
      obtain ⟨ms, us, rfl, hdone⟩ :=
        ih us.length (by omega) ((name, v) :: before) (by omega) hplace rfl
      refine ⟨(name, v) :: ms, us, by simp [memberTokens], ?_⟩
      rwa [List.reverse_cons, List.append_assoc] at hdone
    | _ => exact absurd hstep nofun

/-- What is fed where a value is due starts with the tokens of a value. -/
theorem exists_of_feed_value (fs : List Frame) (h : (Builder.value fs).feed ts = some (.done w)) :
    ∃ v us, ts = v.tokens ++ us ∧ (place v fs).feed us = some (.done w) := by
  induction hlen : ts.length using Nat.strong_induction_on generalizing ts fs with
  | h n ih =>
    have value (ts : List Token) (fs : List Frame) (hts : ts.length < n)
        (h : (Builder.value fs).feed ts = some (.done w)) :
        ∃ v us, ts = v.tokens ++ us ∧ (place v fs).feed us = some (.done w) :=
      ih ts.length hts fs h rfl
    obtain ⟨-, hvalue⟩ | ⟨t, us, b', rfl, hstep, hrest⟩ := exists_step_of_feed h
    · exact absurd hvalue nofun
    rw [List.length_cons] at hlen
    cases t with
    | null => exact ⟨.null, us, rfl, Option.some.inj hstep ▸ hrest⟩
    | bool b => exact ⟨.bool b, us, rfl, Option.some.inj hstep ▸ hrest⟩
    | number m => exact ⟨.number m, us, rfl, Option.some.inj hstep ▸ hrest⟩
    | string s => exact ⟨.string s, us, rfl, Option.some.inj hstep ▸ hrest⟩
    | arrayOpen =>
      obtain rfl := Option.some.inj hstep
      obtain ⟨-, hopened⟩ | ⟨t, us', b', rfl, hfirst, hbehind⟩ := exists_step_of_feed hrest
      · exact absurd hopened nofun
      by_cases hclose : t = .arrayClose
      · subst hclose
        obtain rfl := Option.some.inj hfirst
        exact ⟨.array [], us', rfl, hbehind⟩
      · have hitem : (Builder.value (.array [] :: fs)).feed (t :: us') = some (.done w) := by
          rw [← hrest, Builder.feed, Builder.feed]
          cases t <;> first | rfl | exact absurd rfl hclose
        obtain ⟨v, us, htokens, hplace⟩ := value _ _ (by omega) hitem
        have hlength := congrArg List.length htokens
        rw [List.length_append] at hlength
        obtain ⟨vs, us, rfl, hdone⟩ := exists_of_feed_items (k := n - 1)
          (fun ts fs hts => value ts fs (by omega)) [v] (by omega) hplace
        exact ⟨.array (v :: vs), us, by simp [tokens, htokens], hdone⟩
    | objectOpen =>
      obtain rfl := Option.some.inj hstep
      obtain ⟨-, hopened⟩ | ⟨t, us', b', rfl, hfirst, hbehind⟩ := exists_step_of_feed hrest
      · exact absurd hopened nofun
      by_cases hclose : t = .objectClose
      · subst hclose
        obtain rfl := Option.some.inj hfirst
        exact ⟨.object [], us', rfl, hbehind⟩
      · have hname : (Builder.name false [] fs).feed (t :: us') = some (.done w) := by
          rw [← hrest, Builder.feed, Builder.feed]
          cases t <;> first | rfl | exact absurd rfl hclose
        obtain ⟨name, us, htokens, hvalue⟩ := exists_of_feed_name hname
        have hlength := congrArg List.length htokens
        simp only [List.length_cons] at hlength hlen
        obtain ⟨v, us, rfl, hplace⟩ := value us _ (by omega) hvalue
        rw [List.length_append] at hlength
        obtain ⟨ms, us, rfl, hdone⟩ := exists_of_feed_members (k := n - 1)
          (fun ts fs hts => value ts fs (by omega)) [(name, v)] (by omega) hplace
        exact ⟨.object ((name, v) :: ms), us, by simp [tokens, htokens], hdone⟩
    | arrayClose => exact absurd hstep nofun
    | objectClose => exact absurd hstep nofun
    | comma => exact absurd hstep nofun
    | colon => exact absurd hstep nofun

/-! ## Values and texts -/

/-- The tokens that spell a value are those of the value. -/
theorem ofTokens?_eq_some_iff : ofTokens? ts = some v ↔ ts = v.tokens := by
  constructor
  · intro h
    obtain ⟨b, hfeed, hfinish⟩ := Option.bind_eq_some_iff.1 h
    have hdone : b = .done v := by
      cases b with
      | done w => exact congrArg Builder.done (Option.some.inj hfinish)
      | _ => exact absurd hfinish nofun
    subst hdone
    obtain ⟨w, us, rfl, hplace⟩ := exists_of_feed_value [] hfeed
    obtain ⟨rfl, rfl⟩ := feed_done hplace
    exact List.append_nil _
  · rintro rfl
    exact ofTokens?_tokens v

/-- A text spells a value if and only if its tokens are those of the value. -/
theorem read?_eq_some_iff {text : String} :
    read? text = some v ↔ tokens? text.toList = some v.tokens := by
  rw [read?, Option.bind_eq_some_iff]
  constructor
  · rintro ⟨ts, hts, hv⟩
    rw [hts, ofTokens?_eq_some_iff.1 hv]
  · intro h
    exact ⟨_, h, ofTokens?_tokens v⟩

end Json

end GameHall
