import GameHall.Json.Reader
import GameHall.Proofs.Json.Scanned

/-!
# Values are read as they are written

`Json.read?_text`: the text of a value spells that value, whichever value it is. Between text and
value stand the value's tokens (`Json.tokens`): the scanner makes them of the text
(`Json.scans_chars`), and the builder makes the value of them (`Json.feed_tokens`). Both follow the
value, with its items and its members beside it.

The builder is fed the tokens of a value wherever one is due, with other tokens behind them; what it
comes to is the value, put where it belongs.
-/

namespace GameHall

namespace Json

mutual

/-- The tokens of a value as it is written. -/
def tokens : Json → List Token
  | .null => [.null]
  | .bool b => [.bool b]
  | .number n => [.number n]
  | .string s => [.string s]
  | .array [] => [.arrayOpen, .arrayClose]
  | .array (v :: vs) => .arrayOpen :: tokens v ++ itemTokens vs ++ [.arrayClose]
  | .object [] => [.objectOpen, .objectClose]
  | .object ((n, v) :: ms) =>
    .objectOpen :: .string n :: .colon :: tokens v ++ memberTokens ms ++ [.objectClose]

/-- The tokens of the items after the first. -/
def itemTokens : List Json → List Token
  | [] => []
  | v :: vs => .comma :: tokens v ++ itemTokens vs

/-- The tokens of the members after the first. -/
def memberTokens : List (Option String × Json) → List Token
  | [] => []
  | (n, v) :: ms => .comma :: .string n :: .colon :: tokens v ++ memberTokens ms

end

/-! ## From text to tokens -/

section Scan

open Scanner

/-- The name of a member and the value behind it. -/
theorem scans_member (name : Option String) {cs : List Char} {ts us : List Token}
    (h : (Scanner.mk .between (.colon :: .string name :: ts)).Scans cs us) :
    (Scanner.mk .between ts).Scans (quote name ++ ':' :: cs) us := by
  obtain ⟨s', hfeed, hholds⟩ := h
  refine ⟨s', ?_, hholds⟩
  rw [feed_quote]
  exact hfeed

mutual

/-- The scanner makes the tokens of a value of what the printer writes. -/
theorem scans_chars (v : Json) (ts : List Token) :
    (Scanner.mk .between ts).Scans v.chars (v.tokens.reverse ++ ts) := by
  match v with
  | .null => exact ⟨_, rfl, .between _⟩
  | .bool true => exact ⟨_, rfl, .between _⟩
  | .bool false => exact ⟨_, rfl, .between _⟩
  | .number n => exact scans_number n ts
  | .string text =>
    refine ⟨_, ?_, .between _⟩
    simpa [chars, tokens, feed] using feed_quote text ts []
  | .array [] => exact ⟨_, rfl, .between _⟩
  | .array (v :: vs) =>
    have hitems := (scans_chars v (.arrayOpen :: ts)).append fun s' hs' => scans_itemChars vs hs'
    have hclosed := hitems.append fun s' hs' => hs'.scans_mark .arrayClose
    simpa [chars, tokens] using Scans.cons (s := ⟨.between, ts⟩) (c := '[') rfl hclosed
  | .object [] => exact ⟨_, rfl, .between _⟩
  | .object ((n, v) :: ms) =>
    have hfirst := scans_member n (scans_chars v (.colon :: .string n :: .objectOpen :: ts))
    have hmembers := hfirst.append fun s' hs' => scans_memberChars ms hs'
    have hclosed := hmembers.append fun s' hs' => hs'.scans_mark .objectClose
    simpa [chars, tokens] using Scans.cons (s := ⟨.between, ts⟩) (c := '\x7b') rfl hclosed

theorem scans_itemChars (vs : List Json) {s : Scanner} {ts : List Token} (h : s.Holds ts) :
    s.Scans (itemChars vs) ((itemTokens vs).reverse ++ ts) := by
  match vs with
  | [] => exact h.scans_nil
  | v :: vs =>
    have hrest := (scans_chars v (.comma :: ts)).append fun s' hs' => scans_itemChars vs hs'
    simpa [itemChars, itemTokens] using Scans.cons (h.step .comma) hrest

theorem scans_memberChars (ms : List (Option String × Json)) {s : Scanner} {ts : List Token}
    (h : s.Holds ts) :
    s.Scans (memberChars ms) ((memberTokens ms).reverse ++ ts) := by
  match ms with
  | [] => exact h.scans_nil
  | (n, v) :: ms =>
    have hrest := (scans_member n (scans_chars v (.colon :: .string n :: .comma :: ts))).append
      fun s' hs' => scans_memberChars ms hs'
    simpa [memberChars, memberTokens] using Scans.cons (h.step .comma) hrest

end

theorem tokens?_chars (v : Json) : tokens? v.chars = some v.tokens := by
  obtain ⟨s, hfeed, hholds⟩ := scans_chars v []
  unfold tokens? Scanner.start
  rw [hfeed, Option.bind_some, hholds.finish]
  simp

end Scan

/-! ## From tokens to values -/

section Build

open Builder

variable {us : List Token}

/-- A value begins with no mark that ends one. -/
theorem tokens_eq_cons (v : Json) : ∃ t ts, v.tokens = t :: ts ∧ t ≠ .arrayClose := by
  match v with
  | .null | .bool _ | .number _ | .string _ => exact ⟨_, [], rfl, nofun⟩
  | .array [] | .object [] | .array (_ :: _) | .object ((_, _) :: _) => exact ⟨_, _, rfl, nofun⟩

/-- The first item of an array is built like every other. -/
theorem feed_opened (v : Json) (fs : List Frame) (us : List Token) :
    (Builder.opened fs).feed (v.tokens ++ us) =
      (Builder.value (.array [] :: fs)).feed (v.tokens ++ us) := by
  obtain ⟨t, ts, hv, ht⟩ := tokens_eq_cons v
  rw [hv, List.cons_append, Builder.feed, Builder.feed]
  cases t <;> first | rfl | exact absurd rfl ht

mutual

/-- The builder makes a value of its tokens, wherever one is due. -/
theorem feed_tokens (v : Json) (fs : List Frame) (us : List Token) :
    (Builder.value fs).feed (v.tokens ++ us) = (place v fs).feed us := by
  match v with
  | .null | .bool _ | .number _ | .string _ | .array [] | .object [] => rfl
  | .array (v :: vs) =>
    have hopen : (Builder.value fs).feed ((Json.array (v :: vs)).tokens ++ us) =
        (Builder.opened fs).feed (v.tokens ++ (itemTokens vs ++ .arrayClose :: us)) := by
      simp [tokens, Builder.feed, Builder.step, begin?]
    rw [hopen, feed_opened, feed_tokens v]
    exact feed_itemTokens vs [v] fs us
  | .object ((n, v) :: ms) =>
    have hopen : (Builder.value fs).feed ((Json.object ((n, v) :: ms)).tokens ++ us) =
        (Builder.value (.member [] n :: fs)).feed
          (v.tokens ++ (memberTokens ms ++ .objectClose :: us)) := by
      simp [tokens, Builder.feed, Builder.step, begin?]
    rw [hopen, feed_tokens v]
    exact feed_memberTokens ms [(n, v)] fs us

/-- The items before those that are fed come last first. -/
theorem feed_itemTokens (vs before : List Json) (fs : List Frame) (us : List Token) :
    (Builder.items before fs).feed (itemTokens vs ++ .arrayClose :: us) =
      (place (.array (before.reverse ++ vs)) fs).feed us := by
  match vs with
  | [] => simp [itemTokens, Builder.feed, Builder.step]
  | v :: vs =>
    have hcomma : (Builder.items before fs).feed (itemTokens (v :: vs) ++ .arrayClose :: us) =
        (Builder.value (.array before :: fs)).feed
          (v.tokens ++ (itemTokens vs ++ .arrayClose :: us)) := by
      simp [itemTokens, Builder.feed, Builder.step]
    rw [hcomma, feed_tokens v, place, feed_itemTokens vs (v :: before)]
    simp

/-- The members before those that are fed come last first. -/
theorem feed_memberTokens (ms before : List (Option String × Json)) (fs : List Frame)
    (us : List Token) :
    (Builder.members before fs).feed (memberTokens ms ++ .objectClose :: us) =
      (place (.object (before.reverse ++ ms)) fs).feed us := by
  match ms with
  | [] => simp [memberTokens, Builder.feed, Builder.step]
  | (n, v) :: ms =>
    have hcomma : (Builder.members before fs).feed
        (memberTokens ((n, v) :: ms) ++ .objectClose :: us) =
          (Builder.value (.member before n :: fs)).feed
            (v.tokens ++ (memberTokens ms ++ .objectClose :: us)) := by
      simp [memberTokens, Builder.feed, Builder.step]
    rw [hcomma, feed_tokens v, place, feed_memberTokens ms ((n, v) :: before)]
    simp

end

theorem ofTokens?_tokens (v : Json) : ofTokens? v.tokens = some v := by
  have hfeed := feed_tokens v [] []
  rw [List.append_nil] at hfeed
  rw [ofTokens?, hfeed]
  rfl

end Build

/-- **The text of a value spells that value**, numbers of any size and strings that spell no text
included. -/
theorem read?_text (v : Json) : read? v.text = some v := by
  rw [read?, text, String.toList_ofList, tokens?_chars, Option.bind_some, ofTokens?_tokens]

end Json

end GameHall
