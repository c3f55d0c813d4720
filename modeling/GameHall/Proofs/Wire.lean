import GameHall.Config
import GameHall.Message.Wire
import GameHall.Options
import GameHall.Phase
import GameHall.Proofs.Json.ReadBack

/-!
# What is written is read back

Every type that travels as JSON is read back as it was written: `Wire.reads_back`. The texts are
taken care of by `Json.read?_text`, so what is left are the forms. Each is an object whose members
have different names (`Json.record?_members`), a word of a closed list or a number, and numbers are
read back where they fit the words that they are read into.

The news of a table is read with all of its members held back but the kind. That asks for finite
numbers, and those of 64 bits are all finite (`Numeral.isFinite_ofNat`).
-/

namespace GameHall

/-! ## Numbers -/

namespace Numeral

theorem nearestDouble_le {n : Nat} (h : 0 < n) : nearestDouble n ≤ 2 * n := by
  unfold nearestDouble
  have hunit : Nat.pow 2 (n.log2 - 52) ≤ n :=
    le_trans (Nat.pow_le_pow_right (by decide) (Nat.sub_le _ _)) (Nat.log2_self_le h.ne')
  have hbelow : n / Nat.pow 2 (n.log2 - 52) * Nat.pow 2 (n.log2 - 52) ≤ n := Nat.div_mul_le_self _ _
  dsimp only
  split_ifs
  · omega
  · rw [Nat.add_one_mul]
    omega

/-- All words of 64 bits are read as finite doubles. -/
theorem isFinite_ofNat {n : Nat} (h : n < UInt64.size) : (ofNat n).isFinite = true := by
  have hscaled : (ofNat n).scaled = (n, 0) := by
    have hleading : leading n = (n, 0) := by
      rw [leading, if_pos (show n < leadingBound from h)]
    simp [scaled, ofNat, hleading, appendLeading]
  unfold isFinite
  rw [hscaled]
  dsimp only
  split_ifs with hzero hlarge
  · rfl
  · exact absurd hlarge (by decide)
  · have hpos : 0 < n := by omega
    have hone : nearestDouble (Nat.pow 10 (0 : Int).toNat) = 1 := by decide
    have hbound : 2 * UInt64.size < overflow := by decide +kernel
    rw [decide_eq_true_iff, hone, Nat.mul_one]
    have := nearestDouble_le hpos
    omega

end Numeral

namespace Json

variable {n bound : Nat} {ms : List (String × Json)}

@[simp] theorem int?_nat (n : Nat) : (Json.nat n).int? = some (n : Int) := rfl

theorem natBelow?_nat (h : n < bound) : (Json.nat n).natBelow? bound = some n := by
  simp [natBelow?, intWithin?, h]

theorem natBelow?_nat_of_le (h : bound ≤ n) : (Json.nat n).natBelow? bound = none := by
  simp [natBelow?, intWithin?, h]

@[simp] theorem word32?_nat (w : UInt32) : (Json.nat w.toNat).word32? = some w := by
  simp [word32?, natBelow?_nat w.toNat_lt]

@[simp] theorem word64?_nat (w : UInt64) : (Json.nat w.toNat).word64? = some w := by
  simp [word64?, natBelow?_nat w.toNat_lt]

/-! ## Records -/

@[simp] theorem text?_str (s : String) : (Json.str s).text? = some s := rfl

@[simp] theorem bool?_bool (b : Bool) : (Json.bool b).bool? = some b := rfl

theorem named?_members (ms : List (String × Json)) :
    named? (ms.map fun m => (some m.1, m.2)) = some ms := by
  induction ms with
  | nil => rfl
  | cons m ms ih => simp [named?, ih]

theorem givenOnce_iff {fields : List String} :
    givenOnce fields ms = true ↔ ∀ f ∈ fields, (ms.map Prod.fst).count f ≤ 1 := by
  have hcount (f : String) : ms.countP (fun m => m.1 == f) = (ms.map Prod.fst).count f := by
    rw [List.count, List.countP_map]
    rfl
  simp [givenOnce, hcount]

/-- The fields of an object are its members, unless one is given twice. -/
theorem objectFields?_members_eq (fields : List String) (ms : List (String × Json)) :
    objectFields? fields (ms.map fun m => (some m.1, m.2)) =
      if givenOnce fields ms then some fun f => ms.lookup f else none := by
  simp [objectFields?, named?_members]

/-- Where no name is given twice, every field is the member of its name. -/
theorem objectFields?_members (h : (ms.map Prod.fst).Nodup) (fields : List String) :
    objectFields? fields (ms.map fun m => (some m.1, m.2)) = some fun f => ms.lookup f := by
  have honce : givenOnce fields ms = true := givenOnce_iff.2 fun f _ => List.nodup_iff_count.1 h f
  rw [objectFields?_members_eq, if_pos honce]

theorem record?_members (h : (ms.map Prod.fst).Nodup) (fields : List String) :
    (Json.members ms).record? fields = some fun f => ms.lookup f :=
  objectFields?_members h fields

end Json

@[simp] theorem required_some {α : Type} (read : Json → Option α) (v : Json) :
    required read (some v) = read v := rfl

@[simp] theorem orElse_some {α : Type} (default : α) (read : Json → Option α) (v : Json) :
    orElse default read (some v) = read v := rfl

/-! ## Settings -/

-- The fields are read one after the other. With proofs left to the kernel, it would evaluate the
-- bounds of the words in unary.

theorem Options.read?_json (o : Options) : Options.read? o.json = some o := by
  unfold Options.read? Options.json
  rw [Json.record?_members (by simp)]
  simp -implicitDefEqProofs [List.lookup_cons]

theorem Limits.read?_json (l : Limits) : Limits.read? l.json = some l := by
  unfold Limits.read? Limits.json
  rw [Json.record?_members (by simp)]
  simp -implicitDefEqProofs [List.lookup_cons]

theorem Config.read?_json (c : Config) : Config.read? c.json = some c := by
  unfold Config.read? Config.json
  rw [Json.record?_members (by simp)]
  simp -implicitDefEqProofs [List.lookup_cons, Limits.read?_json]

theorem Phase.read?_display (p : Phase) : Json.oneOf? words (.str p.display) = some p := by
  cases p <;> decide

theorem UserId.read?_json (u : UserId) : Wire.read? (Wire.json u) = some u :=
  congrArg (Option.map UserId.mk) (Json.word64?_nat u.val)

theorem TableId.read?_json_iff (t : TableId) :
    Wire.read? (Wire.json t) = some t ↔ t.val < UInt64.size := by
  change ((Json.nat t.val).natBelow? UInt64.size).map TableId.mk = some t ↔ _
  by_cases h : t.val < UInt64.size
  · simp [Json.natBelow?_nat h, h]
  · simp [Json.natBelow?_nat_of_le (Nat.le_of_not_lt h), h]

/-! ## Messages -/

theorem Severity.read?_display (s : Severity) :
    Severity.read? .inOrder (.str s.display) = some s := by
  cases s <;> decide

theorem Json.holdable_nat {n : Nat} (h : n < UInt64.size) (depth : Nat) :
    (Json.nat n).holdable depth = true := by
  unfold Json.nat Json.holdable
  exact Numeral.isFinite_ofNat h

theorem News.read?_json (n : News) (level : Nat) : News.read? .inOrder level n.json = some n := by
  cases n with
  | seatsChanged | watchersChanged | boot | started => rfl
  | newLeader leader =>
    have hkind : News.kind? .inOrder (.str "ReplayLeader") = some .newLeader := rfl
    have hheld := Json.holdable_nat leader.val.toNat_lt (maxNesting - (level + 1))
    simp -implicitDefEqProofs [News.read?, News.json, Json.members, Json.named?, News.ofMembers?,
      Json.givenOnce, hkind, hheld, List.lookup_cons, News.ofKind?]

namespace Message

/-- Contents that are written behind their kind are not held back. -/
theorem read?_members {tag : String} {kind : Kind} (h : kinds.lookup tag = some kind) (data : Json) :
    Message.read? (.members [("type", .str tag), ("data", data)]) = ofData? .inOrder kind data := by
  have htag : Json.oneOf? kinds (.str tag) = some kind := h
  have harrival (v : Json) : arrival [("type", v), ("data", data)] = .inOrder := by
    simp [arrival, List.findIdx_cons]
  simp [Message.read?, Json.members, Json.named?, ofMembers?, Json.givenOnce, List.lookup_cons, htag,
    harrival]

/-- The number of the table, if it is news of one, is a word of 64 bits. -/
def Fits : Message → Prop
  | .table id _ => id.val < UInt64.size
  | .chat .. | .notice .. => True

theorem read?_json_iff (m : Message) : Message.read? m.json = some m ↔ m.Fits := by
  cases m with
  | table id news =>
    unfold json
    rw [read?_members (show kinds.lookup "Table" = some .table from rfl)]
    unfold ofData? Json.members
    dsimp only
    rw [Json.objectFields?_members (by simp)]
    by_cases h : id.val < UInt64.size
    · simp -implicitDefEqProofs [List.lookup_cons, Json.natBelow?_nat h, News.read?_json, Fits, h]
    · simp -implicitDefEqProofs [List.lookup_cons, Json.natBelow?_nat_of_le (Nat.le_of_not_lt h), Fits, h]
  | chat room text =>
    unfold json
    rw [read?_members (show kinds.lookup "Chat" = some .chat from rfl)]
    unfold ofData? Json.members
    dsimp only
    rw [Json.objectFields?_members (by simp)]
    simp [List.lookup_cons, Fits]
  | notice severity text =>
    unfold json
    rw [read?_members (show kinds.lookup "Notice" = some .notice from rfl)]
    unfold ofData? Json.members
    dsimp only
    rw [Json.objectFields?_members (by simp)]
    simp [List.lookup_cons, Fits, Severity.read?_display]

end Message

/-! ## Texts -/

namespace Wire

variable {α : Type} [Wire α]

/-- What a text is read as depends on the form that it spells. -/
theorem ofText?_text (a : α) : ofText? (text a) = (read? (json a) : Option α) := by
  rw [ofText?, text, Json.read?_text, Option.bind_some]

/-- **What is written is read back**, for all settings and all messages. Numbers of tables count on
without an end, and those that are words of 64 bits are read back. -/
theorem reads_back :
    (∀ o : Options, ofText? (text o) = some o) ∧
      (∀ l : Limits, ofText? (text l) = some l) ∧
        (∀ c : Config, ofText? (text c) = some c) ∧
          (∀ p : Phase, ofText? (text p) = some p) ∧
            (∀ u : UserId, ofText? (text u) = some u) ∧
              (∀ t : TableId, ofText? (text t) = some t ↔ t.val < UInt64.size) ∧
                (∀ n : News, ofText? (text n) = some n) ∧
                  (∀ s : Severity, ofText? (text s) = some s) ∧
                    ∀ m : Message, ofText? (text m) = some m ↔ m.Fits := by
  simp only [ofText?_text]
  exact ⟨Options.read?_json, Limits.read?_json, Config.read?_json, Phase.read?_display,
    UserId.read?_json, TableId.read?_json_iff, fun n => News.read?_json n 0,
    Severity.read?_display, Message.read?_json_iff⟩

end Wire

end GameHall
