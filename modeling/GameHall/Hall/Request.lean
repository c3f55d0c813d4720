import GameHall.Hall.Membership

/-!
# Requests to a hall

What a hall is asked for by its server, as data.

* `HallRequest` is the closed list of requests, and `HallRequest.Result` what each is answered with.
* `Hall.serve` does what is asked for. Where something is only looked up, nothing happens.
-/

namespace GameHall

/-- What a hall can be asked for. -/
inductive HallRequest
  | openTable (creator : Session) (name : String) (options : Options)
  | openReplay (creator : Session) (name : String) (roster : List (UserId × String))
      (options : Options) (visible : Bool)
  /-- The table of a number. -/
  | find (id : TableId)
  /-- What a listing shows. -/
  | listings
  /-- The tables where a user is. -/
  | tablesOf (user : UserId)
  | join (session : Session) (id : TableId)
  | leave (user : UserId) (id : TableId)
  | watch (session : Session) (id : TableId)
  | stopWatching (user : UserId) (id : TableId)
  | disconnect (user : UserId)
  | checkSeating (users : List UserId)
  | windDown
deriving DecidableEq, Repr

/-- What a request is answered with when it succeeds. -/
@[reducible]
def HallRequest.Result : HallRequest → Type
  | openTable .. | openReplay .. => TableId
  | find _ => Option Table
  | listings => List Listing
  | tablesOf _ => List TableId
  | windDown => Nat
  | join .. | leave .. | watch .. | stopWatching .. | disconnect _ | checkSeating _ => Unit

namespace Hall

/-- Nothing happens, and something is told about the hall. -/
def tell {ε α : Type} (h : Hall) (a : α) : Outcome ε α := ⟨h, [], .ok a⟩

/-- Does what is asked for. -/
def serve (h : Hall) : (r : HallRequest) → Outcome Refusal r.Result
  | .openTable s name options => h.openTable s name options
  | .openReplay s name roster options visible => h.openReplay s name roster options visible
  | .find id => h.tell (h.table? id)
  | .listings => h.tell h.listings
  | .tablesOf u => h.tell (h.tablesOf u)
  | .join s id => h.join s id
  | .leave u id => h.leave u id
  | .watch s id => h.watch s id
  | .stopWatching u id => h.stopWatching u id
  | .disconnect u => h.disconnect u
  | .checkSeating users => h.checkSeating users
  | .windDown => h.windDown

end Hall

end GameHall
