import GameHall.Hall.Operation
import GameHall.Rules.Book

/-!
# Servers

A server keeps a hall for the variants of a rule book. It answers until it is shut down; from then
on everything is refused.

* `Server.build` sets a server up from its configuration and the files of the rule book.
* `Server.ask` does an operation on the hall, `Server.handle` a command of a session, to which it
  sends a notice when the command is rejected.
* A session's line may be hung up; what is sent over it afterwards is lost, as `Server.heard` says.
-/

namespace GameHall

/-- The name under which the hall refuses requests once it is closed. -/
def hallManager : String := "table"

/-- A server. -/
structure Server where
  config : Config
  variants : Rules.VariantBook
  hall : Hall
  /-- Whether the server has been shut down. -/
  stopped : Bool
  /-- The lines that were hung up. -/
  hungUp : List Nat
deriving DecidableEq, Repr

/-- What a server does with a request. -/
structure Reply (ε α : Type) where
  /-- The server afterwards. -/
  server : Server
  /-- What was sent, in order. -/
  sent : List Delivery
  result : Except ε α

namespace Server

/-- A server for the variants of a rule book. -/
def ofBook (config : Config) (variants : Rules.VariantBook) : Server where
  config := config
  variants := variants
  hall := .fresh config.limits variants.names
  stopped := false
  hungUp := []

/-- Sets a server up. -/
def build (config : Config) (files : Rules.Document → Rules.FileContents) :
    Except Rules.Fault Server :=
  (Rules.Book.load files).map fun b => ofBook config b.variants

/-- Does an operation on the hall, unless the server has been shut down. -/
def ask {ε α : Type} (srv : Server) (closed : Refusal → ε) (op : Hall → Outcome ε α) :
    Reply ε α :=
  if srv.stopped then ⟨srv, [], .error (closed (.closed hallManager))⟩
  else
    let o := op srv.hall
    ⟨{ srv with hall := o.hall }, o.sent, o.result⟩

/-- Does any operation. -/
def perform (srv : Server) (luck : Luck) (op : Operation) : Reply Rejection Answer :=
  srv.ask .ofRefusal fun h => h.perform luck op

/-- Does what a session asks for, and tells the session when it is rejected. -/
def handle (srv : Server) (luck : Luck) (s : Session) (c : Command) : Reply Rejection Unit :=
  let r := srv.perform luck (.command s c)
  match r.result with
  | .ok _ => ⟨r.server, r.sent, .ok ()⟩
  | .error e => ⟨r.server, r.sent ++ [e.notice s], .error e⟩

/-- Looks something up in the hall, unless the server has been shut down. -/
def view {α : Type} (srv : Server) (look : Hall → α) : Except Refusal α :=
  if srv.stopped then .error (.closed hallManager) else .ok (look srv.hall)

/-- Shuts the server down. -/
def shutdown (srv : Server) : Server := { srv with stopped := true }

/-! ## Lines -/

/-- Hangs up a line. -/
def hangUp (srv : Server) (line : Nat) : Server := { srv with hungUp := line :: srv.hungUp }

/-- Whether a line still reaches its user. -/
def isOpen (srv : Server) (line : Nat) : Bool := !srv.hungUp.contains line

/-- What is heard of what was sent. -/
def heard (srv : Server) (sent : List Delivery) : List Delivery :=
  sent.filter fun d => srv.isOpen d.session.line

end Server

end GameHall
