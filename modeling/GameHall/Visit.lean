import GameHall.Hall.Request
import GameHall.Server

/-!
# Visits

Everything that is done with a server while it runs, as data. `Visit` is what is asked, `Response`
what comes back, and `Server.visit` answers. Visits come one after the other; `Server.run` does a
list of them.
-/

namespace GameHall

/-- What is done with a server. -/
inductive Visit
  /-- A session asks for something, and is told when it is rejected. -/
  | handle (luck : Luck) (session : Session) (command : Command)
  /-- An operation is done, and nobody is told when it is rejected. -/
  | perform (luck : Luck) (operation : Operation)
  /-- The hall is asked for something. -/
  | call (request : HallRequest)
  /-- The server is shut down, and whoever does so waits until its worker has stopped. -/
  | shutdown
deriving DecidableEq, Repr

/-- What comes back. -/
inductive Response
  | handled (result : Except Rejection Unit)
  | performed (result : Except Rejection Answer)
  | called (request : HallRequest) (result : Except Refusal request.Result)
  /-- Whether the worker was found to have stopped or to be running still. -/
  | shutdown (worker : Worker.Answer)

namespace Server

/-- What a server does when it is visited. -/
structure Visited where
  /-- The server afterwards. -/
  server : Server
  /-- What was sent, in order. -/
  sent : List Delivery
  response : Response

/-- What a server does with a request, as a visit. -/
def Visited.ofReply {ε α : Type} (response : Except ε α → Response) (r : Reply ε α) : Visited :=
  ⟨r.server, r.sent, response r.result⟩

/-- Answers a visit. -/
def visit (srv : Server) : Visit → Visited
  | .handle luck s c => .ofReply .handled (srv.handle luck s c)
  | .perform luck op => .ofReply .performed (srv.perform luck op)
  | .call r => .ofReply (.called r) (srv.ask id fun h => h.serve r)
  | .shutdown => ⟨srv.shutdown, [], .shutdown .exited⟩

/-- Answers visits one after the other. -/
def run (srv : Server) : List Visit → Server
  | [] => srv
  | v :: vs => run (srv.visit v).server vs

end Server

end GameHall
