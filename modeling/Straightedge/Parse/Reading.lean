import Straightedge.Parse.Drawing

namespace Straightedge

inductive Reading where
  | unsplit (error : SyntaxError)
  | empty (error : SyntaxError)
  | stopped (fault : Fault) (session : Session)
  | finished (drawing : Drawing) (session : Session)

namespace Reading

def ofTokens (jitter : Jitter) (tokens : List Token) : Reading :=
  match Session.start tokens with
  | .error error => .empty error
  | .ok session =>
      match Rule.drawing jitter session with
      | .error fault later => .stopped fault later
      | .ok drawing later => .finished drawing later

def ofSource (jitter : Jitter) (source : String) : Reading :=
  match tokenize source with
  | .error error => .unsplit error
  | .ok tokens => ofTokens jitter tokens

def result : Reading → Except Fault (Drawing × Table)
  | .unsplit error => .error (.violation error)
  | .empty error => .error (.violation error)
  | .stopped fault _ => .error fault
  | .finished drawing session => .ok (drawing, session.table)

def journal : Reading → List Event
  | .unsplit _ => []
  | .empty _ => []
  | .stopped _ session => session.journal
  | .finished _ session => session.journal

end Reading

end Straightedge
