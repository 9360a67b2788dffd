import AccountLink.Http.Course
import AccountLink.Session

-- Calls of states over HTTP. What reaches the backend is the posts of an attempt instead of a request that is
-- noted down; all else of a call is as ever. A call waits for as long as its posts take, whatever else is made.

namespace AccountLink

open AccountLink.Http

structure Delivery where
  answer : Answer
  arrived : List Post
  trace : Trace

def Session.callOver (s : Session) (base : String) (network : Network) (on : String) (caller : Caller)
    (call : Call) : Option (Session × Delivery) := do
  let made := attempt base network caller call
  let (s,trace) ← s.complete on made.completion
  some (s,⟨.result made.completion.result,made.arrived,trace⟩)

structure Dispatch where
  caller : Caller
  call : Call
  network : Network

def Dispatch.attempt (d : Dispatch) (base : String) : Attempt := Http.attempt base d.network d.caller d.call

def Dispatch.started (d : Dispatch) (base : String) : Started := ⟨d.caller,(d.attempt base).completion⟩

-- What can happen to a session whose calls go over HTTP. Of calls that overlap the posts are told call by call,
-- in the order of the starts; a post of one that is given up early is one that does not arrive.
inductive LinkStep where
  | call (on : String) (dispatch : Dispatch)
  | overlap (calls : List (String × Dispatch)) (order : List Nat)
  | other (step : Step)

structure Passage where
  answer : Answer
  asked : List Request
  arrived : List Post
  trace : Trace

namespace Session

def stepOver (s : Session) (base : String) : LinkStep → Option (Session × Passage)
  | .call on d => do
    let (s,delivery) ← s.callOver base d.network on d.caller d.call
    some (s,⟨delivery.answer,[],delivery.arrived,delivery.trace⟩)
  | .overlap calls order => do
    let (s,report) ← s.step (.overlap (calls.map fun (on,d) => (on,d.started base)) order)
    some (s,⟨report.answer,[],calls.flatMap fun call => (call.2.attempt base).arrived,report.trace⟩)
  | .other step => do
    let (s,report) ← s.step step
    some (s,⟨report.answer,report.asked,[],report.trace⟩)

def runOver (base : String) : Session → List LinkStep → Option (List (Passage × Session))
  | _,[] => some []
  | s,first :: rest => do
    let (s,passage) ← s.stepOver base first
    let later ← runOver base s rest
    some ((passage,s) :: later)

end Session

end AccountLink
