import AccountLink.Session.Basic

-- Calls under way together, each on a state of its own or on one that others are made on as well. A call
-- asks the backend as soon as it starts and then waits; it holds nothing of its state while it does. When its
-- reply comes through it completes on what is there by then. One that is given up while it waits never does.

namespace AccountLink

inductive Stage where
  | waiting
  | completed
  | cancelled
deriving DecidableEq, Repr

structure Task where
  call : String × Started
  stage : Stage

structure Flight where
  session : Session
  tasks : List Task
  asked : List Request
  trace : Trace
  completions : List (Nat × Result × Account)

inductive Move where
  | start (call : String × Started)
  | complete (number : Nat)
  | cancel (number : Nat)

namespace Flight

def idle (s : Session) : Flight := ⟨s,[],[],.none,[]⟩

def waiting? (f : Flight) (number : Nat) : Option (String × Started) :=
  match f.tasks[number]? with
  | some ⟨call,.waiting⟩ => some call
  | _ => none

def reach (f : Flight) (number : Nat) (stage : Stage) : Flight :=
  {f with tasks := f.tasks.modify number fun task => {task with stage := stage}}

def move (f : Flight) : Move → Option Flight
  | .start call =>
    some {f with tasks := f.tasks ++ [⟨call,.waiting⟩],asked := f.asked ++ [call.2.request]}
  | .complete number => do
    let (on,started) ← f.waiting? number
    let (session,trace) ← f.session.complete on started.completion
    let account ← session.accounts.snapshot? on
    some {f.reach number .completed with
      session := session
      trace := f.trace.append trace
      completions := f.completions ++ [(number,started.completion.result,account)]}
  | .cancel number => do
    let _ ← f.waiting? number
    some (f.reach number .cancelled)

def run : Flight → List Move → Option Flight
  | f,[] => some f
  | f,first :: rest => do
    let f ← f.move first
    run f rest

-- All calls start; some complete, in the order given by their numbers, and then the others are given up.
def schedule (calls : List (String × Started)) (order : List Nat) : List Move :=
  calls.map .start ++ order.map .complete ++
    ((List.range calls.length).filter fun number => !order.contains number).map .cancel

end Flight

end AccountLink
