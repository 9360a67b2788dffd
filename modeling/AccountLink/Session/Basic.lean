import AccountLink.Cell.Basic
import AccountLink.Service.Effect

-- Client states in use. Each state is a name for an account and an API specification, both in cells that states
-- may share; all states of a session send their notices the same way.

namespace AccountLink

structure Session where
  accounts : Shelf Account
  specs : Shelf (Option String)
  outlet : Outlet

structure Trace where
  notices : List Notice
  events : List Event
deriving DecidableEq, Repr

namespace Trace

def none : Trace := ⟨[],[]⟩

def append (a b : Trace) : Trace := ⟨a.notices ++ b.notices,a.events ++ b.events⟩

end Trace

structure Started where
  caller : Caller
  completion : Completion

def Started.request (s : Started) : Request := s.completion.call.request s.caller

namespace Session

def start (outlet : Outlet) : Session := ⟨.single "main" .initial,.single "main" none,outlet⟩

def applyEffect (s : Session) (on : String) : Effect → Option (Session × Trace)
  | .log event => some (s,⟨[],[event]⟩)
  | .write edit => do
    let accounts ← s.accounts.write on edit.apply
    some ({s with accounts := accounts},.none)
  | .notify notice => some (s,⟨s.outlet.delivered notice,s.outlet.logged notice⟩)

def applyEffects (on : String) : Session → List Effect → Option (Session × Trace)
  | s,[] => some (s,.none)
  | s,effect :: effects => do
    let (s,first) ← s.applyEffect on effect
    let (s,rest) ← applyEffects on s effects
    some (s,first.append rest)

def complete (s : Session) (on : String) (c : Completion) : Option (Session × Trace) :=
  applyEffects on s c.effects

end Session

end AccountLink
