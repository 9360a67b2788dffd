import AccountLink.Session.Flight

-- What can happen to a session, one step at a time. The report of a step is what can be seen of it: the answer,
-- what the backend was asked, the notices delivered and the events logged.

namespace AccountLink

inductive Answer where
  | none
  | flag (b : Bool)
  | result (result : Result)
  | completions (results : List (Nat × Result × Account))
  | account (change : Change) (account : Account)
  | spec (change : Change) (spec : Option String)

structure Report where
  answer : Answer
  asked : List Request
  trace : Trace

-- What can happen to a session. Names are those of states, and of watches where a step looks at one.
inductive Step where
  | call (on : String) (started : Started)
  | overlap (calls : List (String × Started)) (order : List Nat)
  | edit (on : String) (edit : Edit)
  | reset (on : String)
  | setSpec (on : String) (spec : Option String)
  | isLoggedIn (on : String)
  | subscribe (on watch : String)
  | subscribeSpec (on watch : String)
  | observe (watch : String)
  | peek (watch : String)
  | unsubscribe (watch : String)
  | closeNotices
  | clone (on name : String)
  | withAccount (on : String) (accountOf : Option String) (name : String)
  | drop (on : String)

namespace Session

def quiet (s : Session) (answer : Answer) : Session × Report := (s,⟨answer,[],.none⟩)

def look (s : Session) (watch : String) : Option Answer :=
  match s.accounts.look? watch with
  | some (change,account) => some (.account change account)
  | none => (s.specs.look? watch).map fun (change,spec) => .spec change spec

def mark (s : Session) (watch : String) : Option Session :=
  match s.accounts.mark watch with
  | some accounts => some {s with accounts := accounts}
  | none => (s.specs.mark watch).map fun specs => {s with specs := specs}

def isWatch (s : Session) (watch : String) : Bool :=
  (s.accounts.watches.get? watch).isSome || (s.specs.watches.get? watch).isSome

-- One step; none if it names a state, a watch or a call that is not there.
def step (s : Session) : Step → Option (Session × Report)
  | .call on started => do
    let (s,trace) ← s.complete on started.completion
    some (s,⟨.result started.completion.result,[started.request],trace⟩)
  | .overlap calls order => do
    let f ← Flight.run (.idle s) (Flight.schedule calls order)
    some (f.session,⟨.completions f.completions,f.asked,f.trace⟩)
  | .edit on edit => do
    let accounts ← s.accounts.write on edit.apply
    some (quiet {s with accounts := accounts} .none)
  | .reset on => do
    let accounts ← s.accounts.write on fun _ => .initial
    some (quiet {s with accounts := accounts} .none)
  | .setSpec on spec => do
    let specs ← s.specs.write on fun _ => spec
    some (quiet {s with specs := specs} .none)
  | .isLoggedIn on => do
    let account ← s.accounts.snapshot? on
    some (s.quiet (.flag account.status.isLoggedIn))
  | .subscribe on watch => do
    let accounts ← s.accounts.subscribe on watch
    some (quiet {s with accounts := accounts} .none)
  | .subscribeSpec on watch => do
    let specs ← s.specs.subscribe on watch
    some (quiet {s with specs := specs} .none)
  | .observe watch => do
    let answer ← s.look watch
    let s ← s.mark watch
    some (s.quiet answer)
  | .peek watch => do
    let answer ← s.look watch
    some (s.quiet answer)
  | .unsubscribe watch =>
    some (quiet {s with
      accounts := s.accounts.unsubscribe watch
      specs := s.specs.unsubscribe watch} (.flag (s.isWatch watch)))
  | .closeNotices => some (quiet {s with outlet := s.outlet.close} .none)
  | .clone on name => do
    let accounts ← s.accounts.share name on
    let specs ← s.specs.share name on
    some (quiet {s with accounts := accounts,specs := specs} .none)
  | .withAccount on accountOf name => do
    let accounts ← match accountOf with
      | some source => s.accounts.share name source
      | none => some (s.accounts.create name .initial)
    let specs ← s.specs.share name on
    some (quiet {s with accounts := accounts,specs := specs} .none)
  | .drop on => some (quiet {s with accounts := s.accounts.drop on,specs := s.specs.drop on} .none)

def run : Session → List Step → Option (List (Report × Session))
  | _,[] => some []
  | s,first :: rest => do
    let (s,report) ← s.step first
    let later ← run s rest
    some ((report,s) :: later)

def last (s : Session) (trail : List (Report × Session)) : Session := (trail.getLast?.map (·.2)).getD s

end Session

end AccountLink
