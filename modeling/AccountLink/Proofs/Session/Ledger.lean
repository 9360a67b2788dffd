import AccountLink.Proofs.Cell.Column
import AccountLink.Proofs.Session.Calls

namespace AccountLink

open AccountLink.Shelf

def Started.writes (call : Started) : List (Account → Account) := call.completion.edits.map Edit.apply

-- A step of a session, or what else there is to do with states: to make one
-- with cells of its own, and to write the cells of one in any way. A call
-- counts where it completes, since it has nothing to do with cells before.
inductive Act where
  | found (name : String)
  | write (on : String) (f : Account → Account)
  | writeSpec (on : String) (f : Option String → Option String)
  | step (st : Step)

namespace Session

def bare (outlet : Outlet) : Session := ⟨.empty,.empty,outlet⟩

def found (s : Session) (name : String) : Session :=
  {s with accounts := s.accounts.create name .initial,specs := s.specs.create name none}

def perform (s : Session) : Act → Option (Session × Report)
  | .found name => some ((s.found name).quiet .none)
  | .write on f => (s.accounts.write on f).map fun accounts => quiet {s with accounts := accounts} .none
  | .writeSpec on f => (s.specs.write on f).map fun specs => quiet {s with specs := specs} .none
  | .step st => s.step st

def performAll : Session → List Act → Option (List (Report × Session))
  | _,[] => some []
  | s,first :: rest => do
    let (s,report) ← s.perform first
    let later ← performAll s rest
    some ((report,s) :: later)

end Session

namespace Act

-- What an act writes of accounts, in order, each through a state. Calls that overlap write when they complete; those
-- that are given up write nothing.
def writes? : Act → Option (List (String × (Account → Account)))
  | .write on f => some [(on,f)]
  | .step (.call on started) => some (started.writes.map (on,·))
  | .step (.overlap calls order) =>
    some ((order.filterMap (calls[·]?)).flatMap fun call => call.2.writes.map (call.1,·))
  | .step (.edit on edit) => some [(on,edit.apply)]
  | .step (.reset on) => some [(on,fun _ => .initial)]
  | _ => none

def specWrites? : Act → Option (String × (Option String → Option String))
  | .writeSpec on f => some (on,f)
  | .step (.setSpec on spec) => some (on,fun _ => spec)
  | _ => none

end Act

structure Binding where
  account : Nat
  spec : Nat

structure Ledger where
  states : String → Option Binding
  accounts : Column Account
  specs : Column (Option String)

namespace Ledger

def empty : Ledger := ⟨fun _ => none,.empty,.empty⟩

def bind (l : Ledger) (name : String) (binding : Option Binding) : Ledger :=
  {l with states := Function.update l.states name binding}

def wrote (l : Ledger) (write : String × (Account → Account)) : Ledger :=
  match l.states write.1 with
  | some own => {l with accounts := l.accounts.wrote own.account [write.2]}
  | none => l

def wroteSpec (l : Ledger) (on : String) (f : Option String → Option String) : Ledger :=
  match l.states on with
  | some own => {l with specs := l.specs.wrote own.spec [f]}
  | none => l

-- A state made anew has both its cells to itself. A clone is bound to the cells
-- of its source; one that is given another account is bound to the cell of that
-- account and to the specification of its source. Writes go to the cell that
-- the state they are made through is bound to.
def record (l : Ledger) : Act → Ledger
  | .found name =>
    {l.bind name (some ⟨l.accounts.births.length,l.specs.births.length⟩) with
      accounts := l.accounts.born .initial
      specs := l.specs.born none}
  | .step (.clone on name) => l.bind name (l.states on)
  | .step (.withAccount on (some source) name) =>
    l.bind name ((l.states on).bind fun own => (l.states source).map fun other => ⟨other.account,own.spec⟩)
  | .step (.withAccount on none name) =>
    {l.bind name ((l.states on).map fun own => ⟨l.accounts.births.length,own.spec⟩) with
      accounts := l.accounts.born .initial}
  | .step (.drop on) => l.bind on none
  | .step (.subscribe on watch) =>
    {l with accounts := l.accounts.watched watch ((l.states on).map Binding.account)}
  | .step (.subscribeSpec on watch) => {l with specs := l.specs.watched watch ((l.states on).map Binding.spec)}
  | .step (.unsubscribe watch) =>
    {l with accounts := l.accounts.watched watch none,specs := l.specs.watched watch none}
  | act =>
    match act.writes?,act.specWrites? with
    | some writes,_ => writes.foldl wrote l
    | none,some (on,f) => l.wroteSpec on f
    | none,none => l

-- Every state and every watch that an act names is there, and of calls that
-- overlap each completes at most once.
def Allows (l : Ledger) : Act → Prop
  | .found _ | .step (.drop _) | .step (.unsubscribe _) | .step .closeNotices => True
  | .write on _ | .writeSpec on _ | .step (.call on _) | .step (.edit on _) | .step (.reset on)
  | .step (.setSpec on _) | .step (.isLoggedIn on) | .step (.subscribe on _) | .step (.subscribeSpec on _)
  | .step (.clone on _) => (l.states on).isSome
  | .step (.overlap calls order) =>
    (∀ call ∈ calls, (l.states call.1).isSome) ∧ order.Nodup ∧ ∀ number ∈ order, number < calls.length
  | .step (.withAccount on accountOf _) =>
    (l.states on).isSome ∧ ∀ source, accountOf = some source → (l.states source).isSome
  | .step (.observe watch) | .step (.peek watch) =>
    (l.accounts.watches watch).isSome ∨ (l.specs.watches watch).isSome

def Allowed : Ledger → List Act → Prop
  | _,[] => True
  | l,first :: rest => l.Allows first ∧ Allowed (l.record first) rest

def Closes (l : Ledger) (side : Binding → Nat) (cell : Nat) (change : Change) : Prop :=
  change = .closed ↔ ∀ name own, l.states name = some own → side own ≠ cell

structure Shows (l : Ledger) (s : Session) : Prop where
  absent : ∀ name, l.states name = none → s.accounts.snapshot? name = none ∧ s.specs.snapshot? name = none
  account : ∀ name own, l.states name = some own → ∃ account, l.accounts.value? own.account = some account ∧
    s.accounts.snapshot? name = some account
  spec : ∀ name own, l.states name = some own → ∃ spec, l.specs.value? own.spec = some spec ∧
    s.specs.snapshot? name = some spec
  unwatched : ∀ watch, (l.accounts.watches watch = none → s.accounts.look? watch = none) ∧
    (l.specs.watches watch = none → s.specs.look? watch = none)
  accountWatch : ∀ watch cell, l.accounts.watches watch = some cell → ∃ change account,
    s.accounts.look? watch = some (change,account) ∧ l.accounts.value? cell = some account ∧
    l.Closes Binding.account cell change
  specWatch : ∀ watch cell, l.specs.watches watch = some cell → ∃ change spec,
    s.specs.look? watch = some (change,spec) ∧ l.specs.value? cell = some spec ∧ l.Closes Binding.spec cell change

def Answers (l : Ledger) (watch : String) (answer : Answer) : Prop :=
  match l.accounts.watches watch with
  | some cell => ∃ change account, answer = .account change account ∧ l.accounts.value? cell = some account ∧
      l.Closes Binding.account cell change
  | none => ∃ cell change spec, l.specs.watches watch = some cell ∧ answer = .spec change spec ∧
      l.specs.value? cell = some spec ∧ l.Closes Binding.spec cell change

def Reports (l : Ledger) : Act → Report → Prop
  | .step (.observe watch),report | .step (.peek watch),report => l.Answers watch report.answer
  | _,_ => True

def reaching (l : Ledger) (cell : Nat) (writes : List (String × (Account → Account))) : List (Account → Account) :=
  writes.filterMap fun write => if (l.states write.1).map Binding.account = some cell then some write.2 else none

-- What an act writes is seen through all states of the cell alike, and nowhere else.
structure Spreads (l : Ledger) (s : Session) (act : Act) (next : Session) : Prop where
  account : ∀ writes, act.writes? = some writes → next.specs.snapshot? = s.specs.snapshot? ∧
    ∀ on own, l.states on = some own → ∃ before, s.accounts.snapshot? on = some before ∧
      ∀ name other, l.states name = some other → other.account = own.account →
        s.accounts.snapshot? name = some before ∧
        next.accounts.snapshot? name = some ((l.reaching own.account writes).foldl (fun a f => f a) before)
  spec : ∀ on f own, act.specWrites? = some (on,f) → l.states on = some own →
    ∃ before, s.specs.snapshot? on = some before ∧ next.accounts.snapshot? = s.accounts.snapshot? ∧
      ∀ name other, l.states name = some other → next.specs.snapshot? name =
        if other.spec = own.spec then some (f before) else s.specs.snapshot? name

def Told : Ledger → Session → List Act → List (Report × Session) → Prop
  | _,_,[],[] => True
  | l,s,act :: acts,(report,next) :: trail => l.Reports act report ∧ l.Spreads s act next ∧
    (l.record act).Shows next ∧ Told (l.record act) next acts trail
  | _,_,_,_ => False

end Ledger

end AccountLink
