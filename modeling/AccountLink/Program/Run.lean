import AccountLink.Http.Course
import AccountLink.Program.CommandLine
import AccountLink.Service.Effect
import AccountLink.Text.Blank

-- One run of the program: a call is made for an account of which nothing is known yet, and what is written is
-- the log, what the call was for, and the account as it then is. The log is the one of an environment that asks
-- for no other level, and variables are those that the program is started with.

namespace AccountLink.Program

open AccountLink.Text AccountLink.Json AccountLink.Http

inductive Failure where
  | link (error : LinkError)
  | operation (error : OperationError)
  | refused
  | noEmail
deriving DecidableEq, Repr

def Failure.message : Failure → String
  | .link e => e.message
  | .operation e => e.message
  | .refused => "operation failed"
  | .noEmail => "--email (or CONFIDIOS_EMAIL) is required for login"

inductive Item where
  | event (e : Event)
  | outcome (v : Value)
  | account (a : Account)

def Item.text : Item → String
  | .event e => e.line
  | .outcome v => v.pretty
  | .account a => a.toValue.pretty

structure Run where
  exitCode : Nat
  items : List Item
  arrived : List Post

def Run.output (r : Run) : String := String.join (r.items.map fun item => item.text ++ "\n")

def isShown (e : Event) : Bool := e.level ≠ .debug

def failureEvent (f : Failure) : Event :=
  ⟨.error,"confidios_link","confidios-link failed",[("error",f.message)]⟩

def outcomeOf : Result → Option Value
  | .created reply => some (.ofOption id reply.user)
  | .files files => some (.array files)
  | .content c => some c.toValue
  | .flag _ => none
  | .failed _ => none

def failureOf : Result → Option Failure
  | .flag true => none
  | .flag false => some .refused
  | .failed e => some (.operation e)
  | .created _ => none
  | .files _ => none
  | .content _ => none

def Run.ofCall (before : List Item) (account : Account) (failure : Option Failure) (arrived : List Post) : Run :=
  match failure with
  | none => ⟨0,before ++ [.account account],arrived⟩
  | some f => ⟨1,before ++ [.account account,.event (failureEvent f)],arrived⟩

def Run.ofAttempt (made : Attempt) : Run :=
  let events := (made.completion.events .log).filter isShown
  let result := made.completion.result
  .ofCall (events.map .event ++ (outcomeOf result).toList.map .outcome)
    (made.completion.account .initial) (failureOf result) made.arrived

-- The settings of a run: an option goes before the environment, which has to be in order all the same.
def settings (env : Environment) (line : CommandLine) : Except LinkError Settings := do
  let settings ← Settings.ofEnvironment env
  match line.baseUrl with
  | none => .ok settings
  | some url =>
    let given ← Settings.ofBaseUrl url
    .ok {settings with baseUrl := given.baseUrl}

def lacksEmail (line : CommandLine) : Bool :=
  line.call == .login && (trim line.caller.email.toList).isEmpty

def Run.ofSettings (settings : Settings) (line : CommandLine) (network : Network) : Run :=
  if lacksEmail line then .ofCall [] .initial (some .noEmail) []
  else .ofAttempt (attempt settings.baseUrl network line.caller line.call)

def Run.ofCommandLine (env : Environment) (line : CommandLine) (network : Network) : Run :=
  match settings env line with
  | .error e => ⟨1,[.event (failureEvent (.link e))],[]⟩
  | .ok settings => .ofSettings settings line network

def Run.ofStop : Stop → Run
  | .help => ⟨0,[],[]⟩
  | .misuse => ⟨2,[],[]⟩

def run (env : Environment) (words : List String) (network : Network) : Run :=
  match CommandLine.read env words with
  | .error stop => .ofStop stop
  | .ok line => .ofCommandLine env line network

end AccountLink.Program
