-- What a run leaves behind for people: events for the log, and notices for the user. Where notices go is the
-- outlet's matter: into the log, or to someone who listens for as long as they do.

namespace AccountLink

inductive Level where
  | debug
  | info
  | warn
  | error
deriving DecidableEq, Repr

def Level.name : Level → String
  | .debug => "DEBUG"
  | .info => "INFO"
  | .warn => "WARN"
  | .error => "ERROR"

structure Event where
  level : Level
  target : String
  message : String
  fields : List (String × String)
deriving DecidableEq, Repr

def Event.line (e : Event) : String :=
  e.fields.foldl (fun text field => text ++ " " ++ field.1 ++ "=" ++ field.2)
    (e.level.name ++ " " ++ e.target ++ ": " ++ e.message)

inductive Tone where
  | success
  | error
deriving DecidableEq, Repr

structure Notice where
  tone : Tone
  message : String
deriving DecidableEq, Repr

inductive Outlet where
  | log
  | listener
  | nobody
deriving DecidableEq, Repr

namespace Outlet

def target : String := "confidios_link::notify"

def delivered (outlet : Outlet) (n : Notice) : List Notice :=
  match outlet with
  | .listener => [n]
  | _ => []

def logged (outlet : Outlet) (n : Notice) : List Event :=
  match outlet with
  | .log =>
    let level := match n.tone with
      | .success => .info
      | .error => .warn
    [⟨level,target,"notification",[("text",n.message)]⟩]
  | .listener => []
  | .nobody => [⟨.debug,target,"notification receiver closed",[]⟩]

def close : Outlet → Outlet
  | .log => .log
  | _ => .nobody

end Outlet

end AccountLink
