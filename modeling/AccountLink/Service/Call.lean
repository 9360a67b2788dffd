import AccountLink.Identity
import AccountLink.Error
import AccountLink.Wire.Request
import AccountLink.Wire.Reply

namespace AccountLink

open AccountLink.Json AccountLink.Wire

inductive Call where
  | login
  | logout
  | adminLogin
  | createUser (user : NewUser)
  | listFiles (path : String)
  | fetchFile (path : String)
deriving DecidableEq, Repr

def Call.operation : Call → Operation
  | .login => .login
  | .logout => .logout
  | .adminLogin => .adminLogin
  | .createUser _ => .createUser
  | .listFiles _ => .listFiles
  | .fetchFile _ => .fetchFile

inductive Ask where
  | login (request : LoginRequest)
  | logout
  | adminLogin
  | createUser (user : NewUser)
  | listFiles (request : PathRequest)
  | fetchFile (request : PathRequest)
deriving DecidableEq, Repr

def Ask.operation : Ask → Operation
  | .login _ => .login
  | .logout => .logout
  | .adminLogin => .adminLogin
  | .createUser _ => .createUser
  | .listFiles _ => .listFiles
  | .fetchFile _ => .fetchFile

structure Request where
  token : String
  ask : Ask
deriving DecidableEq, Repr

def Call.ask (caller : Caller) : Call → Ask
  | .login => .login ⟨caller.loginName⟩
  | .logout => .logout
  | .adminLogin => .adminLogin
  | .createUser user => .createUser user
  | .listFiles path => .listFiles ⟨path⟩
  | .fetchFile path => .fetchFile ⟨path⟩

def Call.request (caller : Caller) (call : Call) : Request := ⟨caller.token,call.ask caller⟩

abbrev Outcome (α : Type) := Except LinkError α

inductive Completion where
  | login (reply : Outcome LoginReply)
  | logout (reply : Outcome StatusReply)
  | adminLogin (reply : Outcome AdminReply)
  | createUser (user : NewUser) (reply : Outcome CreateReply)
  | listFiles (path : String) (reply : Outcome ListReply)
  | fetchFile (path : String) (reply : Outcome ReadReply)

def Completion.call : Completion → Call
  | .login _ => .login
  | .logout _ => .logout
  | .adminLogin _ => .adminLogin
  | .createUser user _ => .createUser user
  | .listFiles path _ => .listFiles path
  | .fetchFile path _ => .fetchFile path

-- Completes a call with what comes back in the shape that belongs to it.
def Call.completeWith (reply : {ρ : Type} → Shape ρ → Outcome ρ) : Call → Completion
  | .login => .login (reply LoginReply.shape)
  | .logout => .logout (reply StatusReply.shape)
  | .adminLogin => .adminLogin (reply AdminReply.shape)
  | .createUser user => .createUser user (reply CreateReply.shape)
  | .listFiles path => .listFiles path (reply ListReply.shape)
  | .fetchFile path => .fetchFile path (reply ReadReply.shape)

end AccountLink
