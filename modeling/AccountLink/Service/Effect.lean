import AccountLink.Service.Call
import AccountLink.Service.Notice
import AccountLink.Account.Patch

-- What a completed call does: a list of effects in their order, and a result for the caller. Nothing of the
-- account is read before the call completes, and each write is one edit of what is there then.

namespace AccountLink

open AccountLink.Text AccountLink.Json AccountLink.Wire

inductive Edit where
  | status (status : UserStatus)
  | patch (patch : Patch)
  | admin (isLoggedIn : Bool)
deriving DecidableEq, Repr

def Edit.apply : Edit → Account → Account
  | .status s,a => a.withUserStatus s
  | .patch p,a => a.withPatch p
  | .admin b,a => a.withAdminLoggedIn b

inductive Effect where
  | log (event : Event)
  | write (edit : Edit)
  | notify (notice : Notice)
deriving DecidableEq, Repr

namespace Effect

def account : Effect → Account → Account
  | .write edit,a => edit.apply a
  | _,a => a

def events (outlet : Outlet) : Effect → List Event
  | .log event => [event]
  | .write _ => []
  | .notify notice => outlet.logged notice

def notices (outlet : Outlet) : Effect → List Notice
  | .notify notice => outlet.delivered notice
  | _ => []

end Effect

inductive Result where
  | flag (succeeded : Bool)
  | created (reply : CreateReply)
  | files (files : List Value)
  | content (content : FileContent)
  | failed (error : OperationError)

namespace Service

def accountTarget : String := "confidios_link::services::account"
def adminTarget : String := "confidios_link::services::admin"
def filesTarget : String := "confidios_link::services::files"

def loginDone : String := "Successfully logged in to Confidios"
def loginFailed : String := "Failed to login to Confidios. Please try again."
def logoutDone : String := "Successfully logged out from Confidios"
def logoutFailed : String := "Failed to logout from Confidios. Please try again."
def adminDone : String := "Confidios admin access granted"
def adminFailed : String := "Failed to access Confidios admin features."
def createDone : String := "Confidios user created"
def createFailed : String := "Failed to create Confidios user."

def messageOr (status : Option String) (fallback : String) : String :=
  match status with
  | some s => if s.isEmpty then fallback else s
  | none => fallback

def success (status : Option String) (fallback : String) : Effect :=
  .notify ⟨.success,messageOr status fallback⟩

def failure (message : String) : Effect := .notify ⟨.error,message⟩

def failureEvent (target message : String) (operation : Operation) (cause : LinkError)
    (fields : List (String × String)) : Effect :=
  let e : OperationError := ⟨operation,cause⟩
  .log ⟨.debug,target,message,[("error",e.message),("code",e.code)] ++ fields⟩

end Service

namespace Completion

open Service

-- The content of a file that was read; a reply without any counts as an empty one.
def contentOf (reply : ReadReply) : FileContent := reply.content.getD .none

def effects : Completion → List Effect
  | .login (.ok reply) =>
    [.log ⟨.info,accountTarget,"confidios login succeeded",[("username",quoteOption reply.user)]⟩,
      .write (.status (.loggedIn reply.user reply.balance)),
      success reply.status loginDone]
  | .login (.error cause) =>
    [failureEvent accountTarget "confidios login failed" .login cause [],
      .write (.patch .loggedOut),
      failure Service.loginFailed]
  | .logout (.ok reply) =>
    [.log ⟨.info,accountTarget,"confidios logout succeeded",[]⟩,
      success reply.status logoutDone,
      .write (.patch .sessionEnded)]
  | .logout (.error cause) =>
    [failureEvent accountTarget "confidios logout failed" .logout cause [],
      failure Service.logoutFailed]
  | .adminLogin (.ok reply) =>
    [.log ⟨.info,adminTarget,"confidios admin login succeeded",
        [("user_id",quoteOption reply.userId),("role",quoteOption reply.role)]⟩,
      .write (.admin true),
      success reply.status adminDone]
  | .adminLogin (.error cause) =>
    [failureEvent adminTarget "confidios admin login failed" .adminLogin cause [],
      .write (.admin false),
      failure Service.adminFailed]
  | .createUser user (.ok reply) =>
    [.log ⟨.info,adminTarget,"confidios user created",[("user_id",user.userId)]⟩,
      success reply.status createDone]
  | .createUser user (.error cause) =>
    [failureEvent adminTarget "confidios user creation failed" .createUser cause [("user_id",user.userId)],
      failure Service.createFailed]
  | .listFiles path (.ok reply) =>
    [.log ⟨.debug,filesTarget,"confidios ls",
      [("path",path),("entries",toString reply.files.length)]⟩]
  | .listFiles path (.error cause) =>
    [failureEvent filesTarget "confidios ls failed" .listFiles cause [("path",path)]]
  | .fetchFile path (.ok reply) =>
    match (contentOf reply).balance with
    | none => []
    | some balance =>
      [.log ⟨.debug,filesTarget,"confidios balance refreshed",[("path",path),("balance",balance)]⟩,
        .write (.patch (.balanceTo balance))]
  | .fetchFile path (.error cause) =>
    [failureEvent filesTarget "confidios cat failed" .fetchFile cause [("path",path)]]

def account (c : Completion) (a : Account) : Account := c.effects.foldl (fun a e => e.account a) a

def events (outlet : Outlet) (c : Completion) : List Event := c.effects.flatMap (Effect.events outlet)

def notices (outlet : Outlet) (c : Completion) : List Notice := c.effects.flatMap (Effect.notices outlet)

def result : Completion → Result
  | .login (.ok _) | .logout (.ok _) | .adminLogin (.ok _) => .flag true
  | .login (.error _) | .logout (.error _) | .adminLogin (.error _) => .flag false
  | .createUser _ (.ok reply) => .created reply
  | .createUser _ (.error cause) => .failed ⟨.createUser,cause⟩
  | .listFiles _ (.ok reply) => .files reply.files
  | .listFiles _ (.error cause) => .failed ⟨.listFiles,cause⟩
  | .fetchFile _ (.ok reply) => .content (contentOf reply)
  | .fetchFile _ (.error cause) => .failed ⟨.fetchFile,cause⟩

end Completion

end AccountLink
