import AccountLink.Account.Status

-- Partial updates of a status: an instruction for each part. Patching an absent status gives one that says only
-- what the patch sets.

namespace AccountLink

inductive Instruction (α : Type) where
  | keep
  | set (value : α)
  | clear
deriving DecidableEq, Repr

def Instruction.apply : Instruction α → Option α → Option α
  | .keep,current => current
  | .set value,_ => some value
  | .clear,_ => none

structure Patch where
  isMember : Instruction Bool
  isLoggedIn : Instruction Bool
  username : Instruction String
  balance : Instruction String
deriving DecidableEq, Repr

namespace Patch

def empty : Patch := ⟨.keep,.keep,.keep,.keep⟩

def loggedOut : Patch := {empty with isLoggedIn := .set false}

def sessionEnded : Patch := {empty with isLoggedIn := .set false,balance := .clear}

def balanceTo (balance : String) : Patch := {empty with balance := .set balance}

def apply (p : Patch) (s : UserStatus) : UserStatus where
  isMember := p.isMember.apply s.isMember
  isLoggedIn := p.isLoggedIn.apply s.isLoggedIn
  username := p.username.apply s.username
  balance := p.balance.apply s.balance

end Patch

def CurrentStatus.patched (c : CurrentStatus) (p : Patch) : CurrentStatus :=
  .present (p.apply (c.present?.getD .unknown))

def Account.withPatch (a : Account) (p : Patch) : Account := {a with status := a.status.patched p}

end AccountLink
