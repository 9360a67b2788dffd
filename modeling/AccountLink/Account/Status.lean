import AccountLink.Json.Printer
import AccountLink.Text.Quoted

-- The account as the client knows it: whether the admin features are open, and the status of the user's account
-- once there is one. A status that is absent differs from one that says nothing.

namespace AccountLink

open AccountLink.Text AccountLink.Json

structure UserStatus where
  isMember : Option Bool
  isLoggedIn : Option Bool
  username : Option String
  balance : Option String
deriving DecidableEq, Repr

namespace UserStatus

def unknown : UserStatus := ⟨none,none,none,none⟩

def loggedIn (username balance : Option String) : UserStatus := ⟨some true,some true,username,balance⟩

def toValue (s : UserStatus) : Value :=
  .object [("isMember",.ofOption .bool s.isMember),("isLoggedIn",.ofOption .bool s.isLoggedIn),
    ("username",.ofOption .string s.username),("balance",.ofOption .string s.balance)]

def describeBool (b : Bool) : String := if b then "true" else "false"

def describeFlag : Option Bool → String
  | none => "None"
  | some b => "Some(" ++ describeBool b ++ ")"

def describe (s : UserStatus) : String :=
  "UserStatus \x7b is_member: " ++ describeFlag s.isMember ++
    ", is_logged_in: " ++ describeFlag s.isLoggedIn ++
    ", username: " ++ quoteOption s.username ++ ", balance: " ++ quoteOption s.balance ++ " \x7d"

end UserStatus

inductive CurrentStatus where
  | absent
  | present (status : UserStatus)
deriving DecidableEq, Repr

namespace CurrentStatus

def present? : CurrentStatus → Option UserStatus
  | .absent => none
  | .present s => some s

def isLoggedIn (c : CurrentStatus) : Bool := (c.present?.bind (·.isLoggedIn)).getD false

def toValue (c : CurrentStatus) : Value := .ofOption UserStatus.toValue c.present?

def describe : CurrentStatus → String
  | .absent => "Absent"
  | .present s => "Present(" ++ s.describe ++ ")"

end CurrentStatus

structure Account where
  isAdminLoggedIn : Bool
  status : CurrentStatus
deriving DecidableEq, Repr

namespace Account

def initial : Account := ⟨false,.absent⟩

def withUserStatus (a : Account) (s : UserStatus) : Account := {a with status := .present s}

def withAdminLoggedIn (a : Account) (b : Bool) : Account := {a with isAdminLoggedIn := b}

def toValue (a : Account) : Value :=
  .object [("isAdminLoggedIn",.bool a.isAdminLoggedIn),("currentUserStatus",a.status.toValue)]

def describe (a : Account) : String :=
  "AccountState \x7b is_admin_logged_in: " ++ UserStatus.describeBool a.isAdminLoggedIn ++
    ", current_user_status: " ++ a.status.describe ++ " \x7d"

end Account

end AccountLink
