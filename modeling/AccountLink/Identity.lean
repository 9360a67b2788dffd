import AccountLink.Text.Lowercase
import AccountLink.Text.Quoted

-- Who a call is made for. The name of an account is derived from an email address: its first `@` is spelled out
-- and the result is put in lower case, which is what the backend does as well.

namespace AccountLink

open AccountLink.Text

def spellAt : List Char → List Char
  | [] => []
  | c :: rest => if c = '@' then ['-','a','t','-'] ++ rest else c :: spellAt rest

def loginName (email : String) : String := String.ofList (lowercase (spellAt email.toList))

structure Caller where
  token : String
  email : String
deriving DecidableEq, Repr

namespace Caller

def loginName (caller : Caller) : String := AccountLink.loginName caller.email

def redacted : String := quote "<redacted>"

def describe (caller : Caller) : String :=
  "SessionContext \x7b token: " ++ redacted ++ ", email: " ++ quote caller.email ++ " \x7d"

def describeLines (caller : Caller) : String :=
  "SessionContext \x7b\n    token: " ++ redacted ++ ",\n    email: " ++ quote caller.email ++ ",\n\x7d"

end Caller

end AccountLink
