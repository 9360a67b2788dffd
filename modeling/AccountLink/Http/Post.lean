import AccountLink.Service.Call
import AccountLink.Text.Base64
import AccountLink.Url.Basic

-- Requests as they are sent: each is posted to the route of its operation, which is written behind the
-- base URL, with the caller's token and, where the operation has one, a body in JSON.

namespace AccountLink.Http

open AccountLink.Text AccountLink.Json AccountLink.Url

def route : Operation → String
  | .login => "/confidios/auths/user/login"
  | .logout => "/confidios/auths/user/logout"
  | .adminLogin => "/confidios/auths/login"
  | .createUser => "/confidios/users/create"
  | .listFiles => "/confidios/fs/ls"
  | .fetchFile => "/confidios/fs/cat"

def body : Ask → Option Value
  | .login request => some request.toValue
  | .logout => none
  | .adminLogin => none
  | .createUser user => some user.toValue
  | .listFiles request => some request.toValue
  | .fetchFile request => some request.toValue

inductive Method where
  | post
  | get
deriving DecidableEq, Repr

def Method.name : Method → String
  | .post => "POST"
  | .get => "GET"

-- The values of a header that is given more than once are kept apart.
structure Post where
  method : Method
  address : Address
  authorization : List String
  referer : Option String
  body : Option String
deriving DecidableEq, Repr

def isHeaderText (s : String) : Bool :=
  s.toList.all fun c => c = '\t' || (32 ≤ c.toNat && c.toNat ≠ 127)

-- The name and password in an address. A password that is no text counts as none, and a name that is
-- no text leaves both where they are, as do a name and a password that say nothing.
def credentials (user : User) : Option (List Char × Option (List Char)) := do
  let name ← decode? (percentDecode user.name)
  let password := user.password.bind fun p => decode? (percentDecode p)
  if name.isEmpty && password.isNone then none else some (name,password)

def basic (name : List Char) (password : Option (List Char)) : String :=
  "Basic " ++ String.ofList (base64 (encode (name ++ ':' :: password.getD [])))

def bearer (token : String) : String := "Bearer " ++ token

def separate (a : Address) : Address × List String :=
  match a.user.bind credentials with
  | some (name,password) => ({a with user := none},[basic name password])
  | none => (a,[])

def longestAddress : Nat := 65534

def isAskable (a : Address) : Bool :=
  a.chars.length ≤ longestAddress &&
    match a.host with
    | .name cs => cs.all fun c => !(['"','\x60','{','}'].contains c)
    | _ => true

def addressText (a : Address) : String := String.ofList a.chars

namespace Post

def contentType (p : Post) : Option String := p.body.map fun _ => "application/json"

def target (p : Post) : String := String.ofList p.address.target

def ofRequest (base : String) (request : Request) : Outcome Post :=
  match Address.parse (base ++ route request.ask.operation).toList with
  | none => .error (.request "builder error")
  | some address =>
    if !isHeaderText request.token then .error (.request "builder error")
    else
      let (address,credentials) := separate address
      if !isAskable address then
        .error (.request ("builder error for url (" ++ addressText address ++ ")"))
      else .ok {
        method := .post
        address := address
        authorization := credentials ++ [bearer request.token]
        referer := none
        body := (Http.body request.ask).map Value.compact}

end Post

end AccountLink.Http
