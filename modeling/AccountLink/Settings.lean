import AccountLink.Error
import AccountLink.Text.Blank

-- Where the backend is and how long to wait for it. A base URL is kept without white space around it and without
-- slashes at its end; it must then still start with `http://` or `https://`.

namespace AccountLink

open AccountLink.Text

-- The value of an environment variable; bytes that are no text count as no value.
inductive Variable where
  | unset
  | text (s : String)
  | bytes
deriving DecidableEq, Repr

def Variable.text? : Variable → Option String
  | .text s => some s
  | _ => none

abbrev Environment := String → Variable

structure Settings where
  baseUrl : String
  requestSeconds : Option Nat
  connectSeconds : Option Nat
deriving DecidableEq, Repr

namespace Settings

def defaultBaseUrl : String := "http://localhost:8080/api/v1"

def default : Settings := ⟨defaultBaseUrl,none,none⟩

def schemes : List (List Char) := ["http://".toList,"https://".toList]

def normalize (raw : List Char) : Option (List Char) :=
  let trimmed := trimRight (· = '/') (trim raw)
  if schemes.any (·.isPrefixOf trimmed) then some trimmed else none

def checkBaseUrl (raw : String) : Except LinkError String :=
  match normalize raw.toList with
  | some url => .ok (String.ofList url)
  | none => .error (.configuration ("base URL must be http(s): '" ++ raw ++ "'"))

def ofBaseUrl (raw : String) : Except LinkError Settings := do
  let url ← checkBaseUrl raw
  .ok ⟨url,none,none⟩

def secondsBound : Nat := Nat.pow 2 64

def parseSeconds (raw : List Char) : Option Nat :=
  let digits := match trim raw with
    | '+' :: rest => rest
    | other => other
  if digits.isEmpty || !digits.all Char.isDigit then none
  else
    let n := Nat.ofDigitChars 10 digits 0
    if 0 < n ∧ n < secondsBound then some n else none

def baseUrlVariable : String := "CONFIDIOS_API_BASE_URL"
def requestVariable : String := "CONFIDIOS_REQUEST_TIMEOUT_SECS"
def connectVariable : String := "CONFIDIOS_CONNECT_TIMEOUT_SECS"

def secondsOf (v : Variable) : Option Nat := v.text?.bind fun s => parseSeconds s.toList

def ofEnvironment (env : Environment) : Except LinkError Settings := do
  let url ← checkBaseUrl ((env baseUrlVariable).text?.getD defaultBaseUrl)
  .ok ⟨url,secondsOf (env requestVariable),secondsOf (env connectVariable)⟩

end Settings

end AccountLink
