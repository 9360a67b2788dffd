import AccountLink.Url.Host

-- Addresses of web servers. `Address.parse` reads the text of one in any of its spellings, and `Address.chars`
-- writes its normal form: the host in lower case or as a number, no number of a service that goes without
-- saying, a path without dots, and everything encoded that has to be.

namespace AccountLink.Url

open AccountLink.Text

structure User where
  name : List Char
  password : Option (List Char)
deriving DecidableEq, Repr

structure Address where
  secure : Bool
  user : Option User
  host : Host
  portNumber : Option Nat
  path : List (List Char)
  query : Option (List Char)
  fragment : Option (List Char)
deriving DecidableEq, Repr

def isSlash (c : Char) : Bool := c = '/' || c = '\\'

-- What may stand around an address: spaces and control characters.
def isPadding (c : Char) : Bool := c.toNat ≤ 32

def isLineEnd (c : Char) : Bool := c = '\t' || c = '\n' || c = '\r'

def strip (text : List Char) : List Char :=
  let inner := text.dropWhile isPadding
  (inner.reverse.dropWhile isPadding).reverse.filter fun c => !isLineEnd c

def parseScheme (text : List Char) : Option (Bool × List Char) :=
  let matches_ (scheme : List Char) : Bool := (text.take scheme.length).map Char.toLower = scheme
  if matches_ "http:".toList then some (false,text.drop 5)
  else if matches_ "https:".toList then some (true,text.drop 6)
  else none

def cutLast (p : Char → Bool) (cs : List Char) : Option (List Char × List Char) :=
  match cs.reverse.dropWhile (!p ·) with
  | [] => none
  | _ :: front => some (front.reverse,(cs.reverse.takeWhile (!p ·)).reverse)

def parseUser (text : List Char) : Option User :=
  let name := percentEncode userSet (text.takeWhile (· ≠ ':'))
  let password := percentEncode userSet ((text.dropWhile (· ≠ ':')).drop 1)
  if name.isEmpty && password.isEmpty then none
  else some ⟨name,if password.isEmpty then none else some password⟩

def cutPort : Bool → List Char → List Char × List Char
  | _,[] => ([],[])
  | inside,c :: rest =>
    if c = ':' ∧ !inside then ([],c :: rest)
    else
      let inside := if c = '[' then true else if c = ']' then false else inside
      let (host,rest) := cutPort inside rest
      (c :: host,rest)

def defaultPort (secure : Bool) : Nat := if secure then 443 else 80

def parsePort (secure : Bool) : List Char → Option (Option Nat)
  | [] => some none
  | _ :: digits =>
    if !digits.all Char.isDigit then none
    else
      let n := Nat.ofDigitChars 10 digits 0
      if 65535 < n then none
      else if digits.isEmpty ∨ n = defaultPort secure then some none
      else some (some n)

def isDot (segment : List Char) : Bool :=
  [".","%2e"].contains (String.ofList (segment.map Char.toLower))

def isDoubleDot (segment : List Char) : Bool :=
  ["..","%2e.",".%2e","%2e%2e"].contains (String.ofList (segment.map Char.toLower))

def isDrive : List Char → Bool
  | [letter,mark] => letter.isAlpha && (mark = ':' || mark = '|')
  | _ => false

def leave : List (List Char) → List (List Char)
  | [] => []
  | segment :: rest => if isDrive segment then segment :: rest else rest

-- Goes along the segments of a path; those behind come last first.
def walk : List (List Char) → List (List Char) → List (List Char)
  | behind,[] => behind.reverse
  | behind,[segment] =>
    if isDoubleDot segment then ([] :: leave behind).reverse
    else if isDot segment then ([] :: behind).reverse
    else (percentEncode pathSet segment :: behind).reverse
  | behind,segment :: rest =>
    if isDoubleDot segment then walk (leave behind) rest
    else if isDot segment then walk behind rest
    else walk (percentEncode pathSet segment :: behind) rest

def parsePath (text : List Char) : List (List Char) :=
  let text := match text with
    | c :: rest => if isSlash c then rest else c :: rest
    | [] => []
  walk [] (cut isSlash text)

namespace Address

def parse (text : List Char) : Option Address := do
  let (secure,rest) ← parseScheme (strip text)
  let rest := rest.dropWhile isSlash
  let endsHost (c : Char) : Bool := isSlash c || c = '?' || c = '#'
  let authority := rest.takeWhile (!endsHost ·)
  let rest := rest.dropWhile (!endsHost ·)
  let (user,place) := match cutLast (· = '@') authority with
    | some (user,place) => (parseUser user,place)
    | none => (none,authority)
  let (hostText,portText) := cutPort false place
  let host ← Host.parse hostText
  let portNumber ← parsePort secure portText
  let path := parsePath (rest.takeWhile fun c => c ≠ '?' ∧ c ≠ '#')
  let rest := rest.dropWhile fun c => c ≠ '?' ∧ c ≠ '#'
  let query := match rest with
    | '?' :: text => some (percentEncode querySet (text.takeWhile (· ≠ '#')))
    | _ => none
  let fragment := match rest.dropWhile (· ≠ '#') with
    | '#' :: text => some (percentEncode fragmentSet text)
    | _ => none
  some ⟨secure,user,host,portNumber,path,query,fragment⟩

def schemeChars (secure : Bool) : List Char := (if secure then "https://" else "http://").toList

def userChars : Option User → List Char
  | none => []
  | some ⟨name,none⟩ => name ++ ['@']
  | some ⟨name,some password⟩ => name ++ ':' :: password ++ ['@']

def portChars : Option Nat → List Char
  | none => []
  | some n => ':' :: Nat.toDigits 10 n

def pathChars (path : List (List Char)) : List Char := path.flatMap ('/' :: ·)

def marked (mark : Char) : Option (List Char) → List Char
  | none => []
  | some text => mark :: text

def target (a : Address) : List Char := pathChars a.path ++ marked '?' a.query

def chars (a : Address) : List Char :=
  schemeChars a.secure ++ userChars a.user ++ a.host.chars ++ portChars a.portNumber ++ a.target ++
    marked '#' a.fragment

end Address

end AccountLink.Url
