import AccountLink.Http.Post
import AccountLink.Text.Hexadecimal

-- Where answers send those who ask. A location is a reference: an address, or what is left of one once
-- all that it has in common with the address that was asked is left out at its front.

namespace AccountLink.Http

open AccountLink.Text AccountLink.Url

-- What becomes of a location: it leads nowhere if no request can be written for it; it may turn out to be no
-- address at all, or one of another kind, of which the text is kept.
inductive Lead where
  | nowhere
  | malformed
  | foreign (url : String)
  | address (a : Address)
deriving DecidableEq, Repr

namespace Lead

def isPlain (c : Char) : Bool := c.isAlphanum || "-._~:/?#[]@!$&'()*+,;=".toList.contains c

def isReference : List Char → Bool
  | [] => true
  | '%' :: high :: low :: rest => (hexValue high).isSome && (hexValue low).isSome && isReference rest
  | c :: rest => isPlain c && isReference rest

def endsScheme (c : Char) : Bool := [':','/','?','#'].contains c

def cutScheme (text : List Char) : Option (List Char × List Char) :=
  let scheme := text.takeWhile (!endsScheme ·)
  match text.dropWhile (!endsScheme ·) with
  | ':' :: rest => if scheme.head?.any Char.isAlpha then some (scheme,rest) else none
  | _ => none

def origin (a : Address) : List Char :=
  Address.schemeChars a.secure ++ Address.userChars a.user ++ a.host.chars ++ Address.portChars a.portNumber

-- A path that does not start at the root goes on behind the last slash of the one that was asked.
def resolve (asked : Address) (text : List Char) : List Char :=
  match cutScheme text with
  | some _ => text
  | none =>
    match text with
    | '/' :: '/' :: _ => (if asked.secure then "https:" else "http:").toList ++ text
    | '/' :: _ => origin asked ++ text
    | '?' :: _ => origin asked ++ Address.pathChars asked.path ++ text
    | [] | '#' :: _ => origin asked ++ asked.target
    | _ => origin asked ++ Address.pathChars (asked.path.dropLast ++ [text])

def ofText (asked : Address) (location : String) : Lead :=
  if !isReference location.toList then .nowhere
  else
    let text := (resolve asked location.toList).takeWhile (· ≠ '#')
    match cutScheme text with
    | some (scheme,'/' :: '/' :: _) =>
      if ["http","https"].contains (String.ofList (scheme.map Char.toLower)) then
        match Address.parse text with
        | none => .malformed
        | some a => if isAskable a then .address a else .nowhere
      else .foreign (String.ofList text)
    | _ => .nowhere

end Lead

end AccountLink.Http
