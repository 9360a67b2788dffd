import AccountLink.Http.Exchange
import AccountLink.Text.Blank

-- The bytes of a connection that serves one post: what is sent, and how the answer is read from all
-- that arrives until the connection closes.

namespace AccountLink.Http

open AccountLink.Text AccountLink.Url

def Post.place (p : Post) : String :=
  String.ofList (p.address.host.chars ++ Address.portChars p.address.portNumber)

def Post.bodyHeaders (p : Post) : List (String × String) :=
  match p.method with
  | .post => [("content-length",toString (p.body.getD "").utf8ByteSize)]
  | .get => []

def Post.headers (p : Post) : List (String × String) :=
  p.contentType.toList.map (("content-type",·)) ++ p.authorization.map (("authorization",·)) ++
    p.referer.toList.map (("referer",·)) ++ [("accept","*/*"),("host",p.place)] ++ p.bodyHeaders ++
    [("connection","close")]

def Post.text (p : Post) : String :=
  p.method.name ++ " " ++ p.target ++ " HTTP/1.1\r\n" ++
    String.join (p.headers.map fun (name,value) => name ++ ": " ++ value ++ "\r\n") ++ "\r\n" ++
    p.body.getD ""

def dropReturn (line : List UInt8) : List UInt8 := if line.getLast? = some 13 then line.dropLast else line

def cutLine (bytes : List UInt8) : Option (List UInt8 × List UInt8) :=
  match bytes.dropWhile (· ≠ 10) with
  | [] => none
  | _ :: rest => some (dropReturn (bytes.takeWhile (· ≠ 10)),rest)

def cutHead : Nat → List UInt8 → Option (List (List UInt8) × List UInt8)
  | 0,_ => none
  | fuel + 1,bytes => do
    let (line,rest) ← cutLine bytes
    if line.isEmpty then some ([],rest)
    else
      let (lines,rest) ← cutHead fuel rest
      some (line :: lines,rest)

def readStatus (line : List Char) : Option Nat :=
  let digits := ((line.dropWhile (· ≠ ' ')).drop 1).take 3
  if "HTTP/1.".toList.isPrefixOf line && digits.length = 3 && digits.all Char.isDigit then
    some (Nat.ofDigitChars 10 digits 0)
  else none

def header? (name : String) (lines : List (List Char)) : Option (List Char) :=
  (lines.find? fun line => (line.takeWhile (· ≠ ':')).map Char.toLower = name.toList).map fun line =>
    trim ((line.dropWhile (· ≠ ':')).drop 1)

def readSize (line : List Char) : Option Nat :=
  let digits := line.takeWhile fun c => (hexValue c).isSome
  if digits.isEmpty then none
  else some (digits.foldl (fun n c => n * 16 + (hexValue c).getD 0) 0)

def joinChunks : Nat → List UInt8 → Bool × List UInt8
  | 0,_ => (false,[])
  | fuel + 1,bytes =>
    match cutLine bytes with
    | none => (false,[])
    | some (line,rest) =>
      match readSize (line.map fun b => Char.ofNat b.toNat) with
      | none => (false,[])
      | some 0 => (true,[])
      | some size =>
        if rest.length < size then (false,rest)
        else
          let (complete,others) := joinChunks fuel ((rest.drop size).dropWhile fun b => b = 13 || b = 10)
          (complete,rest.take size ++ others)

def readLocation (lines : List (List Char)) : Option String := (header? "location" lines).map String.ofList

-- A body that announces no length has the length that arrives; of one that does, nothing more is read.
def Response.ofBody (status : Nat) (final : IsFinal status) (lines : List (List Char)) (bytes : List UInt8) :
    Response :=
  if header? "transfer-encoding" lines = some "chunked".toList then
    let (complete,body) := joinChunks (bytes.length + 1) bytes
    if complete then .whole status body (readLocation lines) final
    else ⟨status,readLocation lines,body.length + 1,body,final,Nat.le_succ _⟩
  else match (header? "content-length" lines).bind fun digits => (String.ofList digits).toNat? with
    | some length => ⟨status,readLocation lines,length,bytes.take length,final,List.length_take_le _ _⟩
    | none => .whole status bytes (readLocation lines) final

-- Answers that are not final are passed over; `fuel` bounds their number.
def readAnswer : Nat → List UInt8 → Exchange
  | 0,_ => .unanswered
  | fuel + 1,bytes =>
    match cutHead (bytes.length + 1) bytes with
    | none => .unanswered
    | some (head,rest) =>
      let lines := head.map (·.map fun b => Char.ofNat b.toNat)
      match lines.head?.bind readStatus with
      | none => .unanswered
      | some status =>
        if final : IsFinal status then .answered (.ofBody status final lines.tail rest)
        else if 100 ≤ status then readAnswer fuel rest
        else .unanswered

def Exchange.ofBytes (bytes : List UInt8) : Exchange := readAnswer (bytes.length + 1) bytes

end AccountLink.Http
