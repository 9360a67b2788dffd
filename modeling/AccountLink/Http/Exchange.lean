import AccountLink.Http.Post

-- What comes of one post: no connection, no answer, or an answer of which all or some arrives. A time limit that
-- runs out, before or while an answer arrives, comes to one of these. Proxies are left out.

namespace AccountLink.Http

open AccountLink.Text AccountLink.Json

-- Other answers are only about answers that are still to come.
abbrev IsFinal (status : Nat) : Prop := status = 101 ∨ 200 ≤ status ∧ status ≤ 999

-- An answer; `location` is where it says to ask instead, `length` is the length of the body that it announces,
-- and `body` is what arrives of that.
structure Response where
  status : Nat
  location : Option String
  length : Nat
  body : List UInt8
  final : IsFinal status := by decide
  fits : body.length ≤ length := by decide
deriving DecidableEq, Repr

namespace Response

def whole (status : Nat) (body : List UInt8) (location : Option String := none)
    (final : IsFinal status := by decide) : Response :=
  ⟨status,location,body.length,body,final,Nat.le_refl _⟩

-- Three kinds of answers have no body, whatever they announce.
def hasBody (r : Response) : Bool := r.status ≠ 101 && r.status ≠ 204 && r.status ≠ 304

def isCutShort (r : Response) : Bool := r.hasBody && decide (r.body.length < r.length)

def isSuccess (r : Response) : Bool := decide (200 ≤ r.status ∧ r.status ≤ 299)

def text (r : Response) : List Char := if r.hasBody then decode r.body else []

def sendsOn (r : Response) : Bool := [301,302,303,307,308].contains r.status

def repeats (r : Response) : Bool := [307,308].contains r.status

-- The body has to be there before the status counts, and the status before what the body says.
def outcome (shape : Shape ρ) (r : Response) : Outcome ρ :=
  if r.isCutShort then .error (.request "error decoding response body")
  else if !r.isSuccess then .error (.status r.status (String.ofList r.text))
  else match shape.decode r.text with
    | .ok reply => .ok reply
    | .error failure => .error (.reply (failure.message r.text))

end Response

-- Who refuses a connection, or has none as secure as the address asks for, is unreachable.
inductive Exchange where
  | unreachable
  | unanswered
  | answered (r : Response)
deriving DecidableEq, Inhabited, Repr

end AccountLink.Http
