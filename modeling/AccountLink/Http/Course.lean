import AccountLink.Http.Exchange
import AccountLink.Http.Location

-- What comes of a request over HTTP. An answer may send the client on to another address, which is then asked
-- in turn, up to a number of times. The answer that counts is the first one that does not send it on. This is what
-- clients do that are given no rule of their own about being sent on.

namespace AccountLink.Http

open AccountLink.Json AccountLink.Url

-- What a client finds: what comes of a post, after those that were made before it for the same call, and what
-- a location leads to for who asked at an address.
structure Network where
  answer : List Post → Post → Exchange
  lead : Address → String → Lead

namespace Network

def ofExchanges (exchanges : List Exchange) : Network :=
  ⟨fun earlier _ => exchanges.getD earlier.length .unanswered,Lead.ofText⟩

def leads (network : Network) (p : Post) (r : Response) : Lead :=
  if r.sendsOn then (r.location.map (network.lead p.address)).getD .nowhere else .nowhere

end Network

def serviceOf (a : Address) : Host × Nat := (a.host,a.portNumber.getD (defaultPort a.secure))

-- The address that a client says it comes from. It is not told over a connection that is less secure.
def refererOf (previous next : Address) : Option String :=
  if previous.secure && !next.secure then none
  else some (addressText {previous with user := none,fragment := none})

-- The post that follows a post whose answer sends on. Credentials are those of the first post, and are left out
-- if the host or the service is not the one that sends there. What is not repeated is only got.
def Post.next (first previous : Post) (r : Response) (a : Address) : Post where
  method := if r.repeats then previous.method else .get
  address := a
  authorization := if serviceOf a = serviceOf previous.address then first.authorization else []
  referer := refererOf previous.address a
  body := if r.repeats then previous.body else none

inductive Upshot where
  | lost
  | reply (r : Response)
  | malformed
  | foreign (url : String)
  | tooFar (last : Address)
deriving DecidableEq, Repr

-- Where nothing else is to blame, it is the first address that is named.
def Upshot.outcome (shape : Shape ρ) (first : Post) : Upshot → Outcome ρ
  | .lost => .error (.request ("error sending request for url (" ++ addressText first.address ++ ")"))
  | .reply r => r.outcome shape
  | .malformed => .error (.request ("builder error for url (" ++ addressText first.address ++ ")"))
  | .foreign url => .error (.request ("builder error for url (" ++ url ++ ")"))
  | .tooFar last =>
    .error (.request ("error following redirect for url (" ++ addressText {last with fragment := none} ++ ")"))

structure Course where
  arrived : List Post
  upshot : Upshot
deriving DecidableEq, Repr

namespace Network

def longestCourse : Nat := 10

def follow (network : Network) (first : Post) : Nat → List Post → Post → Course
  | left,earlier,post =>
    match network.answer earlier post with
    | .unreachable => ⟨[],.lost⟩
    | .unanswered => ⟨[post],.lost⟩
    | .answered r =>
      match network.leads post r,left with
      | .nowhere,_ => ⟨[post],.reply r⟩
      | .malformed,_ => ⟨[post],.malformed⟩
      | _,0 => ⟨[post],.tooFar post.address⟩
      | .foreign url,_ => ⟨[post],.foreign url⟩
      | .address a,left + 1 =>
        let rest := follow network first left (earlier ++ [post]) (Post.next first post r a)
        ⟨post :: rest.arrived,rest.upshot⟩

def course (network : Network) (first : Post) : Course := network.follow first longestCourse [] first

end Network

structure Attempt where
  arrived : List Post
  completion : Completion

def attempt (base : String) (network : Network) (caller : Caller) (call : Call) : Attempt :=
  match Post.ofRequest base (call.request caller) with
  | .error e => ⟨[],call.completeWith fun _ => .error e⟩
  | .ok post =>
    let course := network.course post
    ⟨course.arrived,call.completeWith fun shape => course.upshot.outcome shape post⟩

end AccountLink.Http
