import AccountLink.Http.Client
import AccountLink.Proofs.Http.Reply
import AccountLink.Proofs.Session.Calls

namespace AccountLink

open AccountLink.Json AccountLink.Http

namespace Http

inductive Reply (base : String) (network : Network) (request : Request) {ρ : Type} (shape : Shape ρ) :
    Outcome ρ → Prop where
  | unsent {text} (unsent : Unsent base request text) : Reply base network request shape (.error (.request text))
  | sent {first arrived upshot outcome} (sent : Sent base request first) (goes : Goes network first arrived upshot)
      (comes : Comes shape first upshot outcome) : Reply base network request shape outcome

inductive Reaches (base : String) (network : Network) (request : Request) : List Post → Prop where
  | unsent {text} (unsent : Unsent base request text) : Reaches base network request []
  | sent {first arrived upshot} (sent : Sent base request first) (goes : Goes network first arrived upshot) :
      Reaches base network request arrived

def reply (base : String) (network : Network) (request : Request) {ρ : Type} (shape : Shape ρ) : Outcome ρ :=
  match Post.ofRequest base request with
  | .error e => .error e
  | .ok post => (network.course post).upshot.outcome shape post

variable (base : String) (network : Network)

theorem reply_exact (request : Request) {ρ : Type} (shape : Shape ρ) (outcome : Outcome ρ) :
    Reply base network request shape outcome ↔ reply base network request shape = outcome := by
  constructor
  · intro replied
    cases replied with
    | unsent unsent => simp only [reply,unsent_made base request _ unsent]
    | sent sent goes comes =>
        simpa only [reply,sent_made base request _ sent,(course_exact _ _ _ _).mp goes] using comes_made shape _ _ _ comes
  · rintro rfl
    rcases sent_or_unsent base request with ⟨first,sent⟩ | ⟨text,unsent⟩
    · have goes := (course_exact network first (network.course first).arrived (network.course first).upshot).mpr rfl
      refine .sent sent goes ((comes_exact shape first _ _).mpr ?_)
      simp only [reply,sent_made base request first sent]
    · simp only [reply,unsent_made base request text unsent]
      exact .unsent unsent

theorem attempt_completion (caller : Caller) (call : Call) :
    (attempt base network caller call).completion =
      call.completeWith fun shape => reply base network (call.request caller) shape := by
  unfold attempt reply
  cases Post.ofRequest base (call.request caller) <;> rfl

theorem attempt_arrived (caller : Caller) (call : Call) (arrived : List Post) :
    Reaches base network (call.request caller) arrived ↔ (attempt base network caller call).arrived = arrived := by
  constructor
  · intro reaches
    cases reaches with
    | unsent unsent => simp only [attempt,unsent_made base _ _ unsent]
    | sent sent goes => simp only [attempt,sent_made base _ _ sent,(course_exact _ _ _ _).mp goes]
  · rintro rfl
    rcases sent_or_unsent base (call.request caller) with ⟨first,sent⟩ | ⟨text,unsent⟩
    · refine .sent sent ((course_exact network first _ (network.course first).upshot).mpr ?_)
      simp only [attempt,sent_made base _ first sent]
    · simp only [attempt,unsent_made base _ text unsent]
      exact .unsent unsent

def Stays (base : String) (network : Network) (request : Request) : Prop :=
  ∀ first r a, Sent base request first → network.answer [] first = .answered r → ¬Leads network first r (.address a)

theorem Reaches.bounded {base : String} {network : Network} {request : Request} {arrived : List Post}
    (reaches : Reaches base network request arrived) :
    arrived.length ≤ 11 ∧ (Stays base network request → arrived.length ≤ 1) := by
  cases reaches with
  | unsent unsent => simp
  | @sent first _ _ sent goes => exact ⟨goes.ways.1,fun stays => goes.lone fun r a => stays first r a sent⟩

theorem completeWith_call (call : Call) (replies : {ρ : Type} → Shape ρ → Outcome ρ) :
    (call.completeWith replies).call = call := by
  cases call <;> rfl

end Http

theorem Session.callOver_bound (s : Session) (base : String) (network : Network) (on : String) (caller : Caller)
    (call : Call) (cell : Nat) (bound : s.accounts.handles.get? on = some cell) :
    let made := call.completeWith fun shape => reply base network (call.request caller) shape
    s.callOver base network on caller call = some (s.settle cell made.edits,
      ⟨.result made.result,(attempt base network caller call).arrived,⟨made.notices s.outlet,made.events s.outlet⟩⟩) := by
  intro made
  simp only [callOver,attempt_completion]
  rw [s.complete_bound on cell made bound]
  rfl

-- A call over HTTP against the same call with a scripted reply. There is just
-- one reply that can be said to come back, and with it the script leaves the
-- same session, gives the same answer, and delivers and logs the same.
theorem call_over_scripted (s : Session) (base : String) (network : Network) (on : String) (caller : Caller)
    (call : Call) (before : Account) (there : s.accounts.snapshot? on = some before) :
    ∃ replies : (ρ : Type) → Shape ρ → Outcome ρ,
      (∀ ρ (shape : Shape ρ) outcome,
        Reply base network (call.request caller) shape outcome ↔ replies ρ shape = outcome) ∧
      ∃ later delivery, s.callOver base network on caller call = some (later,delivery) ∧
        s.step (.call on ⟨caller,call.completeWith fun shape => replies _ shape⟩) =
          some (later,⟨delivery.answer,[call.request caller],delivery.trace⟩) ∧
        later.specs = s.specs ∧
        ∀ arrived, Reaches base network (call.request caller) arrived ↔ delivery.arrived = arrived := by
  refine ⟨fun _ shape => reply base network (call.request caller) shape,
    fun _ shape outcome => reply_exact base network _ shape outcome,?_⟩
  obtain ⟨cell,_,bound,_⟩ := (Shelf.snapshot_there s.accounts on before).mp there
  have scripted := s.call_bound on cell
    ⟨caller,call.completeWith fun shape => reply base network (call.request caller) shape⟩ bound
  refine ⟨_,_,s.callOver_bound base network on caller call cell bound,?_,rfl,
    attempt_arrived base network caller call⟩
  simpa only [Started.request,completeWith_call] using scripted

def bye : List UInt8 := Text.encode "\x7b\"status\":\"bye\"\x7d".toList

def granted (body : List UInt8) : Response := .whole 200 body

def goodbye : Network := .ofExchanges [.answered (granted bye)]

def found (location : String) : Response := .whole 302 [] (some location)

def switched : Response := {status := 101,location := none,length := 1,body := []}

def roundabout : Network := .ofExchanges [.answered (found "/bye"),.answered (granted bye)]

theorem call_over_scripted_roundabout :
    ∃ later delivery, (Session.start .listener).callOver "http://a" roundabout "main" ⟨"tok","bob@example.com"⟩ .logout =
        some (later,delivery) ∧
      (Session.start .listener).step (.call "main" ⟨⟨"tok","bob@example.com"⟩,.logout (.ok ⟨some "bye"⟩)⟩) =
        some (later,⟨delivery.answer,[⟨"tok",.logout⟩],delivery.trace⟩) ∧
      (delivery.arrived.map fun post => (post.method,post.target)) =
        [(.post,"/confidios/auths/user/logout"),(.get,"/bye")] := by
  obtain ⟨replies,only,later,delivery,made,scripted,_,reaches⟩ :=
    call_over_scripted (Session.start .listener) "http://a" roundabout "main" ⟨"tok","bob@example.com"⟩ .logout .initial rfl
  have answered : reply "http://a" roundabout ⟨"tok",.logout⟩ Wire.StatusReply.shape = .ok ⟨some "bye"⟩ := by
    decide +kernel
  have replied := (only _ _ _).mp ((reply_exact "http://a" roundabout ⟨"tok",.logout⟩ _ _).mpr answered)
  have arrived := (reaches _).mp ((attempt_arrived "http://a" roundabout ⟨"tok","bob@example.com"⟩ .logout _).mpr rfl)
  refine ⟨later,delivery,made,?_,?_⟩
  · rw [← replied]
    exact scripted
  · rw [arrived]
    decide +kernel

-- A host may have a quotation mark in its name. The address can be read and the token can be sent, but no post is
-- made, and what is said of that is not what is said of a backend that cannot be reached. An answer that sends on
-- is not the reply if there is one where it sends to, and one that switches protocols has no body to wait for.
theorem call_over_otherwise :
    ((Url.Address.parse ("http://a\"b" ++ route .logout).toList).isSome = true ∧ ¬Uncarried "tok" ∧
      ((Session.start .listener).callOver "http://a\"b" (.ofExchanges [.unreachable]) "main" ⟨"tok","bob@example.com"⟩
        .logout).map (·.2.trace) ≠
      ((Session.start .listener).step (.call "main" ⟨⟨"tok","bob@example.com"⟩,.logout (.error (.request
        "error sending request for url (http://a\"b/confidios/auths/user/logout)"))⟩)).map (·.2.trace)) ∧
    (((Session.start .listener).callOver "http://a" roundabout "main" ⟨"tok","bob@example.com"⟩ .logout).map
        (·.2.arrived.length) = some 2 ∧
      ((Session.start .listener).callOver "http://a" roundabout "main" ⟨"tok","bob@example.com"⟩ .logout).map
        (·.2.trace) ≠
      ((Session.start .listener).step (.call "main" ⟨⟨"tok","bob@example.com"⟩,.logout (.error (.status 302 ""))⟩)).map
        (·.2.trace)) ∧
    ((Session.start .listener).callOver "http://a" (.ofExchanges [.answered switched]) "main" ⟨"tok","bob@example.com"⟩
        .logout).map (·.2.trace) ≠
      ((Session.start .listener).step (.call "main" ⟨⟨"tok","bob@example.com"⟩,.logout (.error (.request
        "error decoding response body"))⟩)).map (·.2.trace) := by
  refine ⟨⟨?_,?_,?_⟩,⟨?_,?_⟩,?_⟩
  · decide +kernel
  · exact mt (uncarried_exact "tok").mpr (by decide)
  · decide +kernel
  · decide +kernel
  · decide +kernel
  · decide +kernel

end AccountLink
