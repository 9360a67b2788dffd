import Mathlib.Data.List.Forall2
import AccountLink.Http.Client
import AccountLink.Proofs.Http.Reply
import AccountLink.Proofs.Session.Tokens

namespace AccountLink

open AccountLink.Http

namespace Http

def Post.signed (p : Post) (token : String) : Post := {p with authorization := p.authorization ++ [bearer token]}

def Post.masked (p : Post) : Post := {p with authorization := p.authorization.set (p.authorization.length-1) ""}

def unsigned (base : String) (ask : Ask) : Outcome Post :=
  match Url.Address.parse (base ++ route ask.operation).toList with
  | none => .error (.request "builder error")
  | some address =>
    if isAskable (separate address).1 then
      .ok ⟨.post,(separate address).1,(separate address).2,none,(body ask).map Json.Value.compact⟩
    else .error (.request ("builder error for url (" ++ addressText (separate address).1 ++ ")"))

theorem ofRequest_signed (base : String) (request : Request) (carried : ¬Uncarried request.token) :
    Post.ofRequest base request = (unsigned base request.ask).map (·.signed request.token) := by
  have written := Bool.of_not_eq_false (mt (uncarried_exact request.token).mp carried)
  unfold Post.ofRequest unsigned
  cases Url.Address.parse (base ++ route request.ask.operation).toList with
  | none => rfl
  | some address =>
      cases askable : isAskable (separate address).1 <;>
        simp [written,askable,Except.map,Post.signed]

-- Posts that differ in their tokens, which both of them have or neither.
structure Resigned (token other : String) (one two : Post) : Prop where
  same : {one with authorization := []} = {two with authorization := []}
  authorization : one.authorization = [] ∧ two.authorization = [] ∨ ∃ credentials,
    one.authorization = credentials ++ [bearer token] ∧ two.authorization = credentials ++ [bearer other]

-- Two backends that answer posts with one token and with the other the same way.
structure Deaf (token other : String) (network elsewhere : Network) : Prop where
  answer : ∀ earlier before one two, List.Forall₂ (Resigned token other) earlier before → Resigned token other one two →
    network.answer earlier one = elsewhere.answer before two
  lead : network.lead = elsewhere.lead

theorem signed_resigned (p : Post) (token other : String) : Resigned token other (p.signed token) (p.signed other) :=
  ⟨rfl,.inr ⟨p.authorization,rfl,rfl⟩⟩

section Resigned

variable {token other : String} {one two first foremost : Post}

theorem Resigned.masked (resigned : Resigned token other one two) : one.masked = two.masked := by
  obtain ⟨method,address,authorization,referer,body⟩ := one
  obtain ⟨_,_,authorizationToo,_,_⟩ := two
  obtain ⟨same,authorized⟩ := resigned
  simp only [Post.mk.injEq,true_and] at same
  obtain ⟨rfl,rfl,rfl,rfl⟩ := same
  rcases authorized with ⟨none,noneToo⟩ | ⟨credentials,signed,signedToo⟩
  · cases none
    cases noneToo
    rfl
  · cases signed
    cases signedToo
    simp [Post.masked]

theorem resigned_masked {earlier before : List Post} (resigned : List.Forall₂ (Resigned token other) earlier before) :
    earlier.map Post.masked = before.map Post.masked := by
  induction resigned with
  | nil => rfl
  | cons first _ ih => rw [List.map_cons,List.map_cons,first.masked,ih]

theorem Resigned.address (resigned : Resigned token other one two) : one.address = two.address :=
  (Post.mk.inj resigned.same).2.1

theorem Resigned.next (start : Resigned token other first foremost) (resigned : Resigned token other one two)
    (r : Response) (a : Url.Address) : Resigned token other (Post.next first one r a) (Post.next foremost two r a) where
  same := by
    obtain ⟨method,address,_,_,body⟩ := Post.mk.inj resigned.same
    simp only [Post.next,method,address,body]
  authorization := by
    simp only [Post.next,resigned.address]
    split
    · exact start.authorization
    · exact .inl ⟨rfl,rfl⟩

section Deaf

variable {network elsewhere : Network} {earlier arrived before : List Post} {upshot : Upshot}
  (deaf : Deaf token other network elsewhere)
include deaf

theorem leads_resigned (resigned : Resigned token other one two) {r : Response} {lead : Lead}
    (leads : Leads network one r lead) : Leads elsewhere two r lead := by
  cases leads with
  | settled settled => exact .settled settled
  | silent silent => exact .silent silent
  | located sends said =>
      rw [deaf.lead,resigned.address]
      exact .located sends said

theorem way_resigned (start : Resigned token other first foremost) (way : Way network first earlier one) :
    ∃ before two, Way elsewhere foremost before two ∧ List.Forall₂ (Resigned token other) earlier before ∧
      Resigned token other one two := by
  induction way with
  | first => exact ⟨[],foremost,.first,.nil,start⟩
  | @next earlier one r a way short met leads ih =>
      obtain ⟨before,two,wayToo,behind,resigned⟩ := ih
      rw [deaf.answer _ _ _ _ behind resigned] at met
      rw [behind.length_eq] at short
      exact ⟨before ++ [two],_,.next wayToo short met (leads_resigned deaf resigned leads),
        List.rel_append behind (.cons resigned .nil),start.next resigned r a⟩

theorem ends_resigned (behind : List.Forall₂ (Resigned token other) earlier before)
    (resigned : Resigned token other one two) (ends : Ends network earlier one arrived upshot) :
    ∃ reached, Ends elsewhere before two reached upshot ∧ List.Forall₂ (Resigned token other) arrived reached := by
  have answer := deaf.answer _ _ _ _ behind resigned
  have all := List.rel_append behind (.cons resigned .nil)
  have length := behind.length_eq
  cases ends with
  | unreachable met => exact ⟨_,.unreachable (answer ▸ met),behind⟩
  | unanswered met => exact ⟨_,.unanswered (answer ▸ met),all⟩
  | settled met leads => exact ⟨_,.settled (answer ▸ met) (leads_resigned deaf resigned leads),all⟩
  | malformed met leads => exact ⟨_,.malformed (answer ▸ met) (leads_resigned deaf resigned leads),all⟩
  | foreign met leads short =>
      exact ⟨_,.foreign (answer ▸ met) (leads_resigned deaf resigned leads) (length ▸ short),all⟩
  | tooFar met leads further long =>
      rw [resigned.address]
      exact ⟨_,.tooFar (answer ▸ met) (leads_resigned deaf resigned leads) further (length ▸ long),all⟩

theorem course_resigned (start : Resigned token other first foremost) :
    (network.course first).arrived.map Post.masked = (elsewhere.course foremost).arrived.map Post.masked ∧
      (network.course first).upshot = (elsewhere.course foremost).upshot := by
  obtain ⟨earlier,post,way,ends⟩ := (course_exact network first _ _).mpr rfl
  obtain ⟨before,two,wayToo,behind,resigned⟩ := way_resigned deaf start way
  obtain ⟨reached,endsToo,arrived⟩ := ends_resigned deaf behind resigned ends
  rw [endsToo.course wayToo]
  exact ⟨resigned_masked arrived,rfl⟩

end Deaf

end Resigned

def Attempt.masked (made : Attempt) : Attempt := {made with arrived := made.arrived.map Post.masked}

theorem masked_completion (made : Attempt) : made.masked.completion = made.completion := rfl

theorem masked_arrived (made : Attempt) : made.masked.arrived = made.arrived.map Post.masked := rfl

theorem attempt_masked (base : String) {network elsewhere : Network} {caller other : Caller} (call : Call)
    (same : caller.masked = other.masked) (carried : ¬Uncarried caller.token) (carriedToo : ¬Uncarried other.token)
    (deaf : Deaf caller.token other.token network elsewhere) :
    (attempt base network caller call).masked = (attempt base elsewhere other call).masked := by
  obtain ⟨token,email⟩ := caller
  obtain ⟨another,address⟩ := other
  cases same
  have asks : (call.request ⟨token,email⟩).ask = (call.request ⟨another,email⟩).ask := by cases call <;> rfl
  unfold attempt
  rw [ofRequest_signed _ _ carried,ofRequest_signed _ _ carriedToo,asks]
  cases unsigned base (call.request ⟨another,email⟩).ask with
  | error e => rfl
  | ok post =>
      have outcome {ρ : Type} (shape : Json.Shape ρ) (token : String) (upshot : Upshot) :
          upshot.outcome shape (post.signed token) = upshot.outcome shape post := by cases upshot <;> rfl
      obtain ⟨arrived,upshot⟩ := course_resigned deaf (signed_resigned post token another)
      simp only [Except.map,Attempt.masked,Call.request,outcome,upshot,arrived]

end Http

structure Dispatch.Alike (one two : Dispatch) : Prop where
  caller : one.caller.masked = two.caller.masked
  call : one.call = two.call
  carried : ¬Uncarried one.caller.token ∧ ¬Uncarried two.caller.token
  deaf : Deaf one.caller.token two.caller.token one.network two.network

inductive LinkStep.Alike : LinkStep → LinkStep → Prop where
  | call {on one two} (alike : Dispatch.Alike one two) : LinkStep.Alike (.call on one) (.call on two)
  | overlap {ones twos order} (alike : List.Forall₂ (fun one two => one.1 = two.1 ∧ Dispatch.Alike one.2 two.2) ones twos) :
      LinkStep.Alike (.overlap ones order) (.overlap twos order)
  | other {one two} (same : Step.masked one = Step.masked two) : LinkStep.Alike (.other one) (.other two)

def Passage.masked (p : Passage) : Passage :=
  {p with asked := p.asked.map Request.masked,arrived := p.arrived.map Post.masked}

theorem dispatch_masked (base : String) {one two : Dispatch} (alike : Dispatch.Alike one two) :
    (one.attempt base).masked = (two.attempt base).masked := by
  obtain ⟨caller,call,network⟩ := one
  obtain ⟨other,_,elsewhere⟩ := two
  obtain ⟨same,called,carried,deaf⟩ := alike
  cases called
  exact attempt_masked base call same carried.1 carried.2 deaf

theorem completion_masked (base : String) {one two : Dispatch} (alike : Dispatch.Alike one two) :
    (one.attempt base).completion = (two.attempt base).completion := by
  rw [← masked_completion,dispatch_masked base alike,masked_completion]

theorem started_masked (base : String) {one two : Dispatch} (alike : Dispatch.Alike one two) :
    (one.started base).masked = (two.started base).masked := by
  unfold Dispatch.started Started.masked
  rw [Started.mk.injEq]
  exact ⟨alike.caller,completion_masked base alike⟩

theorem arrived_masked (base : String) {one two : Dispatch} (alike : Dispatch.Alike one two) :
    (one.attempt base).arrived.map Post.masked = (two.attempt base).arrived.map Post.masked := by
  rw [← masked_arrived,dispatch_masked base alike,masked_arrived]

section Overlaps

variable (base : String) {ones twos : List (String × Dispatch)}
  (alike : List.Forall₂ (fun one two => one.1 = two.1 ∧ Dispatch.Alike one.2 two.2) ones twos)
include alike

theorem starts_masked :
    (ones.map fun (on,d) => (on,d.started base)).map (Prod.map id Started.masked) =
      (twos.map fun (on,d) => (on,d.started base)).map (Prod.map id Started.masked) := by
  induction alike with
  | nil => rfl
  | @cons one two _ _ first _ ih =>
      simp only [List.map_cons,Prod.map,id_eq,first.1,started_masked base first.2,List.cons.injEq,true_and]
      exact ih

theorem arrivals_masked :
    (ones.flatMap fun call => (call.2.attempt base).arrived).map Post.masked =
      (twos.flatMap fun call => (call.2.attempt base).arrived).map Post.masked := by
  induction alike with
  | nil => rfl
  | cons first _ ih => simp only [List.flatMap_cons,List.map_append,arrived_masked base first.2,ih]

end Overlaps

namespace Session

theorem callOver_completes (s : Session) (base on : String) (d : Dispatch) :
    s.callOver base d.network on d.caller d.call = (s.complete on (d.attempt base).completion).map fun done =>
      (done.1,⟨.result (d.attempt base).completion.result,(d.attempt base).arrived,done.2⟩) := by
  simp only [callOver,Dispatch.attempt,Option.bind_eq_bind]
  cases s.complete on (Http.attempt base d.network d.caller d.call).completion <;> rfl

theorem stepOver_masked (s : Session) (base : String) {one two : LinkStep} (alike : LinkStep.Alike one two) :
    (s.stepOver base one).map (Prod.map id Passage.masked) = (s.stepOver base two).map (Prod.map id Passage.masked) := by
  cases alike with
  | @call on one two alike =>
      simp only [stepOver,callOver_completes,completion_masked base alike,Option.bind_eq_bind,Option.map_bind,
        Option.bind_map,Function.comp_def,Option.map_some,Prod.map,Passage.masked,arrived_masked base alike]
  | @overlap ones twos order alike =>
      have shown (calls : List (String × Started)) (arrived : List Post) :
          ((s.step (.overlap calls order)).bind fun seen =>
              some (seen.1,(⟨seen.2.answer,[],arrived,seen.2.trace⟩ : Passage))).map (Prod.map id Passage.masked) =
            ((s.step (.overlap calls order)).map (Prod.map id Report.masked)).map fun seen =>
              (seen.1,⟨seen.2.answer,[],arrived.map Post.masked,seen.2.trace⟩) := by
        cases s.step (.overlap calls order) <;> rfl
      have starts : Step.masked (.overlap (ones.map fun (on,d) => (on,d.started base)) order) =
          Step.masked (.overlap (twos.map fun (on,d) => (on,d.started base)) order) :=
        congrArg (Step.overlap · order) (starts_masked base alike)
      simp only [stepOver,Option.bind_eq_bind]
      rw [shown,shown,s.step_alike starts,arrivals_masked base alike]
  | @other one two same =>
      have shown (st : Step) : (s.stepOver base (.other st)).map (Prod.map id Passage.masked) =
          ((s.step st).map (Prod.map id Report.masked)).map fun seen =>
            (seen.1,⟨seen.2.answer,seen.2.asked,[],seen.2.trace⟩) := by
        simp only [stepOver]
        cases s.step st <;> rfl
      rw [shown,shown,s.step_alike same]

theorem runOver_masked (s : Session) (base : String) {ones twos : List LinkStep}
    (alike : List.Forall₂ LinkStep.Alike ones twos) :
    (s.runOver base ones).map (List.map (Prod.map Passage.masked id)) =
      (s.runOver base twos).map (List.map (Prod.map Passage.masked id)) := by
  induction alike generalizing s with
  | nil => rfl
  | cons first _ ih => exact trail_masked (s.stepOver_masked base first) ih

end Session

end AccountLink
