import Mathlib.Logic.Basic
import AccountLink.Proofs.Http.Course

namespace AccountLink.Http

open AccountLink.Text AccountLink.Json AccountLink.Url

def Uncarried (token : String) : Prop := ∃ c ∈ token.toList, c ≠ '\t' ∧ (c.toNat < 32 ∨ c.toNat = 127)

theorem uncarried_exact (token : String) : isHeaderText token = false ↔ Uncarried token := by
  unfold isHeaderText Uncarried
  rw [List.all_eq_false]
  refine exists_congr fun c => and_congr_right fun _ => ?_
  simp
  omega

-- The normal form of the address is too long, or its host has one of four
-- characters that are left as they are in names.
def Unaskable (a : Address) : Prop :=
  longestAddress < a.chars.length ∨ ∃ cs, a.host = .name cs ∧ ∃ c ∈ cs, c = '"' ∨ c = '\x60' ∨ c = '{' ∨ c = '}'

theorem unaskable_exact (a : Address) : isAskable a = false ↔ Unaskable a := by
  unfold isAskable Unaskable
  rw [Bool.and_eq_false_iff]
  refine or_congr (by simp) ?_
  cases a.host with
  | name cs =>
      simp only [List.all_eq_false,Host.name.injEq,exists_eq_left']
      refine exists_congr fun c => and_congr_right fun _ => ?_
      simp [or_iff_not_imp_left]
  | four address => simp
  | six pieces => simp

inductive Unsent (base : String) (request : Request) : String → Prop where
  | unreadable (unread : Address.parse (base ++ route request.ask.operation).toList = none) :
      Unsent base request "builder error"
  | uncarried (uncarried : Uncarried request.token) : Unsent base request "builder error"
  | unaskable {address} (parsed : Address.parse (base ++ route request.ask.operation).toList = some address)
      (carried : ¬Uncarried request.token) (unaskable : Unaskable (separate address).1) :
      Unsent base request ("builder error for url (" ++ addressText (separate address).1 ++ ")")

inductive Sent (base : String) (request : Request) : Post → Prop where
  | post {address} (parsed : Address.parse (base ++ route request.ask.operation).toList = some address)
      (carried : ¬Uncarried request.token) (askable : ¬Unaskable (separate address).1) :
      Sent base request ⟨.post,(separate address).1,(separate address).2 ++ [bearer request.token],none,
        (body request.ask).map Value.compact⟩

theorem unsent_made (base : String) (request : Request) (text : String) (unsent : Unsent base request text) :
    Post.ofRequest base request = .error (.request text) := by
  cases unsent with
  | unreadable unread => simp only [Post.ofRequest,unread]
  | uncarried uncarried =>
      have unwritten := (uncarried_exact request.token).mpr uncarried
      cases parsed : Address.parse (base ++ route request.ask.operation).toList with
      | none => simp only [Post.ofRequest,parsed]
      | some address => simp only [Post.ofRequest,parsed,unwritten,Bool.not_false,if_true]
  | @unaskable address parsed carried unaskable =>
      have written := Bool.of_not_eq_false (mt (uncarried_exact request.token).mp carried)
      have refused := (unaskable_exact _).mpr unaskable
      simp only [Post.ofRequest,parsed,written,refused,Bool.not_true,Bool.not_false,if_true,Bool.false_eq_true,if_false]

theorem sent_made (base : String) (request : Request) (post : Post) (sent : Sent base request post) :
    Post.ofRequest base request = .ok post := by
  cases sent with
  | @post address parsed carried askable =>
      have written := Bool.of_not_eq_false (mt (uncarried_exact request.token).mp carried)
      have accepted := Bool.of_not_eq_false (mt (unaskable_exact _).mp askable)
      simp only [Post.ofRequest,parsed,written,accepted,Bool.not_true,Bool.false_eq_true,if_false]

theorem sent_or_unsent (base : String) (request : Request) :
    (∃ post, Sent base request post) ∨ ∃ text, Unsent base request text := by
  by_cases carried : Uncarried request.token
  · exact .inr ⟨_,.uncarried carried⟩
  · cases parsed : Address.parse (base ++ route request.ask.operation).toList with
    | none => exact .inr ⟨_,.unreadable parsed⟩
    | some address =>
        by_cases unaskable : Unaskable (separate address).1
        · exact .inr ⟨_,.unaskable parsed carried unaskable⟩
        · exact .inl ⟨_,.post parsed carried unaskable⟩

theorem made_sent {base : String} {request : Request} {post : Post} (made : Post.ofRequest base request = .ok post) :
    Sent base request post := by
  rcases sent_or_unsent base request with ⟨other,sent⟩ | ⟨text,unsent⟩
  · rw [sent_made base request other sent] at made
    cases made
    exact sent
  · rw [unsent_made base request text unsent] at made
    cases made

def CutShort (r : Response) : Prop :=
  (r.status ≠ 101 ∧ r.status ≠ 204 ∧ r.status ≠ 304) ∧ r.body.length < r.length

def Succeeded (r : Response) : Prop := 200 ≤ r.status ∧ r.status ≤ 299

theorem cutShort_exact (r : Response) : r.isCutShort = true ↔ CutShort r := by
  simp [Response.isCutShort,Response.hasBody,CutShort,and_assoc]

theorem succeeded_exact (r : Response) : r.isSuccess = true ↔ Succeeded r := by
  simp [Response.isSuccess,Succeeded]

theorem Succeeded.settled {r : Response} (succeeded : Succeeded r) : ¬SendsOn r := by
  unfold Succeeded at succeeded
  unfold SendsOn Repeats
  omega

-- What the end of a course comes to for the post that it began with. Of an answer that did not arrive whole,
-- nothing else counts; of one that is no success, nothing but the status and the text.
inductive Comes {ρ : Type} (shape : Shape ρ) (first : Post) : Upshot → Outcome ρ → Prop where
  | lost : Comes shape first .lost
      (.error (.request ("error sending request for url (" ++ addressText first.address ++ ")")))
  | malformed : Comes shape first .malformed
      (.error (.request ("builder error for url (" ++ addressText first.address ++ ")")))
  | foreign {url} : Comes shape first (.foreign url) (.error (.request ("builder error for url (" ++ url ++ ")")))
  | tooFar {last} : Comes shape first (.tooFar last)
      (.error (.request ("error following redirect for url (" ++ addressText {last with fragment := none} ++ ")")))
  | cutShort {r} (short : CutShort r) :
      Comes shape first (.reply r) (.error (.request "error decoding response body"))
  | refused {r} (whole : ¬CutShort r) (failed : ¬Succeeded r) :
      Comes shape first (.reply r) (.error (.status r.status (String.ofList r.text)))
  | decoded {r reply} (whole : ¬CutShort r) (succeeded : Succeeded r) (fits : shape.decode r.text = .ok reply) :
      Comes shape first (.reply r) (.ok reply)
  | misread {r failure} (whole : ¬CutShort r) (succeeded : Succeeded r)
      (unfit : shape.decode r.text = .error failure) :
      Comes shape first (.reply r) (.error (.reply (failure.message r.text)))

section Comes

variable {ρ : Type} (shape : Shape ρ) (first : Post)

theorem comes_made (e : Upshot) (outcome : Outcome ρ) (comes : Comes shape first e outcome) :
    e.outcome shape first = outcome := by
  cases comes with
  | lost => rfl
  | malformed => rfl
  | foreign => rfl
  | tooFar => rfl
  | cutShort short => simp [Upshot.outcome,Response.outcome,(cutShort_exact _).mpr short]
  | refused whole failed =>
      simp [Upshot.outcome,Response.outcome,mt (cutShort_exact _).mp whole,mt (succeeded_exact _).mp failed]
  | decoded whole succeeded fits =>
      simp [Upshot.outcome,Response.outcome,mt (cutShort_exact _).mp whole,(succeeded_exact _).mpr succeeded,fits]
  | misread whole succeeded unfit =>
      simp [Upshot.outcome,Response.outcome,mt (cutShort_exact _).mp whole,(succeeded_exact _).mpr succeeded,unfit]

theorem comes_something (e : Upshot) : ∃ outcome, Comes shape first e outcome := by
  cases e with
  | lost => exact ⟨_,.lost⟩
  | malformed => exact ⟨_,.malformed⟩
  | foreign url => exact ⟨_,.foreign⟩
  | tooFar last => exact ⟨_,.tooFar⟩
  | reply r =>
      by_cases short : CutShort r
      · exact ⟨_,.cutShort short⟩
      by_cases succeeded : Succeeded r
      · cases read : shape.decode r.text with
        | ok reply => exact ⟨_,.decoded short succeeded read⟩
        | error failure => exact ⟨_,.misread short succeeded read⟩
      · exact ⟨_,.refused short succeeded⟩

theorem comes_exact (e : Upshot) (outcome : Outcome ρ) :
    Comes shape first e outcome ↔ e.outcome shape first = outcome := by
  constructor
  · exact comes_made shape first e outcome
  · rintro rfl
    obtain ⟨outcome,comes⟩ := comes_something shape first e
    rwa [comes_made shape first e outcome comes]

end Comes

end AccountLink.Http
