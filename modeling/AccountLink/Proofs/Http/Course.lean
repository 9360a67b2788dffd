import AccountLink.Http.Course

namespace AccountLink.Http

open AccountLink.Url

def Repeats (r : Response) : Prop := r.status = 307 ∨ r.status = 308

def SendsOn (r : Response) : Prop := r.status = 301 ∨ r.status = 302 ∨ r.status = 303 ∨ Repeats r

theorem repeats_exact (r : Response) : r.repeats = true ↔ Repeats r := by
  simp [Response.repeats,Repeats]

theorem sendsOn_exact (r : Response) : r.sendsOn = true ↔ SendsOn r := by
  simp [Response.sendsOn,SendsOn,Repeats]

inductive Leads (network : Network) (p : Post) (r : Response) : Lead → Prop where
  | settled (settled : ¬SendsOn r) : Leads network p r .nowhere
  | silent (silent : r.location = none) : Leads network p r .nowhere
  | located {location} (sends : SendsOn r) (said : r.location = some location) :
      Leads network p r (network.lead p.address location)

theorem leads_exact (network : Network) (p : Post) (r : Response) (lead : Lead) :
    Leads network p r lead ↔ network.leads p r = lead := by
  constructor
  · intro leads
    cases leads with
    | settled settled => simp [Network.leads,mt (sendsOn_exact r).mp settled]
    | silent silent => simp [Network.leads,silent]
    | located sends said => simp [Network.leads,(sendsOn_exact r).mpr sends,said]
  · rintro rfl
    unfold Network.leads
    cases sends : r.sendsOn with
    | false => exact .settled (by simp [← sendsOn_exact,sends])
    | true =>
        cases said : r.location with
        | none => exact .silent said
        | some location => exact .located ((sendsOn_exact r).mp sends) said

theorem Leads.sendsOn {network : Network} {p : Post} {r : Response} {a : Address}
    (leads : Leads network p r (.address a)) : SendsOn r := by
  generalize lead : Lead.address a = found at leads
  cases leads with
  | settled | silent => cases lead
  | located sends => exact sends

-- The posts that are made before another, for one that is made first. No more than ten follow that one.
inductive Way (network : Network) (first : Post) : List Post → Post → Prop where
  | first : Way network first [] first
  | next {earlier post r a} (way : Way network first earlier post) (short : earlier.length < 10)
      (met : network.answer earlier post = .answered r) (leads : Leads network post r (.address a)) :
      Way network first (earlier ++ [post]) (Post.next first post r a)

inductive Ends (network : Network) (earlier : List Post) (post : Post) : List Post → Upshot → Prop where
  | unreachable (met : network.answer earlier post = .unreachable) : Ends network earlier post earlier .lost
  | unanswered (met : network.answer earlier post = .unanswered) : Ends network earlier post (earlier ++ [post]) .lost
  | settled {r} (met : network.answer earlier post = .answered r) (leads : Leads network post r .nowhere) :
      Ends network earlier post (earlier ++ [post]) (.reply r)
  | malformed {r} (met : network.answer earlier post = .answered r) (leads : Leads network post r .malformed) :
      Ends network earlier post (earlier ++ [post]) .malformed
  | foreign {r url} (met : network.answer earlier post = .answered r) (leads : Leads network post r (.foreign url))
      (short : earlier.length < 10) : Ends network earlier post (earlier ++ [post]) (.foreign url)
  | tooFar {r lead} (met : network.answer earlier post = .answered r) (leads : Leads network post r lead)
      (further : lead ≠ .nowhere ∧ lead ≠ .malformed) (long : earlier.length = 10) :
      Ends network earlier post (earlier ++ [post]) (.tooFar post.address)

def Goes (network : Network) (first : Post) (arrived : List Post) (upshot : Upshot) : Prop :=
  ∃ earlier post, Way network first earlier post ∧ Ends network earlier post arrived upshot

section Course

variable {network : Network} {first : Post}

def Course.behind (c : Course) (earlier : List Post) : Course := ⟨earlier ++ c.arrived,c.upshot⟩

theorem behind_append (c : Course) (earlier more : List Post) :
    (c.behind more).behind earlier = c.behind (earlier ++ more) := by
  simp [Course.behind]

theorem follow_next {earlier : List Post} {post : Post} {r : Response} {a : Address} (left : Nat)
    (met : network.answer earlier post = .answered r) (leads : Leads network post r (.address a)) :
    network.follow first (left+1) earlier post =
      (network.follow first left (earlier ++ [post]) (Post.next first post r a)).behind [post] := by
  rw [Network.follow,met]
  simp only [(leads_exact _ _ _ _).mp leads]
  rfl

theorem Way.bounded {earlier : List Post} {post : Post} (way : Way network first earlier post) : earlier.length ≤ 10 := by
  cases way with
  | first => simp
  | next way short met leads =>
      rw [List.length_append,List.length_singleton]
      omega

-- All that is left of a course, once a post on its way is made, is what follows from there.
theorem Way.course {earlier : List Post} {post : Post} (way : Way network first earlier post) :
    network.course first = (network.follow first (10-earlier.length) earlier post).behind earlier := by
  induction way with
  | first => rfl
  | @next earlier post r a way short met leads ih =>
      have left : 10-earlier.length = 10-(earlier ++ [post]).length+1 := by
        rw [List.length_append,List.length_singleton]
        omega
      rw [ih,left,follow_next _ met leads,behind_append]

theorem Ends.course {earlier arrived : List Post} {post : Post} {upshot : Upshot} (way : Way network first earlier post)
    (ends : Ends network earlier post arrived upshot) : network.course first = ⟨arrived,upshot⟩ := by
  rw [way.course,Network.follow.eq_def]
  cases ends with
  | unreachable met => simp [met,Course.behind]
  | unanswered met => simp [met,Course.behind]
  | settled met leads => simp [met,(leads_exact _ _ _ _).mp leads,Course.behind]
  | malformed met leads => simp [met,(leads_exact _ _ _ _).mp leads,Course.behind]
  | foreign met leads short =>
      obtain ⟨left,more⟩ : ∃ left, 10-earlier.length = left+1 := ⟨10-earlier.length-1,by omega⟩
      simp [met,(leads_exact _ _ _ _).mp leads,more,Course.behind]
  | @tooFar r lead met leads further long =>
      simp only [met,(leads_exact _ _ _ _).mp leads,long,Nat.sub_self]
      cases lead with
      | nowhere => exact absurd rfl further.1
      | malformed => exact absurd rfl further.2
      | foreign url => rfl
      | address a => rfl

theorem Way.ends_or_next {earlier : List Post} {post : Post} (way : Way network first earlier post) :
    (∃ arrived upshot, Ends network earlier post arrived upshot) ∨
      earlier.length < 10 ∧ ∃ next, Way network first (earlier ++ [post]) next := by
  cases met : network.answer earlier post with
  | unreachable => exact .inl ⟨_,_,.unreachable met⟩
  | unanswered => exact .inl ⟨_,_,.unanswered met⟩
  | answered r =>
      have leads := (leads_exact network post r _).mpr rfl
      rcases Nat.lt_or_eq_of_le way.bounded with short | long
      · cases lead : network.leads post r with
        | nowhere => exact .inl ⟨_,_,.settled met (lead ▸ leads)⟩
        | malformed => exact .inl ⟨_,_,.malformed met (lead ▸ leads)⟩
        | foreign url => exact .inl ⟨_,_,.foreign met (lead ▸ leads) short⟩
        | address a => exact .inr ⟨short,_,way.next short met (lead ▸ leads)⟩
      · cases lead : network.leads post r with
        | nowhere => exact .inl ⟨_,_,.settled met (lead ▸ leads)⟩
        | malformed => exact .inl ⟨_,_,.malformed met (lead ▸ leads)⟩
        | foreign url => exact .inl ⟨_,_,.tooFar met (lead ▸ leads) (by simp) long⟩
        | address a => exact .inl ⟨_,_,.tooFar met (lead ▸ leads) (by simp) long⟩

theorem Way.goes {earlier : List Post} {post : Post} (way : Way network first earlier post) :
    ∃ arrived upshot, Goes network first arrived upshot := by
  generalize count : 10-earlier.length = left
  induction left generalizing earlier post with
  | zero =>
      rcases way.ends_or_next with ⟨arrived,upshot,ends⟩ | ⟨short,_⟩
      · exact ⟨arrived,upshot,_,_,way,ends⟩
      · omega
  | succ left ih =>
      rcases way.ends_or_next with ⟨arrived,upshot,ends⟩ | ⟨short,next,way⟩
      · exact ⟨arrived,upshot,_,_,way,ends⟩
      · refine ih way ?_
        rw [List.length_append,List.length_singleton]
        omega

theorem course_exact (network : Network) (first : Post) (arrived : List Post) (upshot : Upshot) :
    Goes network first arrived upshot ↔ network.course first = ⟨arrived,upshot⟩ := by
  constructor
  · rintro ⟨earlier,post,way,ends⟩
    exact ends.course way
  · intro made
    obtain ⟨others,other,earlier,post,way,ends⟩ := (Way.first : Way network first [] first).goes
    cases (ends.course way).symm.trans made
    exact ⟨earlier,post,way,ends⟩

theorem goes_settled {r : Response} (met : network.answer [] first = .answered r) (settled : ¬SendsOn r) :
    Goes network first [first] (.reply r) := ⟨[],first,.first,.settled met (.settled settled)⟩

theorem Way.made {earlier : List Post} {post : Post} (way : Way network first earlier post) :
    ∀ other ∈ earlier ++ [post], ∃ before, Way network first before other := by
  induction way with
  | first =>
      intro other member
      rw [List.mem_singleton.mp member]
      exact ⟨_,.first⟩
  | next way short met leads ih =>
      intro other member
      rcases List.mem_append.mp member with before | here
      · exact ih other before
      · rw [List.mem_singleton.mp here]
        exact ⟨_,way.next short met leads⟩

theorem Ends.arrived_prefix {earlier arrived : List Post} {post : Post} {upshot : Upshot}
    (ends : Ends network earlier post arrived upshot) : arrived <+: earlier ++ [post] := by
  cases ends with
  | unreachable => exact List.prefix_append _ _
  | unanswered | settled | malformed | foreign | tooFar => exact List.prefix_rfl

theorem Goes.ways {arrived : List Post} {upshot : Upshot} (goes : Goes network first arrived upshot) :
    arrived.length ≤ 11 ∧ ∀ post ∈ arrived, ∃ earlier, Way network first earlier post := by
  obtain ⟨earlier,last,way,ends⟩ := goes
  have bound := way.bounded
  have count := ends.arrived_prefix.length_le
  rw [List.length_append,List.length_singleton] at count
  exact ⟨by omega,fun post member => way.made post (ends.arrived_prefix.subset member)⟩

theorem Way.beyond {earlier : List Post} {post : Post} (way : Way network first earlier post) :
    earlier = [] ∧ post = first ∨ ∃ r a, network.answer [] first = .answered r ∧ Leads network first r (.address a) := by
  induction way with
  | first => exact .inl ⟨rfl,rfl⟩
  | next way short met leads ih =>
      rcases ih with ⟨rfl,rfl⟩ | before
      · exact .inr ⟨_,_,met,leads⟩
      · exact .inr before

theorem Goes.lone {arrived : List Post} {upshot : Upshot} (goes : Goes network first arrived upshot)
    (stays : ∀ r a, network.answer [] first = .answered r → ¬Leads network first r (.address a)) : arrived.length ≤ 1 := by
  obtain ⟨earlier,last,way,ends⟩ := goes
  rcases way.beyond with ⟨rfl,rfl⟩ | ⟨r,a,met,leads⟩
  · exact ends.arrived_prefix.length_le
  · exact absurd leads (stays r a met)

end Course

end AccountLink.Http
