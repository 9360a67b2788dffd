import AccountLink.Http.Client
import AccountLink.Http.Message
import AccountLink.Proofs.Http.Routes
import AccountLink.Proofs.Http.Scripted
import AccountLink.Proofs.Json.Ordered
import AccountLink.Proofs.Url.Users

namespace AccountLink

open AccountLink.Json AccountLink.Url AccountLink.Http

def Call.members (caller : Caller) : Call → Option (List (String × String))
  | .login => some [("confidios_username",loginName caller.email)]
  | .logout => none
  | .adminLogin => none
  | .createUser user => some [("user_id",user.userId),("name",user.name),("email",user.email),("role",user.role),
      ("profile_image_url",user.profileImageUrl)]
  | .listFiles path => some [("path",path)]
  | .fetchFile path => some [("path",path)]

def Operation.names : Operation → List String
  | .login => ["confidios_username"]
  | .logout => []
  | .adminLogin => []
  | .createUser => ["user_id","name","email","role","profile_image_url"]
  | .listFiles => ["path"]
  | .fetchFile => ["path"]

theorem names_distinct (o : Operation) : o.names.Nodup := by
  cases o <;> decide

theorem members_names {caller : Caller} {call : Call} {members : List (String × String)}
    (found : call.members caller = some members) : members.map (·.1) = call.operation.names := by
  cases call <;> cases found <;> rfl

theorem members_ask {caller other : Caller} {call another : Call} (operation : call.operation = another.operation)
    (same : call.members caller = another.members other) : call.ask caller = another.ask other := by
  cases call <;> cases another <;> first | rfl | cases operation
  case login.login => simpa [Call.members,Call.ask,Caller.loginName] using same
  case createUser.createUser user newUser =>
    obtain ⟨_,_,_,_,_⟩ := user
    obtain ⟨_,_,_,_,_⟩ := newUser
    simpa [Call.members,Call.ask] using same
  case listFiles.listFiles => simpa [Call.members,Call.ask] using same
  case fetchFile.fetchFile => simpa [Call.members,Call.ask] using same

def texts (members : List (String × String)) : Members := members.map fun m => (m.1,.string m.2)

theorem texts_names (members : List (String × String)) : (texts members).map (·.1) = members.map (·.1) := by
  simp [texts,Function.comp_def]

theorem body_members (caller : Caller) (call : Call) :
    body (call.ask caller) = (call.members caller).map fun members => .object (texts members) := by
  cases call <;> rfl

theorem texts_exact (room : Nat) (members : List (String × String)) : (Value.object (texts members)).Exact (room+1) := by
  refine .object ?_
  intro m member
  obtain ⟨n,_,rfl⟩ := List.mem_map.mp member
  exact .string

theorem texts_parsed {members : List (String × String)} (distinct : (members.map (·.1)).Nodup) :
    ∃ parsed, Value.ofText (Value.object (texts members)).compact.toList = .ok (.object parsed) ∧
      parsed.Perm (texts members) := by
  obtain ⟨parsed,read,perm⟩ := @ordered_object (texts members) (by rwa [texts_names])
  have same : (texts members).map (fun m => (m.1,m.2.ordered)) = texts members := by
    simp [texts,Function.comp_def,Value.ordered]
  rw [same] at perm
  refine ⟨parsed,?_,perm⟩
  rw [Value.compact,String.toList_ofList,ofText_written compact_blank (texts_exact 126 members),read]

theorem texts_inj {xs ys : List (String × String)} (names : xs.map (·.1) = ys.map (·.1))
    (distinct : (xs.map (·.1)).Nodup) (same : (Value.object (texts xs)).compact = (Value.object (texts ys)).compact) :
    xs = ys := by
  obtain ⟨parsed,read,perm⟩ := texts_parsed distinct
  obtain ⟨others,readOthers,permOthers⟩ := texts_parsed (names ▸ distinct)
  rw [same,readOthers] at read
  cases read
  have equal := perm_keys (by rw [texts_names,texts_names,names]) (by rwa [texts_names]) (perm.symm.trans permOthers)
  refine List.map_injective_iff.mpr ?_ equal
  rintro ⟨key,s⟩ ⟨other,t⟩ same
  cases same
  rfl

theorem route_unnamed (o : Operation) : '@' ∉ (route o).toList := by
  cases o <;> decide +kernel

theorem userInfo_routed {base : String} {scheme rest : List Char} (known : scheme ∈ Settings.schemes)
    (split : base.toList = scheme ++ rest) (o : Operation) : userInfo (base ++ route o).toList = userInfo base.toList := by
  have ends : ∀ scheme ∈ Settings.schemes, scheme.reverse.dropWhile isPadding = scheme.reverse := by decide +kernel
  have solidEnd := ends scheme known
  obtain ⟨⟨first,others,rfl,solid⟩,whole,_,read⟩ := scheme_read known
  obtain ⟨kept,padding,rfl,padded,stripped⟩ :=
    strip_front (List.cons_ne_nil first others) (by simp [solid]) solidEnd rest
  have routed : strip (base ++ route o).toList = first :: others ++
      (kept.filter (!isLineEnd ·) ++ (padding.filter (!isLineEnd ·) ++ (route o).toList)) := by
    rw [String.toList_append,split,List.cons_append,strip_ending solid _ (route_ending o),← List.cons_append,
      List.filter_append,List.filter_append,whole,List.append_assoc,List.append_assoc]
  have unnamed : '@' ∉ padding.filter (!isLineEnd ·) ++ (route o).toList := by
    intro member
    rcases List.mem_append.mp member with here | there
    · exact absurd (padded '@' (List.mem_of_mem_filter here)) (by decide)
    · exact route_unnamed o there
  obtain ⟨_,found⟩ := read (kept.filter (!isLineEnd ·))
  obtain ⟨_,foundRouted⟩ := read (kept.filter (!isLineEnd ·) ++ (padding.filter (!isLineEnd ·) ++ (route o).toList))
  rw [userInfo,routed,foundRouted,userInfo,split,stripped,List.filter_append,whole,found]
  exact userOf_append ('/' :: '/' :: kept.filter (!isLineEnd ·)) unnamed

section Posts

variable {base : String} {caller other : Caller} {call another : Call} {post answer : Post}

theorem post_body (made : Post.ofRequest base (call.request caller) = .ok post) :
    post.body = (call.members caller).map fun members => (Value.object (texts members)).compact := by
  cases made_sent made with
  | post parsed carried askable =>
      rw [Call.request,body_members,Option.map_map]
      rfl

theorem made_post (made : Post.ofRequest base (call.request caller) = .ok post) : post.method = .post := by
  cases made_sent made with
  | post parsed carried askable => rfl

theorem post_plain {raw : String} {settings : Settings} (accepted : Settings.ofBaseUrl raw = .ok settings)
    (unnamed : userInfo settings.baseUrl.toList = none)
    (made : Post.ofRequest settings.baseUrl (call.request caller) = .ok post) :
    post.authorization = [bearer caller.token] := by
  obtain ⟨scheme,known,rest,split⟩ := ofBaseUrl_scheme accepted
  cases made_sent made with
  | @post address parsed carried askable =>
      have nobody : address.user = none := by
        rw [parse_user parsed,userInfo_routed known split,unnamed]
      simp only [separate,nobody,Option.bind_none]
      rfl

theorem bodies_apart (made : Post.ofRequest base (call.request caller) = .ok post) {elsewhere : String}
    (madeToo : Post.ofRequest elsewhere (another.request other) = .ok answer)
    (operation : call.operation = another.operation) (same : post.body = answer.body) :
    call.ask caller = another.ask other := by
  refine members_ask operation ?_
  rw [post_body made,post_body madeToo] at same
  cases mine : call.members caller with
  | none =>
      rw [mine] at same
      cases yours : another.members other with
      | none => rfl
      | some ys => rw [yours] at same; cases same
  | some xs =>
      rw [mine] at same
      cases yours : another.members other with
      | none => rw [yours] at same; cases same
      | some ys =>
          rw [yours] at same
          have names : xs.map (·.1) = ys.map (·.1) := by rw [members_names mine,members_names yours,operation]
          have distinct : (xs.map (·.1)).Nodup := by
            rw [members_names mine]
            exact names_distinct _
          exact congrArg some (texts_inj names distinct (Option.some.inj same))

end Posts

theorem headers_authorization (post : Post) :
    post.headers.filter (·.1 = "authorization") = post.authorization.map (("authorization",·)) := by
  cases method : post.method <;>
    simp [Post.headers,Post.bodyHeaders,method,List.filter_append,List.filter_map,Function.comp_def]

theorem headers_contentType (post : Post) :
    post.headers.filter (·.1 = "content-type") = post.contentType.toList.map (("content-type",·)) := by
  cases method : post.method <;>
    simp [Post.headers,Post.bodyHeaders,method,List.filter_append,List.filter_map,Function.comp_def]

theorem text_ends (post : Post) : ∃ head, post.text = post.method.name ++ " " ++ head ++ "\r\n" ++ post.body.getD "" := by
  refine ⟨post.target ++ " HTTP/1.1\r\n" ++ String.join (post.headers.map fun m => m.1 ++ ": " ++ m.2 ++ "\r\n"),?_⟩
  simp only [Post.text,String.append_assoc]

structure Bodied (caller : Caller) (call : Call) (post : Post) : Prop where
  method : ∃ head, post.text = "POST " ++ head ++ "\r\n" ++ post.body.getD ""
  bare : call.members caller = none →
    post.headers.filter (·.1 = "content-type") = [] ∧ post.body.getD "" = ""
  full : ∀ members, call.members caller = some members →
    post.headers.filter (·.1 = "content-type") = [("content-type","application/json")] ∧
      ∃ parsed, Value.ofText (post.body.getD "").toList = .ok (.object parsed) ∧ parsed.Perm (texts members)

structure Carries (caller : Caller) (call : Call) (post : Post) : Prop extends Bodied caller call post where
  authorization : post.headers.filter (·.1 = "authorization") = [("authorization","Bearer " ++ caller.token)]

theorem body_bodied {caller : Caller} {call : Call} {post : Post} (method : post.method = .post)
    (body : post.body = (call.members caller).map fun members => (Value.object (texts members)).compact) :
    Bodied caller call post where
  method := by
    obtain ⟨head,text⟩ := text_ends post
    rw [method] at text
    exact ⟨head,text⟩
  bare none := by
    rw [headers_contentType,Post.contentType,body,none]
    exact ⟨rfl,rfl⟩
  full members found := by
    rw [headers_contentType,Post.contentType,body,found]
    refine ⟨rfl,texts_parsed ?_⟩
    rw [members_names found]
    exact names_distinct _

theorem post_carries {raw : String} {settings : Settings} (accepted : Settings.ofBaseUrl raw = .ok settings)
    (unnamed : userInfo settings.baseUrl.toList = none) {caller : Caller} {call : Call} {post : Post}
    (made : Post.ofRequest settings.baseUrl (call.request caller) = .ok post) : Carries caller call post where
  toBodied := body_bodied (made_post made) (post_body made)
  authorization := by
    rw [headers_authorization,post_plain accepted unnamed made]
    rfl

structure Bare (post : Post) : Prop where
  method : ∃ head, post.text = "GET " ++ head ++ "\r\n"
  contentType : post.headers.filter (·.1 = "content-type") = []

theorem got_bare {post : Post} (method : post.method = .get) (body : post.body = none) : Bare post where
  method := by
    obtain ⟨head,text⟩ := text_ends post
    rw [method,body] at text
    exact ⟨head,text.trans String.append_empty⟩
  contentType := by
    rw [headers_contentType,Post.contentType,body]
    rfl

-- What a post is by the post whose answer sent it on. The token goes no further than the service that it was sent to.
structure HandedOn (first previous : Post) (r : Response) (post : Post) : Prop where
  repeated : Repeats r → post.method = previous.method ∧ post.body = previous.body
  got : ¬Repeats r → Bare post
  near : serviceOf post.address = serviceOf previous.address →
    post.headers.filter (·.1 = "authorization") = first.headers.filter (·.1 = "authorization")
  far : serviceOf post.address ≠ serviceOf previous.address → post.headers.filter (·.1 = "authorization") = []

theorem next_handedOn (first previous : Post) (r : Response) (a : Address) :
    HandedOn first previous r (Post.next first previous r a) where
  repeated repeats := by simp only [Post.next,(repeats_exact r).mpr repeats,if_true,and_self]
  got once := got_bare (if_neg (mt (repeats_exact r).mp once)) (if_neg (mt (repeats_exact r).mp once))
  near same := by
    rw [headers_authorization,headers_authorization]
    exact congrArg (List.map _) (if_pos same)
  far apart := by
    rw [headers_authorization]
    exact congrArg (List.map _) (if_neg apart)

def Led (network : Network) (first post : Post) : Prop :=
  post = first ∨ ∃ earlier previous r, Way network first earlier previous ∧
    network.answer earlier previous = .answered r ∧ SendsOn r ∧ HandedOn first previous r post

section Ways

variable {network : Network} {first post : Post} {earlier : List Post} (way : Way network first earlier post)
include way

theorem way_led : Led network first post := by
  cases way with
  | first => exact .inl rfl
  | next way short met leads => exact .inr ⟨_,_,_,way,met,leads.sendsOn,next_handedOn _ _ _ _⟩

theorem way_authorization : post.authorization = first.authorization ∨ post.authorization = [] := by
  cases way with
  | first => exact .inl rfl
  | @next _ previous _ a _ _ _ _ =>
      by_cases same : serviceOf a = serviceOf previous.address
      · exact .inl (if_pos same)
      · exact .inr (if_neg same)

-- Whatever sends a post on, it stays what it is or is only got from then on.
theorem way_body : post.method = first.method ∧ post.body = first.body ∨ post.method = .get ∧ post.body = none := by
  induction way with
  | first => exact .inl ⟨rfl,rfl⟩
  | @next _ previous r _ _ _ _ _ ih =>
      cases repeats : r.repeats with
      | true => simpa only [Post.next,repeats,if_true] using ih
      | false =>
          right
          simp only [Post.next,repeats,Bool.false_eq_true,if_false,and_self]

theorem way_posted (posted : post.method = .post) : post.body = first.body := by
  rcases way_body way with ⟨_,same⟩ | ⟨got,_⟩
  · exact same
  · rw [posted] at got
    cases got

end Ways

structure Bears (caller : Caller) (call : Call) (post : Post) : Prop where
  authorization : post.headers.filter (·.1 = "authorization") = [("authorization","Bearer " ++ caller.token)] ∨
    post.headers.filter (·.1 = "authorization") = []
  body : post.method = .post ∧ Bodied caller call post ∨ post.method = .get ∧ Bare post

theorem way_bears {network : Network} {caller : Caller} {call : Call} {first post : Post} {earlier : List Post}
    (carries : Carries caller call first) (method : first.method = .post)
    (body : first.body = (call.members caller).map fun members => (Value.object (texts members)).compact)
    (way : Way network first earlier post) : Bears caller call post where
  authorization := by
    rw [← carries.authorization,headers_authorization,headers_authorization]
    rcases way_authorization way with same | none
    · exact .inl (congrArg _ same)
    · exact .inr (congrArg _ none)
  body := by
    rcases way_body way with ⟨kept,same⟩ | ⟨got,none⟩
    · exact .inl ⟨kept.trans method,body_bodied (kept.trans method) (same.trans body)⟩
    · exact .inr ⟨got,got_bare got none⟩

def LinkStep.dispatches : LinkStep → List Dispatch
  | .call _ d => [d]
  | .overlap calls _ => calls.map (·.2)
  | .other _ => []

theorem dispatch_made {base : String} {d : Dispatch} {post : Post} (arrived : post ∈ (d.attempt base).arrived) :
    ∃ first earlier, Post.ofRequest base (d.call.request d.caller) = .ok first ∧ Way d.network first earlier post := by
  have reaches := (attempt_arrived base d.network d.caller d.call _).mpr rfl
  change post ∈ (attempt base d.network d.caller d.call).arrived at arrived
  generalize (attempt base d.network d.caller d.call).arrived = posts at arrived reaches
  cases reaches with
  | unsent => cases arrived
  | @sent first _ _ sent goes =>
      obtain ⟨earlier,way⟩ := goes.ways.2 post arrived
      exact ⟨first,earlier,sent_made _ _ _ sent,way⟩

namespace Session

variable {base : String}

theorem stepOver_arrived {s later : Session} {step : LinkStep} {passage : Passage}
    (took : s.stepOver base step = some (later,passage)) :
    passage.arrived = step.dispatches.flatMap fun d => (d.attempt base).arrived := by
  cases step with
  | call on d =>
      simp only [stepOver,callOver,Option.bind_eq_bind,Option.bind_eq_some_iff] at took
      obtain ⟨_,⟨_,_,made⟩,took⟩ := took
      cases made
      cases took
      exact (List.append_nil _).symm
  | overlap calls order =>
      simp only [stepOver,Option.bind_eq_bind,Option.bind_eq_some_iff] at took
      obtain ⟨_,_,took⟩ := took
      cases took
      exact (List.flatMap_map Prod.snd (fun d => (Dispatch.attempt d base).arrived) calls).symm
  | other step =>
      simp only [stepOver,Option.bind_eq_bind,Option.bind_eq_some_iff] at took
      obtain ⟨_,_,took⟩ := took
      cases took
      rfl

theorem runOver_arrived {s : Session} {steps : List LinkStep} {trail : List (Passage × Session)}
    (ran : s.runOver base steps = some trail) : List.Forall₂ (fun step entry =>
      entry.1.arrived = step.dispatches.flatMap fun d => (d.attempt base).arrived) steps trail := by
  induction steps generalizing s trail with
  | nil =>
      cases ran
      exact .nil
  | cons first rest ih =>
      simp only [runOver,Option.bind_eq_bind,Option.bind_eq_some_iff] at ran
      obtain ⟨⟨next,passage⟩,took,more,after,ran⟩ := ran
      cases ran
      exact .cons (stepOver_arrived took) (ih after)

end Session

-- For every base URL that is accepted and has no user, whatever the token and the texts of the calls: all that
-- arrives, in any run, is posts that carry their calls and those that answers send on from there, and two calls of one
-- operation that ask for different things are never posted with the same body.
theorem posts_carry (raw : String) (settings : Settings) (accepted : Settings.ofBaseUrl raw = .ok settings)
    (unnamed : userInfo settings.baseUrl.toList = none) :
    (∀ (s : Session) steps trail, s.runOver settings.baseUrl steps = some trail →
      List.Forall₂ (fun step entry => ∀ post ∈ entry.1.arrived, ∃ d ∈ step.dispatches, ∃ first,
        Post.ofRequest settings.baseUrl (d.call.request d.caller) = .ok first ∧ Carries d.caller d.call first ∧
          Led d.network first post ∧ Bears d.caller d.call post) steps trail) ∧
    (∀ (caller : Caller) (call : Call) post, Post.ofRequest settings.baseUrl (call.request caller) = .ok post →
      Carries caller call post) ∧
    ∀ (caller other : Caller) (call another : Call) first foremost network elsewhere earlier before post answer,
      Post.ofRequest settings.baseUrl (call.request caller) = .ok first →
      Post.ofRequest settings.baseUrl (another.request other) = .ok foremost →
      Way network first earlier post → Way elsewhere foremost before answer →
      call.operation = another.operation → call.ask caller ≠ another.ask other →
      post.method = .post → answer.method = .post → post.body ≠ answer.body := by
  refine ⟨fun s steps trail ran => ?_,fun caller call post made => post_carries accepted unnamed made,?_⟩
  · refine (Session.runOver_arrived ran).imp fun step entry arrived post member => ?_
    rw [arrived] at member
    obtain ⟨d,there,arrived⟩ := List.mem_flatMap.mp member
    obtain ⟨first,earlier,made,way⟩ := dispatch_made arrived
    have carries := post_carries accepted unnamed made
    exact ⟨d,there,first,made,carries,way_led way,way_bears carries (made_post made) (post_body made) way⟩
  · intro caller other call another first foremost network elsewhere earlier before post answer made madeToo way wayToo
      operation apart posted postedToo same
    rw [way_posted way posted,way_posted wayToo postedToo] at same
    exact apart (bodies_apart made madeToo operation same)

-- A path that would end its text and add a member if it was not escaped, and an @ that is no user's.
def quotedPath : String := "a\",\"b\":\""

theorem posts_carry_quoted : ∃ post answer,
    Post.ofRequest "http://a/@b" ((Call.fetchFile quotedPath).request ⟨"tok",""⟩) = .ok post ∧
    Post.ofRequest "http://a/@b" ((Call.fetchFile "a").request ⟨"tok",""⟩) = .ok answer ∧
    Carries ⟨"tok",""⟩ (.fetchFile quotedPath) post ∧ post.body ≠ answer.body := by
  have accepted : Settings.ofBaseUrl " http://a/@b/ " = .ok ⟨"http://a/@b",none,none⟩ := by decide +kernel
  obtain ⟨_,carry,apart⟩ := posts_carry _ _ accepted (by decide +kernel)
  have sent (path : String)
      (made : (Post.ofRequest "http://a/@b" ((Call.fetchFile path).request ⟨"tok",""⟩)).toOption.isSome) :
      ∃ post, Post.ofRequest "http://a/@b" ((Call.fetchFile path).request ⟨"tok",""⟩) = .ok post :=
    toOption_isSome made
  obtain ⟨post,made⟩ := sent quotedPath (by decide +kernel)
  obtain ⟨answer,madeToo⟩ := sent "a" (by decide +kernel)
  refine ⟨post,answer,made,madeToo,carry _ _ _ made,?_⟩
  exact apart _ _ _ _ _ _ goodbye goodbye [] [] _ _ made madeToo .first .first rfl (by decide) (made_post made)
    (made_post madeToo)

-- An answer may make a client get what it would have posted, and one may send it where the token does not belong.
def elsewhere : Network :=
  .ofExchanges [.answered (.whole 307 [] (some "http://b/")),.answered (granted bye)]

theorem posts_otherwise :
    ((Session.start .listener).callOver "http://a" roundabout "main" ⟨"tok","bob@example.com"⟩ (.fetchFile "/a")).map
        (fun made => made.2.arrived.map fun post => (post.method.name,post.contentType,post.body)) =
      some [("POST",some "application/json",some "\x7b\"path\":\"/a\"\x7d"),("GET",none,none)] ∧
    ((Session.start .listener).callOver "http://a" elsewhere "main" ⟨"tok","bob@example.com"⟩ .logout).map
        (fun made => made.2.arrived.map (·.authorization)) = some [["Bearer tok"],[]] := by
  constructor
  · decide +kernel
  · decide +kernel

end AccountLink
