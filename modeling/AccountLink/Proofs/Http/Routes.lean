import AccountLink.Proofs.Http.Reply
import AccountLink.Proofs.Settings.BaseUrls
import AccountLink.Proofs.Url.Paths

namespace AccountLink

open AccountLink.Text AccountLink.Url

namespace Http

theorem route_ending (o : Operation) : Ending (route o).toList := by
  constructor
  · cases o <;> exact ⟨_,rfl,by decide +kernel,by decide +kernel⟩
  · cases o <;> exact any_free (by decide +kernel)
  · cases o <;> exact any_free (by decide +kernel)
  · cases o <;> decide +kernel

theorem route_inj {o other : Operation} (same : route o = route other) : o = other := by
  cases o <;> cases other <;> first | rfl | simp [route] at same

theorem scheme_read {scheme : List Char} (known : scheme ∈ Settings.schemes) :
    (∃ first rest, scheme = first :: rest ∧ isPadding first = false) ∧ scheme.filter (!isLineEnd ·) = scheme ∧
      (∀ c ∈ scheme, endsPath c = false) ∧
      ∀ text, ∃ secure, parseScheme (scheme ++ text) = some (secure,'/' :: '/' :: text) := by
  rcases scheme_cases known with rfl | rfl
  · exact ⟨⟨_,_,rfl,by decide⟩,by decide +kernel,any_free (by decide +kernel),fun text => ⟨false,rfl⟩⟩
  · exact ⟨⟨_,_,rfl,by decide⟩,by decide +kernel,any_free (by decide +kernel),fun text => ⟨true,rfl⟩⟩

theorem ofRequest_parsed {base : String} {request : Request} {post : Post}
    (made : Post.ofRequest base request = .ok post) :
    ∃ a, Address.parse (base ++ route request.ask.operation).toList = some a ∧ post.address = (separate a).1 := by
  cases made_sent made with
  | post parsed _ _ => exact ⟨_,parsed,rfl⟩

theorem parse_routed {base : String} {scheme rest : List Char} (known : scheme ∈ Settings.schemes)
    (split : base.toList = scheme ++ rest) {o : Operation} {a : Address}
    (parsed : Address.parse (base ++ route o).toList = some a) :
    Continues (behindHost ('/' :: '/' :: (rest.filter (!isLineEnd ·) ++ (route o).toList))) a := by
  obtain ⟨⟨first,others,rfl,solid⟩,kept,_,read⟩ := scheme_read known
  have stripped : strip (base ++ route o).toList =
      first :: others ++ (rest.filter (!isLineEnd ·) ++ (route o).toList) := by
    rw [String.toList_append,split,List.cons_append,strip_ending solid _ (route_ending o),← List.cons_append,
      List.filter_append,kept,List.append_assoc]
  obtain ⟨_,text,scheme,continues⟩ := parse_continues parsed
  obtain ⟨secure,found⟩ := read (rest.filter (!isLineEnd ·) ++ (route o).toList)
  rw [stripped,found] at scheme
  cases scheme
  exact continues

theorem separate_continues {text : List Char} {a : Address} (continues : Continues text a) :
    Continues text (separate a).1 := by
  unfold separate
  split
  · exact ⟨continues.path,continues.query⟩
  · exact continues

def Hollow (base : String) : Prop :=
  ∃ scheme ∈ Settings.schemes, ∃ rest, base.toList = scheme ++ rest ∧ ∀ c ∈ rest, isSlash c = true ∨ isLineEnd c = true

section Posts

variable {base : String} {request : Request} {post : Post}

theorem post_routed {scheme rest : List Char} (known : scheme ∈ Settings.schemes) (split : base.toList = scheme ++ rest)
    (made : Post.ofRequest base request = .ok post) :
    Continues (behindHost ('/' :: '/' :: (rest.filter (!isLineEnd ·) ++ (route request.ask.operation).toList)))
      post.address := by
  obtain ⟨a,parsed,address⟩ := ofRequest_parsed made
  rw [address]
  exact separate_continues (parse_routed known split parsed)

end Posts

-- All that a base URL has to do with where posts go is one text, in front of the route.
theorem hosted_front {base : String} {scheme rest : List Char} (known : scheme ∈ Settings.schemes)
    (split : base.toList = scheme ++ rest) (hosted : ¬Hollow base) :
    ∃ front, (∀ mark, endsPath mark = true → (mark ∈ front ↔ mark ∈ base.toList)) ∧
      ∀ request post, Post.ofRequest base request = .ok post →
        Continues (front ++ (route request.ask.operation).toList) post.address := by
  have solid : ∃ c ∈ '/' :: '/' :: rest.filter (!isLineEnd ·), isSlash c = false := by
    by_contra slashes
    refine hosted ⟨scheme,known,rest,split,?_⟩
    intro c member
    by_cases broken : isLineEnd c = true
    · exact .inr broken
    · refine .inl (Bool.of_not_eq_false fun solid => slashes ⟨c,?_,solid⟩)
      have kept : c ∈ rest.filter (!isLineEnd ·) := List.mem_filter.mpr ⟨member,by simp [broken]⟩
      exact List.mem_cons_of_mem _ (List.mem_cons_of_mem _ kept)
  refine ⟨behindHost ('/' :: '/' :: rest.filter (!isLineEnd ·)),?_,?_⟩
  · intro mark ends
    obtain ⟨_,_,unmarked,_⟩ := scheme_read known
    have absent : mark ∉ scheme := by
      intro member
      rw [unmarked mark member] at ends
      cases ends
    rw [behindHost_mark ends,split]
    rcases mark_cases ends with rfl | rfl <;> simp [absent,isLineEnd]
  · intro request post made
    obtain ⟨_,rooted,_⟩ := (route_ending request.ask.operation).segments
    have continues := post_routed known split made
    rwa [← List.cons_append,← List.cons_append,behindHost_append solid (by rw [rooted]; rfl)] at continues

theorem hollow_front {base : String} (hollow : Hollow base) {request : Request} {post : Post}
    (made : Post.ofRequest base request = .ok post) :
    Continues (behindHost (route request.ask.operation).toList) post.address := by
  obtain ⟨scheme,known,rest,split,slashes⟩ := hollow
  have continues := post_routed known split made
  have skipped : ∀ c ∈ '/' :: '/' :: rest.filter (!isLineEnd ·), isSlash c = true := by
    intro c member
    rcases List.mem_cons.mp member with rfl | member
    · rfl
    rcases List.mem_cons.mp member with rfl | member
    · rfl
    obtain ⟨inside,unbroken⟩ := List.mem_filter.mp member
    rcases slashes c inside with slash | broken
    · exact slash
    · rw [broken] at unbroken
      cases unbroken
  rw [← List.cons_append,← List.cons_append,behindHost,List.dropWhile_append_of_pos skipped] at continues
  exact continues

theorem hollow_unmarked {base : String} (hollow : Hollow base) {mark : Char} (ends : endsPath mark = true) :
    mark ∉ base.toList := by
  obtain ⟨scheme,known,rest,split,slashes⟩ := hollow
  obtain ⟨_,_,unmarked,_⟩ := scheme_read known
  intro member
  rw [split] at member
  rcases List.mem_append.mp member with here | there
  · rw [unmarked mark here] at ends
    cases ends
  · have apart := slashes mark there
    rcases mark_cases ends with rfl | rfl <;> exact absurd apart (by decide)

theorem route_unhosted (o : Operation) : (∀ c ∈ behindHost (route o).toList, endsPath c = false) ∧
    "/confidios".toList ++ Address.pathChars (parsePath (behindHost (route o).toList)) = (route o).toList := by
  cases o <;> exact ⟨any_free (by decide +kernel),by decide +kernel⟩

theorem hollow_target {base : String} (hollow : Hollow base) {request : Request} {post : Post}
    (made : Post.ofRequest base request = .ok post) :
    "/confidios".toList ++ post.address.target = (route request.ask.operation).toList := by
  obtain ⟨unmarked,left⟩ := route_unhosted request.ask.operation
  obtain ⟨path,query⟩ := continues_unmarked unmarked (hollow_front hollow made)
  rw [Address.target,path,query,Address.marked,List.append_nil]
  exact left

def Post.path (p : Post) : List Char := p.target.toList.takeWhile (· ≠ '?')

theorem path_continues {text : List Char} {post : Post} (continues : Continues text post.address) :
    post.path = Address.pathChars post.address.path := by
  rw [Post.path,Post.target,String.toList_ofList]
  exact target_path post.address (by rw [continues.path]; exact parsePath_unmarked _)

structure Rooted (base : String) : Prop where
  unasked : '?' ∉ base.toList
  uncited : '#' ∉ base.toList
  hosted : ¬Hollow base

theorem target_chars (p : Post) : p.target.toList = p.address.target := String.toList_ofList

section Accepted

variable {base : String} {scheme rest : List Char} (known : scheme ∈ Settings.schemes)
  (split : base.toList = scheme ++ rest)
include known split

theorem posts_rooted (rooted : Rooted base) {request : Request} {post : Post}
    (made : Post.ofRequest base request = .ok post) : (route request.ask.operation).toList <:+ post.path := by
  obtain ⟨front,marks,continues⟩ := hosted_front known split rooted.hosted
  have unasked : '?' ∉ front := mt (marks '?' rfl).mp rooted.unasked
  have uncited : '#' ∉ front := mt (marks '#' rfl).mp rooted.uncited
  obtain ⟨before,targets⟩ := target_routed (free_unmarked unasked uncited)
  have goes := continues request post made
  rw [path_continues goes,(targets _ _ (route_ending _) goes).1]
  exact List.suffix_append before _

theorem posts_marked {mark : Char} (ends : endsPath mark = true) (marked : mark ∈ base.toList) :
    ∃ path, ∀ request post, Post.ofRequest base request = .ok post → post.path = path := by
  obtain ⟨front,marks,continues⟩ := hosted_front known split fun hollow => hollow_unmarked hollow ends marked
  obtain ⟨path,paths⟩ := path_marked ⟨mark,(marks mark ends).mpr marked,ends⟩
  refine ⟨path,?_⟩
  intro request post made
  have goes := continues request post made
  rw [path_continues goes]
  exact paths _ _ goes

-- Without a number sign a target is made of the route, but for a text in front of either.
theorem posts_uncited (uncited : '#' ∉ base.toList) : ∃ lost before : List Char, ∀ request post,
    Post.ofRequest base request = .ok post →
      lost ++ post.target.toList = before ++ (route request.ask.operation).toList := by
  by_cases hollow : Hollow base
  · refine ⟨"/confidios".toList,[],?_⟩
    intro request post made
    rw [target_chars]
    exact hollow_target hollow made
  · obtain ⟨front,marks,continues⟩ := hosted_front known split hollow
    have free : '#' ∉ front := mt (marks '#' rfl).mp uncited
    by_cases asked : '?' ∈ front
    · obtain ⟨before,targets⟩ := target_asked asked free
      refine ⟨[],before,?_⟩
      intro request post made
      rw [target_chars]
      exact targets _ _ (route_ending _) (continues request post made)
    · obtain ⟨before,targets⟩ := target_routed (free_unmarked asked free)
      refine ⟨[],before,?_⟩
      intro request post made
      rw [target_chars]
      exact (targets _ _ (route_ending _) (continues request post made)).2

theorem posts_cited (cited : '#' ∈ base.toList) :
    ∃ target, ∀ request post, Post.ofRequest base request = .ok post → post.target = target := by
  obtain ⟨front,marks,continues⟩ := hosted_front known split fun hollow => hollow_unmarked hollow rfl cited
  obtain ⟨target,targets⟩ := target_cited ((marks '#' rfl).mpr cited)
  refine ⟨String.ofList target,?_⟩
  intro request post made
  rw [Post.target,targets _ _ (continues request post made)]

end Accepted

-- For every base URL that is accepted. The path of a post ends in the route of its operation if the base URL has
-- a host and no mark; behind a mark, the path does not depend on the operation, and without a host the first
-- segment of the route is the host. Operations can be told by their targets unless there is a number sign.
theorem posts_routed (raw : String) (settings : Settings) (accepted : Settings.ofBaseUrl raw = .ok settings) :
    (Rooted settings.baseUrl → ∀ request post, Post.ofRequest settings.baseUrl request = .ok post →
      (route request.ask.operation).toList <:+ post.path) ∧
    ('?' ∈ settings.baseUrl.toList ∨ '#' ∈ settings.baseUrl.toList → ∃ path, ∀ request post,
      Post.ofRequest settings.baseUrl request = .ok post → post.path = path) ∧
    (Hollow settings.baseUrl → ∀ request post, Post.ofRequest settings.baseUrl request = .ok post →
      "/confidios" ++ post.target = route request.ask.operation) ∧
    ('#' ∉ settings.baseUrl.toList → ∀ request post other another,
      Post.ofRequest settings.baseUrl request = .ok post → Post.ofRequest settings.baseUrl other = .ok another →
      post.target = another.target → request.ask.operation = other.ask.operation) ∧
    ('#' ∈ settings.baseUrl.toList → ∃ target, ∀ request post,
      Post.ofRequest settings.baseUrl request = .ok post → post.target = target) := by
  obtain ⟨scheme,known,rest,split⟩ := ofBaseUrl_scheme accepted
  refine ⟨fun rooted request post made => posts_rooted known split rooted made,?_,?_,?_,posts_cited known split⟩
  · rintro (asked | cited)
    · exact posts_marked known split rfl asked
    · exact posts_marked known split rfl cited
  · intro hollow request post made
    apply String.toList_inj.mp
    rw [String.toList_append,target_chars]
    exact hollow_target hollow made
  · intro uncited request post other another made again same
    obtain ⟨lost,before,targets⟩ := posts_uncited known split uncited
    have one := targets request post made
    rw [same,targets other another again] at one
    exact (route_inj (String.toList_inj.mp (List.append_cancel_left one))).symm

theorem posts_routed_api : ∃ post, Post.ofRequest "http://a/api" ⟨"tok",.logout⟩ = .ok post ∧
    (route .logout).toList <:+ post.path := by
  have accepted : Settings.ofBaseUrl " http://a/api/ " = .ok ⟨"http://a/api",none,none⟩ := by decide +kernel
  have hosted : ¬Hollow "http://a/api" := by
    rintro ⟨scheme,known,rest,split,slashes⟩
    have named : 'a' ∈ scheme ++ rest := split ▸ (by decide +kernel)
    rcases List.mem_append.mp named with here | there
    · have unnamed : ∀ scheme ∈ Settings.schemes, 'a' ∉ scheme := by decide +kernel
      exact unnamed scheme known here
    · exact absurd (slashes 'a' there) (by decide)
  have made : Post.ofRequest "http://a/api" ⟨"tok",.logout⟩ = .ok ⟨.post,⟨false,none,.name ['a'],none,
      ["api","confidios","auths","user","logout"].map String.toList,none,none⟩,["Bearer tok"],none,none⟩ := by decide +kernel
  obtain ⟨rooted,_⟩ := posts_routed _ _ accepted
  exact ⟨_,made,rooted ⟨by decide +kernel,by decide +kernel,hosted⟩ _ _ made⟩

-- What stands behind a number sign is not sent, so all operations post to one target, which has no route.
theorem routes_uprooted :
    (¬∀ raw settings, Settings.ofBaseUrl raw = .ok settings → ∀ request post,
      Post.ofRequest settings.baseUrl request = .ok post → (route request.ask.operation).toList <:+ post.path) ∧
    ¬∀ raw settings, Settings.ofBaseUrl raw = .ok settings → ∀ request post other another,
      Post.ofRequest settings.baseUrl request = .ok post → Post.ofRequest settings.baseUrl other = .ok another →
      post.target = another.target → request.ask.operation = other.ask.operation := by
  have accepted : Settings.ofBaseUrl "http://a#" = .ok ⟨"http://a#",none,none⟩ := by decide +kernel
  have left : Post.ofRequest "http://a#" ⟨"tok",.logout⟩ = .ok ⟨.post,⟨false,none,.name ['a'],none,[[]],none,
      some "/confidios/auths/user/logout".toList⟩,["Bearer tok"],none,none⟩ := by decide +kernel
  have checked : Post.ofRequest "http://a#" ⟨"tok",.adminLogin⟩ = .ok ⟨.post,⟨false,none,.name ['a'],none,[[]],none,
      some "/confidios/auths/login".toList⟩,["Bearer tok"],none,none⟩ := by decide +kernel
  constructor
  · intro rooted
    have ends := rooted _ _ accepted _ _ left
    exact absurd ends (by decide +kernel)
  · intro apart
    have same := apart _ _ accepted _ _ _ _ left checked (by decide +kernel)
    exact absurd same (by decide)

end Http

end AccountLink
