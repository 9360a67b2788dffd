import AccountLink.Proofs.Http.Tokens
import AccountLink.Proofs.Json.Fits
import AccountLink.Proofs.Program.Runs

namespace AccountLink.Program

open AccountLink.Http

def Given.masked (given : Given) : Given :=
  given.map fun option => (option.1,if option.1 = "token" then "" else option.2)

theorem masked_lookup (given : Given) (name : String) :
    given.masked.lookup name = (given.lookup name).map fun value => if name = "token" then "" else value := by
  induction given with
  | nil => rfl
  | cons option rest ih =>
      obtain ⟨other,value⟩ := option
      change List.lookup name ((other,_) :: Given.masked rest) = _
      by_cases same : name = other
      · subst same
        simp
      · simp [List.lookup_cons,beq_false_of_ne same,ih]

theorem lookup_masked {given other : Given} (same : given.masked = other.masked) {name : String} (shown : name ≠ "token") :
    given.lookup name = other.lookup name := by
  have found := congrArg (List.lookup name) same
  rw [masked_lookup,masked_lookup] at found
  simpa [shown] using found

theorem given_masked {given other : Given} (same : given.masked = other.masked) (name : String) :
    (given.lookup name).isNone = (other.lookup name).isNone := by
  have found := congrArg (fun options => (List.lookup name options).isNone) same
  simpa only [masked_lookup,Option.isNone_map] using found

theorem give_masked {names : List String} {given next other : Given} {name value : String}
    (made : give names given name value = .ok next) (same : given.masked = other.masked) :
    ∃ further, give names other name value = .ok further ∧ next.masked = further.masked := by
  unfold give at made ⊢
  rw [given_masked same name] at made
  split at made
  · cases made
    rw [if_pos ‹_›]
    refine ⟨_,rfl,?_⟩
    simp only [Given.masked,List.map_append] at same ⊢
    rw [same]
  · cases made

inductive Reads (names : List String) : Given → List String → Given → List String → Prop where
  | done (given) : Reads names given [] given []
  | other {word} (given words) (other : Word.of word.toList = .plain ∨ Word.of word.toList = .separator) :
      Reads names given (word :: words) given (word :: words)
  | joined {word words name value given next after rest} (option : Word.of word.toList = .long name (some value))
      (made : give names given name value = .ok next) (later : Reads names next words after rest) :
      Reads names given (word :: words) after rest
  | apart {word value words name given next after rest} (option : Word.of word.toList = .long name none)
      (named : name ≠ "help") (plain : Word.of value.toList = .plain)
      (made : give names given name value = .ok next) (later : Reads names next words after rest) :
      Reads names given (word :: value :: words) after rest

theorem made_reads {names : List String} {given after : Given} {words rest : List String}
    (made : readOptions names given words = .ok (after,rest)) : Reads names given words after rest := by
  induction given, words using readOptions.induct names with
  | case1 given =>
      cases made
      exact .done _
  | case2 given word words plain =>
      simp only [readOptions,plain] at made
      cases made
      exact .other _ _ (.inl plain)
  | case3 given word words separator =>
      simp only [readOptions,separator] at made
      cases made
      exact .other _ _ (.inr separator)
  | case5 given word words name value option next gave ih =>
      simp only [readOptions,option,gave] at made
      exact .joined option gave (ih made)
  | case9 given word name option named value words plain next gave ih =>
      simp only [readOptions,option,gave,if_neg named,if_pos plain] at made
      exact .apart option named plain gave (ih made)
  | _ => simp_all [readOptions]

theorem reads_append {names : List String} {given middle : Given} {front : List String}
    (read : Reads names given front middle []) (back : List String) :
    readOptions names given (front ++ back) = readOptions names middle back := by
  generalize ended : [] = rest at read
  induction read with
  | done given => rfl
  | other given words other => cases ended
  | joined option made later ih =>
      rw [List.cons_append,readOptions.eq_def]
      simp only [option,made,ih ended]
  | apart option named plain made later ih =>
      rw [List.cons_append,List.cons_append,readOptions.eq_def]
      simp only [option,if_neg named,if_pos plain,made,ih ended]

theorem reads_masked {names : List String} {given after other : Given} {words rest : List String}
    (read : Reads names given words after rest) (same : given.masked = other.masked) :
    ∃ further, readOptions names other words = .ok (further,rest) ∧ after.masked = further.masked := by
  induction read generalizing other with
  | done given => exact ⟨other,rfl,same⟩
  | other given words none =>
      refine ⟨other,?_,same⟩
      rcases none with plain | separator
      · simp only [readOptions,plain]
      · simp only [readOptions,separator]
  | joined option made later ih =>
      obtain ⟨next,gave,alike⟩ := give_masked made same
      obtain ⟨further,read,masked⟩ := ih alike
      exact ⟨further,by simpa only [readOptions,option,gave] using read,masked⟩
  | apart option named plain made later ih =>
      obtain ⟨next,gave,alike⟩ := give_masked made same
      obtain ⟨further,read,masked⟩ := ih alike
      exact ⟨further,by simpa only [readOptions,option,if_neg named,if_pos plain,gave] using read,masked⟩

def programOptions : List String := ["base-url","token","email"]

inductive Spelled (token : String) : List String → Prop where
  | apart : Spelled token ["--token",token]
  | joined : Spelled token ["--token=" ++ token]

-- Words that differ in a token that is given as an option of the program, at most.
inductive Retold : List String → List String → Prop where
  | same (words) : Retold words words
  | option {front given one two} {token other : String} (options : readOptions programOptions [] front = .ok (given,[]))
      (spelled : Spelled token one) (again : Spelled other two) (back : List String) :
      Retold (front ++ (one ++ back)) (front ++ (two ++ back))

theorem spelled_given {token : String} {words : List String} (spelled : Spelled token words) {names : List String}
    {given after : Given} {back rest : List String} (read : readOptions names given (words ++ back) = .ok (after,rest)) :
    ∃ next, give names given "token" token = .ok next ∧ readOptions names next back = .ok (after,rest) := by
  cases spelled with
  | apart =>
      have option : Word.of "--token".toList = .long "token" none := by decide +kernel
      simp only [List.cons_append,List.nil_append,readOptions,option] at read
      split at read
      · cases read
      · split at read
        · cases gave : give names given "token" token with
          | error stop => rw [gave] at read; cases read
          | ok next => rw [gave] at read; exact ⟨next,rfl,read⟩
        · cases read
  | joined =>
      have option : Word.of ("--token=" ++ token).toList = .long "token" (some token) := by
        have spelt : ("--token=" ++ token).toList = "--token=".toList ++ token.toList := String.toList_append
        rw [spelt]
        change Word.long (String.ofList "token".toList) (some (String.ofList token.toList)) = _
        rw [String.ofList_toList,String.ofList_toList]
      simp only [List.cons_append,List.nil_append,readOptions,option] at read
      cases gave : give names given "token" token with
      | error stop => rw [gave] at read; cases read
      | ok next => rw [gave] at read; exact ⟨next,rfl,read⟩

theorem give_token {names : List String} {given next further : Given} {token other : String}
    (gave : give names given "token" token = .ok next) (again : give names given "token" other = .ok further) :
    next.masked = further.masked := by
  unfold give at gave again
  split at gave
  · rw [if_pos ‹_›] at again
    cases gave
    cases again
    simp [Given.masked]
  · cases gave

theorem retold_masked {words others : List String} (retold : Retold words others) {given further : Given}
    {rest left : List String} (read : readOptions programOptions [] words = .ok (given,rest))
    (again : readOptions programOptions [] others = .ok (further,left)) : given.masked = further.masked ∧ rest = left := by
  cases retold with
  | same words =>
      rw [read] at again
      cases again
      exact ⟨rfl,rfl⟩
  | option options spelled respelled back =>
      rw [reads_append (made_reads options)] at read again
      obtain ⟨next,gave,read⟩ := spelled_given spelled read
      obtain ⟨nextToo,gaveToo,again⟩ := spelled_given respelled again
      obtain ⟨last,ended,alike⟩ := reads_masked (made_reads read) (give_token gave gaveToo)
      rw [ended] at again
      cases again
      exact ⟨alike,rfl⟩

def CommandLine.masked (line : CommandLine) : CommandLine := {line with caller := line.caller.masked}

theorem read_parts {env : Environment} {words : List String} {line : CommandLine}
    (read : CommandLine.read env words = .ok line) :
    ∃ given command rest email, readOptions programOptions [] words = .ok (given,command :: rest) ∧
      readCall command rest = .ok line.call ∧ line.baseUrl = given.lookup "base-url" ∧
      optionOrVariable given "token" (env tokenVariable) = .ok (some line.caller.token) ∧
      optionOrVariable given "email" (env emailVariable) = .ok email ∧ line.caller.email = email.getD "" := by
  unfold CommandLine.read at read
  obtain ⟨⟨given,left⟩,options,read⟩ := Json.bind_ok.mp read
  split at read
  · cases read
  · cases read
  · next given command rest _ parts =>
      cases parts
      obtain ⟨call,called,read⟩ := Json.bind_ok.mp read
      obtain ⟨token?,found,read⟩ := Json.bind_ok.mp read
      cases token? with
      | none => cases read
      | some token =>
          obtain ⟨email,addressed,read⟩ := Json.bind_ok.mp read
          cases read
          exact ⟨_,_,_,email,options,called,rfl,found,addressed,rfl⟩

theorem lines_masked {env other : Environment} {words others : List String} {one two : CommandLine}
    (retold : Retold words others) (email : env emailVariable = other emailVariable)
    (accepted : CommandLine.read env words = .ok one) (again : CommandLine.read other others = .ok two) :
    one.masked = two.masked := by
  obtain ⟨given,command,rest,address,read,called,based,_,addressed,said⟩ := read_parts accepted
  obtain ⟨further,_,_,addressToo,readToo,calledToo,basedToo,_,addressedToo,saidToo⟩ := read_parts again
  obtain ⟨same,left⟩ := retold_masked retold read readToo
  cases left
  have call : one.call = two.call := Except.ok.inj (called.symm.trans calledToo)
  have base : one.baseUrl = two.baseUrl := by rw [based,basedToo,lookup_masked same (by decide)]
  unfold optionOrVariable at addressed addressedToo
  rw [lookup_masked same (by decide),email] at addressed
  have addresses : address = addressToo := Except.ok.inj (addressed.symm.trans addressedToo)
  simp only [CommandLine.masked,Caller.masked,call,base,said,saidToo,addresses]

def Run.masked (r : Run) : Run := {r with arrived := r.arrived.map Post.masked}

theorem masked_parts {r other : Run} (same : r.masked = other.masked) :
    r.exitCode = other.exitCode ∧ r.output = other.output ∧
      r.arrived.map Post.masked = other.arrived.map Post.masked := by
  obtain ⟨code,items,arrived⟩ := r
  obtain ⟨_,_,reached⟩ := other
  simp only [Run.masked,Run.mk.injEq] at same
  obtain ⟨rfl,rfl,posts⟩ := same
  exact ⟨rfl,rfl,posts⟩

theorem ofAttempt_masked (made : Attempt) : (Run.ofAttempt made).masked = .ofAttempt made.masked := by
  simp only [Run.ofAttempt,Attempt.masked]
  cases failureOf made.completion.result <;> rfl

section Runs

variable {env other : Environment} {one two : CommandLine}

theorem settings_masked (same : one.masked = two.masked) (alike : ∀ name, name ≠ tokenVariable → env name = other name) :
    settings env one = settings other two := by
  have base : one.baseUrl = two.baseUrl := congrArg (·.baseUrl) same
  have url := alike Settings.baseUrlVariable (by decide)
  have request := alike Settings.requestVariable (by decide)
  have connect := alike Settings.connectVariable (by decide)
  simp only [settings,Settings.ofEnvironment,base,url,request,connect]

theorem lacksEmail_masked (line : CommandLine) : lacksEmail line.masked = lacksEmail line := rfl

theorem ofCommandLine_masked {network elsewhere : Network} (same : one.masked = two.masked)
    (alike : ∀ name, name ≠ tokenVariable → env name = other name)
    (carried : ¬Uncarried one.caller.token) (carriedToo : ¬Uncarried two.caller.token)
    (deaf : Deaf one.caller.token two.caller.token network elsewhere) :
    (Run.ofCommandLine env one network).masked = (Run.ofCommandLine other two elsewhere).masked := by
  have caller : one.caller.masked = two.caller.masked := congrArg (·.caller) same
  have call : one.call = two.call := congrArg (·.call) same
  have lacks : lacksEmail one = lacksEmail two := by rw [← lacksEmail_masked one,same,lacksEmail_masked two]
  unfold Run.ofCommandLine
  rw [settings_masked same alike]
  cases settings other two with
  | error e => rfl
  | ok s =>
      simp only [Run.ofSettings,lacks]
      split
      · rfl
      · rw [ofAttempt_masked,ofAttempt_masked,call,attempt_masked s.baseUrl two.call caller carried carriedToo deaf]

end Runs

end AccountLink.Program

namespace AccountLink

open AccountLink.Http AccountLink.Program

-- Tokens are nowhere to be seen but in what a scripted backend is asked, and, over HTTP, in the authorization
-- header. Over HTTP this is of tokens that can be sent, before backends to which one is as good as the other.
theorem tokens_unseen :
    (∀ (s : Session) (one two : List Step), one.map Step.masked = two.map Step.masked →
      (s.run one).map (List.map (Prod.map Report.masked id)) = (s.run two).map (List.map (Prod.map Report.masked id))) ∧
    (∀ (s : Session) (base : String) (one two : List LinkStep), List.Forall₂ LinkStep.Alike one two →
      (s.runOver base one).map (List.map (Prod.map Passage.masked id)) =
        (s.runOver base two).map (List.map (Prod.map Passage.masked id))) ∧
    (∀ (env other : Environment) (words others : List String) (one two : CommandLine) (network elsewhere : Network),
      (∀ name, name ≠ tokenVariable → env name = other name) →
      CommandLine.read env words = .ok one → CommandLine.read other others = .ok two →
      (Retold words others → one.masked = two.masked) ∧
      (one.masked = two.masked → ¬Uncarried one.caller.token → ¬Uncarried two.caller.token →
        Deaf one.caller.token two.caller.token network elsewhere →
        (run env words network).exitCode = (run other others elsewhere).exitCode ∧
        (run env words network).output = (run other others elsewhere).output ∧
        (run env words network).arrived.map Post.masked = (run other others elsewhere).arrived.map Post.masked)) ∧
    (∀ one two : Post, one.masked = two.masked →
      one.method = two.method ∧ one.address = two.address ∧ one.target = two.target ∧ one.referer = two.referer ∧
        one.contentType = two.contentType ∧ one.body = two.body) ∧
    ∀ one two : Caller, one.masked = two.masked → one.describe = two.describe ∧ one.describeLines = two.describeLines := by
  refine ⟨fun s one two same => ?_,fun s base one two alike => s.runOver_masked base alike,
    fun env other words others one two network elsewhere alike accepted again => ⟨fun retold => ?_,?_⟩,
    fun one two same => ?_,fun one two same => ?_⟩
  · rw [s.run_masked one,same,← s.run_masked two]
  · exact lines_masked retold (alike _ (by decide)) accepted again
  · intro same carried carriedToo deaf
    have runs := ofCommandLine_masked same alike carried carriedToo deaf
    simp only [run,accepted,again]
    exact masked_parts runs
  · obtain ⟨method,address,_,referer,body⟩ := one
    obtain ⟨_,_,_,_,_⟩ := two
    simp only [Post.masked,Post.mk.injEq] at same
    obtain ⟨rfl,rfl,_,rfl,rfl⟩ := same
    exact ⟨rfl,rfl,rfl,rfl,rfl,rfl⟩
  · obtain ⟨_,email⟩ := one
    cases same
    exact ⟨rfl,rfl⟩

def leavingToo : List String := ["--base-url","http://a","--token=other","logout"]

theorem leaving_retold : Retold leaving leavingToo :=
  @Retold.option ["--base-url","http://a"] [("base-url","http://a")] _ _ "tok" "other" (by decide +kernel) .apart .joined
    ["logout"]

def leftToo : CommandLine := ⟨some "http://a",⟨"other",""⟩,.logout⟩

theorem leavingToo_accepted : CommandLine.read (only .unset) leavingToo = .ok leftToo := by
  have email : only .unset emailVariable = .unset := by rfl
  have token : only .unset tokenVariable = .unset := by rfl
  simp only [CommandLine.read,email,token]
  decide +kernel

def farewell (token : String) : List Step :=
  [.subscribe "main" "x",.overlap [("main",⟨⟨token,"a@b"⟩,.logout (.ok ⟨none⟩)⟩)] [0],.observe "x"]

theorem exchanges_deaf (exchanges : List Exchange) (token other : String) :
    Deaf token other (.ofExchanges exchanges) (.ofExchanges exchanges) :=
  ⟨fun _ _ _ _ behind _ => congrArg (exchanges.getD · .unanswered) behind.length_eq,rfl⟩

theorem tokens_unseen_leaving :
    (run (only .unset) leaving roundabout).output = (run (only .unset) leavingToo roundabout).output ∧
    ((Session.start .log).run (farewell "tok")).map (List.map (Prod.map Report.masked id)) =
      ((Session.start .log).run (farewell "other")).map (List.map (Prod.map Report.masked id)) := by
  obtain ⟨scripted,_,program,_⟩ := tokens_unseen
  obtain ⟨retold,runs⟩ := program (only .unset) (only .unset) leaving leavingToo _ _ roundabout roundabout (fun _ _ => rfl)
    (leaving_accepted .unset) leavingToo_accepted
  have carried : ¬Uncarried "tok" := mt (uncarried_exact _).mpr (by decide +kernel)
  have carriedToo : ¬Uncarried "other" := mt (uncarried_exact _).mpr (by decide +kernel)
  exact ⟨(runs (retold leaving_retold) carried carriedToo (exchanges_deaf _ _ _)).2.1,scripted _ _ _ rfl⟩

end AccountLink
