import AccountLink.Proofs.Session.Notices

namespace AccountLink

namespace Session

-- The session as it is when nobody listens. Sessions that are the same when
-- muted have the same cells, bindings and watches.
def muted (s : Session) : Session := {s with outlet := .nobody}

def sight (seen : Session × Report) : Answer × List Request × Session := (seen.2.answer,seen.2.asked,seen.1.muted)

theorem applyEffects_muted (s : Session) (on : String) (effects : List Effect) :
    (applyEffects on s effects).map (·.1.muted) = (applyEffects on s.muted effects).map (·.1.muted) := by
  induction effects generalizing s with
  | nil => rfl
  | cons effect rest ih =>
      have first (s : Session) : (applyEffects on s (effect :: rest)).map (·.1.muted) =
          (s.applyEffect on effect).bind fun next => (applyEffects on next.1 rest).map (·.1.muted) := by
        simp only [applyEffects,Option.bind_eq_bind,Option.map_bind,Function.comp_def]
        congr 1
        funext next
        cases applyEffects on next.1 rest <;> rfl
      rw [first,first]
      cases effect with
      | log event => exact ih s
      | notify notice => exact ih s
      | write edit =>
          simp only [applyEffect,Option.bind_eq_bind,Option.bind_assoc,Option.bind_some]
          change _ = (s.accounts.write on edit.apply).bind _
          congr 1
          funext accounts
          exact ih {s with accounts := accounts}

theorem call_muted (s : Session) (on : String) (started : Started) :
    (s.step (.call on started)).map sight = (s.muted.step (.call on started)).map sight := by
  have shown (s : Session) : (s.step (.call on started)).map sight = ((s.complete on started.completion).map (·.1.muted)).map
      fun after => (.result started.completion.result,[started.request],after) := by
    simp only [step,Option.bind_eq_bind,Option.map_bind,Option.map_map]
    cases s.complete on started.completion <;> rfl
  rw [shown,shown,complete,applyEffects_muted]
  rfl

theorem mark_muted (s : Session) (watch : String) : s.muted.mark watch = (s.mark watch).map muted := by
  have same : s.muted.accounts = s.accounts := rfl
  unfold mark
  rw [same]
  cases s.accounts.mark watch with
  | some accounts => rfl
  | none => simp only [Option.map_map]; rfl

end Session

namespace Flight

def muted (f : Flight) : Flight := {f with session := f.session.muted,trace := .none}

theorem move_muted (f : Flight) (m : Move) : (f.move m).map muted = (f.muted.move m).map muted := by
  have same (number : Nat) : f.muted.waiting? number = f.waiting? number := rfl
  cases m with
  | start call => rfl
  | cancel number =>
      simp only [move,Option.bind_eq_bind,Option.map_bind,same]
      rfl
  | complete number =>
      simp only [move,Option.bind_eq_bind,Option.map_bind,same]
      congr 1
      funext waiting
      obtain ⟨on,started⟩ := waiting
      have quiet := f.session.applyEffects_muted on started.completion.effects
      change (f.session.complete on started.completion).map _ = (f.muted.session.complete on started.completion).map _ at quiet
      simp only [Function.comp_def,Option.map_bind]
      cases one : f.session.complete on started.completion with
      | none =>
          rw [one] at quiet
          rw [Option.map_eq_none_iff.mp quiet.symm]
          rfl
      | some next =>
          rw [one] at quiet
          obtain ⟨other,two,after⟩ := Option.map_eq_some_iff.mp quiet.symm
          rw [two]
          have after : other.1.muted = next.1.muted := after
          have accounts := congrArg Session.accounts after
          change other.1.accounts = next.1.accounts at accounts
          simp only [Option.bind_some,accounts]
          cases next.1.accounts.snapshot? on with
          | none => rfl
          | some account => simp [muted,reach,after]

theorem run_muted (f : Flight) (moves : List Move) :
    (Flight.run f moves).map muted = (Flight.run f.muted moves).map muted := by
  induction moves generalizing f with
  | nil => rfl
  | cons m rest ih =>
      have first (f : Flight) : (Flight.run f (m :: rest)).map muted =
          ((f.move m).map muted).bind fun next => (Flight.run next rest).map muted := by
        simp only [Flight.run,Option.bind_eq_bind,Option.map_bind,Option.bind_map]
        congr 1
        funext next
        exact ih next
      rw [first,first,move_muted]

inductive Turn where
  | move (m : Move)
  | close

def Turn.move? : Turn → Option Move
  | .move m => some m
  | .close => none

def turn (f : Flight) : Turn → Option Flight
  | .move m => f.move m
  | .close => some {f with session := {f.session with outlet := f.session.outlet.close}}

def turns : Flight → List Turn → Option Flight
  | f,[] => some f
  | f,first :: rest => do
    let f ← f.turn first
    turns f rest

theorem turns_muted (f : Flight) (all : List Turn) :
    (turns f all).map muted = (Flight.run f.muted (all.filterMap Turn.move?)).map muted := by
  induction all generalizing f with
  | nil => rfl
  | cons first rest ih =>
      cases first with
      | close => exact ih {f with session := {f.session with outlet := f.session.outlet.close}}
      | move m =>
          have rest_muted (next : Flight) : (turns next rest).map muted =
              (Flight.run next (rest.filterMap Turn.move?)).map muted := by rw [ih,← run_muted]
          rw [← run_muted]
          simp only [turns,turn,List.filterMap_cons_some (show Turn.move? (.move m) = some m from rfl),Flight.run,
            Option.bind_eq_bind,Option.map_bind,Function.comp_def,rest_muted]

end Flight

namespace Session

theorem overlap_muted (s : Session) (calls : List (String × Started)) (order : List Nat) :
    (s.step (.overlap calls order)).map sight = (s.muted.step (.overlap calls order)).map sight := by
  have shown (s : Session) : (s.step (.overlap calls order)).map sight =
      ((Flight.run (.idle s) (Flight.schedule calls order)).map Flight.muted).map
        fun f => (.completions f.completions,f.asked,f.session) := by
    simp only [step,Option.bind_eq_bind,Option.map_bind,Option.map_map]
    cases Flight.run (.idle s) (Flight.schedule calls order) <;> rfl
  rw [shown,shown,Flight.run_muted]
  rfl

theorem step_muted (s : Session) (st : Step) : (s.step st).map sight = (s.muted.step st).map sight := by
  cases st with
  | call on started => exact s.call_muted on started
  | overlap calls order => exact s.overlap_muted calls order
  | observe watch =>
      simp only [step,mark_muted,Option.bind_eq_bind,Option.map_bind,Option.bind_map,Function.comp_def]
      rfl
  | unsubscribe watch => rfl
  | closeNotices => rfl
  | drop on => rfl
  | withAccount on accountOf name =>
      cases accountOf <;> simp only [step,Option.bind_eq_bind,Option.map_bind,Function.comp_def] <;> rfl
  | edit | reset | setSpec | isLoggedIn | subscribe | subscribeSpec | peek | clone =>
      simp only [step,Option.bind_eq_bind,Option.map_bind,Function.comp_def]
      rfl

end Session

def Step.closes : Step → Bool
  | .closeNotices => true
  | _ => false

namespace Session

def shown (s : Session) (steps : List Step) : Option (List (Answer × List Request × Session)) :=
  (s.run steps).map fun trail => (steps.zip trail).filterMap fun (st,report,next) =>
    if st.closes then none else some (sight (next,report))

theorem shown_closes (s : Session) (rest : List Step) :
    s.shown (.closeNotices :: rest) = shown {s with outlet := s.outlet.close} rest := by
  simp only [shown,run,step,quiet,Option.bind_eq_bind,Option.bind_some]
  cases run {s with outlet := s.outlet.close} rest <;> rfl

theorem shown_cons (s : Session) (st : Step) (rest : List Step) (open_ : st.closes = false) :
    s.shown (st :: rest) = (s.step st).bind fun next => (shown next.1 rest).map (sight next :: ·) := by
  simp only [shown,run,Option.bind_eq_bind,Option.map_bind,Function.comp_def]
  congr 1
  funext next
  cases run next.1 rest <;> simp [open_]

theorem shown_muted (s : Session) (steps : List Step) : s.shown steps = s.muted.shown steps := by
  induction steps generalizing s with
  | nil => rfl
  | cons st rest ih =>
      cases closes : st.closes with
      | true =>
          obtain rfl : st = .closeNotices := by cases st <;> first | rfl | cases closes
          rw [shown_closes,shown_closes,ih]
          rfl
      | false =>
          have first (s : Session) : s.shown (st :: rest) =
              ((s.step st).map sight).bind fun seen => (shown seen.2.2 rest).map (seen :: ·) := by
            rw [shown_cons s st rest closes,Option.bind_map]
            congr 1
            funext next
            rw [ih next.1]
            rfl
          rw [first,first,step_muted]

theorem shown_step (s : Session) (st : Step) (rest : List Step) (open_ : st.closes = false) : s.shown (st :: rest) =
    ((s.step st).map sight).bind fun seen => (shown seen.2.2 rest).map (seen :: ·) := by
  rw [shown_cons s st rest open_,Option.bind_map]
  congr 1
  funext next
  rw [shown_muted next.1]
  rfl

theorem shown_open (s : Session) (steps : List Step) : s.shown steps = s.shown (steps.filter fun st => !st.closes) := by
  induction steps generalizing s with
  | nil => rfl
  | cons st rest ih =>
      cases closes : st.closes with
      | true =>
          obtain rfl : st = .closeNotices := by cases st <;> first | rfl | cases closes
          rw [shown_closes,ih,shown_muted,List.filter_cons_of_neg (by simp [closes]),shown_muted s]
          rfl
      | false =>
          rw [shown_step s st rest closes,List.filter_cons_of_pos (by simp [closes]),shown_step s st _ closes]
          simp only [← ih]

end Session

open Session Flight

-- As long as someone listens, the notices delivered are those of the calls that
-- completed, each as its call announces. Whether someone listens, stops
-- listening at any point, or has the notices written into the log, the answers,
-- the requests and the cells are the same.
theorem calls_notify (s : Session) (reached : s.Reached) :
    (s.outlet = .listener →
      (∀ calls : List (String × Started), (∀ call ∈ calls, (s.accounts.snapshot? call.1).isSome) →
        ∃ trail, s.run (calls.map fun call => .call call.1 call.2) = some trail ∧
          Completion.Told (calls.map fun call => call.2.completion) (traced trail).notices) ∧
      ∀ moves, Timely 0 [] moves → Present s (moves.filterMap Move.starts?) →
        ∃ landed, ∃ done : List (Nat × String × Started), Flight.run (.idle s) moves = some landed ∧
          done.map (·.1) = moves.filterMap Move.completes? ∧
          (∀ call ∈ done, (moves.filterMap Move.starts?)[call.1]? = some call.2) ∧
          Completion.Told (done.map fun call => call.2.2.completion) landed.trace.notices) ∧
    (∀ (c : Completion) notice, c.Announces notice → notice.isSome = c.call.operation.words.isSome ∧
      ∀ n, notice = some n → (n.tone = .success ↔ c.result.succeeded = true) ∧ n.message ≠ "") ∧
    ∀ t : Session, t.muted = s.muted →
      (∀ one two : List Step, (one.filter fun st => !st.closes) = (two.filter fun st => !st.closes) →
        s.shown one = t.shown two) ∧
      ∀ one two : List Turn, one.filterMap Turn.move? = two.filterMap Turn.move? →
        (turns (.idle s) one).map Flight.muted = (turns (.idle t) two).map Flight.muted := by
  have sound := s.reached_sound reached
  refine ⟨fun listening => ⟨fun calls there => ?_,fun moves timely there => ?_⟩,fun c notice announces => ?_,
    fun t same => ⟨fun one two open_ => ?_,fun one two moves => ?_⟩⟩
  · obtain ⟨trail,ran,_⟩ := s.run_woken calls sound there
    exact ⟨trail,ran,s.run_told calls trail listening ran⟩
  · obtain ⟨landed,flown⟩ := timely_run (.idle s) moves [] timely (idle_open s) there
    obtain ⟨done,numbers,known,told⟩ := Flight.run_told s moves landed listening flown
    exact ⟨landed,done,flown,numbers,known,told⟩
  · exact ⟨announces.some_iff,fun n told => ⟨announces.tone n told,announces.message n told⟩⟩
  · rw [shown_open s,shown_open t,shown_muted s,shown_muted t,open_,same]
  · rw [turns_muted,turns_muted,moves,show (Flight.idle s).muted = (Flight.idle t).muted by simp [Flight.muted,idle,same]]

def greeted : Started := ⟨⟨"tok","bob@example.com"⟩,.login (.ok ⟨some "",some "bob",none⟩)⟩

def stuck : Started := ⟨⟨"tok","bob@example.com"⟩,.logout (.error (.request "down"))⟩

theorem start_reached (outlet : Outlet) : (Session.start outlet).Reached := .start

-- The two under way together. The logout completes first, and after it, if they are interrupted, nobody listens any more.
def parting : List Turn := [.move (.start ("main",greeted)),.move (.start ("main",stuck)),.move (.complete 1),
  .move (.complete 0)]

def interrupted : List Turn := [.move (.start ("main",greeted)),.move (.start ("main",stuck)),.move (.complete 1),.close,
  .move (.complete 0)]

theorem parting_timely : Timely 0 [] (parting.filterMap Turn.move?) :=
  .start (.start (.ends rfl (by decide) (by decide) (.ends rfl (by decide) (by decide) .nil)))

theorem calls_notify_greeted :
    (∃ trail, (Session.start .listener).run [.call "main" greeted,.call "main" stuck] = some trail ∧
      Completion.Told [greeted.completion,stuck.completion] (traced trail).notices) ∧
    (∃ landed, Flight.run (.idle (.start .listener)) (parting.filterMap Turn.move?) = some landed ∧
      Completion.Told [stuck.completion,greeted.completion] landed.trace.notices) ∧
    (Session.start .listener).shown [.call "main" greeted,.closeNotices,.call "main" stuck] =
      (Session.start .log).shown [.call "main" greeted,.call "main" stuck] ∧
    (turns (.idle (.start .listener)) interrupted).map Flight.muted =
      (turns (.idle (.start .log)) parting).map Flight.muted := by
  obtain ⟨delivered,_,others⟩ := calls_notify _ (start_reached .listener)
  obtain ⟨alone,together⟩ := delivered rfl
  have there : ∀ call ∈ [("main",greeted),("main",stuck)],
      ((Session.start .listener).accounts.snapshot? call.1).isSome := by
    intro call member
    have main : call.1 = "main" := by
      rcases List.mem_pair.mp member with rfl | rfl <;> rfl
    rw [main]
    decide +kernel
  refine ⟨alone [("main",greeted),("main",stuck)] there,?_,(others (Session.start .log) rfl).1 _ _ rfl,
    (others (Session.start .log) rfl).2 _ _ rfl⟩
  obtain ⟨landed,done,flown,numbers,known,told⟩ := together _ parting_timely there
  obtain ⟨one,two,rfl⟩ : ∃ one two, done = [(1,one),(0,two)] := by
    match done,numbers with
    | [(_,one),(_,two)],numbers =>
        cases numbers
        exact ⟨one,two,rfl⟩
  cases known (1,one) (by simp)
  cases known (0,two) (by simp)
  exact ⟨landed,flown,told⟩

end AccountLink
