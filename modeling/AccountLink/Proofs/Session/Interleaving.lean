import AccountLink.Proofs.Session.Calls

namespace AccountLink

namespace Move

def starts? : Move → Option (String × Started)
  | .start call => some call
  | _ => none

def completes? : Move → Option Nat
  | .complete number => some number
  | _ => none

def ends? : Move → Option Nat
  | .start _ => none
  | .complete number => some number
  | .cancel number => some number

end Move

namespace Flight

def started (f : Flight) : List (String × Started) := f.tasks.map Task.call

def launch (f : Flight) (call : String × Started) : Flight :=
  {f with tasks := f.tasks ++ [⟨call,.waiting⟩],asked := f.asked ++ [call.2.request]}

def finish (f : Flight) (number : Nat) (result : Result) (later : Session) (trace : Trace) (account : Account) :
    Flight :=
  {f.reach number .completed with
    session := later
    trace := f.trace.append trace
    completions := f.completions ++ [(number,result,account)]}

-- A move told apart from the code that makes it. What a call does when it
-- completes is what it does with no other call under way.
inductive Moves (f : Flight) : Move → Flight → Prop where
  | start {call} : Moves f (.start call) (f.launch call)
  | complete {number on started later report result account} (waiting : f.waiting? number = some (on,started))
      (alone : f.session.step (.call on started) = some (later,report)) (answer : report.answer = .result result)
      (left : later.accounts.snapshot? on = some account) :
      Moves f (.complete number) (f.finish number result later report.trace account)
  | cancel {number call} (waiting : f.waiting? number = some call) : Moves f (.cancel number) (f.reach number .cancelled)

theorem move_exact (f next : Flight) (m : Move) : f.move m = some next ↔ Moves f m next := by
  constructor
  · intro moved
    cases m with
    | start call =>
        cases moved
        exact .start
    | complete number =>
        simp only [move,Option.bind_eq_bind,Option.bind_eq_some_iff,Prod.exists,Option.some.injEq] at moved
        obtain ⟨on,started,waiting,later,trace,completed,account,left,rfl⟩ := moved
        have alone : f.session.step (.call on started) =
            some (later,⟨.result started.completion.result,[started.request],trace⟩) := by
          simp [Session.step,completed]
        exact .complete waiting alone rfl left
    | cancel number =>
        simp only [move,Option.bind_eq_bind,Option.bind_eq_some_iff,Option.some.injEq] at moved
        obtain ⟨call,waiting,rfl⟩ := moved
        exact .cancel waiting
  · intro moves
    cases moves with
    | start => rfl
    | complete waiting alone answer left =>
        simp only [Session.step,Option.bind_eq_bind,Option.bind_eq_some_iff,Prod.exists,Option.some.injEq,
          Prod.mk.injEq] at alone
        obtain ⟨_,trace,completed,rfl,rfl⟩ := alone
        cases answer
        simp [move,finish,waiting,completed,left]
    | cancel waiting => simp [move,waiting]

@[simp] theorem launch_started (f : Flight) (call : String × Started) :
    (f.launch call).started = f.started ++ [call] := by
  simp [Flight.started,launch]

@[simp] theorem reach_started (f : Flight) (number : Nat) (stage : Stage) : (f.reach number stage).started = f.started := by
  unfold started reach
  refine List.ext_getElem? fun n => ?_
  simp only [List.getElem?_map,List.getElem?_modify]
  by_cases same : number = n <;> cases f.tasks[n]? <;> simp [same]

@[simp] theorem finish_started (f : Flight) (number : Nat) (result : Result) (later : Session) (trace : Trace)
    (account : Account) : (f.finish number result later trace account).started = f.started :=
  f.reach_started number .completed

theorem waiting_task (f : Flight) (number : Nat) (call : String × Started) :
    f.waiting? number = some call ↔ f.tasks[number]? = some ⟨call,.waiting⟩ := by
  unfold waiting?
  rcases f.tasks[number]? with _ | ⟨other,stage⟩
  · simp
  · cases stage <;> simp

theorem waiting_started (f : Flight) (number : Nat) (call : String × Started) (waiting : f.waiting? number = some call) :
    f.started[number]? = some call := by
  simp [Flight.started,(waiting_task f number call).mp waiting]

-- What a flight says of a call that completed, and what a run of single calls
-- reports of it. The account is that of the state that the call is on.
def Told (calls : List (String × Started)) (entry : Nat × Result × Account) (seen : Report × Session) : Prop :=
  seen.1.answer = .result entry.2.1 ∧
    ∃ call, calls[entry.1]? = some call ∧ seen.2.accounts.snapshot? call.1 = some entry.2.2

theorem Told.append {calls : List (String × Started)} {entry : Nat × Result × Account} {seen : Report × Session}
    (told : Told calls entry seen) (more : List (String × Started)) : Told (calls ++ more) entry seen := by
  obtain ⟨answer,call,known,left⟩ := told
  obtain ⟨inside,_⟩ := List.getElem?_eq_some_iff.mp known
  exact ⟨answer,call,by rwa [List.getElem?_append_left inside],left⟩

-- A flight that set out from a session, and a run from there of calls one after
-- another. The calls of the run are those that completed, by their numbers in
-- the flight; of the others it has nothing.
structure Sequel (s : Session) (f : Flight) (done : List (Nat × String × Started))
    (trail : List (Report × Session)) : Prop where
  ran : s.run (done.map fun call => .call call.2.1 call.2.2) = some trail
  session : f.session = s.last trail
  trace : f.trace = Session.traced trail
  asked : f.asked = f.started.map fun call => call.2.request
  numbers : f.completions.map (·.1) = done.map (·.1)
  told : List.Forall₂ (Told f.started) f.completions trail
  known : ∀ call ∈ done, f.started[call.1]? = some call.2

namespace Sequel

theorem idle (s : Session) : Sequel s (.idle s) [] [] where
  ran := rfl
  session := rfl
  trace := rfl
  asked := rfl
  numbers := rfl
  told := .nil
  known := by simp

variable {s : Session} {f : Flight} {done : List (Nat × String × Started)} {trail : List (Report × Session)}

theorem launch (sequel : Sequel s f done trail) (call : String × Started) : Sequel s (f.launch call) done trail where
  ran := sequel.ran
  session := sequel.session
  trace := sequel.trace
  asked := by rw [launch_started,List.map_append,← sequel.asked]; rfl
  numbers := sequel.numbers
  told := by
    rw [launch_started]
    exact sequel.told.imp fun entry seen told => told.append [call]
  known other member := by
    have known := sequel.known other member
    obtain ⟨inside,_⟩ := List.getElem?_eq_some_iff.mp known
    rw [launch_started,List.getElem?_append_left inside,known]

theorem finish (sequel : Sequel s f done trail) (number : Nat) (on : String) (started : Started) (later : Session)
    (report : Report) (result : Result) (account : Account) (waiting : f.waiting? number = some (on,started))
    (alone : f.session.step (.call on started) = some (later,report)) (answer : report.answer = .result result)
    (left : later.accounts.snapshot? on = some account) :
    Sequel s (f.finish number result later report.trace account) (done ++ [(number,on,started)])
      (trail ++ [(report,later)]) where
  ran := by
    rw [sequel.session] at alone
    rw [List.map_append]
    exact s.run_snoc later _ _ trail report sequel.ran alone
  session := (s.last_snoc later trail report).symm
  trace := by simp [Flight.finish,sequel.trace,Session.traced,Trace.append]
  asked := by rw [finish_started,← sequel.asked]; rfl
  numbers := by simp [Flight.finish,sequel.numbers]
  told := by
    have known := waiting_started f number (on,started) waiting
    rw [finish_started]
    exact List.rel_append sequel.told (.cons ⟨answer,_,known,left⟩ .nil)
  known call member := by
    rw [finish_started]
    rcases List.mem_append.mp member with old | new
    · exact sequel.known call old
    · rw [List.mem_singleton.mp new]
      exact waiting_started f number (on,started) waiting

theorem cancel (sequel : Sequel s f done trail) (number : Nat) : Sequel s (f.reach number .cancelled) done trail where
  ran := sequel.ran
  session := sequel.session
  trace := sequel.trace
  asked := by rw [reach_started,← sequel.asked]; rfl
  numbers := sequel.numbers
  told := by rw [reach_started]; exact sequel.told
  known := by rw [reach_started]; exact sequel.known

theorem move (sequel : Sequel s f done trail) (m : Move) (next : Flight) (moved : f.move m = some next) :
    ∃ more after, Sequel s next (done ++ more) (trail ++ after) ∧ more.map (·.1) = m.completes?.toList ∧
      next.started = f.started ++ m.starts?.toList := by
  cases (move_exact f next m).mp moved with
  | @start call =>
      refine ⟨[],[],?_,rfl,f.launch_started call⟩
      simpa using sequel.launch call
  | @complete number on started later report result account waiting alone answer left =>
      refine ⟨_,_,sequel.finish number on started later report result account waiting alone answer left,rfl,?_⟩
      simp [Move.starts?]
  | @cancel number call waiting =>
      refine ⟨[],[],?_,rfl,by simp [Move.starts?]⟩
      simpa using sequel.cancel number

-- However starts, completions and cancellations come in between one another,
-- they come to the calls that complete, one after another in that order.
theorem run (sequel : Sequel s f done trail) (moves : List Move) (landed : Flight)
    (flown : Flight.run f moves = some landed) :
    ∃ more after, Sequel s landed (done ++ more) (trail ++ after) ∧
      more.map (·.1) = moves.filterMap Move.completes? ∧
      landed.started = f.started ++ moves.filterMap Move.starts? := by
  induction moves generalizing f done trail with
  | nil =>
      cases flown
      exact ⟨[],[],by simpa using sequel,rfl,by simp⟩
  | cons m rest ih =>
      simp only [Flight.run,Option.bind_eq_bind,Option.bind_eq_some_iff] at flown
      obtain ⟨next,moved,flown⟩ := flown
      obtain ⟨one,first,sequel,numbers,started⟩ := sequel.move m next moved
      obtain ⟨more,after,sequel,others,all⟩ := ih sequel flown
      refine ⟨one ++ more,first ++ after,?_,?_,?_⟩
      · simpa using sequel
      · rw [List.map_append,numbers,others]
        cases m <;> rfl
      · rw [all,started,List.append_assoc]
        cases m <;> rfl

end Sequel

-- An order in which calls can come and go, after some were started and some of
-- these have ended: a call ends once, after its start. Nothing is asked of the
-- states that the calls are on.
inductive Timely : Nat → List Nat → List Move → Prop where
  | nil {count ended} : Timely count ended []
  | start {count ended call rest} (later : Timely (count+1) ended rest) : Timely count ended (.start call :: rest)
  | ends {count ended m number rest} (ending : m.ends? = some number) (begun : number < count)
      (open_ : number ∉ ended) (later : Timely count (number :: ended) rest) : Timely count ended (m :: rest)

def Present (s : Session) (calls : List (String × Started)) : Prop :=
  ∀ call ∈ calls, (s.accounts.snapshot? call.1).isSome

structure Open (f : Flight) (ended : List Nat) : Prop where
  waits : ∀ number < f.tasks.length, number ∉ ended → ∃ call, f.waiting? number = some call
  there : Present f.session f.started

theorem idle_open (s : Session) : (idle s).Open [] where
  waits _ inside := absurd inside (Nat.not_lt_zero _)
  there := by simp [Present,started,idle]

theorem launch_open (f : Flight) (call : String × Started) (ended : List Nat) (opened : f.Open ended)
    (there : (f.session.accounts.snapshot? call.1).isSome) : (f.launch call).Open ended where
  waits := by
    intro number inside still
    simp only [Flight.launch,List.length_append,List.length_singleton] at inside
    by_cases new : number = f.tasks.length
    · exact ⟨call,(waiting_task _ _ _).mpr (by simp [Flight.launch,new])⟩
    · have old : number < f.tasks.length := by omega
      obtain ⟨other,waiting⟩ := opened.waits number old still
      refine ⟨other,(waiting_task _ _ _).mpr ?_⟩
      simpa [Flight.launch,List.getElem?_append_left old] using (waiting_task f number other).mp waiting
  there := by
    intro other member
    rw [launch_started] at member
    rcases List.mem_append.mp member with old | new
    · exact opened.there other old
    · rw [List.mem_singleton.mp new]
      exact there

theorem reach_waits (f : Flight) (number : Nat) (stage : Stage) (ended : List Nat) (opened : f.Open ended) :
    ∀ other < (f.reach number stage).tasks.length, other ∉ number :: ended →
      ∃ call, (f.reach number stage).waiting? other = some call := by
  intro other inside still
  simp only [List.mem_cons,not_or] at still
  simp only [reach,List.length_modify] at inside
  obtain ⟨call,waiting⟩ := opened.waits other inside still.2
  refine ⟨call,(waiting_task _ _ _).mpr ?_⟩
  simpa [reach,List.getElem?_modify,Ne.symm still.1] using (waiting_task f other call).mp waiting

theorem call_present (s later : Session) (on : String) (started : Started) (report : Report) (calls : List (String × Started))
    (there : Present s calls) (alone : s.step (.call on started) = some (later,report))
    (here : (s.accounts.snapshot? on).isSome) : Present later calls := by
  intro call member
  obtain ⟨before,here⟩ := Option.isSome_iff_exists.mp here
  obtain ⟨cell,_,bound,_⟩ := (Shelf.snapshot_there s.accounts on before).mp here
  rw [s.call_bound on cell started bound] at alone
  cases alone
  exact s.settle_there cell _ call.1 (there call member)

theorem move_ends (f : Flight) (m : Move) (number : Nat) (ended : List Nat) (ending : m.ends? = some number)
    (begun : number < f.tasks.length) (still : number ∉ ended) (opened : f.Open ended) :
    ∃ next, f.move m = some next ∧ next.tasks.length = f.tasks.length ∧ next.Open (number :: ended) ∧
      ∀ calls, Present f.session calls → Present next.session calls := by
  obtain ⟨⟨on,started⟩,waiting⟩ := opened.waits number begun still
  have here := opened.there _ (List.mem_of_getElem? (waiting_started f number _ waiting))
  cases m with
  | start call => cases ending
  | complete other =>
      cases ending
      obtain ⟨before,there⟩ := Option.isSome_iff_exists.mp here
      obtain ⟨later,report,alone,answer,left⟩ := f.session.call_there on started before there
      have kept := fun calls present => call_present f.session later on started report calls present alone here
      refine ⟨_,(move_exact f _ _).mpr (.complete waiting alone answer left),?_,⟨f.reach_waits number .completed ended opened,?_⟩,kept⟩
      · simp [finish,reach]
      · rw [finish_started]
        exact kept _ opened.there
  | cancel other =>
      cases ending
      refine ⟨_,(move_exact f _ _).mpr (.cancel waiting),?_,⟨f.reach_waits number .cancelled ended opened,?_⟩,fun _ => id⟩
      · simp [reach]
      · rw [reach_started]
        exact opened.there

theorem timely_run (f : Flight) (moves : List Move) (ended : List Nat) (timely : Timely f.tasks.length ended moves)
    (opened : f.Open ended) (there : Present f.session (moves.filterMap Move.starts?)) :
    ∃ landed, Flight.run f moves = some landed := by
  induction moves generalizing f ended with
  | nil => exact ⟨f,rfl⟩
  | cons m rest ih =>
      cases timely with
      | @start _ _ call _ later =>
          have count : (f.launch call).tasks.length = f.tasks.length+1 := by simp [Flight.launch]
          have here := there call (by simp [Move.starts?])
          have others : Present f.session (rest.filterMap Move.starts?) := fun other member =>
            there other (by simp [Move.starts?,member])
          exact ih (f.launch call) ended (count ▸ later) (f.launch_open call ended opened here) others
      | @ends _ _ _ number _ ending begun still later =>
          obtain ⟨next,moved,count,opened,kept⟩ := f.move_ends m number ended ending begun still opened
          have others : Present f.session (rest.filterMap Move.starts?) := fun other member =>
            there other (List.mem_filterMap.mpr (by
              obtain ⟨m,inside,starts⟩ := List.mem_filterMap.mp member
              exact ⟨m,List.mem_cons_of_mem _ inside,starts⟩))
          obtain ⟨landed,flown⟩ := ih next (number :: ended) (count ▸ later) opened (kept _ others)
          exact ⟨landed,by simp [Flight.run,moved,flown]⟩

end Flight

end AccountLink
