import AccountLink.Proofs.Session.Notices
import AccountLink.Proofs.Session.Overlap

namespace AccountLink

def Call.failed (call : Call) (cause : LinkError) : Completion := call.completeWith fun _ => .error cause

-- Whether the caller learns of a failure only that there was one.
def Operation.reserved : Operation → Bool
  | .login | .logout | .adminLogin => true
  | .createUser | .listFiles | .fetchFile => false

def Operation.refusal (o : Operation) (cause : LinkError) : Result :=
  if o.reserved then .flag false else .failed ⟨o,cause⟩

def Call.complaint : Call → Event
  | .login => ⟨.debug,Service.accountTarget,"confidios login failed",[("code","E_LOGIN_FAILED")]⟩
  | .logout => ⟨.debug,Service.accountTarget,"confidios logout failed",[("code","E_LOGOUT_FAILED")]⟩
  | .adminLogin => ⟨.debug,Service.adminTarget,"confidios admin login failed",[("code","E_ADMIN_LOGIN_FAILED")]⟩
  | .createUser user => ⟨.debug,Service.adminTarget,"confidios user creation failed",
      [("code","E_CREATE_USER_FAILED"),("user_id",user.userId)]⟩
  | .listFiles path => ⟨.debug,Service.filesTarget,"confidios ls failed",[("code","E_LIST_FILES_FAILED"),("path",path)]⟩
  | .fetchFile path => ⟨.debug,Service.filesTarget,"confidios cat failed",[("code","E_READ_FILE_FAILED"),("path",path)]⟩

def Event.telling (event : Event) (error : OperationError) : Event :=
  {event with fields := ("error",error.message) :: event.fields}

def Call.aftermath : Call → List Effect
  | .login => [.write (.patch .loggedOut),Service.failure Service.loginFailed]
  | .logout => [Service.failure Service.logoutFailed]
  | .adminLogin => [.write (.admin false),Service.failure Service.adminFailed]
  | .createUser _ => [Service.failure Service.createFailed]
  | .listFiles _ | .fetchFile _ => []

theorem failed_effects (call : Call) (cause : LinkError) : (call.failed cause).effects =
    .log (call.complaint.telling ⟨call.operation,cause⟩) :: call.aftermath := by
  cases call <;> rfl

theorem failed_result (call : Call) (cause : LinkError) :
    (call.failed cause).result = call.operation.refusal cause := by
  cases call <;> rfl

theorem failed_request (call : Call) (cause : LinkError) (caller : Caller) :
    Started.request ⟨caller,call.failed cause⟩ = call.request caller := by
  cases call <;> rfl

theorem failed_exact (c : Completion) : c.result.succeeded = false ↔ ∃ cause, c = c.call.failed cause := by
  constructor
  · intro refused
    cases c with
    | login reply | logout reply | adminLogin reply | createUser user reply | listFiles path reply
    | fetchFile path reply =>
        cases reply with
        | ok reply => cases refused
        | error cause => exact ⟨cause,rfl⟩
  · rintro ⟨cause,same⟩
    rw [same,failed_result]
    unfold Operation.refusal
    split <;> rfl

namespace Session

theorem call_failed (s : Session) (on : String) (caller : Caller) (call : Call) (cause : LinkError) :
    s.step (.call on ⟨caller,call.failed cause⟩) = (applyEffects on s call.aftermath).map fun left =>
      (left.1,⟨.result (call.operation.refusal cause),[call.request caller],
        ⟨left.2.notices,call.complaint.telling ⟨call.operation,cause⟩ :: left.2.events⟩⟩) := by
  simp only [step,complete,failed_effects,failed_result,failed_request,applyEffects,applyEffect,Option.bind_eq_bind,
    Option.bind_some]
  cases applyEffects on s call.aftermath <;> rfl

end Session

-- Lists that are the same, but for one place at most.
inductive Swapped {α : Type} (differ : α → α → Prop) : List α → List α → Prop where
  | same {l} : Swapped differ l l
  | place {front a b back} (differs : differ a b) : Swapped differ (front ++ a :: back) (front ++ b :: back)

namespace Swapped

variable {α : Type} {differ : α → α → Prop} {l m : List α}

theorem first {a b : α} (differs : differ a b) : Swapped differ (a :: l) (b :: l) :=
  @place α differ [] a b l differs

theorem append (swapped : Swapped differ l m) (rest : List α) : Swapped differ (l ++ rest) (m ++ rest) := by
  cases swapped with
  | same => exact .same
  | place differs =>
      rw [List.append_assoc,List.append_assoc]
      exact .place differs

theorem eq_of_eq (swapped : Swapped differ l m) (equal : ∀ a b, differ a b → b = a) : m = l := by
  cases swapped with
  | same => rfl
  | place differs => rw [equal _ _ differs]

end Swapped

section Blames

variable (call : Call) (one two : LinkError)

def Event.Blames (event other : Event) : Prop :=
  event = call.complaint.telling ⟨call.operation,one⟩ ∧ other = call.complaint.telling ⟨call.operation,two⟩

def Result.Blames (result other : Result) : Prop :=
  result = call.operation.refusal one ∧ other = call.operation.refusal two

variable (number : Nat)

abbrev Flight.Said (entry other : Nat × Result × Account) : Prop :=
  Result.Blames call one two entry.2.1 other.2.1 ∧ entry.1 = number ∧ other.1 = number ∧ other.2.2 = entry.2.2

inductive Answer.Blames : Answer → Answer → Prop where
  | result {result other} (blames : Result.Blames call one two result other) : Blames (.result result) (.result other)
  | completions {l m} (swapped : Swapped (Flight.Said call one two number) l m) : Blames (.completions l) (.completions m)

-- What is seen of a step in which a call fails, for the one cause or for the
-- other. The number is that of the call among those that overlap.
structure Report.Blames (report other : Report) : Prop where
  answer : Answer.Blames call one two number report.answer other.answer
  asked : other.asked = report.asked
  notices : other.trace.notices = report.trace.notices
  events : Swapped (Event.Blames call one two) report.trace.events other.trace.events

structure Flight.Blames (f g : Flight) : Prop where
  session : g.session = f.session
  asked : g.asked = f.asked
  notices : g.trace.notices = f.trace.notices
  events : Swapped (Event.Blames call one two) f.trace.events g.trace.events
  completions : Swapped (Flight.Said call one two number) f.completions g.completions

inductive Step.Blames : Step → Step → Prop where
  | call {on caller} : Blames (.call on ⟨caller,call.failed one⟩) (.call on ⟨caller,call.failed two⟩)
  | overlap {on caller front back order} (place : front.length = number) :
      Blames (.overlap (front ++ (on,⟨caller,call.failed one⟩) :: back) order)
        (.overlap (front ++ (on,⟨caller,call.failed two⟩) :: back) order)

end Blames

variable {call : Call} {one two : LinkError} {number : Nat}

theorem Event.Blames.worded {event other : Event} (blames : event.Blames call one two other)
    (worded : two.message = one.message) : other = event := by
  obtain ⟨rfl,rfl⟩ := blames
  simp only [Event.telling,OperationError.message,worded]

theorem Result.Blames.reserved {result other : Result} (blames : result.Blames call one two other)
    (reserved : call.operation.reserved = true) : other = result := by
  obtain ⟨rfl,rfl⟩ := blames
  rw [Operation.refusal,Operation.refusal,if_pos reserved,if_pos reserved]

theorem Flight.Said.reserved {entry other : Nat × Result × Account} (said : Flight.Said call one two number entry other)
    (reserved : call.operation.reserved = true) : other = entry := by
  obtain ⟨blames,here,there,account⟩ := said
  exact Prod.ext (there.trans here.symm) (Prod.ext (blames.reserved reserved) account)

theorem Answer.Blames.reserved {answer other : Answer} (blames : answer.Blames call one two number other)
    (reserved : call.operation.reserved = true) : other = answer := by
  cases blames with
  | result blames => rw [blames.reserved reserved]
  | completions swapped => rw [swapped.eq_of_eq fun _ _ said => said.reserved reserved]

theorem trace_worded {trace retold : Trace} (notices : retold.notices = trace.notices)
    (events : Swapped (Event.Blames call one two) trace.events retold.events) (worded : two.message = one.message) :
    retold = trace := by
  have events := events.eq_of_eq fun _ _ retold => retold.worded worded
  calc retold = ⟨retold.notices,retold.events⟩ := rfl
    _ = ⟨trace.notices,trace.events⟩ := by rw [notices,events]
    _ = trace := rfl

theorem Report.Blames.worded {report other : Report} (blames : report.Blames call one two number other)
    (worded : two.message = one.message) : other.trace = report.trace := trace_worded blames.notices blames.events worded

theorem Flight.Blames.worded {f g : Flight} (blames : f.Blames call one two number g)
    (worded : two.message = one.message) : g.trace = f.trace := trace_worded blames.notices blames.events worded

theorem Flight.Blames.reserved {f g : Flight} (blames : f.Blames call one two number g)
    (reserved : call.operation.reserved = true) : g.completions = f.completions :=
  blames.completions.eq_of_eq fun _ _ said => said.reserved reserved

namespace Flight

-- Two flights that made the same moves, but that one call fails for different
-- causes. As long as that call waits, nothing is seen of it.
structure Apart (call : Call) (one two : LinkError) (on : String) (caller : Caller) (number : Nat) (f g : Flight) : Prop
    extends f.Blames call one two number g where
  there : ∃ stage, f.tasks[number]? = some ⟨(on,⟨caller,call.failed one⟩),stage⟩
  tasks : g.tasks = f.tasks.modify number fun task => {task with call := (on,⟨caller,call.failed two⟩)}
  unseen : ∀ waiting, f.waiting? number = some waiting →
    g.trace.events = f.trace.events ∧ g.completions = f.completions

theorem modify_concat {α : Type} (l : List α) (a : α) (change : α → α) {n : Nat} (inside : n < l.length) :
    (l ++ [a]).modify n change = l.modify n change ++ [a] := by
  induction l generalizing n with
  | nil => cases inside
  | cons b rest ih =>
      cases n with
      | zero => rfl
      | succ n => simp [ih (Nat.lt_of_succ_lt_succ inside)]

theorem modify_last {α : Type} (l : List α) (a : α) (change : α → α) :
    (l ++ [a]).modify l.length change = l ++ [change a] := by
  induction l with
  | nil => rfl
  | cons b rest ih => simp [ih]

namespace Apart

variable {on : String} {caller : Caller} {f g : Flight}

theorem waiting (apart : Apart call one two on caller number f g) {other : Nat} {waiting : String × Started}
    (waits : f.waiting? other = some waiting) : g.waiting? other =
      some (if number = other then (on,⟨caller,call.failed two⟩) else waiting) := by
  rw [waiting_task] at waits ⊢
  rw [apart.tasks,List.getElem?_modify,waits]
  by_cases same : number = other <;> simp [same]

theorem here (apart : Apart call one two on caller number f g) {waiting : String × Started}
    (waits : f.waiting? number = some waiting) : waiting = (on,⟨caller,call.failed one⟩) := by
  obtain ⟨stage,there⟩ := apart.there
  have task := (waiting_task f number waiting).mp waits
  rw [there] at task
  simp_all

theorem inside (apart : Apart call one two on caller number f g) : number < f.tasks.length := by
  obtain ⟨_,there⟩ := apart.there
  exact (List.getElem?_eq_some_iff.mp there).1

theorem launch (apart : Apart call one two on caller number f g) (begun : String × Started) :
    Apart call one two on caller number (f.launch begun) (g.launch begun) where
  session := apart.session
  asked := by simp [Flight.launch,apart.asked]
  notices := apart.notices
  events := apart.events
  completions := apart.completions
  there := by
    obtain ⟨stage,there⟩ := apart.there
    exact ⟨stage,by simp [Flight.launch,List.getElem?_append_left apart.inside,there]⟩
  tasks := by simp only [Flight.launch,apart.tasks,modify_concat _ _ _ apart.inside]
  unseen other waits := by
    refine apart.unseen other ((waiting_task f number other).mpr ?_)
    simpa [Flight.launch,List.getElem?_append_left apart.inside] using (waiting_task _ number other).mp waits

theorem reach_tasks (apart : Apart call one two on caller number f g) (other : Nat) (stage : Stage) :
    (g.reach other stage).tasks = (f.reach other stage).tasks.modify number fun task =>
      {task with call := (on,⟨caller,call.failed two⟩)} := by
  simp only [reach,apart.tasks]
  by_cases same : other = number
  · rw [same,List.modify_modify_eq,List.modify_modify_eq]
    rfl
  · exact (List.modify_modify_ne _ _ _ same).symm

theorem reach_there (apart : Apart call one two on caller number f g) (other : Nat) (stage : Stage) :
    ∃ now, (f.reach other stage).tasks[number]? = some ⟨(on,⟨caller,call.failed one⟩),now⟩ := by
  obtain ⟨before,there⟩ := apart.there
  refine ⟨if other = number then stage else before,?_⟩
  simp only [reach,List.getElem?_modify,there]
  by_cases same : other = number <;> simp [same]

theorem reach_waiting (f : Flight) (other number : Nat) (stage : Stage) (ended : stage ≠ .waiting)
    (waiting : String × Started) (waits : (f.reach other stage).waiting? number = some waiting) :
    other ≠ number ∧ f.waiting? number = some waiting := by
  rw [waiting_task] at waits ⊢
  simp only [reach,List.getElem?_modify] at waits
  by_cases same : other = number
  · subst same
    cases f.tasks[other]? <;> simp_all
  · simp_all

theorem finish (apart : Apart call one two on caller number f g) (ended : Nat) (result told : Result) (later : Session)
    (trace retold : Trace) (account : Account) (notices : retold.notices = trace.notices)
    (events : Swapped (Event.Blames call one two) (f.trace.events ++ trace.events) (g.trace.events ++ retold.events))
    (completions : Swapped (Said call one two number) (f.completions ++ [(ended,result,account)])
      (g.completions ++ [(ended,told,account)]))
    (unseen : ended ≠ number → retold = trace ∧ told = result) :
    Apart call one two on caller number (f.finish ended result later trace account)
      (g.finish ended told later retold account) where
  session := rfl
  asked := apart.asked
  notices := congrArg₂ (· ++ ·) apart.notices notices
  events := events
  completions := completions
  there := apart.reach_there ended .completed
  tasks := apart.reach_tasks ended .completed
  unseen other waits := by
    obtain ⟨further,waited⟩ := reach_waiting f ended number .completed (by simp) other waits
    obtain ⟨quiet,silent⟩ := apart.unseen other waited
    obtain ⟨rfl,rfl⟩ := unseen further
    exact ⟨congrArg (· ++ retold.events) quiet,congrArg (· ++ [(ended,told,account)]) silent⟩

theorem move (apart : Apart call one two on caller number f g) (m : Move) (next : Flight) (moved : f.move m = some next) :
    ∃ other, g.move m = some other ∧ Apart call one two on caller number next other := by
  cases (move_exact f next m).mp moved with
  | @start begun => exact ⟨_,(move_exact g _ _).mpr .start,apart.launch begun⟩
  | @cancel ended given waits =>
      refine ⟨_,(move_exact g _ _).mpr (.cancel (apart.waiting waits)),?_⟩
      exact {
        session := apart.session
        asked := apart.asked
        notices := apart.notices
        events := apart.events
        completions := apart.completions
        there := apart.reach_there ended .cancelled
        tasks := apart.reach_tasks ended .cancelled
        unseen := fun other waits => apart.unseen other (reach_waiting f ended number .cancelled (by simp) other waits).2}
  | @complete ended name started later report result account waits alone answer left =>
      have waiting := apart.waiting waits
      by_cases same : number = ended
      · -- The call itself: nothing was seen of it before, and from here on it does not wait.
        subst same
        cases apart.here waits
        obtain ⟨events,completions⟩ := apart.unseen _ waits
        rw [if_pos rfl] at waiting
        rw [Session.call_failed] at alone
        obtain ⟨⟨after,trace⟩,applied,same⟩ := Option.map_eq_some_iff.mp alone
        cases same
        cases answer
        have told := f.session.call_failed on caller call two
        rw [applied,Option.map_some,← apart.session] at told
        refine ⟨_,(move_exact g _ _).mpr (.complete waiting told rfl left),?_⟩
        refine apart.finish number _ _ after _ _ account rfl ?_ ?_ (fun further => absurd rfl further)
        · rw [events]
          exact .place ⟨rfl,rfl⟩
        · rw [completions]
          exact .place ⟨⟨rfl,rfl⟩,rfl,rfl,rfl⟩
      · rw [if_neg same] at waiting
        rw [← apart.session] at alone
        refine ⟨_,(move_exact g _ _).mpr (.complete waiting alone answer left),?_⟩
        exact apart.finish ended result result later report.trace report.trace account rfl
          (apart.events.append _) (apart.completions.append _) (fun _ => ⟨rfl,rfl⟩)

theorem run (apart : Apart call one two on caller number f g) (moves : List Move) (landed : Flight)
    (flown : Flight.run f moves = some landed) :
    ∃ other, Flight.run g moves = some other ∧ Apart call one two on caller number landed other := by
  induction moves generalizing f g with
  | nil =>
      cases flown
      exact ⟨g,rfl,apart⟩
  | cons m rest ih =>
      obtain ⟨next,moved,flown⟩ := Option.bind_eq_some_iff.mp flown
      obtain ⟨middle,also,apart⟩ := apart.move m next moved
      obtain ⟨other,ran,apart⟩ := ih apart flown
      exact ⟨other,by simp [Flight.run,also,ran],apart⟩

end Apart

theorem launch_apart (f : Flight) (on : String) (caller : Caller) : Apart call one two on caller f.tasks.length
    (f.launch (on,⟨caller,call.failed one⟩)) (f.launch (on,⟨caller,call.failed two⟩)) where
  session := rfl
  asked := by simp only [launch,failed_request]
  notices := rfl
  events := .same
  completions := .same
  there := ⟨.waiting,by simp [launch]⟩
  tasks := by simp only [launch,modify_last]
  unseen _ _ := ⟨rfl,rfl⟩

theorem run_append (f : Flight) (front back : List Move) :
    Flight.run f (front ++ back) = (Flight.run f front).bind fun middle => Flight.run middle back := by
  induction front generalizing f with
  | nil => rfl
  | cons m rest ih => simp only [List.cons_append,Flight.run,Option.bind_eq_bind,ih,Option.bind_assoc]

theorem run_started (s : Session) (moves : List Move) (f : Flight) (flown : Flight.run (.idle s) moves = some f) :
    f.tasks.length = (moves.filterMap Move.starts?).length := by
  obtain ⟨_,_,_,_,started⟩ := (Sequel.idle s).run moves f flown
  have same := congrArg List.length started
  simpa [Flight.started,idle] using same

theorem run_blames (s : Session) (on : String) (caller : Caller) (front back : List Move) (landed : Flight)
    (flown : Flight.run (.idle s) (front ++ .start (on,⟨caller,call.failed one⟩) :: back) = some landed) :
    ∃ other, Flight.run (.idle s) (front ++ .start (on,⟨caller,call.failed two⟩) :: back) = some other ∧
      landed.Blames call one two (front.filterMap Move.starts?).length other := by
  rw [run_append] at flown
  obtain ⟨middle,before,after⟩ := Option.bind_eq_some_iff.mp flown
  obtain ⟨other,ran,apart⟩ := (middle.launch_apart on caller).run back landed after
  refine ⟨other,?_,run_started s front middle before ▸ apart.toBlames⟩
  rw [run_append,before]
  exact ran

theorem starts_only (calls : List (String × Started)) :
    ((calls.map Move.start).filterMap Move.starts?).length = calls.length := by
  simp [Function.comp_def,Move.starts?]

theorem schedule_start (front back : List (String × Started)) (call : String × Started) (order : List Nat) :
    schedule (front ++ call :: back) order = front.map .start ++ .start call ::
      (back.map .start ++ (order.map .complete ++ (remaining (front.length+(back.length+1)) order).map .cancel)) := by
  simp only [schedule,remaining,List.map_append,List.map_cons,List.append_assoc,List.cons_append,List.length_append,
    List.length_cons]

end Flight

namespace Session

theorem step_blames (s next : Session) (st other : Step) (report : Report) (blames : st.Blames call one two number other)
    (stepped : s.step st = some (next,report)) :
    ∃ told, s.step other = some (next,told) ∧ report.Blames call one two number told := by
  cases blames with
  | @call on caller =>
      rw [call_failed] at stepped
      obtain ⟨left,applied,same⟩ := Option.map_eq_some_iff.mp stepped
      cases same
      have told := s.call_failed on caller call two
      rw [applied,Option.map_some] at told
      exact ⟨_,told,.result ⟨rfl,rfl⟩,rfl,rfl,.first ⟨rfl,rfl⟩⟩
  | @overlap on caller front back order place =>
      obtain ⟨f,flown,same⟩ := Option.bind_eq_some_iff.mp stepped
      cases same
      rw [Flight.schedule_start] at flown
      obtain ⟨landed,also,blames⟩ := Flight.run_blames s on caller _ _ f flown
      rw [← Flight.schedule_start] at also
      rw [Flight.starts_only,place] at blames
      refine ⟨⟨.completions landed.completions,landed.asked,landed.trace⟩,?_,.completions blames.completions,blames.asked,
        blames.notices,blames.events⟩
      simp [step,also,blames.session]

theorem run_append (s : Session) (front back : List Step) : s.run (front ++ back) =
    (s.run front).bind fun trail => (run (s.last trail) back).map (trail ++ ·) := by
  induction front generalizing s with
  | nil => exact (congrFun Option.map_id (s.run back)).symm
  | cons st rest ih =>
      simp only [List.cons_append,run,Option.bind_eq_bind,ih,Option.bind_assoc]
      congr 1
      funext next
      cases run next.1 rest with
      | none => rfl
      | some trail =>
          simp only [Option.bind_some,last_cons]
          cases run (next.1.last trail) back <;> rfl

theorem run_length (s : Session) (steps : List Step) (trail : List (Report × Session)) (ran : s.run steps = some trail) :
    trail.length = steps.length := by
  induction steps generalizing s trail with
  | nil =>
      cases ran
      rfl
  | cons st rest ih =>
      simp only [run,Option.bind_eq_bind,Option.bind_eq_some_iff,Prod.exists,Option.some.injEq] at ran
      obtain ⟨next,report,_,later,more,rfl⟩ := ran
      rw [List.length_cons,List.length_cons,ih next later more]

-- A run and the one in which a call fails for another cause: the same before
-- that call and after it, and alike where it is made.
theorem run_blames (s : Session) (front back : List Step) (st other : Step) (trail : List (Report × Session))
    (blames : st.Blames call one two number other) (ran : s.run (front ++ st :: back) = some trail) :
    ∃ before report told next after, trail = before ++ (report,next) :: after ∧ before.length = front.length ∧
      s.run (front ++ other :: back) = some (before ++ (told,next) :: after) ∧ report.Blames call one two number told := by
  rw [run_append] at ran
  obtain ⟨before,one,ran⟩ := Option.bind_eq_some_iff.mp ran
  obtain ⟨rest,two,rfl⟩ := Option.map_eq_some_iff.mp ran
  simp only [run,Option.bind_eq_bind,Option.bind_eq_some_iff,Prod.exists,Option.some.injEq] at two
  obtain ⟨next,report,stepped,after,later,rfl⟩ := two
  obtain ⟨told,also,blames⟩ := step_blames _ next st other report blames stepped
  refine ⟨before,report,told,next,after,rfl,s.run_length front before one,?_,blames⟩
  rw [run_append,one,Option.bind_some,run_cons _ next other back told after also later]
  rfl

end Session

open Flight

-- A failed call tells its cause in one event of its own, at the level for
-- debugging, and, unless it is one of those that only answer no, in the error
-- that it returns. Why it failed makes no other difference to any run, whether
-- the call is made by itself or under way with others; what the backend wrote
-- along with a status makes none to the log either.
theorem causes_unseen (s : Session) (call : Call) (one two : LinkError) (number : Nat) :
    (∀ c : Completion, c.result.succeeded = false ↔ ∃ cause, c = c.call.failed cause) ∧
    (∀ cause, (call.failed cause).effects = .log (call.complaint.telling ⟨call.operation,cause⟩) :: call.aftermath ∧
      (call.failed cause).result = call.operation.refusal cause) ∧
    (call.complaint.level = .debug ∧ (∀ field ∈ call.complaint.fields, field.1 ≠ "error") ∧
      ∀ event, Effect.log event ∉ call.aftermath) ∧
    (∀ front back st other trail, st.Blames call one two number other → s.run (front ++ st :: back) = some trail →
      ∃ before report told next after, trail = before ++ (report,next) :: after ∧ before.length = front.length ∧
        s.run (front ++ other :: back) = some (before ++ (told,next) :: after) ∧ report.Blames call one two number told ∧
        (call.operation.reserved = true → told.answer = report.answer) ∧
        ∀ code body text, one = .status code body → two = .status code text → told.trace = report.trace) ∧
    ∀ on caller front back landed,
      Flight.run (.idle s) (front ++ .start (on,⟨caller,call.failed one⟩) :: back) = some landed →
      ∃ other, Flight.run (.idle s) (front ++ .start (on,⟨caller,call.failed two⟩) :: back) = some other ∧
        landed.Blames call one two (front.filterMap Move.starts?).length other ∧
        (call.operation.reserved = true → other.completions = landed.completions) ∧
        ∀ code body text, one = .status code body → two = .status code text → other.trace = landed.trace := by
  refine ⟨failed_exact,fun cause => ⟨failed_effects call cause,failed_result call cause⟩,⟨?_,?_,?_⟩,?_,?_⟩
  · cases call <;> rfl
  · cases call <;> simp [Call.complaint]
  · cases call <;> simp [Call.aftermath,Service.failure]
  · intro front back st other trail blames ran
    obtain ⟨before,report,told,next,after,split,length,also,blames⟩ := s.run_blames front back st other trail blames ran
    refine ⟨before,report,told,next,after,split,length,also,blames,blames.answer.reserved,?_⟩
    rintro code body text rfl rfl
    exact blames.worded rfl
  · intro on caller front back landed flown
    obtain ⟨other,also,blames⟩ := Flight.run_blames s on caller front back landed flown
    refine ⟨other,also,blames,blames.reserved,?_⟩
    rintro code body text rfl rfl
    exact blames.worded rfl

-- A login on a clone is refused while files are listed, and someone watches the account.
-- What the backend writes about the refusal shows nowhere.
def listing : Started := ⟨⟨"tok","ann@example.com"⟩,.listFiles "/" (.ok ⟨none,[]⟩)⟩

def refused (body : String) : Started := ⟨⟨"tok","bob@example.com"⟩,Call.login.failed (.status 401 body)⟩

theorem causes_unseen_refused :
    (∃ before report told next after,
      watched.run [.clone "main" "twin",.overlap [("main",listing),("twin",refused "wrong password")] [1,0],.observe "w"] =
        some (before ++ (report,next) :: after) ∧
      watched.run [.clone "main" "twin",.overlap [("main",listing),("twin",refused "no such user")] [1,0],.observe "w"] =
        some (before ++ (told,next) :: after) ∧
      told.answer = report.answer ∧ told.trace = report.trace) ∧
    ∃ landed other,
      Flight.run (.idle watched) [.start ("main",refused "wrong password"),.start ("main",listing),.complete 0] = some landed ∧
      Flight.run (.idle watched) [.start ("main",refused "no such user"),.start ("main",listing),.complete 0] = some other ∧
      other.completions = landed.completions ∧ other.trace = landed.trace := by
  obtain ⟨_,_,_,steps,flights⟩ :=
    causes_unseen watched .login (.status 401 "wrong password") (.status 401 "no such user") 1
  constructor
  · have runs : (watched.run [.clone "main" "twin",.overlap [("main",listing),("twin",refused "wrong password")] [1,0],
        .observe "w"]).isSome := by decide +kernel
    obtain ⟨trail,ran⟩ := Option.isSome_iff_exists.mp runs
    obtain ⟨before,report,told,next,after,rfl,_,also,_,answer,trace⟩ := steps [.clone "main" "twin"] [.observe "w"] _ _ trail
      (@Step.Blames.overlap _ _ _ _ "twin" _ [("main",listing)] [] _ rfl) ran
    exact ⟨before,report,told,next,after,ran,also,answer rfl,trace 401 _ _ rfl rfl⟩
  · have flies : (Flight.run (.idle watched)
        [.start ("main",refused "wrong password"),.start ("main",listing),.complete 0]).isSome := by decide +kernel
    obtain ⟨landed,flown⟩ := Option.isSome_iff_exists.mp flies
    obtain ⟨other,also,_,answers,trace⟩ := flights "main" _ [] _ landed flown
    exact ⟨landed,other,flown,also,answers rfl,trace 401 _ _ rfl rfl⟩

end AccountLink
