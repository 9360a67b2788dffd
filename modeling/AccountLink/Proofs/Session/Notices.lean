import AccountLink.Proofs.Session.Wakes

namespace AccountLink

-- What an operation says of a success that the backend has no words for, and of
-- a failure. Listing and reading say nothing of either.
def Operation.words : Operation → Option (String × String)
  | .login => some (Service.loginDone,Service.loginFailed)
  | .logout => some (Service.logoutDone,Service.logoutFailed)
  | .adminLogin => some (Service.adminDone,Service.adminFailed)
  | .createUser => some (Service.createDone,Service.createFailed)
  | .listFiles => none
  | .fetchFile => none

def Result.succeeded : Result → Bool
  | .flag succeeded => succeeded
  | .created _ => true
  | .files _ => true
  | .content _ => true
  | .failed _ => false

namespace Completion

def said? : Completion → Option String
  | .login (.ok reply) => reply.status
  | .logout (.ok reply) => reply.status
  | .adminLogin (.ok reply) => reply.status
  | .createUser _ (.ok reply) => reply.status
  | .listFiles _ (.ok reply) => reply.status
  | .fetchFile _ (.ok reply) => reply.status
  | _ => none

-- What the user is told of a completed call. Nothing here goes through its effects.
inductive Announces (c : Completion) : Option Notice → Prop where
  | quoted {done failed text} (words : c.call.operation.words = some (done,failed)) (succeeded : c.result.succeeded = true)
      (said : c.said? = some text) (nonempty : text ≠ "") : Announces c (some ⟨.success,text⟩)
  | standing {done failed} (words : c.call.operation.words = some (done,failed)) (succeeded : c.result.succeeded = true)
      (silent : ∀ text, c.said? = some text → text = "") : Announces c (some ⟨.success,done⟩)
  | regretted {done failed} (words : c.call.operation.words = some (done,failed))
      (refused : c.result.succeeded = false) : Announces c (some ⟨.error,failed⟩)
  | nothing (wordless : c.call.operation.words = none) : Announces c none

theorem announces_success (c : Completion) (done failed : String)
    (words : c.call.operation.words = some (done,failed)) (succeeded : c.result.succeeded = true) :
    c.Announces (some ⟨.success,Service.messageOr c.said? done⟩) := by
  cases said : c.said? with
  | none => exact .standing words succeeded (by simp [said])
  | some text =>
      by_cases silent : text = ""
      · subst silent
        exact .standing words succeeded (by simp [said])
      · have quoted : Service.messageOr (some text) done = text := by simp [Service.messageOr,silent]
        rw [quoted]
        exact .quoted words succeeded said silent

theorem announces_notices (c : Completion) : ∃ notice, c.Announces notice ∧ c.notices .listener = notice.toList := by
  cases c with
  | login reply =>
      cases reply with
      | ok reply => exact ⟨_,announces_success _ _ _ rfl rfl,rfl⟩
      | error cause => exact ⟨_,.regretted rfl rfl,rfl⟩
  | logout reply =>
      cases reply with
      | ok reply => exact ⟨_,announces_success _ _ _ rfl rfl,rfl⟩
      | error cause => exact ⟨_,.regretted rfl rfl,rfl⟩
  | adminLogin reply =>
      cases reply with
      | ok reply => exact ⟨_,announces_success _ _ _ rfl rfl,rfl⟩
      | error cause => exact ⟨_,.regretted rfl rfl,rfl⟩
  | createUser user reply =>
      cases reply with
      | ok reply => exact ⟨_,announces_success _ _ _ rfl rfl,rfl⟩
      | error cause => exact ⟨_,.regretted rfl rfl,rfl⟩
  | listFiles path reply => exact ⟨none,.nothing rfl,by cases reply <;> rfl⟩
  | fetchFile path reply =>
      refine ⟨none,.nothing rfl,?_⟩
      cases reply with
      | error cause => rfl
      | ok reply => cases found : (contentOf reply).balance <;> simp [notices,effects,found,Effect.notices]

theorem words_nonempty (o : Operation) (done failed : String) (words : o.words = some (done,failed)) :
    done ≠ "" ∧ failed ≠ "" := by
  cases o <;> cases words <;> decide

section Announces

variable {c : Completion} {notice : Option Notice}

theorem Announces.some_iff (announces : c.Announces notice) : notice.isSome = c.call.operation.words.isSome := by
  cases announces with
  | quoted words | standing words | regretted words | nothing words =>
      rw [words]
      rfl

theorem Announces.tone (announces : c.Announces notice) (n : Notice) (told : notice = some n) :
    n.tone = .success ↔ c.result.succeeded = true := by
  cases announces with
  | quoted _ succeeded => cases told; simp [succeeded]
  | standing _ succeeded => cases told; simp [succeeded]
  | regretted _ refused => cases told; simp [refused]
  | nothing => cases told

theorem Announces.message (announces : c.Announces notice) (n : Notice) (told : notice = some n) : n.message ≠ "" := by
  cases announces with
  | quoted _ _ _ nonempty => cases told; exact nonempty
  | standing words => cases told; exact (words_nonempty _ _ _ words).1
  | regretted words => cases told; exact (words_nonempty _ _ _ words).2
  | nothing => cases told

end Announces

def Told (done : List Completion) (notices : List Notice) : Prop :=
  ∃ said, List.Forall₂ Announces done said ∧ notices = said.filterMap id

theorem flatMap_told (done : List Completion) : Told done (done.flatMap (notices .listener)) := by
  induction done with
  | nil => exact ⟨[],.nil,rfl⟩
  | cons c rest ih =>
      obtain ⟨notice,announces,delivered⟩ := c.announces_notices
      obtain ⟨said,others,later⟩ := ih
      refine ⟨notice :: said,.cons announces others,?_⟩
      rw [List.flatMap_cons,delivered,later]
      cases notice <;> rfl

end Completion

namespace Session

theorem applyEffects_trace (s next : Session) (on : String) (effects : List Effect) (trace : Trace)
    (applied : applyEffects on s effects = some (next,trace)) :
    next.outlet = s.outlet ∧ trace.notices = effects.flatMap (Effect.notices s.outlet) := by
  induction effects generalizing s trace with
  | nil =>
      cases applied
      exact ⟨rfl,rfl⟩
  | cons effect rest ih =>
      obtain ⟨middle,first,later,one,more,rfl⟩ := applyEffects_parts applied
      have once : middle.outlet = s.outlet ∧ first.notices = effect.notices s.outlet := by
        cases effect with
        | log event =>
            cases one
            exact ⟨rfl,rfl⟩
        | notify notice =>
            cases one
            exact ⟨rfl,rfl⟩
        | write edit =>
            obtain ⟨accounts,_,same⟩ := Option.bind_eq_some_iff.mp one
            cases same
            exact ⟨rfl,rfl⟩
      obtain ⟨outlet,notices⟩ := ih middle later more
      exact ⟨outlet.trans once.1,by rw [List.flatMap_cons,← once.1,← notices,once.1,← once.2]; rfl⟩

theorem called_trace (s next : Session) (on : String) (started : Started) (report : Report)
    (called : s.step (.call on started) = some (next,report)) :
    next.outlet = s.outlet ∧ report.trace.notices = started.completion.notices s.outlet := by
  obtain ⟨trace,completed,rfl⟩ := call_parts called
  exact s.applyEffects_trace next on _ trace completed

theorem run_notices (s : Session) (calls : List (String × Started)) (trail : List (Report × Session))
    (ran : s.run (calls.map fun call => .call call.1 call.2) = some trail) :
    (traced trail).notices = calls.flatMap fun call => call.2.completion.notices s.outlet := by
  induction calls generalizing s trail with
  | nil =>
      cases ran
      rfl
  | cons call rest ih =>
      simp only [List.map_cons,run,Option.bind_eq_bind,Option.bind_eq_some_iff,Prod.exists,Option.some.injEq] at ran
      obtain ⟨next,report,called,later,more,rfl⟩ := ran
      obtain ⟨outlet,notices⟩ := s.called_trace next call.1 call.2 report called
      have others := ih next later more
      simp only [traced,List.flatMap_cons] at others ⊢
      rw [notices,others,outlet]

theorem run_told (s : Session) (calls : List (String × Started)) (trail : List (Report × Session))
    (listening : s.outlet = .listener) (ran : s.run (calls.map fun call => .call call.1 call.2) = some trail) :
    Completion.Told (calls.map fun call => call.2.completion) (traced trail).notices := by
  have told := Completion.flatMap_told (calls.map fun call => call.2.completion)
  rwa [List.flatMap_map,← listening,← s.run_notices calls trail ran] at told

end Session

-- Calls that are under way together say what those that complete say, in the
-- order in which they do.
theorem Flight.run_told (s : Session) (moves : List Move) (landed : Flight) (listening : s.outlet = .listener)
    (flown : Flight.run (.idle s) moves = some landed) :
    ∃ done : List (Nat × String × Started), done.map (·.1) = moves.filterMap Move.completes? ∧
      (∀ call ∈ done, (moves.filterMap Move.starts?)[call.1]? = some call.2) ∧
      Completion.Told (done.map fun call => call.2.2.completion) landed.trace.notices := by
  obtain ⟨done,trail,sequel,numbers,started⟩ := (Sequel.idle s).run moves landed flown
  simp only [List.nil_append] at sequel
  have all : landed.started = moves.filterMap Move.starts? := started
  refine ⟨done,numbers,fun call member => all ▸ sequel.known call member,?_⟩
  have ran : s.run ((done.map (·.2)).map fun call => .call call.1 call.2) = some trail := by
    rw [List.map_map]
    exact sequel.ran
  have told := s.run_told _ trail listening ran
  rw [List.map_map] at told
  rw [sequel.trace]
  exact told

end AccountLink
