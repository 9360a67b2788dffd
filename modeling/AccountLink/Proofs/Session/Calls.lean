import AccountLink.Proofs.Cell.Shelf
import AccountLink.Session

namespace AccountLink

def Effect.edit? : Effect → Option Edit
  | .write edit => some edit
  | _ => none

def Completion.edits (c : Completion) : List Edit := c.effects.filterMap Effect.edit?

theorem edits_fetched (path : String) (reply : Wire.ReadReply) (balance : String)
    (found : (Completion.contentOf reply).balance = some balance) :
    (Completion.fetchFile path (.ok reply)).edits = [.patch (.balanceTo balance)] := by
  simp [Completion.edits,Completion.effects,found]
  rfl

theorem edits_unbilled (path : String) (reply : Wire.ReadReply)
    (none : (Completion.contentOf reply).balance = none) : (Completion.fetchFile path (.ok reply)).edits = [] := by
  simp [Completion.edits,Completion.effects,none]

theorem account_edits (c : Completion) (a : Account) :
    c.account a = c.edits.foldl (fun a edit => edit.apply a) a := by
  unfold Completion.account Completion.edits
  induction c.effects generalizing a with
  | nil => rfl
  | cons effect rest ih =>
      cases effect with
      | log event => exact ih a
      | notify notice => exact ih a
      | write edit => exact ih (edit.apply a)

namespace Session

-- The session after writes of one account; specifications, outlet and watches
-- are none of a call's business.
def settle (s : Session) (cell : Nat) (edits : List Edit) : Session :=
  {s with accounts := s.accounts.amend cell (edits.map Edit.apply)}

@[simp] theorem settle_outlet (s : Session) (cell : Nat) (edits : List Edit) :
    (s.settle cell edits).outlet = s.outlet := rfl

theorem settle_nil (s : Session) (cell : Nat) : s.settle cell [] = s := by
  simp [settle,Shelf.amend_nil]

theorem settle_append (s : Session) (cell : Nat) (one two : List Edit) :
    (s.settle cell one).settle cell two = s.settle cell (one ++ two) := by
  simp [settle,Shelf.amend_append]

theorem settle_cell (s : Session) (cell : Nat) (edits : List Edit) :
    (s.settle cell edits).accounts.cells[cell]? = s.accounts.cells[cell]?.map fun before =>
      ⟨edits.foldl (fun a edit => edit.apply a) before.value,before.writes+edits.length⟩ := by
  simp [settle,Shelf.amend_self,List.foldl_map]

theorem settle_snapshot (s : Session) (on : String) (cell : Nat) (edits : List Edit) (before : Cell Account)
    (bound : s.accounts.handles.get? on = some cell) (found : s.accounts.cells[cell]? = some before) :
    (s.settle cell edits).accounts.snapshot? on = some (edits.foldl (fun a edit => edit.apply a) before.value) := by
  rw [Shelf.snapshot_bound (s.settle cell edits).accounts on cell bound,settle_cell,found]
  rfl

theorem settle_there (s : Session) (cell : Nat) (edits : List Edit) (name : String)
    (there : (s.accounts.snapshot? name).isSome) : ((s.settle cell edits).accounts.snapshot? name).isSome := by
  obtain ⟨account,there⟩ := Option.isSome_iff_exists.mp there
  obtain ⟨other,found,bound,held,_⟩ := (Shelf.snapshot_there s.accounts name account).mp there
  rw [Shelf.snapshot_bound (s.settle cell edits).accounts name other bound]
  by_cases same : other = cell
  · rw [same,settle_cell,← same,held]
    rfl
  · rw [settle,Shelf.amend_other _ cell other _ (Ne.symm same),held]
    rfl

theorem applyEffects_bound (s : Session) (on : String) (cell : Nat) (effects : List Effect)
    (bound : s.accounts.handles.get? on = some cell) :
    applyEffects on s effects = some (s.settle cell (effects.filterMap Effect.edit?),
      ⟨effects.flatMap (Effect.notices s.outlet),effects.flatMap (Effect.events s.outlet)⟩) := by
  induction effects generalizing s with
  | nil => simp [applyEffects,settle_nil,Trace.none]
  | cons effect rest ih =>
      cases effect with
      | log event =>
          simp [applyEffects,applyEffect,ih s bound,Trace.append,List.filterMap_cons,Effect.edit?,
            Effect.notices,Effect.events]
      | notify notice =>
          simp [applyEffects,applyEffect,ih s bound,Trace.append,List.filterMap_cons,Effect.edit?,
            Effect.notices,Effect.events]
      | write edit =>
          have one : s.applyEffect on (.write edit) = some (s.settle cell [edit],.none) := by
            simp [applyEffect,Shelf.write_bound _ _ _ _ bound,settle]
          simp [applyEffects,one,ih (s.settle cell [edit]) bound,settle_append,Trace.append,Trace.none,
            Effect.edit?,Effect.notices,Effect.events]

theorem complete_bound (s : Session) (on : String) (cell : Nat) (c : Completion)
    (bound : s.accounts.handles.get? on = some cell) :
    s.complete on c = some (s.settle cell c.edits,⟨c.notices s.outlet,c.events s.outlet⟩) :=
  applyEffects_bound s on cell c.effects bound

theorem call_bound (s : Session) (on : String) (cell : Nat) (started : Started)
    (bound : s.accounts.handles.get? on = some cell) :
    s.step (.call on started) = some (s.settle cell started.completion.edits,
      ⟨.result started.completion.result,[started.request],
        ⟨started.completion.notices s.outlet,started.completion.events s.outlet⟩⟩) := by
  simp [step,complete_bound s on cell _ bound]

theorem call_there (s : Session) (on : String) (started : Started) (before : Account)
    (there : s.accounts.snapshot? on = some before) :
    ∃ later report, s.step (.call on started) = some (later,report) ∧
      report.answer = .result started.completion.result ∧
      later.accounts.snapshot? on = some (started.completion.account before) := by
  obtain ⟨cell,found,bound,held,rfl⟩ := (Shelf.snapshot_there s.accounts on before).mp there
  refine ⟨_,_,s.call_bound on cell started bound,rfl,?_⟩
  rw [s.settle_snapshot on cell _ found bound held,account_edits]

def traced (trail : List (Report × Session)) : Trace :=
  ⟨trail.flatMap (·.1.trace.notices),trail.flatMap (·.1.trace.events)⟩

theorem last_cons (s next : Session) (report : Report) (trail : List (Report × Session)) :
    s.last ((report,next) :: trail) = next.last trail := by
  unfold last
  rw [List.getLast?_cons]
  cases trail.getLast? <;> rfl

theorem run_cons (s next : Session) (first : Step) (rest : List Step) (report : Report)
    (trail : List (Report × Session)) (ran : s.step first = some (next,report)) (later : next.run rest = some trail) :
    s.run (first :: rest) = some ((report,next) :: trail) := by
  simp [run,ran,later]

theorem run_calls (s : Session) (cell : Nat) (calls : List (String × Started))
    (same : ∀ call ∈ calls, s.accounts.handles.get? call.1 = some cell) :
    ∃ trail, s.run (calls.map fun call => .call call.1 call.2) = some trail ∧
      s.last trail = s.settle cell (calls.flatMap fun call => call.2.completion.edits) := by
  induction calls generalizing s with
  | nil => exact ⟨[],rfl,(s.settle_nil cell).symm⟩
  | cons call rest ih =>
      have one := s.call_bound call.1 cell call.2 (same call (by simp))
      obtain ⟨trail,ran,final⟩ := ih (s.settle cell call.2.completion.edits)
        (fun other member => same other (List.mem_cons_of_mem _ member))
      refine ⟨_,run_cons s _ _ _ _ trail one ran,?_⟩
      rw [last_cons,final,settle_append]
      rfl

theorem run_snoc (s later : Session) (steps : List Step) (final : Step) (trail : List (Report × Session))
    (report : Report) (ran : s.run steps = some trail) (stepped : (s.last trail).step final = some (later,report)) :
    s.run (steps ++ [final]) = some (trail ++ [(report,later)]) := by
  induction steps generalizing s trail with
  | nil =>
      cases ran
      exact run_cons s later final [] report [] stepped rfl
  | cons first rest ih =>
      simp only [run,Option.bind_eq_bind,Option.bind_eq_some_iff,Prod.exists,Option.some.injEq] at ran
      obtain ⟨next,told,one,more,after,rfl⟩ := ran
      rw [last_cons] at stepped
      exact run_cons s next first (rest ++ [final]) told _ one (ih next more after stepped)

theorem last_snoc (s later : Session) (trail : List (Report × Session)) (report : Report) :
    s.last (trail ++ [(report,later)]) = later := by
  simp [last]

theorem applyEffects_parts {s next : Session} {on : String} {effect : Effect} {rest : List Effect} {trace : Trace}
    (applied : applyEffects on s (effect :: rest) = some (next,trace)) :
    ∃ middle first later, s.applyEffect on effect = some (middle,first) ∧
      applyEffects on middle rest = some (next,later) ∧ trace = first.append later := by
  simp only [applyEffects,Option.bind_eq_bind,Option.bind_eq_some_iff,Prod.exists,Option.some.injEq,
    Prod.mk.injEq] at applied
  obtain ⟨middle,first,one,_,later,more,rfl,rfl⟩ := applied
  exact ⟨middle,first,later,one,more,rfl⟩

theorem call_parts {s next : Session} {on : String} {started : Started} {report : Report}
    (called : s.step (.call on started) = some (next,report)) :
    ∃ trace, s.complete on started.completion = some (next,trace) ∧
      report = ⟨.result started.completion.result,[started.request],trace⟩ := by
  simp only [step,Option.bind_eq_bind,Option.bind_eq_some_iff,Prod.exists,Option.some.injEq,Prod.mk.injEq] at called
  obtain ⟨_,trace,completed,rfl,rfl⟩ := called
  exact ⟨trace,completed,rfl⟩

theorem applyEffects_kept (s next : Session) (on : String) (effects : List Effect) (trace : Trace)
    (applied : applyEffects on s effects = some (next,trace)) :
    next.specs = s.specs ∧ next.accounts.handles = s.accounts.handles := by
  induction effects generalizing s trace with
  | nil =>
      cases applied
      exact ⟨rfl,rfl⟩
  | cons effect rest ih =>
      obtain ⟨middle,first,later,one,more,_⟩ := applyEffects_parts applied
      obtain ⟨specs,handles⟩ := ih middle later more
      cases effect with
      | log event | notify notice =>
          cases one
          exact ⟨specs,handles⟩
      | write edit =>
          obtain ⟨accounts,written,same⟩ := Option.bind_eq_some_iff.mp one
          cases same
          obtain ⟨cell,_,written⟩ := Option.bind_eq_some_iff.mp written
          cases written
          exact ⟨specs,handles⟩

theorem calls_specs (s : Session) (calls : List (String × Started)) (trail : List (Report × Session))
    (ran : s.run (calls.map fun call => .call call.1 call.2) = some trail) : (s.last trail).specs = s.specs := by
  induction calls generalizing s trail with
  | nil =>
      cases ran
      rfl
  | cons call rest ih =>
      simp only [List.map_cons,run,Option.bind_eq_bind,Option.bind_eq_some_iff,Prod.exists,Option.some.injEq] at ran
      obtain ⟨next,report,called,later,more,rfl⟩ := ran
      obtain ⟨trace,completed,_⟩ := call_parts called
      rw [last_cons,ih next later more,(s.applyEffects_kept next call.1 _ trace completed).1]

end Session

end AccountLink
