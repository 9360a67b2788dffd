import AccountLink.Proofs.Session.Ledger
import AccountLink.Proofs.Session.Overlap
import AccountLink.Proofs.Session.Reached

namespace AccountLink

open AccountLink.Shelf

namespace Session

def put (s : Session) (write : String × (Account → Account)) : Session :=
  match s.accounts.handles.get? write.1 with
  | some cell => {s with accounts := s.accounts.amend cell [write.2]}
  | none => s

theorem puts_specs (s : Session) (writes : List (String × (Account → Account))) : (writes.foldl put s).specs = s.specs := by
  induction writes generalizing s with
  | nil => rfl
  | cons write rest ih =>
      rw [List.foldl_cons,ih,put]
      split <;> rfl

theorem write_put (s : Session) (accounts : Shelf Account) (on : String) (f : Account → Account)
    (written : s.accounts.write on f = some accounts) : {s with accounts := accounts} = s.put (on,f) := by
  obtain ⟨cell,bound,rfl⟩ := write_cell _ _ on f written
  simp only [put,bound]

theorem applyEffects_puts (s next : Session) (on : String) (effects : List Effect) (trace : Trace)
    (applied : applyEffects on s effects = some (next,trace)) :
    next = (((effects.filterMap Effect.edit?).map Edit.apply).map (on,·)).foldl put s := by
  induction effects generalizing s trace with
  | nil =>
      cases applied
      rfl
  | cons effect rest ih =>
      obtain ⟨middle,first,later,one,more,_⟩ := applyEffects_parts applied
      cases effect with
      | log event =>
          cases one
          exact ih s later more
      | notify notice =>
          cases one
          exact ih s later more
      | write edit =>
          obtain ⟨accounts,written,same⟩ := Option.bind_eq_some_iff.mp one
          cases same
          rw [ih _ later more,s.write_put accounts on edit.apply written]
          rfl

theorem call_puts (s next : Session) (on : String) (started : Started) (report : Report)
    (called : s.step (.call on started) = some (next,report)) : next = (started.writes.map (on,·)).foldl put s := by
  obtain ⟨trace,completed,_⟩ := call_parts called
  exact s.applyEffects_puts next on started.completion.effects trace completed

theorem calls_put (s : Session) (calls : List (String × Started)) (trail : List (Report × Session))
    (ran : s.run (calls.map fun call => .call call.1 call.2) = some trail) :
    s.last trail = (calls.flatMap fun call => call.2.writes.map (call.1,·)).foldl put s := by
  induction calls generalizing s trail with
  | nil =>
      cases ran
      rfl
  | cons call rest ih =>
      simp only [List.map_cons,run,Option.bind_eq_bind,Option.bind_eq_some_iff,Prod.exists,Option.some.injEq] at ran
      obtain ⟨next,report,one,more,after,rfl⟩ := ran
      rw [last_cons,ih next more after,s.call_puts next call.1 call.2 report one,List.flatMap_cons,List.foldl_append]

end Session

namespace Flight

theorem done_calls (calls : List (String × Started)) (order : List Nat) (done : List (Nat × String × Started))
    (numbers : done.map (·.1) = order) (known : ∀ call ∈ done, calls[call.1]? = some call.2) :
    done.map (·.2) = order.filterMap (calls[·]?) := by
  subst numbers
  rw [List.filterMap_map,← List.filterMap_eq_map]
  exact List.filterMap_congr fun call member => (known call member).symm

end Flight

namespace Session

open Flight

theorem overlap_puts (s next : Session) (calls : List (String × Started)) (order : List Nat) (report : Report)
    (stepped : s.step (.overlap calls order) = some (next,report)) :
    next = ((order.filterMap (calls[·]?)).flatMap fun call => call.2.writes.map (call.1,·)).foldl put s := by
  obtain ⟨landed,flown,same⟩ := Option.bind_eq_some_iff.mp stepped
  cases same
  obtain ⟨done,trail,sequel,numbers,all⟩ := (Sequel.idle s).run _ landed flown
  rw [schedule_completes] at numbers
  rw [schedule_starts] at all
  have completed := done_calls landed.started order done numbers sequel.known
  rw [all,show (Flight.idle s).started = [] from rfl,List.nil_append] at completed
  rw [sequel.session,← completed]
  refine s.calls_put _ trail ?_
  rw [List.map_map]
  exact sequel.ran

theorem act_puts (s next : Session) (act : Act) (report : Report) (writes : List (String × (Account → Account)))
    (told : act.writes? = some writes) (performed : s.perform act = some (next,report)) : next = writes.foldl put s := by
  cases act with
  | found name => cases told
  | writeSpec on f => cases told
  | write on f =>
      cases told
      obtain ⟨accounts,written,same⟩ := Option.map_eq_some_iff.mp performed
      cases same
      exact s.write_put accounts on f written
  | step st =>
      cases st with
      | call on started =>
          cases told
          exact s.call_puts next on started report performed
      | overlap calls order =>
          cases told
          exact s.overlap_puts next calls order report performed
      | edit on edit =>
          cases told
          obtain ⟨accounts,written,same⟩ := Option.bind_eq_some_iff.mp performed
          cases same
          exact s.write_put accounts on edit.apply written
      | reset on =>
          cases told
          obtain ⟨accounts,written,same⟩ := Option.bind_eq_some_iff.mp performed
          cases same
          exact s.write_put accounts on _ written
      | _ => cases told

theorem act_wroteSpec (s next : Session) (act : Act) (report : Report) (on : String)
    (f : Option String → Option String) (writes : act.specWrites? = some (on,f))
    (performed : s.perform act = some (next,report)) :
    ∃ cell, s.specs.handles.get? on = some cell ∧ next = {s with specs := s.specs.amend cell [f]} := by
  have written : ∃ specs, s.specs.write on f = some specs ∧ next = {s with specs := specs} := by
    cases act with
    | found name => cases writes
    | write on f => cases writes
    | writeSpec on f =>
        cases writes
        obtain ⟨specs,written,same⟩ := Option.map_eq_some_iff.mp performed
        cases same
        exact ⟨specs,written,rfl⟩
    | step st =>
        cases st with
        | setSpec on spec =>
            cases writes
            obtain ⟨specs,written,same⟩ := Option.bind_eq_some_iff.mp performed
            cases same
            exact ⟨specs,written,rfl⟩
        | _ => cases writes
  obtain ⟨specs,written,rfl⟩ := written
  obtain ⟨cell,bound,rfl⟩ := write_cell _ _ on f written
  exact ⟨cell,bound,rfl⟩

end Session

namespace Ledger

open Session

theorem wrote_states (l : Ledger) (write : String × (Account → Account)) : (l.wrote write).states = l.states := by
  unfold wrote
  split <;> rfl

theorem wrote_value (l : Ledger) (write : String × (Account → Account)) (cell : Nat) :
    (l.wrote write).accounts.value? cell =
      (l.accounts.value? cell).map fun a => (l.reaching cell [write]).foldl (fun a f => f a) a := by
  unfold wrote reaching
  rw [List.filterMap_cons,List.filterMap_nil]
  cases l.states write.1 with
  | none => simp
  | some own =>
      simp only [Column.value?,Column.wrote,History.onCell,List.filterMap_append,List.foldl_append,Option.map_map]
      by_cases same : own.account = cell <;> simp [same,Function.comp_def]

theorem wroteAll_states (l : Ledger) (writes : List (String × (Account → Account))) :
    (writes.foldl wrote l).states = l.states := by
  induction writes generalizing l with
  | nil => rfl
  | cons write rest ih => rw [List.foldl_cons,ih,wrote_states]

theorem wroteAll_value (l : Ledger) (writes : List (String × (Account → Account))) (cell : Nat) :
    (writes.foldl wrote l).accounts.value? cell =
      (l.accounts.value? cell).map fun a => (l.reaching cell writes).foldl (fun a f => f a) a := by
  induction writes generalizing l with
  | nil => simp [reaching]
  | cons write rest ih =>
      have front : l.reaching cell (write :: rest) = l.reaching cell [write] ++ l.reaching cell rest :=
        List.filterMap_append (l := [write])
      have still : (l.wrote write).reaching cell rest = l.reaching cell rest := by
        rw [reaching,reaching,wrote_states]
      rw [List.foldl_cons,ih,wrote_value,still,front,Option.map_map]
      simp only [Function.comp_def,List.foldl_append]

-- The cells of both kinds are kept by the ledger, each with its side of the bindings.
structure Holds (l : Ledger) (s : Session) : Prop where
  accounts : Kept s.accounts l.accounts (Option.map Binding.account ∘ l.states)
  specs : Kept s.specs l.specs (Option.map Binding.spec ∘ l.states)

theorem empty_holds (outlet : Outlet) : empty.Holds (bare outlet) := ⟨empty_kept,empty_kept⟩

namespace Holds

variable {l : Ledger} {s next : Session}

theorem account_names (holds : l.Holds s) (name : String) :
    s.accounts.handles.get? name = (l.states name).map Binding.account := congrFun holds.accounts.names name

theorem spec_names (holds : l.Holds s) (name : String) :
    s.specs.handles.get? name = (l.states name).map Binding.spec := congrFun holds.specs.names name

theorem bind {c : Column Account} {d : Column (Option String)} (name : String) (binding : Option Binding)
    (accounts : Kept next.accounts c
      (Function.update (Option.map Binding.account ∘ l.states) name (binding.map Binding.account)))
    (specs : Kept next.specs d (Function.update (Option.map Binding.spec ∘ l.states) name (binding.map Binding.spec))) :
    Holds ⟨Function.update l.states name binding,c,d⟩ next :=
  ⟨by rwa [Function.comp_update],by rwa [Function.comp_update]⟩

theorem found (holds : l.Holds s) (name : String) : (l.record (.found name)).Holds (s.found name) :=
  bind name _ (holds.accounts.create name .initial) (holds.specs.create name none)

theorem put (holds : l.Holds s) (write : String × (Account → Account)) : (l.wrote write).Holds (s.put write) := by
  unfold Session.put
  rw [holds.account_names]
  cases bound : l.states write.1 with
  | none => simpa only [Ledger.wrote,bound,Option.map_none] using holds
  | some own =>
      simp only [Ledger.wrote,bound]
      exact ⟨holds.accounts.amend write.1 own.account [write.2] (by simp [bound]),holds.specs⟩

theorem puts (holds : l.Holds s) (writes : List (String × (Account → Account))) :
    (writes.foldl Ledger.wrote l).Holds (writes.foldl Session.put s) := by
  induction writes generalizing l s with
  | nil => exact holds
  | cons write rest ih => exact ih (holds.put write)

theorem wroteSpec (holds : l.Holds s) (on : String) (f : Option String → Option String) (cell : Nat)
    (bound : s.specs.handles.get? on = some cell) :
    (l.wroteSpec on f).Holds {s with specs := s.specs.amend cell [f]} := by
  rw [holds.spec_names] at bound
  obtain ⟨own,there,rfl⟩ := Option.map_eq_some_iff.mp bound
  simp only [Ledger.wroteSpec,there]
  exact ⟨holds.accounts,holds.specs.amend on own.spec [f] (by simp [there])⟩

theorem clone (holds : l.Holds s) (on name : String) (accounts : Shelf Account) (specs : Shelf (Option String))
    (one : s.accounts.share name on = some accounts) (two : s.specs.share name on = some specs) :
    (l.record (.step (.clone on name))).Holds {s with accounts := accounts,specs := specs} :=
  bind name _ (holds.accounts.share name on one) (holds.specs.share name on two)

theorem spec_lent (holds : l.Holds s) (name source : String) {specs : Shelf (Option String)}
    (shared : s.specs.share name source = some specs) : ∃ own, l.states source = some own := by
  obtain ⟨_,bound⟩ := holds.specs.shared_bound name source shared
  obtain ⟨own,there,_⟩ := Option.map_eq_some_iff.mp bound
  exact ⟨own,there⟩

theorem account_lent (holds : l.Holds s) (name source : String) {accounts : Shelf Account}
    (shared : s.accounts.share name source = some accounts) : ∃ own, l.states source = some own := by
  obtain ⟨_,bound⟩ := holds.accounts.shared_bound name source shared
  obtain ⟨own,there,_⟩ := Option.map_eq_some_iff.mp bound
  exact ⟨own,there⟩

theorem withAccount (holds : l.Holds s) (on name : String) (accountOf : Option String) (report : Report)
    (stepped : s.step (.withAccount on accountOf name) = some (next,report)) :
    (l.record (.step (.withAccount on accountOf name))).Holds next := by
  cases accountOf with
  | none =>
      obtain ⟨specs,shared,same⟩ := Option.bind_eq_some_iff.mp stepped
      cases same
      obtain ⟨own,there⟩ := holds.spec_lent name on shared
      refine bind name _ ?_ ?_
      · simpa [there] using holds.accounts.create name .initial
      · simpa [there,Ledger.bind] using holds.specs.share name on shared
  | some source =>
      obtain ⟨accounts,lent,later⟩ := Option.bind_eq_some_iff.mp stepped
      obtain ⟨specs,shared,same⟩ := Option.bind_eq_some_iff.mp later
      cases same
      obtain ⟨other,there⟩ := holds.account_lent name source lent
      obtain ⟨own,here⟩ := holds.spec_lent name on shared
      refine bind name _ ?_ ?_
      · simpa [there,here] using holds.accounts.share name source lent
      · simpa [there,here] using holds.specs.share name on shared

theorem drop (holds : l.Holds s) (name : String) :
    (l.record (.step (.drop name))).Holds {s with accounts := s.accounts.drop name,specs := s.specs.drop name} :=
  bind name _ (holds.accounts.drop name) (holds.specs.drop name)

theorem mark (holds : l.Holds s) (watch : String) (marked : s.mark watch = some next) : l.Holds next := by
  unfold Session.mark at marked
  cases found : s.accounts.mark watch with
  | some accounts =>
      simp only [found,Option.some.injEq] at marked
      subst marked
      exact ⟨holds.accounts.mark watch found,holds.specs⟩
  | none =>
      simp only [found,Option.map_eq_some_iff] at marked
      obtain ⟨specs,found,rfl⟩ := marked
      exact ⟨holds.accounts,holds.specs.mark watch found⟩

-- Whatever an act does to the cells is what the ledger records of it.
theorem act (holds : l.Holds s) (act : Act) (report : Report) (performed : s.perform act = some (next,report)) :
    (l.record act).Holds next := by
  have writes := fun all told => s.act_puts next act report all told performed
  have writesSpec := fun on f told => s.act_wroteSpec next act report on f told performed
  cases act with
  | found name =>
      cases performed
      exact holds.found name
  | write on f => exact writes _ rfl ▸ holds.puts _
  | writeSpec on f =>
      obtain ⟨cell,bound,rfl⟩ := writesSpec on _ rfl
      exact holds.wroteSpec on f cell bound
  | step st =>
      cases st with
      | call on started => exact writes _ rfl ▸ holds.puts _
      | overlap calls order => exact writes _ rfl ▸ holds.puts _
      | edit on edit => exact writes _ rfl ▸ holds.puts _
      | reset on => exact writes _ rfl ▸ holds.puts _
      | setSpec on spec =>
          obtain ⟨cell,bound,rfl⟩ := writesSpec on _ rfl
          exact holds.wroteSpec on _ cell bound
      | isLoggedIn on =>
          obtain ⟨account,_,same⟩ := Option.bind_eq_some_iff.mp performed
          cases same
          exact holds
      | subscribe on watch =>
          obtain ⟨accounts,made,same⟩ := Option.bind_eq_some_iff.mp performed
          cases same
          exact ⟨holds.accounts.subscribe on watch made,holds.specs⟩
      | subscribeSpec on watch =>
          obtain ⟨specs,made,same⟩ := Option.bind_eq_some_iff.mp performed
          cases same
          exact ⟨holds.accounts,holds.specs.subscribe on watch made⟩
      | observe watch =>
          obtain ⟨answer,_,later⟩ := Option.bind_eq_some_iff.mp performed
          obtain ⟨marked,made,same⟩ := Option.bind_eq_some_iff.mp later
          cases same
          exact holds.mark watch made
      | peek watch =>
          obtain ⟨answer,_,same⟩ := Option.bind_eq_some_iff.mp performed
          cases same
          exact holds
      | unsubscribe watch =>
          cases performed
          exact ⟨holds.accounts.unsubscribe watch,holds.specs.unsubscribe watch⟩
      | closeNotices =>
          cases performed
          exact ⟨holds.accounts,holds.specs⟩
      | clone on name =>
          obtain ⟨accounts,one,later⟩ := Option.bind_eq_some_iff.mp performed
          obtain ⟨specs,two,same⟩ := Option.bind_eq_some_iff.mp later
          cases same
          exact holds.clone on name accounts specs one two
      | withAccount on accountOf name => exact holds.withAccount on name accountOf report performed
      | drop on =>
          cases performed
          exact holds.drop on

theorem shows (holds : l.Holds s) : l.Shows s where
  absent name none := by
    refine ⟨holds.accounts.snapshot_absent name ?_,holds.specs.snapshot_absent name ?_⟩
    all_goals simp [none]
  account name own there := holds.accounts.snapshot name own.account (by simp [there])
  spec name own there := holds.specs.snapshot name own.spec (by simp [there])
  unwatched watch := ⟨holds.accounts.look_absent watch,holds.specs.look_absent watch⟩
  accountWatch watch cell found := by
    obtain ⟨change,account,looked,known,closed⟩ := holds.accounts.look watch cell found
    exact ⟨change,account,looked,known,by simpa [Closes] using closed⟩
  specWatch watch cell found := by
    obtain ⟨change,spec,looked,known,closed⟩ := holds.specs.look watch cell found
    exact ⟨change,spec,looked,known,by simpa [Closes] using closed⟩

theorem answers (holds : l.Holds s) (watch : String) (answer : Answer) (looked : s.look watch = some answer) :
    l.Answers watch answer := by
  unfold Session.look at looked
  unfold Answers
  cases account : l.accounts.watches watch with
  | some cell =>
      obtain ⟨change,value,found,known,closes⟩ := holds.shows.accountWatch watch cell account
      rw [found] at looked
      exact ⟨change,value,(Option.some.inj looked).symm,known,closes⟩
  | none =>
      rw [(holds.shows.unwatched watch).1 account] at looked
      obtain ⟨⟨change,value⟩,found,same⟩ := Option.map_eq_some_iff.mp looked
      cases spec : l.specs.watches watch with
      | none => simp [(holds.shows.unwatched watch).2 spec] at found
      | some cell =>
          obtain ⟨_,_,again,known,closes⟩ := holds.shows.specWatch watch cell spec
          cases found.symm.trans again
          exact ⟨cell,change,value,rfl,same.symm,known,closes⟩

theorem reports (holds : l.Holds s) (act : Act) (report : Report) (performed : s.perform act = some (next,report)) :
    l.Reports act report := by
  cases act with
  | step st =>
      cases st with
      | observe watch =>
          obtain ⟨answer,looked,later⟩ := Option.bind_eq_some_iff.mp performed
          obtain ⟨marked,_,same⟩ := Option.bind_eq_some_iff.mp later
          cases same
          exact holds.answers watch answer looked
      | peek watch =>
          obtain ⟨answer,looked,same⟩ := Option.bind_eq_some_iff.mp performed
          cases same
          exact holds.answers watch answer looked
      | _ => trivial
  | _ => trivial

theorem spreads (holds : l.Holds s) (act : Act) (report : Report) (performed : s.perform act = some (next,report)) :
    l.Spreads s act next where
  account writes told := by
    rw [s.act_puts next act report writes told performed]
    have after := (holds.puts writes).shows
    refine ⟨congrArg Shelf.snapshot? (s.puts_specs writes),fun on own there => ?_⟩
    obtain ⟨before,known,here⟩ := holds.shows.account on own there
    refine ⟨before,here,fun name other known' same => ?_⟩
    obtain ⟨_,valued,shown⟩ := holds.shows.account name other known'
    obtain ⟨_,valuedAfter,shownAfter⟩ := after.account name other (by rwa [wroteAll_states])
    rw [same,known] at valued
    rw [same,wroteAll_value,known] at valuedAfter
    cases valued
    cases valuedAfter
    exact ⟨shown,shownAfter⟩
  spec on f own writes there := by
    obtain ⟨cell,bound,same⟩ := s.act_wroteSpec next act report on f writes performed
    rw [holds.spec_names,there,Option.map_some,Option.some.injEq] at bound
    obtain ⟨before,here,after⟩ := holds.specs.spread on own.spec [f] (by simp [there])
    rw [same,← bound]
    exact ⟨before,here,rfl,fun name other known => after name other.spec (by simp [known])⟩

theorem told (holds : l.Holds s) (acts : List Act) (trail : List (Report × Session))
    (performed : s.performAll acts = some trail) : l.Told s acts trail := by
  induction acts generalizing l s trail with
  | nil =>
      cases performed
      trivial
  | cons act rest ih =>
      simp only [performAll,Option.bind_eq_bind,Option.bind_eq_some_iff,Prod.exists,Option.some.injEq] at performed
      obtain ⟨next,report,one,later,more,rfl⟩ := performed
      have after := holds.act act report one
      exact ⟨holds.reports act report one,holds.spreads act report one,after.shows,ih after later more⟩

theorem overlap_runs (holds : l.Holds s) (calls : List (String × Started)) (order : List Nat)
    (there : ∀ call ∈ calls, (l.states call.1).isSome) (once : order.Nodup)
    (begun : ∀ number ∈ order, number < calls.length) : ∃ result, s.step (.overlap calls order) = some result := by
  have present : Flight.Present s calls := by
    intro call member
    obtain ⟨own,bound⟩ := Option.isSome_iff_exists.mp (there call member)
    obtain ⟨before,_,here⟩ := holds.shows.account call.1 own bound
    exact Option.isSome_iff_exists.mpr ⟨before,here⟩
  have same : (order.pmap Fin.mk begun).map Fin.val = order := by simp [List.map_pmap]
  have timely := Flight.schedule_timely calls (order.pmap Fin.mk begun) (.of_map Fin.val (by rwa [same]))
  rw [same] at timely
  obtain ⟨landed,flown⟩ := Flight.timely_run (.idle s) _ [] timely (Flight.idle_open s)
    (by rwa [Flight.schedule_starts])
  exact ⟨_,by simp [Session.step,flown]; rfl⟩

theorem looks (holds : l.Holds s) (watch : String)
    (there : (l.accounts.watches watch).isSome ∨ (l.specs.watches watch).isSome) :
    ∃ answer, s.look watch = some answer := by
  unfold Session.look
  rcases there with account | spec
  · obtain ⟨cell,found⟩ := Option.isSome_iff_exists.mp account
    obtain ⟨change,value,looked,_⟩ := holds.accounts.look watch cell found
    exact ⟨_,by rw [looked]⟩
  · obtain ⟨cell,found⟩ := Option.isSome_iff_exists.mp spec
    obtain ⟨change,value,looked,_⟩ := holds.specs.look watch cell found
    rw [looked]
    split <;> exact ⟨_,rfl⟩

theorem marks (holds : l.Holds s) (watch : String)
    (there : (l.accounts.watches watch).isSome ∨ (l.specs.watches watch).isSome) :
    ∃ marked, s.mark watch = some marked := by
  unfold Session.mark
  rcases there with account | spec
  · obtain ⟨accounts,marked⟩ := holds.accounts.marks watch account
    exact ⟨_,by rw [marked]⟩
  · obtain ⟨specs,marked⟩ := holds.specs.marks watch spec
    rw [marked]
    split <;> exact ⟨_,rfl⟩

theorem runs (holds : l.Holds s) (act : Act) (allowed : l.Allows act) :
    ∃ next report, s.perform act = some (next,report) := by
  have account : ∀ on, (l.states on).isSome → ((Option.map Binding.account ∘ l.states) on).isSome := by simp
  have spec : ∀ on, (l.states on).isSome → ((Option.map Binding.spec ∘ l.states) on).isSome := by simp
  cases act with
  | found name => exact ⟨_,_,rfl⟩
  | write on f =>
      obtain ⟨accounts,written⟩ := holds.accounts.writes on f (account on allowed)
      exact ⟨_,_,by simp [perform,written]; rfl⟩
  | writeSpec on f =>
      obtain ⟨specs,written⟩ := holds.specs.writes on f (spec on allowed)
      exact ⟨_,_,by simp [perform,written]; rfl⟩
  | step st =>
      cases st with
      | call on started =>
          obtain ⟨cell,bound⟩ := Option.isSome_iff_exists.mp (account on allowed)
          exact ⟨_,_,s.call_bound on cell started (by rw [holds.accounts.names,bound])⟩
      | overlap calls order =>
          obtain ⟨⟨next,report⟩,ran⟩ := holds.overlap_runs calls order allowed.1 allowed.2.1 allowed.2.2
          exact ⟨next,report,ran⟩
      | edit on edit =>
          obtain ⟨accounts,written⟩ := holds.accounts.writes on edit.apply (account on allowed)
          exact ⟨_,_,by simp [perform,Session.step,written]; rfl⟩
      | reset on =>
          obtain ⟨accounts,written⟩ := holds.accounts.writes on (fun _ => .initial) (account on allowed)
          exact ⟨_,_,by simp [perform,Session.step,written]; rfl⟩
      | setSpec on value =>
          obtain ⟨specs,written⟩ := holds.specs.writes on (fun _ => value) (spec on allowed)
          exact ⟨_,_,by simp [perform,Session.step,written]; rfl⟩
      | isLoggedIn on =>
          obtain ⟨own,there⟩ := Option.isSome_iff_exists.mp allowed
          obtain ⟨before,_,here⟩ := holds.shows.account on own there
          exact ⟨_,_,by simp [perform,Session.step,here]; rfl⟩
      | subscribe on watch =>
          obtain ⟨accounts,made⟩ := holds.accounts.subscribes on watch (account on allowed)
          exact ⟨_,_,by simp [perform,Session.step,made]; rfl⟩
      | subscribeSpec on watch =>
          obtain ⟨specs,made⟩ := holds.specs.subscribes on watch (spec on allowed)
          exact ⟨_,_,by simp [perform,Session.step,made]; rfl⟩
      | observe watch =>
          obtain ⟨answer,looked⟩ := holds.looks watch allowed
          obtain ⟨marked,made⟩ := holds.marks watch allowed
          exact ⟨_,_,by simp [perform,Session.step,looked,made]; rfl⟩
      | peek watch =>
          obtain ⟨answer,looked⟩ := holds.looks watch allowed
          exact ⟨_,_,by simp [perform,Session.step,looked]; rfl⟩
      | unsubscribe watch => exact ⟨_,_,rfl⟩
      | closeNotices => exact ⟨_,_,rfl⟩
      | clone on name =>
          obtain ⟨accounts,one⟩ := holds.accounts.shares name on (account on allowed)
          obtain ⟨specs,two⟩ := holds.specs.shares name on (spec on allowed)
          exact ⟨_,_,by simp [perform,Session.step,one,two]; rfl⟩
      | withAccount on accountOf name =>
          obtain ⟨specs,two⟩ := holds.specs.shares name on (spec on allowed.1)
          cases accountOf with
          | none => exact ⟨_,_,by simp [perform,Session.step,two]; rfl⟩
          | some source =>
              obtain ⟨accounts,one⟩ := holds.accounts.shares name source (account source (allowed.2 source rfl))
              exact ⟨_,_,by simp [perform,Session.step,one,two]; rfl⟩
      | drop on => exact ⟨_,_,rfl⟩

theorem allowed_runs (holds : l.Holds s) (acts : List Act) (allowed : l.Allowed acts) :
    ∃ trail, s.performAll acts = some trail := by
  induction acts generalizing l s with
  | nil => exact ⟨[],rfl⟩
  | cons act rest ih =>
      obtain ⟨first,later⟩ := allowed
      obtain ⟨next,report,one⟩ := holds.runs act first
      obtain ⟨trail,more⟩ := ih (holds.act act report one) later
      exact ⟨(report,next) :: trail,by simp [performAll,one,more]⟩

end Holds

end Ledger

-- States made anew, by cloning or with the account of another, dropped in any
-- order, written directly or by calls: after every act each state shows what
-- was written, through whatever states, to the cells that it is bound to, and
-- a watch is closed just if no state is bound to its cell any more.
theorem acts_shared (outlet : Outlet) (acts : List Act) :
    (Ledger.empty.Allowed acts → ∃ trail, (Session.bare outlet).performAll acts = some trail) ∧
    ∀ trail, (Session.bare outlet).performAll acts = some trail → Ledger.empty.Told (Session.bare outlet) acts trail :=
  ⟨(Ledger.empty_holds outlet).allowed_runs acts,(Ledger.empty_holds outlet).told acts⟩

-- The account of a second new state is exchanged for that of a clone, which had
-- got one of its own before. Two states share an account then and not their
-- specifications, and nobody is left to whom the exchanged account belongs.
def crossing : List Act := [
  .found "main",.step (.clone "main" "b"),.step (.withAccount "b" none "c"),.found "d",
  .step (.subscribe "d" "w"),.step (.withAccount "d" (some "c") "d"),.step (.drop "b"),
  .step (.call "d" ⟨⟨"tok","bob@example.com"⟩,.login (.ok ⟨none,some "bob",none⟩)⟩),
  .step (.setSpec "c" (some "openapi.json"))]

theorem acts_shared_crossing : ∃ trail, (Session.bare .listener).performAll crossing = some trail ∧
    Ledger.empty.Told (Session.bare .listener) crossing trail ∧
    let last := (Session.bare .listener).last trail
    last.accounts.snapshot? "main" = some .initial ∧
    last.accounts.snapshot? "c" = some ⟨false,.present (.loggedIn (some "bob") none)⟩ ∧
    last.accounts.snapshot? "d" = last.accounts.snapshot? "c" ∧
    last.specs.snapshot? "main" = some (some "openapi.json") ∧ last.specs.snapshot? "d" = some none ∧
    last.accounts.look? "w" = some (.closed,.initial) := by
  have allowed : Ledger.empty.Allowed crossing := by
    refine ⟨trivial,rfl,⟨rfl,?_⟩,trivial,rfl,⟨rfl,?_⟩,trivial,rfl,rfl,trivial⟩
    · rintro source ⟨⟩
    · rintro source ⟨⟩
      rfl
  obtain ⟨trail,performed⟩ := (acts_shared .listener crossing).1 allowed
  refine ⟨trail,performed,(acts_shared .listener crossing).2 trail performed,?_⟩
  cases performed
  decide +kernel

end AccountLink
