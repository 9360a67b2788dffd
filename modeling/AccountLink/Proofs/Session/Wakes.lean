import AccountLink.Proofs.Session.Reached

namespace AccountLink

-- Whether a completed call writes the account, told by its kind and its outcome alone.
def Completion.wakes : Completion → Bool
  | .login _ => true
  | .logout (.ok _) => true
  | .logout (.error _) => false
  | .adminLogin _ => true
  | .createUser _ _ => false
  | .listFiles _ _ => false
  | .fetchFile _ (.ok reply) => (contentOf reply).balance.isSome
  | .fetchFile _ (.error _) => false

theorem edits_wakes (c : Completion) : c.edits.length = if c.wakes then 1 else 0 := by
  cases c with
  | login reply => cases reply <;> rfl
  | logout reply => cases reply <;> rfl
  | adminLogin reply => cases reply <;> rfl
  | createUser user reply => cases reply <;> rfl
  | listFiles path reply => cases reply <;> rfl
  | fetchFile path reply =>
      cases reply with
      | error cause => rfl
      | ok reply =>
          cases found : (Completion.contentOf reply).balance with
          | none => simp [edits_unbilled path reply found,Completion.wakes,found]
          | some balance => simp [edits_fetched path reply balance found,Completion.wakes,found]

namespace Shelf

variable {α : Type}

structure Rewritten (shelf next : Shelf α) (cell : Nat) (was : Cell α) (value : α) : Prop where
  before : shelf.cells[cell]? = some was
  after : next.cells[cell]? = some ⟨value,was.writes+1⟩
  others : ∀ other, other ≠ cell → next.cells[other]? = shelf.cells[other]?
  handles : next.handles = shelf.handles
  watches : next.watches = shelf.watches
  seen : ∀ name watch, next.watches.get? name = some watch → watch.cell = cell →
    next.look? name = some (.changed,value) ∧ ∃ marked, next.poll name = some (.changed,marked)

theorem poll_missed (shelf : Shelf α) (name : String) (watch : Watch) (cell : Cell α)
    (bound : shelf.watches.get? name = some watch) (found : shelf.cells[watch.cell]? = some cell)
    (missed : cell.writes ≠ watch.seen) : ∃ marked, shelf.poll name = some (.changed,marked) := by
  refine ⟨{shelf with watches := shelf.watches.bind name ⟨watch.cell,cell.writes⟩},?_⟩
  rw [poll_found shelf name watch cell bound found,if_neg missed,mark_found shelf name watch cell bound found]
  rfl

theorem Sound.rewritten {shelf : Shelf α} (sound : shelf.Sound) (name : String) (cell : Nat) (f : α → α)
    (bound : shelf.handles.get? name = some cell) :
    ∃ was, shelf.Rewritten (shelf.amend cell [f]) cell was (f was.value) := by
  obtain ⟨was,before,opened⟩ := sound.held name cell bound
  have after : (shelf.amend cell [f]).cells[cell]? = some ⟨f was.value,was.writes+1⟩ := by
    rw [amend_self,before]
    rfl
  refine ⟨was,before,after,fun other ne => amend_other shelf cell other [f] (Ne.symm ne),rfl,rfl,?_⟩
  rintro name watch watched rfl
  obtain ⟨found,here,behind⟩ := sound.behind name watch watched
  obtain rfl : was = found := Option.some.inj (before.symm.trans here)
  have missed : was.writes+1 ≠ watch.seen := by omega
  have still : (shelf.amend watch.cell [f]).isOpen watch.cell = true := opened
  refine ⟨?_,poll_missed _ name watch _ watched after missed⟩
  rw [look_found _ name watch _ watched after,if_neg missed,if_pos still]

end Shelf

namespace Session

structure Wakes (s : Session) (on : String) (c : Completion) (next : Session) : Prop where
  specs : next.specs = s.specs
  silent : c.wakes = false → next.accounts = s.accounts
  woken : c.wakes = true → ∃ cell was, s.accounts.handles.get? on = some cell ∧
    s.accounts.Rewritten next.accounts cell was (c.account was.value)

theorem settle_wakes (s : Session) (on : String) (cell : Nat) (c : Completion) (sound : s.Sound)
    (bound : s.accounts.handles.get? on = some cell) : s.Wakes on c (s.settle cell c.edits) where
  specs := rfl
  silent quiet := by
    have none : c.edits = [] := List.length_eq_zero_iff.mp (by rw [edits_wakes,quiet]; rfl)
    rw [none,settle_nil]
  woken wakes := by
    obtain ⟨edit,one⟩ := List.length_eq_one_iff.mp (by rw [edits_wakes,wakes]; rfl : c.edits.length = 1)
    obtain ⟨was,rewritten⟩ := sound.accounts.rewritten on cell edit.apply bound
    refine ⟨cell,was,bound,?_⟩
    rw [account_edits,one]
    exact rewritten

theorem bound_there (s : Session) (on : String) (sound : s.Sound) :
    (s.accounts.snapshot? on).isSome = (s.accounts.handles.get? on).isSome := by
  cases bound : s.accounts.handles.get? on with
  | none => simp [Shelf.snapshot?,Shelf.cellOf?,bound]
  | some cell =>
      obtain ⟨found,here,_⟩ := sound.accounts.held on cell bound
      rw [Shelf.snapshot_bound s.accounts on cell bound,here]
      rfl

theorem Wakes.handles {s next : Session} {on : String} {c : Completion} (wakes : s.Wakes on c next) :
    next.accounts.handles = s.accounts.handles := by
  cases told : c.wakes with
  | false => rw [wakes.silent told]
  | true =>
      obtain ⟨cell,was,_,rewritten⟩ := wakes.woken told
      exact rewritten.handles

theorem call_wakes (s : Session) (on : String) (started : Started) (sound : s.Sound)
    (there : (s.accounts.snapshot? on).isSome) :
    ∃ next report, s.step (.call on started) = some (next,report) ∧ s.Wakes on started.completion next := by
  rw [s.bound_there on sound] at there
  obtain ⟨cell,bound⟩ := Option.isSome_iff_exists.mp there
  exact ⟨_,_,s.call_bound on cell started bound,s.settle_wakes on cell started.completion sound bound⟩

def Woken : Session → List (String × Started) → List (Report × Session) → Prop
  | _,[],[] => True
  | s,call :: calls,(_,next) :: trail => s.Wakes call.1 call.2.completion next ∧ Woken next calls trail
  | _,_,_ => False

def wakers (s : Session) (cell : Nat) (calls : List (String × Started)) : Nat :=
  calls.countP fun call => s.accounts.handles.get? call.1 = some cell ∧ call.2.completion.wakes

theorem Wakes.counted {s next : Session} {on : String} {started : Started} (wakes : s.Wakes on started.completion next)
    (cell : Nat) (was : Cell Account) (before : s.accounts.cells[cell]? = some was) :
    ∃ now, next.accounts.cells[cell]? = some now ∧ now.writes = was.writes+s.wakers cell [(on,started)] := by
  cases told : started.completion.wakes with
  | false => exact ⟨was,by rw [wakes.silent told,before],by simp [wakers,told]⟩
  | true =>
      obtain ⟨hit,found,bound,rewritten⟩ := wakes.woken told
      by_cases same : cell = hit
      · subst same
        obtain rfl : found = was := Option.some.inj (rewritten.before.symm.trans before)
        exact ⟨_,rewritten.after,by simp [wakers,told,bound]⟩
      · exact ⟨was,by rw [rewritten.others cell same,before],by simp [wakers,bound,Ne.symm same]⟩

theorem run_woken (s : Session) (calls : List (String × Started)) (sound : s.Sound)
    (there : ∀ call ∈ calls, (s.accounts.snapshot? call.1).isSome) :
    ∃ trail, s.run (calls.map fun call => .call call.1 call.2) = some trail ∧ s.Woken calls trail ∧
      ∀ cell was, s.accounts.cells[cell]? = some was →
        ∃ now, (s.last trail).accounts.cells[cell]? = some now ∧ now.writes = was.writes+s.wakers cell calls := by
  induction calls generalizing s with
  | nil => exact ⟨[],rfl,trivial,fun cell was before => ⟨was,before,rfl⟩⟩
  | cons call rest ih =>
      obtain ⟨on,started⟩ := call
      obtain ⟨next,report,called,wakes⟩ := s.call_wakes on started sound (there (on,started) List.mem_cons_self)
      have after := s.call_sound next on started report sound called
      have still : ∀ call ∈ rest, (next.accounts.snapshot? call.1).isSome := by
        intro call member
        rw [next.bound_there call.1 after,wakes.handles,← s.bound_there call.1 sound]
        exact there call (List.mem_cons_of_mem _ member)
      obtain ⟨trail,ran,woken,counts⟩ := ih next after still
      refine ⟨_,s.run_cons next _ _ report trail called ran,⟨wakes,woken⟩,?_⟩
      intro cell was before
      obtain ⟨middle,here,one⟩ := wakes.counted cell was before
      obtain ⟨now,there,more⟩ := counts cell middle here
      refine ⟨now,by rw [last_cons,there],?_⟩
      have split : s.wakers cell ((on,started) :: rest) = s.wakers cell [(on,started)]+next.wakers cell rest := by
        unfold wakers
        rw [wakes.handles,← List.countP_append]
        rfl
      omega

end Session

namespace Flight

def Wakes (f : Flight) (m : Move) (next : Flight) : Prop :=
  match m with
  | .complete number => ∃ on started, f.waiting? number = some (on,started) ∧
      f.session.Wakes on started.completion next.session
  | .start _ => next.session = f.session
  | .cancel _ => next.session = f.session

theorem move_wakes (f next : Flight) (m : Move) (sound : f.session.Sound) (moved : f.move m = some next) :
    f.Wakes m next := by
  cases (move_exact f next m).mp moved with
  | start => rfl
  | @complete number on started later report result account waiting alone answer left =>
      have after := Session.call_sound _ _ _ _ _ sound alone
      obtain ⟨trace,completed,_⟩ := Session.call_parts alone
      have there : (f.session.accounts.snapshot? on).isSome := by
        rw [f.session.bound_there on sound,← (Session.applyEffects_kept _ _ on _ trace completed).2,
          ← later.bound_there on after,left]
        rfl
      obtain ⟨_,_,again,wakes⟩ := f.session.call_wakes on started sound there
      cases alone.symm.trans again
      exact ⟨on,started,waiting,wakes⟩
  | cancel waiting => rfl

theorem run_wakes (f landed : Flight) (front : List Move) (m : Move) (back : List Move) (sound : f.session.Sound)
    (flown : Flight.run f (front ++ m :: back) = some landed) :
    ∃ before next, Flight.run f front = some before ∧ before.move m = some next ∧ before.Wakes m next := by
  induction front generalizing f with
  | nil =>
      obtain ⟨next,moved,_⟩ := Option.bind_eq_some_iff.mp flown
      exact ⟨f,next,rfl,moved,f.move_wakes next m sound moved⟩
  | cons first rest ih =>
      obtain ⟨middle,moved,flown⟩ := Option.bind_eq_some_iff.mp flown
      have after := Session.flown_sound f middle [first] sound (by simp [Flight.run,moved])
      obtain ⟨before,next,ran,step,last⟩ := ih middle after flown
      exact ⟨before,next,by simp [Flight.run,moved,ran],step,last⟩

end Flight

open Flight

-- Every completed login and admin login, every logout that succeeds and every
-- reading that tells a balance writes its account just once, and whoever watches
-- it is told; all other calls leave the accounts as they are, with all that can
-- be seen of them. No call writes a specification. It does not matter whether
-- calls are made one after another or are under way together.
theorem calls_wake (s : Session) (reached : s.Reached) :
    (∀ calls : List (String × Started), (∀ call ∈ calls, (s.accounts.snapshot? call.1).isSome) →
      ∃ trail, s.run (calls.map fun call => .call call.1 call.2) = some trail ∧ s.Woken calls trail ∧
        ∀ cell was, s.accounts.cells[cell]? = some was →
          ∃ now, (s.last trail).accounts.cells[cell]? = some now ∧ now.writes = was.writes+s.wakers cell calls) ∧
    (∀ moves, Timely 0 [] moves → Present s (moves.filterMap Move.starts?) →
      ∃ landed, Flight.run (.idle s) moves = some landed) ∧
    ∀ front m back landed, Flight.run (.idle s) (front ++ m :: back) = some landed →
      ∃ before next, Flight.run (.idle s) front = some before ∧ before.move m = some next ∧ before.Wakes m next := by
  have sound := s.reached_sound reached
  refine ⟨fun calls there => s.run_woken calls sound there,fun moves timely there => ?_,fun front m back landed flown => ?_⟩
  · exact timely_run (.idle s) moves [] timely (idle_open s) there
  · exact run_wakes (.idle s) landed front m back sound flown

-- An admin login that is refused, while the account is watched: the account is
-- the one it was before, and the watch says that it changed.
def watched : Session := ⟨⟨[⟨.initial,0⟩],[("main",0)],[("w",⟨0,0⟩)]⟩,.single "main" none,.listener⟩

def turnedAway : Started := ⟨⟨"tok","bob@example.com"⟩,.adminLogin (.error (.status 403 ""))⟩

theorem watched_reached : watched.Reached :=
  @Session.Reached.step _ _ (.subscribe "main" "w") _ (@Session.Reached.start .listener .initial none) rfl

theorem calls_wake_refused :
    watched.accounts.look? "w" = some (.unchanged,.initial) ∧
    (∃ trail, watched.run [.call "main" turnedAway] = some trail ∧
      (watched.last trail).accounts.look? "w" = some (.changed,.initial)) ∧
    ∃ landed, Flight.run (.idle watched) [.start ("main",turnedAway),.complete 0] = some landed ∧
      landed.session.accounts.look? "w" = some (.changed,.initial) := by
  have unseen : watched.accounts.look? "w" = some (.unchanged,.initial) := by decide +kernel
  have bound : watched.accounts.handles.get? "main" = some 0 := by decide +kernel
  have watch : watched.accounts.watches.get? "w" = some ⟨0,0⟩ := by decide +kernel
  have same : turnedAway.completion.account .initial = .initial := by decide +kernel
  have told (next : Session) (wakes : watched.Wakes "main" turnedAway.completion next) :
      next.accounts.look? "w" = some (.changed,.initial) := by
    obtain ⟨cell,was,found,rewritten⟩ := wakes.woken rfl
    obtain rfl : 0 = cell := Option.some.inj (bound.symm.trans found)
    obtain rfl : ⟨.initial,0⟩ = was := Option.some.inj rewritten.before
    have told := (rewritten.seen "w" ⟨0,0⟩ (by rw [rewritten.watches,watch]) rfl).1
    rwa [same] at told
  obtain ⟨alone,lands,each⟩ := calls_wake watched watched_reached
  refine ⟨unseen,?_,?_⟩
  · obtain ⟨trail,ran,woken,_⟩ := alone [("main",turnedAway)] (by simp; decide +kernel)
    rw [List.map_singleton] at ran
    refine ⟨trail,ran,?_⟩
    cases trail with
    | nil => cases woken
    | cons first rest =>
        obtain ⟨report,next⟩ := first
        cases rest with
        | cons second others => exact absurd woken.2 id
        | nil => exact told next woken.1
  · have timely : Timely 0 [] [.start ("main",turnedAway),.complete 0] :=
      .start (.ends rfl (by decide) (by decide) .nil)
    obtain ⟨landed,flown⟩ := lands _ timely (by simp [Present,Move.starts?]; decide +kernel)
    obtain ⟨before,next,started,moved,wakes⟩ := each [.start ("main",turnedAway)] (.complete 0) [] landed flown
    cases started
    have ended := flown
    simp only [Flight.run,Option.bind_eq_bind,Option.bind_eq_some_iff] at ended
    obtain ⟨_,begun,last,done,same⟩ := ended
    cases begun
    cases moved.symm.trans done
    cases same
    obtain ⟨on,call,waiting,wakes⟩ := wakes
    cases waiting
    exact ⟨_,flown,told _ wakes⟩

end AccountLink
