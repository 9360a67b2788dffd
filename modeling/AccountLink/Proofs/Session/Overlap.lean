import AccountLink.Proofs.Session.Interleaving

namespace AccountLink

open Flight

namespace Flight

theorem starts_timely (calls : List (String × Started)) (count : Nat) (ended : List Nat) (rest : List Move)
    (later : Timely (count+calls.length) ended rest) : Timely count ended (calls.map .start ++ rest) := by
  induction calls generalizing count with
  | nil => exact later
  | cons first others ih =>
      refine .start (ih (count+1) ?_)
      rwa [Nat.add_assoc,Nat.add_comm 1]

theorem ends_timely (moves : List Move) (numbers : List Nat) (count : Nat) (ended : List Nat)
    (ending : moves.map Move.ends? = numbers.map some) (once : numbers.Nodup) (begun : ∀ n ∈ numbers, n < count)
    (still : ∀ n ∈ numbers, n ∉ ended) : Timely count ended moves := by
  induction moves generalizing numbers ended with
  | nil => exact .nil
  | cons m rest ih =>
      cases numbers with
      | nil => cases ending
      | cons number others =>
          obtain ⟨first,ending⟩ := List.cons.inj ending
          obtain ⟨new,once⟩ := List.nodup_cons.mp once
          refine .ends first (begun number (by simp)) (still number (by simp)) (ih others _ ending once ?_ ?_)
          · exact fun n member => begun n (by simp [member])
          · intro n member
            simp only [List.mem_cons,not_or]
            exact ⟨fun same => new (same ▸ member),still n (by simp [member])⟩

def remaining (count : Nat) (order : List Nat) : List Nat :=
  (List.range count).filter fun number => !order.contains number

theorem mem_remaining (count : Nat) (order : List Nat) (number : Nat) :
    number ∈ remaining count order ↔ number < count ∧ number ∉ order := by
  simp [remaining]

theorem schedule_timely (calls : List (String × Started)) (order : List (Fin calls.length)) (once : order.Nodup) :
    Timely 0 [] (schedule calls (order.map Fin.val)) := by
  unfold schedule
  rw [List.append_assoc]
  refine starts_timely calls 0 [] _ (ends_timely _ (order.map Fin.val ++ remaining calls.length (order.map Fin.val))
    _ [] ?_ ?_ ?_ (by simp))
  · simp [remaining,Function.comp_def,Move.ends?]
  · have injective : Function.Injective (Fin.val : Fin calls.length → Nat) := fun _ _ same => Fin.ext same
    refine (once.map injective).append (List.nodup_range.filter _) ?_
    intro number completed left
    exact ((mem_remaining _ _ _).mp left).2 completed
  · intro n member
    rcases List.mem_append.mp member with completed | left
    · obtain ⟨which,_,rfl⟩ := List.mem_map.mp completed
      rw [Nat.zero_add]
      exact which.isLt
    · rw [Nat.zero_add]
      exact ((mem_remaining _ _ _).mp left).1

theorem schedule_starts (calls : List (String × Started)) (order : List Nat) :
    (schedule calls order).filterMap Move.starts? = calls := by
  simp [schedule,Function.comp_def,Move.starts?]

theorem schedule_completes (calls : List (String × Started)) (order : List Nat) :
    (schedule calls order).filterMap Move.completes? = order := by
  simp [schedule,Function.comp_def,Move.completes?]

theorem told_unique (calls : List (String × Started)) (one two : List (Nat × Result × Account)) (trail : List (Report × Session))
    (first : List.Forall₂ (Told calls) one trail) (second : List.Forall₂ (Told calls) two trail)
    (numbers : one.map (·.1) = two.map (·.1)) : one = two := by
  induction first generalizing two with
  | nil =>
      cases second
      rfl
  | @cons entry seen others trail told _ ih =>
      cases second with
      | @cons other _ more _ also second =>
          obtain ⟨number,numbers⟩ := List.cons.inj numbers
          obtain ⟨answer,call,known,left⟩ := told
          obtain ⟨again,_,knownToo,leftToo⟩ := also
          change entry.1 = other.1 at number
          rw [← number,known] at knownToo
          cases knownToo
          rw [again,Answer.result.injEq] at answer
          rw [leftToo,Option.some.injEq] at left
          have same : entry = other := Prod.ext number (Prod.ext answer.symm left.symm)
          rw [same,ih more second numbers]

theorem done_known (calls : List (String × Started)) (order : List (Fin calls.length)) (done : List (Nat × String × Started))
    (numbers : done.map (·.1) = order.map Fin.val) (known : ∀ call ∈ done, calls[call.1]? = some call.2) :
    done.map (·.2) = order.map fun n => calls[n] := by
  induction order generalizing done with
  | nil => simpa using numbers
  | cons n rest ih =>
      cases done with
      | nil => cases numbers
      | cons call others =>
          obtain ⟨number,numbers⟩ := List.cons.inj numbers
          simp only at number
          have here := known call (by simp)
          rw [number,List.getElem?_eq_getElem n.isLt,Option.some.injEq] at here
          rw [List.map_cons,List.map_cons,ih others numbers fun other member => known other (by simp [member]),← here]
          rfl

theorem run_completed (s : Session) (calls : List (String × Started)) (order : List (Fin calls.length))
    (there : Present s calls) (moves : List Move) (timely : Timely 0 [] moves)
    (starts : moves.filterMap Move.starts? = calls) (completes : moves.filterMap Move.completes? = order.map Fin.val) :
    ∃ landed trail, Flight.run (.idle s) moves = some landed ∧
      s.run (order.map fun n => .call calls[n].1 calls[n].2) = some trail ∧ landed.session = s.last trail ∧
      landed.asked = (calls.map fun call => call.2.request) ∧ landed.trace = Session.traced trail ∧
      landed.completions.map (·.1) = order.map Fin.val ∧ List.Forall₂ (Told calls) landed.completions trail := by
  obtain ⟨landed,flown⟩ := timely_run (.idle s) moves [] timely (idle_open s) (starts ▸ there)
  obtain ⟨done,trail,sequel,numbers,all⟩ := (Sequel.idle s).run moves landed flown
  simp only [List.nil_append] at sequel
  have all : landed.started = calls := all.trans starts
  have known : done.map (·.2) = order.map fun n => calls[n] :=
    done_known calls order done (numbers.trans completes) (all ▸ sequel.known)
  have ran := sequel.ran
  have steps : (done.map fun call => Step.call call.2.1 call.2.2) =
      (done.map (·.2)).map fun call => Step.call call.1 call.2 := by
    rw [List.map_map]
    rfl
  rw [steps,known,List.map_map] at ran
  refine ⟨landed,trail,flown,ran,sequel.session,?_,sequel.trace,?_,all ▸ sequel.told⟩
  · rw [sequel.asked,all]
  · rw [sequel.numbers,numbers,completes]

end Flight

-- Calls that are under way together, on whatever states, of which those in `order` complete and the
-- others never do: the session, what is delivered and logged, and what is said
-- of each completed call are those of the run that makes just the completed
-- calls, one after another in that order. Only what the backend is asked shows
-- the others. It does not matter when a call starts, or when one is given up.
theorem overlap_sequential (s : Session) (calls : List (String × Started)) (order : List (Fin calls.length))
    (there : Present s calls) (once : order.Nodup) :
    ∃ trail completions, s.run (order.map fun n => .call calls[n].1 calls[n].2) = some trail ∧
      (s.last trail).specs = s.specs ∧
      completions.map (·.1) = order.map Fin.val ∧ List.Forall₂ (Told calls) completions trail ∧
      s.step (.overlap calls (order.map Fin.val)) =
        some (s.last trail,⟨.completions completions,calls.map fun call => call.2.request,Session.traced trail⟩) ∧
      ∀ moves, Timely 0 [] moves → moves.filterMap Move.starts? = calls →
        moves.filterMap Move.completes? = order.map Fin.val →
        ∃ landed, Flight.run (.idle s) moves = some landed ∧ landed.session = s.last trail ∧
          landed.asked = (calls.map fun call => call.2.request) ∧ landed.trace = Session.traced trail ∧
          landed.completions = completions := by
  obtain ⟨landed,trail,flown,ran,session,asked,trace,numbers,told⟩ :=
    run_completed s calls order there _ (schedule_timely calls order once)
      (schedule_starts calls _) (schedule_completes calls _)
  refine ⟨trail,landed.completions,ran,?_,numbers,told,?_,?_⟩
  · refine s.calls_specs (order.map fun n => calls[n]) trail ?_
    rwa [List.map_map]
  · simp [Session.step,flown,session,asked,trace]
  · intro moves timely starts completes
    obtain ⟨other,again,flown,same,session,asked,trace,numbers',told'⟩ :=
      run_completed s calls order there moves timely starts completes
    obtain rfl : trail = again := Option.some.inj (ran.symm.trans same)
    refine ⟨other,flown,session,asked,trace,?_⟩
    exact told_unique calls _ _ trail told' told (numbers'.trans numbers.symm)

-- Two logins and a logout, on a state and on a clone of it. The logout is given up, and the login that started
-- first completes last.
def rush : List (String × Started) := [
  ("main",⟨⟨"tok","ann@example.com"⟩,.login (.ok ⟨none,some "ann",some "1"⟩)⟩),
  ("twin",⟨⟨"tok","bob@example.com"⟩,.login (.ok ⟨none,some "bob",none⟩)⟩),
  ("main",⟨⟨"tok","bob@example.com"⟩,.logout (.ok ⟨none⟩)⟩)]

def twins : Session := ⟨⟨[⟨.initial,0⟩],[("twin",0),("main",0)],[]⟩,⟨[⟨none,0⟩],[("twin",0),("main",0)],[]⟩,.listener⟩

theorem overlap_sequential_rush :
    ∃ trail completions, twins.run [.call "twin" rush[1].2,.call "main" rush[0].2] = some trail ∧
      completions.map (·.1) = [1,0] ∧
      twins.step (.overlap rush [1,0]) =
        some (twins.last trail,⟨.completions completions,rush.map fun call => call.2.request,Session.traced trail⟩) := by
  have there : Present twins rush := by
    intro call member
    simp only [rush,List.mem_cons,List.not_mem_nil,or_false] at member
    rcases member with rfl | rfl | rfl <;> rfl
  obtain ⟨trail,completions,ran,_,numbers,_,stepped,_⟩ :=
    overlap_sequential twins rush [⟨1,by decide⟩,⟨0,by decide⟩] there (by decide)
  exact ⟨trail,completions,ran,numbers,stepped⟩

end AccountLink
