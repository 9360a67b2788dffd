import AccountLink.Session

namespace AccountLink

def Caller.masked (c : Caller) : Caller := {c with token := ""}

def Request.masked (r : Request) : Request := {r with token := ""}

def Started.masked (s : Started) : Started := {s with caller := s.caller.masked}

def Step.masked : Step → Step
  | .call on started => .call on started.masked
  | .overlap calls order => .overlap (calls.map (Prod.map id Started.masked)) order
  | other => other

def Report.masked (r : Report) : Report := {r with asked := r.asked.map Request.masked}

theorem request_masked (s : Started) : s.masked.request = s.request.masked := by
  unfold Started.request
  change s.completion.call.request s.caller.masked = _
  cases s.completion.call <;> rfl

namespace Flight

def Move.masked : Move → Move
  | .start call => .start (Prod.map id Started.masked call)
  | other => other

def Task.masked (t : Task) : Task := {t with call := Prod.map id Started.masked t.call}

def masked (f : Flight) : Flight := {f with tasks := f.tasks.map Task.masked,asked := f.asked.map Request.masked}

theorem waiting_masked (f : Flight) (number : Nat) :
    f.masked.waiting? number = (f.waiting? number).map (Prod.map id Started.masked) := by
  unfold waiting?
  simp only [masked,List.getElem?_map]
  rcases f.tasks[number]? with _ | ⟨call,stage⟩
  · rfl
  · cases stage <;> rfl

theorem reach_masked (f : Flight) (number : Nat) (stage : Stage) :
    (f.reach number stage).masked = f.masked.reach number stage := by
  simp only [masked,reach,Flight.mk.injEq,true_and,and_true]
  refine List.ext_getElem? fun n => ?_
  simp only [List.getElem?_map,List.getElem?_modify]
  by_cases same : number = n <;> cases f.tasks[n]? <;> simp [same,Task.masked]

theorem move_masked (f : Flight) (m : Move) : (f.move m).map masked = f.masked.move (Move.masked m) := by
  cases m with
  | start call =>
      simp [move,masked,Move.masked,Task.masked,request_masked]
  | cancel number =>
      simp only [move,Move.masked,waiting_masked,Option.bind_eq_bind,Option.map_bind,Option.bind_map,Function.comp_def,
        Option.map_some,reach_masked]
  | complete number =>
      simp only [move,Move.masked,waiting_masked,Option.bind_eq_bind,Option.map_bind,Option.bind_map,Function.comp_def,
        Option.map_some,← reach_masked]
      rfl

theorem run_masked (f : Flight) (moves : List Move) :
    (Flight.run f moves).map masked = Flight.run f.masked (moves.map Move.masked) := by
  induction moves generalizing f with
  | nil => rfl
  | cons m rest ih =>
      simp only [Flight.run,List.map_cons,Option.bind_eq_bind,Option.map_bind,Function.comp_def,ih,← move_masked,
        Option.bind_map]

theorem schedule_masked (calls : List (String × Started)) (order : List Nat) :
    (schedule calls order).map Move.masked = schedule (calls.map (Prod.map id Started.masked)) order := by
  simp [schedule,Function.comp_def,Move.masked]

end Flight

namespace Session

theorem step_masked (s : Session) (st : Step) :
    (s.step st).map (Prod.map id Report.masked) = (s.step st.masked).map (Prod.map id Report.masked) := by
  cases st with
  | call on started =>
      simp only [step,Step.masked,Option.bind_eq_bind,Option.map_bind,Function.comp_def,Option.map_some,Prod.map,
        Report.masked,request_masked]
      rfl
  | overlap calls order =>
      have shown (calls : List (String × Started)) : (s.step (.overlap calls order)).map (Prod.map id Report.masked) =
          ((Flight.run (.idle s) (Flight.schedule calls order)).map Flight.masked).map
            fun f => (f.session,⟨.completions f.completions,f.asked,f.trace⟩) := by
        simp only [step,Option.bind_eq_bind,Option.map_bind,Option.map_map]
        cases Flight.run (.idle s) (Flight.schedule calls order) <;> rfl
      have again : Prod.map id Started.masked ∘ Prod.map id Started.masked = Prod.map (id : String → String) Started.masked := rfl
      simp only [Step.masked,shown,Flight.run_masked,Flight.schedule_masked,List.map_map,again]
  | _ => rfl

theorem step_alike (s : Session) {one two : Step} (same : one.masked = two.masked) :
    (s.step one).map (Prod.map id Report.masked) = (s.step two).map (Prod.map id Report.masked) := by
  rw [step_masked s one,same,← step_masked]

theorem trail_masked {α : Type} {f : α → α} {made other : Option (Session × α)}
    {later further : Session → Option (List (α × Session))}
    (first : made.map (Prod.map id f) = other.map (Prod.map id f))
    (rest : ∀ s, (later s).map (List.map (Prod.map f id)) = (further s).map (List.map (Prod.map f id))) :
    (made.bind fun seen => (later seen.1).bind fun rest => some ((seen.2,seen.1) :: rest)).map (List.map (Prod.map f id)) =
      (other.bind fun seen => (further seen.1).bind fun rest => some ((seen.2,seen.1) :: rest)).map
        (List.map (Prod.map f id)) := by
  have shown (made : Option (Session × α)) (later : Session → Option (List (α × Session))) :
      (made.bind fun seen => (later seen.1).bind fun rest => some ((seen.2,seen.1) :: rest)).map (List.map (Prod.map f id)) =
        (made.map (Prod.map id f)).bind fun seen =>
          ((later seen.1).map (List.map (Prod.map f id))).map ((seen.2,seen.1) :: ·) := by
    cases made with
    | none => rfl
    | some seen =>
        rw [Option.map_some,Option.bind_some,Option.bind_some]
        change _ = ((later seen.1).map _).map _
        cases later seen.1 <;> rfl
  simp only [shown,first,rest]

theorem run_masked (s : Session) (steps : List Step) :
    (s.run steps).map (List.map (Prod.map Report.masked id)) =
      (s.run (steps.map Step.masked)).map (List.map (Prod.map Report.masked id)) := by
  induction steps generalizing s with
  | nil => rfl
  | cons first rest ih => exact trail_masked (step_masked s first) ih

end Session

end AccountLink
