import AccountLink.Proofs.Cell.History

namespace AccountLink.Shelf

variable {α : Type}

open History

theorem update_all {β : Type} (bindings : String → Option β) (name : String) (value : Option β) (p : β → Prop)
    (new : ∀ b, value = some b → p b) (old : ∀ other b, bindings other = some b → p b) :
    ∀ other b, Function.update bindings name value other = some b → p b := by
  intro other b found
  by_cases same : other = name
  · subst same
    rw [Function.update_self] at found
    exact new b found
  · rw [Function.update_of_ne same] at found
    exact old other b found

-- The cells hold what the history adds up to. `within` keeps a cell that is yet
-- to be made free of writes; `distinct` makes closing a matter of reachable names.
structure Refines (shelf : Shelf α) (h : History α) : Prop where
  distinct : shelf.handles.Distinct
  handles : shelf.handles.get? = h.handles
  watches : shelf.watches.get? = Option.map h.seen ∘ h.watches
  count : shelf.cells.length = h.births.length
  cells : ∀ cell, shelf.cells[cell]? = h.births[cell]?.map fun first =>
    Cell.mk ((onCell cell h.writes).foldl (fun a f => f a) first) (onCell cell h.writes).length
  bound : ∀ name cell, h.handles name = some cell → cell < h.births.length
  watched : ∀ name mark, h.watches name = some mark →
    mark.cell < h.births.length ∧ mark.upTo ≤ h.writes.length
  within : ∀ write ∈ h.writes, write.1 < h.births.length

namespace Refines

theorem empty : Refines (Shelf.empty : Shelf α) History.empty := by
  refine ⟨Names.nil_distinct,rfl,rfl,rfl,?_,?_,?_,?_⟩
  · intro cell; simp [Shelf.empty,History.empty]
  · intro name cell bound; cases bound
  · intro name mark found; cases found
  · intro write member; cases member

variable {shelf : Shelf α} {h : History α}

theorem value (held : Refines shelf h) (cell : Nat) : shelf.cells[cell]?.map (·.value) = h.value? cell := by
  rw [held.cells,value?,Option.map_map]; rfl

theorem value_some (held : Refines shelf h) (cell : Nat) (within : cell < h.births.length) :
    ∃ value, h.value? cell = some value ∧
      shelf.cells[cell]? = some ⟨value,(onCell cell h.writes).length⟩ := by
  have born := List.getElem?_eq_getElem within
  exact ⟨_,by simp [value?,born]; rfl,by simp [held.cells,born]⟩

theorem alive (held : Refines shelf h) (cell : Nat) : shelf.isOpen cell = true ↔ h.Alive cell := by
  rw [isOpen_bound shelf cell held.distinct,held.handles]; rfl

theorem snapshot (held : Refines shelf h) (name : String) (cell : Nat) (bound : h.handles name = some cell) :
    ∃ value, h.value? cell = some value ∧ shelf.snapshot? name = some value := by
  obtain ⟨value,known,found⟩ := held.value_some cell (held.bound name cell bound)
  refine ⟨value,known,?_⟩
  rw [snapshot_bound shelf name cell (by rw [held.handles,bound]),found]
  rfl

theorem watch_found (held : Refines shelf h) (name : String) (mark : Mark) (found : h.watches name = some mark) :
    shelf.watches.get? name = some (h.seen mark) ∧ ∃ value, h.value? mark.cell = some value ∧
      shelf.cells[mark.cell]? = some ⟨value,(onCell mark.cell h.writes).length⟩ := by
  refine ⟨?_,held.value_some mark.cell (held.watched name mark found).1⟩
  rw [held.watches,Function.comp_apply,found]
  rfl

theorem look (held : Refines shelf h) (name : String) (mark : Mark) (found : h.watches name = some mark) :
    ∃ change value, shelf.look? name = some (change,value) ∧ h.value? mark.cell = some value ∧
      h.Tells mark change := by
  obtain ⟨bound,value,known,cell⟩ := held.watch_found name mark found
  refine ⟨_,value,look_found shelf name _ _ bound cell,known,?_⟩
  have alive := held.alive mark.cell
  have all := seen_all h mark
  change shelf.isOpen (h.seen mark).cell = true ↔ _ at alive
  by_cases live : h.Alive mark.cell
  · by_cases missed : h.Unseen mark
    · exact ⟨by simp [alive,live,all,missed],by simp [alive,live,all,missed]⟩
    · exact ⟨by simp [alive,live,all,missed],by simp [alive,live,all,missed]⟩
  · exact ⟨fun there => absurd there live,by simp [alive,live]⟩

theorem elsewhere (held : Refines shelf h) (cell : Nat) (others : List String)
    (apart : ∀ other ∈ others, ∃ elsewhere, h.handles other = some elsewhere ∧ elsewhere ≠ cell) :
    shelf.elsewhere cell others = some (others.filterMap fun other => (h.handles other).bind h.value?) := by
  induction others with
  | nil => rfl
  | cons other others ih =>
      obtain ⟨source,bound,ne⟩ := apart other (by simp)
      obtain ⟨value,known,found⟩ := held.value_some source (held.bound other source bound)
      have rest := ih fun name member => apart name (List.mem_cons_of_mem _ member)
      have first : shelf.elsewhere? cell other = some value := by
        simp [elsewhere?,held.handles,bound,ne,found]
      simp [Shelf.elsewhere,first,rest,bound,known]

-- Writes, births and rebound names never reach into the past that a mark points at.
theorem create (held : Refines shelf h) (name : String) (value : α) :
    Refines (shelf.create name value) (h.record (.create name value)) := by
  refine ⟨Names.bind_distinct _ _ _ held.distinct,?_,held.watches,?_,?_,?_,?_,?_⟩
  · simp only [Shelf.create,record,Names.bind_get?,held.handles,held.count]
  · simp [Shelf.create,record,held.count]
  · intro cell
    simp only [Shelf.create,record]
    by_cases fresh : cell = h.births.length
    · subst fresh
      have none : onCell h.births.length h.writes = [] := by
        refine onCell_absent _ _ ?_
        intro write member
        exact Nat.ne_of_lt (held.within write member)
      have top : (shelf.cells ++ [⟨value,0⟩])[h.births.length]? = some ⟨value,0⟩ := by
        rw [← held.count]
        exact List.getElem?_concat_length
      rw [top,List.getElem?_concat_length,none]
      rfl
    · rw [List.getElem?_append,List.getElem?_append,held.count]
      split
      · exact held.cells cell
      · have beyond : cell - h.births.length ≠ 0 := by omega
        simp [beyond]
  · simp only [record,List.length_append]
    refine update_all _ _ _ (· < _) ?_ ?_
    · intro cell fresh; cases fresh; simp
    · intro other cell bound; exact Nat.lt_add_right _ (held.bound other cell bound)
  · intro other mark found
    obtain ⟨born,past⟩ := held.watched other mark found
    exact ⟨by simp only [record,List.length_append]; omega,past⟩
  · intro write member
    have born := held.within write member
    simp only [record,List.length_append]
    omega

theorem rebind (held : Refines shelf h) (handles : Names Nat) (name : String) (value : Option Nat)
    (distinct : handles.Distinct) (same : handles.get? = Function.update h.handles name value)
    (bound : ∀ cell, value = some cell → cell < h.births.length) :
    Refines {shelf with handles := handles} {h with handles := Function.update h.handles name value} :=
  ⟨distinct,same,held.watches,held.count,held.cells,update_all _ _ _ (· < _) bound held.bound,
    held.watched,held.within⟩

theorem rewatch (held : Refines shelf h) (watches : Names Watch) (name : String) (value : Option Mark)
    (same : watches.get? = Function.update shelf.watches.get? name (value.map h.seen))
    (watched : ∀ mark, value = some mark → mark.cell < h.births.length ∧ mark.upTo ≤ h.writes.length) :
    Refines {shelf with watches := watches} {h with watches := Function.update h.watches name value} := by
  refine ⟨held.distinct,held.handles,?_,held.count,held.cells,held.bound,?_,held.within⟩
  · rw [same,held.watches]
    exact (Function.comp_update (Option.map h.seen) h.watches name value).symm
  · exact update_all _ _ _ (fun mark : Mark => mark.cell < h.births.length ∧ mark.upTo ≤ h.writes.length)
      watched held.watched

theorem share (held : Refines shelf h) (name source : String) (cell : Nat) (bound : h.handles source = some cell) :
    ∃ next, shelf.share name source = some next ∧ Refines next (h.record (.share name source)) := by
  refine ⟨_,by simp [Shelf.share,held.handles,bound]; rfl,?_⟩
  refine held.rebind _ name _ (Names.bind_distinct _ _ _ held.distinct) ?_ ?_
  · rw [Names.bind_get?,held.handles,bound]
  · intro other same; exact held.bound source other same

theorem drop (held : Refines shelf h) (name : String) : Refines (shelf.drop name) (h.record (.drop name)) := by
  refine held.rebind _ name none (Names.drop_distinct _ _ held.distinct) ?_ ?_
  · rw [Names.drop_get?,held.handles]
  · intro cell none; cases none

theorem write (held : Refines shelf h) (name : String) (cell : Nat) (f : α → α)
    (bound : h.handles name = some cell) : Refines (shelf.amend cell [f]) (h.wrote name f) := by
  have same : h.wrote name f = {h with writes := h.writes ++ [(cell,f)]} := by simp [wrote,bound]
  rw [same]
  refine ⟨held.distinct,held.handles,?_,?_,?_,held.bound,?_,?_⟩
  · funext other
    rw [amend_watches,held.watches]
    refine Option.map_congr ?_
    intro mark found
    simp only [seen,List.take_append_of_le_length (held.watched other mark found).2]
  · simp [amend,held.count]
  · intro other
    rw [onCell_append]
    by_cases hit : cell = other
    · subst hit
      rw [amend_self,held.cells,Option.map_map,onCell_self]
      simp [Function.comp_def]
    · rw [amend_other _ _ _ _ hit,held.cells,onCell_other _ _ _ hit,List.append_nil]
  · intro other mark found
    obtain ⟨born,past⟩ := held.watched other mark found
    exact ⟨born,by simp only [List.length_append]; omega⟩
  · intro write member
    rcases List.mem_append.mp member with old | new
    · exact held.within write old
    · rw [List.mem_singleton.mp new]
      exact held.bound name cell bound

theorem watch (held : Refines shelf h) (name : String) (mark : Mark) (born : mark.cell < h.births.length)
    (past : mark.upTo ≤ h.writes.length) :
    Refines {shelf with watches := shelf.watches.bind name (h.seen mark)}
      {h with watches := Function.update h.watches name (some mark)} := by
  refine held.rewatch _ name (some mark) (Names.bind_get? _ _ _) ?_
  intro found same
  cases same
  exact ⟨born,past⟩

theorem unwatch (held : Refines shelf h) (name : String) :
    Refines (shelf.unsubscribe name) (h.record (.unsubscribe name)) := by
  refine held.rewatch _ name none (Names.drop_get? _ _) ?_
  intro mark none
  cases none

theorem subscribe (held : Refines shelf h) (handle name : String) (cell : Nat)
    (bound : h.handles handle = some cell) :
    ∃ next, shelf.subscribe handle name = some next ∧ Refines next (h.record (.subscribe handle name)) := by
  have born := held.bound handle cell bound
  obtain ⟨value,_,found⟩ := held.value_some cell born
  have watched := held.watch name ⟨cell,h.writes.length⟩ born (Nat.le_refl _)
  refine ⟨_,by simp [Shelf.subscribe,held.handles,bound,found]; rfl,?_⟩
  simpa [seen,record,bound] using watched

theorem subscribeLike (held : Refines shelf h) (source name : String) (mark : Mark)
    (found : h.watches source = some mark) :
    ∃ next, shelf.subscribeLike source name = some next ∧
      Refines next (h.record (.subscribeLike source name)) := by
  obtain ⟨born,past⟩ := held.watched source mark found
  refine ⟨_,by simp [Shelf.subscribeLike,(held.watch_found source mark found).1]; rfl,?_⟩
  simpa [record,found] using held.watch name mark born past

theorem mark (held : Refines shelf h) (name : String) (mark : Mark) (found : h.watches name = some mark) :
    ∃ next, shelf.mark name = some next ∧ Refines next (h.marked name) := by
  obtain ⟨bound,value,_,cell⟩ := held.watch_found name mark found
  have marked := held.watch name ⟨mark.cell,h.writes.length⟩ (held.watched name mark found).1 (Nat.le_refl _)
  refine ⟨_,mark_found shelf name _ _ bound cell,?_⟩
  simpa [seen,History.marked,found] using marked

theorem poll (held : Refines shelf h) (name : String) (mark : Mark) (found : h.watches name = some mark) :
    ∃ wait next, shelf.poll name = some (wait,next) ∧ h.Answers mark wait ∧
      (if wait = .changed then shelf.mark name = some next else next = shelf) ∧
      Refines next (h.record (.poll name)) := by
  obtain ⟨bound,value,_,cell⟩ := held.watch_found name mark found
  obtain ⟨next,marks,after⟩ := held.mark name mark found
  have polled := poll_found shelf name _ _ bound cell
  have alive := held.alive mark.cell
  have all := seen_all h mark
  change shelf.isOpen (h.seen mark).cell = true ↔ _ at alive
  by_cases missed : h.Unseen mark
  · refine ⟨.changed,next,by simp [polled,all,missed,marks],⟨by simp [missed],by simp [missed]⟩,marks,?_⟩
    simpa [record,found,missed] using after
  · have kept : Refines shelf (h.record (.poll name)) := by simpa [record,found,missed] using held
    by_cases live : h.Alive mark.cell
    · refine ⟨.pending,shelf,by simp [polled,all,missed,alive,live],?_,rfl,kept⟩
      exact ⟨by simp [missed],by simp [live]⟩
    · refine ⟨.closed,shelf,by simp [polled,all,missed,alive,live],?_,rfl,kept⟩
      exact ⟨by simp [missed],by simp [missed,live]⟩

theorem step (held : Refines shelf h) (step : Step α) (allowed : h.Allows step) :
    ∃ next sight, shelf.step step = some (next,sight) ∧ h.Sees step sight ∧ Refines next (h.record step) := by
  cases step with
  | create name value => exact ⟨_,_,rfl,rfl,held.create name value⟩
  | share name source =>
      obtain ⟨cell,bound⟩ := Option.isSome_iff_exists.mp allowed
      obtain ⟨next,ran,after⟩ := held.share name source cell bound
      exact ⟨next,.nothing,by simp [Shelf.step,ran,quiet],rfl,after⟩
  | drop name => exact ⟨_,_,rfl,rfl,held.drop name⟩
  | set name value =>
      obtain ⟨cell,bound⟩ := Option.isSome_iff_exists.mp allowed
      have ran := write_bound shelf name cell (fun _ => value) (by rw [held.handles,bound])
      exact ⟨_,.nothing,by simp [Shelf.step,ran,quiet],rfl,held.write name cell _ bound⟩
  | update name others f =>
      obtain ⟨cell,bound,apart⟩ := allowed
      have values := held.elsewhere cell others apart
      have own : shelf.handles.get? name = some cell := by rw [held.handles,bound]
      have ran := fun values => write_bound shelf name cell (f values) own
      exact ⟨_,.nothing,by simp [Shelf.step,own,values,ran,quiet],rfl,held.write name cell _ bound⟩
  | read name =>
      obtain ⟨cell,bound⟩ := Option.isSome_iff_exists.mp allowed
      obtain ⟨value,known,ran⟩ := held.snapshot name cell bound
      exact ⟨shelf,.value value,by simp [Shelf.step,ran],⟨cell,value,bound,known,rfl⟩,held⟩
  | subscribe handle name =>
      obtain ⟨cell,bound⟩ := Option.isSome_iff_exists.mp allowed
      obtain ⟨next,ran,after⟩ := held.subscribe handle name cell bound
      exact ⟨next,.nothing,by simp [Shelf.step,ran,quiet],rfl,after⟩
  | subscribeLike source name =>
      obtain ⟨mark,found⟩ := Option.isSome_iff_exists.mp allowed
      obtain ⟨next,ran,after⟩ := held.subscribeLike source name mark found
      exact ⟨next,.nothing,by simp [Shelf.step,ran,quiet],rfl,after⟩
  | unsubscribe name => exact ⟨_,_,rfl,rfl,held.unwatch name⟩
  | peek name =>
      obtain ⟨mark,found⟩ := Option.isSome_iff_exists.mp allowed
      obtain ⟨change,value,ran,known,tells⟩ := held.look name mark found
      exact ⟨shelf,_,by simp [Shelf.step,ran],⟨mark,change,value,found,known,tells,rfl⟩,held⟩
  | observe name =>
      obtain ⟨mark,found⟩ := Option.isSome_iff_exists.mp allowed
      obtain ⟨change,value,ran,known,tells⟩ := held.look name mark found
      obtain ⟨next,marks,after⟩ := held.mark name mark found
      exact ⟨next,_,by simp [Shelf.step,ran,marks],⟨mark,change,value,found,known,tells,rfl⟩,after⟩
  | poll name =>
      obtain ⟨mark,found⟩ := Option.isSome_iff_exists.mp allowed
      obtain ⟨wait,next,ran,answers,_,after⟩ := held.poll name mark found
      exact ⟨next,.wait wait,by simp [Shelf.step,ran],⟨mark,wait,found,answers,rfl⟩,after⟩

theorem elsewhere_apart (held : Refines shelf h) (cell : Nat) (others : List String) (values : List α)
    (found : shelf.elsewhere cell others = some values) :
    ∀ other ∈ others, ∃ source, h.handles other = some source ∧ source ≠ cell := by
  induction others generalizing values with
  | nil => intro other member; cases member
  | cons first rest ih =>
      obtain ⟨value,one,later⟩ := Option.bind_eq_some_iff.mp found
      obtain ⟨tail,more,_⟩ := Option.bind_eq_some_iff.mp later
      intro other member
      rcases List.mem_cons.mp member with rfl | member
      · obtain ⟨source,bound,here⟩ := Option.bind_eq_some_iff.mp one
        refine ⟨source,held.handles ▸ bound,?_⟩
        rintro rfl
        simp at here
      · exact ih tail more other member

theorem allows (held : Refines shelf h) (step : Step α) (result : Shelf α × Sight α)
    (ran : shelf.step step = some result) : h.Allows step := by
  have bound : ∀ name, (shelf.handles.get? name).isSome → (h.handles name).isSome := by
    intro name; rw [held.handles]; exact id
  have watched : ∀ name, (shelf.watches.get? name).isSome → (h.watches name).isSome := by
    intro name; rw [held.watches]; simp
  cases step with
  | create | drop | unsubscribe => trivial
  | share name source =>
      refine bound source ?_
      cases found : shelf.handles.get? source <;> simp_all [Shelf.step,Shelf.share]
  | set name value =>
      refine bound name ?_
      cases found : shelf.handles.get? name <;> simp_all [Shelf.step,Shelf.write]
  | update name others f =>
      obtain ⟨cell,own,later⟩ := Option.bind_eq_some_iff.mp ran
      obtain ⟨values,found,_⟩ := Option.bind_eq_some_iff.mp later
      exact ⟨cell,held.handles ▸ own,held.elsewhere_apart cell others values found⟩
  | read name =>
      refine bound name ?_
      cases found : shelf.handles.get? name <;> simp_all [Shelf.step,snapshot?,cellOf?]
  | subscribe handle name =>
      refine bound handle ?_
      cases found : shelf.handles.get? handle <;> simp_all [Shelf.step,Shelf.subscribe]
  | subscribeLike source name =>
      refine watched source ?_
      cases found : shelf.watches.get? source <;> simp_all [Shelf.step,Shelf.subscribeLike]
  | peek name =>
      refine watched name ?_
      cases found : shelf.watches.get? name <;> simp_all [Shelf.step,look?]
  | observe name =>
      refine watched name ?_
      cases found : shelf.watches.get? name <;> simp_all [Shelf.step,look?]
  | poll name =>
      refine watched name ?_
      cases found : shelf.watches.get? name <;> simp_all [Shelf.step,Shelf.poll]

theorem run (held : Refines shelf h) (steps : List (Step α)) (allowed : h.Allowed steps) :
    ∃ next sights, shelf.run steps = some (next,sights) ∧ h.Told steps sights ∧
      Refines next (steps.foldl record h) := by
  induction steps generalizing shelf h with
  | nil => exact ⟨shelf,[],rfl,trivial,held⟩
  | cons first rest ih =>
      obtain ⟨one,later⟩ := allowed
      obtain ⟨middle,sight,ran,sees,held⟩ := held.step first one
      obtain ⟨next,sights,runs,told,held⟩ := ih held later
      exact ⟨next,sight :: sights,by simp [Shelf.run,ran,runs],⟨sees,told⟩,held⟩

theorem allowed (held : Refines shelf h) (steps : List (Step α)) (result : Shelf α × List (Sight α))
    (ran : shelf.run steps = some result) : h.Allowed steps := by
  induction steps generalizing shelf h result with
  | nil => trivial
  | cons first rest ih =>
      obtain ⟨⟨middle,sight⟩,one,later⟩ := Option.bind_eq_some_iff.mp ran
      obtain ⟨tail,more,_⟩ := Option.bind_eq_some_iff.mp later
      have allowed := held.allows first _ one
      obtain ⟨next,_,again,_,after⟩ := held.step first allowed
      cases one.symm.trans again
      exact ⟨allowed,ih after tail more⟩

end Refines

-- Steps from scratch: they run as far as the history allows them, everything
-- they show is what the history says at that point, and in the end every handle
-- and every watch shows it too.
theorem run_history (steps : List (Step α)) :
    ((run .empty steps).isSome ↔ History.empty.Allowed steps) ∧
    ∀ shelf sights, run .empty steps = some (shelf,sights) →
      History.empty.Told steps sights ∧
      shelf.handles.get? = (History.of steps).handles ∧
      (∀ name cell, (History.of steps).handles name = some cell →
        ∃ value, (History.of steps).value? cell = some value ∧ shelf.snapshot? name = some value) ∧
      (∀ name, (shelf.watches.get? name).isSome = ((History.of steps).watches name).isSome) ∧
      (∀ name mark, (History.of steps).watches name = some mark →
        (∃ change value, shelf.look? name = some (change,value) ∧
          (History.of steps).value? mark.cell = some value ∧ (History.of steps).Tells mark change) ∧
        (∃ wait next, shelf.poll name = some (wait,next) ∧ (History.of steps).Answers mark wait ∧
          if wait = .changed then shelf.mark name = some next else next = shelf)) := by
  constructor
  · constructor
    · intro some
      obtain ⟨result,ran⟩ := Option.isSome_iff_exists.mp some
      exact Refines.empty.allowed steps result ran
    · intro allowed
      obtain ⟨shelf,sights,ran,_⟩ := Refines.empty.run steps allowed
      rw [ran]; rfl
  · intro shelf sights ran
    obtain ⟨_,_,again,told,held⟩ := Refines.empty.run steps (Refines.empty.allowed steps _ ran)
    cases ran.symm.trans again
    refine ⟨told,held.handles,held.snapshot,?_,?_⟩
    · intro name
      rw [held.watches]
      exact Option.isSome_map
    · intro name mark found
      obtain ⟨wait,next,polled,answers,marks,_⟩ := held.poll name mark found
      exact ⟨held.look name mark found,wait,next,polled,answers,marks⟩

-- The last handle goes while an equal value is unseen: looking says closed,
-- waiting still says changed, and only then closed.
theorem run_history_dropped : ∃ shelf,
    run .empty [.create "a" 1,.subscribe "a" "w",.share "b" "a",.drop "a",.set "b" 1,.drop "b",
      .peek "w",.poll "w",.poll "w"] = some (shelf,[.nothing,.nothing,.nothing,.nothing,.nothing,.nothing,
      .change .closed 1,.wait .changed,.wait .closed]) ∧
    History.empty.Told [.create "a" 1,.subscribe "a" "w",.share "b" "a",.drop "a",.set "b" 1,.drop "b",
      .peek "w",.poll "w",.poll "w"] [.nothing,.nothing,.nothing,.nothing,.nothing,.nothing,
      .change .closed 1,.wait .changed,.wait .closed] :=
  ⟨_,rfl,((run_history _).2 _ _ rfl).1⟩

end AccountLink.Shelf
