import AccountLink.Proofs.Cell.Refines
import AccountLink.Proofs.Session.Interleaving

namespace AccountLink

namespace Shelf

variable {α : Type}

def Sound (shelf : Shelf α) : Prop := ∃ h, Refines shelf h

theorem single_sound (name : String) (value : α) : (single name value).Sound :=
  ⟨_,Refines.empty.create name value⟩

namespace Sound

variable {shelf next : Shelf α}

theorem step (sound : shelf.Sound) (st : Step α) (sight : Sight α) (ran : shelf.step st = some (next,sight)) :
    next.Sound := by
  obtain ⟨h,held⟩ := sound
  obtain ⟨_,_,again,_,after⟩ := held.step st (held.allows st _ ran)
  cases ran.symm.trans again
  exact ⟨_,after⟩

theorem write (sound : shelf.Sound) (name : String) (f : α → α) (wrote : shelf.write name f = some next) : next.Sound := by
  refine sound.step (.update name [] fun _ => f) .nothing ?_
  obtain ⟨cell,bound,_⟩ := Option.bind_eq_some_iff.mp wrote
  simp [Shelf.step,Shelf.elsewhere,bound,wrote,quiet]

theorem share (sound : shelf.Sound) (name source : String) (shared : shelf.share name source = some next) : next.Sound :=
  sound.step (.share name source) .nothing (by simp [Shelf.step,shared,quiet])

theorem create (sound : shelf.Sound) (name : String) (value : α) : (shelf.create name value).Sound :=
  sound.step (.create name value) .nothing rfl

theorem drop (sound : shelf.Sound) (name : String) : (shelf.drop name).Sound :=
  sound.step (.drop name) .nothing rfl

theorem subscribe (sound : shelf.Sound) (handle name : String) (made : shelf.subscribe handle name = some next) :
    next.Sound :=
  sound.step (.subscribe handle name) .nothing (by simp [Shelf.step,made,quiet])

theorem unsubscribe (sound : shelf.Sound) (name : String) : (shelf.unsubscribe name).Sound :=
  sound.step (.unsubscribe name) .nothing rfl

theorem mark (sound : shelf.Sound) (name : String) (marked : shelf.mark name = some next) : next.Sound := by
  obtain ⟨watch,bound,later⟩ := Option.bind_eq_some_iff.mp marked
  obtain ⟨cell,found,_⟩ := Option.bind_eq_some_iff.mp later
  have looked := look_found shelf name watch cell bound found
  exact sound.step (.observe name) _ (by simp only [Shelf.step,looked,marked]; rfl)

theorem held (sound : shelf.Sound) (name : String) (cell : Nat) (bound : shelf.handles.get? name = some cell) :
    ∃ found, shelf.cells[cell]? = some found ∧ shelf.isOpen cell = true := by
  obtain ⟨h,held⟩ := sound
  have bound' : h.handles name = some cell := by rw [← held.handles,bound]
  obtain ⟨_,_,found⟩ := held.value_some cell (held.bound name cell bound')
  exact ⟨_,found,(held.alive cell).mpr ⟨name,bound'⟩⟩

theorem behind (sound : shelf.Sound) (name : String) (watch : Watch) (bound : shelf.watches.get? name = some watch) :
    ∃ cell, shelf.cells[watch.cell]? = some cell ∧ watch.seen ≤ cell.writes := by
  obtain ⟨h,held⟩ := sound
  rw [held.watches] at bound
  obtain ⟨mark,found,rfl⟩ := Option.map_eq_some_iff.mp bound
  obtain ⟨_,_,_,cell⟩ := held.watch_found name mark found
  exact ⟨_,cell,((List.take_sublist mark.upTo h.writes).filterMap _).length_le⟩

end Sound

end Shelf

namespace Session

structure Sound (s : Session) : Prop where
  accounts : s.accounts.Sound
  specs : s.specs.Sound

-- Sessions in use: any account and any specification to begin with, and then steps of every kind.
inductive Reached : Session → Prop where
  | start {outlet account spec} : Reached ⟨.single "main" account,.single "main" spec,outlet⟩
  | step {s next st report} (before : Reached s) (stepped : s.step st = some (next,report)) : Reached next

theorem applyEffects_sound (s next : Session) (on : String) (effects : List Effect) (trace : Trace) (sound : s.Sound)
    (applied : applyEffects on s effects = some (next,trace)) : next.Sound := by
  induction effects generalizing s trace with
  | nil =>
      cases applied
      exact sound
  | cons effect rest ih =>
      obtain ⟨middle,first,later,one,more,_⟩ := applyEffects_parts applied
      refine ih middle later ?_ more
      cases effect with
      | log event =>
          cases one
          exact sound
      | notify notice =>
          cases one
          exact sound
      | write edit =>
          obtain ⟨accounts,wrote,same⟩ := Option.bind_eq_some_iff.mp one
          cases same
          exact ⟨sound.accounts.write on edit.apply wrote,sound.specs⟩

theorem call_sound (s next : Session) (on : String) (started : Started) (report : Report) (sound : s.Sound)
    (called : s.step (.call on started) = some (next,report)) : next.Sound := by
  obtain ⟨trace,completed,_⟩ := call_parts called
  exact s.applyEffects_sound next on _ trace sound completed

theorem flown_sound (f landed : Flight) (moves : List Move) (sound : f.session.Sound)
    (flown : Flight.run f moves = some landed) : landed.session.Sound := by
  induction moves generalizing f with
  | nil =>
      cases flown
      exact sound
  | cons m rest ih =>
      simp only [Flight.run,Option.bind_eq_bind,Option.bind_eq_some_iff] at flown
      obtain ⟨next,moved,flown⟩ := flown
      refine ih next ?_ flown
      cases (Flight.move_exact f next m).mp moved with
      | start => exact sound
      | complete waiting alone answer left => exact call_sound _ _ _ _ _ sound alone
      | cancel waiting => exact sound

theorem mark_sound (s next : Session) (watch : String) (sound : s.Sound) (marked : s.mark watch = some next) :
    next.Sound := by
  unfold mark at marked
  cases found : s.accounts.mark watch with
  | some accounts =>
      simp only [found,Option.some.injEq] at marked
      cases marked
      exact ⟨sound.accounts.mark watch found,sound.specs⟩
  | none =>
      simp only [found,Option.map_eq_some_iff] at marked
      obtain ⟨specs,found,rfl⟩ := marked
      exact ⟨sound.accounts,sound.specs.mark watch found⟩

theorem step_sound (s next : Session) (st : Step) (report : Report) (sound : s.Sound)
    (stepped : s.step st = some (next,report)) : next.Sound := by
  cases st with
  | call on started => exact s.call_sound next on started report sound stepped
  | overlap calls order =>
      obtain ⟨f,flown,same⟩ := Option.bind_eq_some_iff.mp stepped
      cases same
      exact flown_sound (.idle s) f _ sound flown
  | edit on edit =>
      obtain ⟨accounts,wrote,same⟩ := Option.bind_eq_some_iff.mp stepped
      cases same
      exact ⟨sound.accounts.write on _ wrote,sound.specs⟩
  | reset on =>
      obtain ⟨accounts,wrote,same⟩ := Option.bind_eq_some_iff.mp stepped
      cases same
      exact ⟨sound.accounts.write on _ wrote,sound.specs⟩
  | setSpec on spec =>
      obtain ⟨specs,wrote,same⟩ := Option.bind_eq_some_iff.mp stepped
      cases same
      exact ⟨sound.accounts,sound.specs.write on _ wrote⟩
  | isLoggedIn on =>
      obtain ⟨account,_,same⟩ := Option.bind_eq_some_iff.mp stepped
      cases same
      exact sound
  | subscribe on watch =>
      obtain ⟨accounts,made,same⟩ := Option.bind_eq_some_iff.mp stepped
      cases same
      exact ⟨sound.accounts.subscribe on watch made,sound.specs⟩
  | subscribeSpec on watch =>
      obtain ⟨specs,made,same⟩ := Option.bind_eq_some_iff.mp stepped
      cases same
      exact ⟨sound.accounts,sound.specs.subscribe on watch made⟩
  | observe watch =>
      obtain ⟨answer,_,later⟩ := Option.bind_eq_some_iff.mp stepped
      obtain ⟨marked,made,same⟩ := Option.bind_eq_some_iff.mp later
      cases same
      exact s.mark_sound next watch sound made
  | peek watch =>
      obtain ⟨answer,_,same⟩ := Option.bind_eq_some_iff.mp stepped
      cases same
      exact sound
  | unsubscribe watch =>
      cases stepped
      exact ⟨sound.accounts.unsubscribe watch,sound.specs.unsubscribe watch⟩
  | closeNotices =>
      cases stepped
      exact ⟨sound.accounts,sound.specs⟩
  | clone on name =>
      obtain ⟨accounts,one,later⟩ := Option.bind_eq_some_iff.mp stepped
      obtain ⟨specs,two,same⟩ := Option.bind_eq_some_iff.mp later
      cases same
      exact ⟨sound.accounts.share name on one,sound.specs.share name on two⟩
  | withAccount on accountOf name =>
      cases accountOf with
      | some source =>
          obtain ⟨accounts,one,later⟩ := Option.bind_eq_some_iff.mp stepped
          obtain ⟨specs,two,same⟩ := Option.bind_eq_some_iff.mp later
          cases same
          exact ⟨sound.accounts.share name source one,sound.specs.share name on two⟩
      | none =>
          obtain ⟨specs,two,same⟩ := Option.bind_eq_some_iff.mp stepped
          cases same
          exact ⟨sound.accounts.create name .initial,sound.specs.share name on two⟩
  | drop on =>
      cases stepped
      exact ⟨sound.accounts.drop on,sound.specs.drop on⟩

theorem reached_sound (s : Session) (reached : s.Reached) : s.Sound := by
  induction reached with
  | start => exact ⟨Shelf.single_sound _ _,Shelf.single_sound _ _⟩
  | step before stepped ih => exact step_sound _ _ _ _ ih stepped

end Session

end AccountLink
