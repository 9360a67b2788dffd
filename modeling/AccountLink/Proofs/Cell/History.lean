import AccountLink.Proofs.Cell.Shelf

namespace AccountLink.Shelf

variable {α : Type}

structure Mark where
  cell : Nat
  upTo : Nat

-- What is kept of a sequence of steps: the first value of each cell, and every
-- write in order with the cell it went to. No current value and no count of
-- writes is kept, so nothing below can read them off the cells themselves.
structure History (α : Type) where
  births : List α
  writes : List (Nat × (α → α))
  handles : String → Option Nat
  watches : String → Option Mark

namespace History

def empty : History α := ⟨[],[],fun _ => none,fun _ => none⟩

def onCell (cell : Nat) (writes : List (Nat × (α → α))) : List (α → α) :=
  writes.filterMap fun write => if write.1 = cell then some write.2 else none

def value? (h : History α) (cell : Nat) : Option α :=
  h.births[cell]?.map fun first => (onCell cell h.writes).foldl (fun a f => f a) first

def Unseen (h : History α) (mark : Mark) : Prop :=
  ∃ write ∈ h.writes.drop mark.upTo, write.1 = mark.cell

instance (h : History α) (mark : Mark) : Decidable (h.Unseen mark) :=
  inferInstanceAs (Decidable (∃ write ∈ h.writes.drop mark.upTo, write.1 = mark.cell))

def seen (h : History α) (mark : Mark) : Watch :=
  ⟨mark.cell,(onCell mark.cell (h.writes.take mark.upTo)).length⟩

def Alive (h : History α) (cell : Nat) : Prop := ∃ name, h.handles name = some cell

def wrote (h : History α) (name : String) (f : α → α) : History α :=
  match h.handles name with
  | some cell => {h with writes := h.writes ++ [(cell,f)]}
  | none => h

def marked (h : History α) (name : String) : History α :=
  match h.watches name with
  | some mark => {h with watches := Function.update h.watches name (some ⟨mark.cell,h.writes.length⟩)}
  | none => h

-- What each step adds. A watch is marked when it is subscribed, when it is
-- observed, and by a poll that finds a write; a copy has the mark of its source.
def record (h : History α) : Step α → History α
  | .create name value =>
    {h with births := h.births ++ [value],handles := Function.update h.handles name (some h.births.length)}
  | .share name source => {h with handles := Function.update h.handles name (h.handles source)}
  | .drop name => {h with handles := Function.update h.handles name none}
  | .set name value => h.wrote name fun _ => value
  | .update name others f => h.wrote name (f (others.filterMap fun other => (h.handles other).bind h.value?))
  | .read _ => h
  | .subscribe handle name =>
    {h with watches := Function.update h.watches name ((h.handles handle).map (⟨·,h.writes.length⟩))}
  | .subscribeLike source name => {h with watches := Function.update h.watches name (h.watches source)}
  | .unsubscribe name => {h with watches := Function.update h.watches name none}
  | .peek _ => h
  | .observe name => h.marked name
  | .poll name =>
    match h.watches name with
    | some mark => if h.Unseen mark then h.marked name else h
    | none => h

def of (steps : List (Step α)) : History α := steps.foldl record empty

def Allows (h : History α) : Step α → Prop
  | .create _ _ | .drop _ | .unsubscribe _ => True
  | .share _ source => (h.handles source).isSome
  | .set name _ | .read name | .subscribe name _ => (h.handles name).isSome
  | .update name others _ => ∃ cell, h.handles name = some cell ∧
      ∀ other ∈ others, ∃ elsewhere, h.handles other = some elsewhere ∧ elsewhere ≠ cell
  | .subscribeLike source _ => (h.watches source).isSome
  | .peek name | .observe name | .poll name => (h.watches name).isSome

def Allowed : History α → List (Step α) → Prop
  | _,[] => True
  | h,first :: rest => h.Allows first ∧ Allowed (h.record first) rest

-- A watch on a cell without handles says closed, whatever it has missed.
structure Tells (h : History α) (mark : Mark) (change : Change) : Prop where
  changed : h.Alive mark.cell → (change = .changed ↔ h.Unseen mark)
  closed : change = .closed ↔ ¬ h.Alive mark.cell

-- Waiting is the other way round: what was missed comes before the end.
structure Answers (h : History α) (mark : Mark) (wait : Wait) : Prop where
  changed : wait = .changed ↔ h.Unseen mark
  closed : wait = .closed ↔ ¬ h.Unseen mark ∧ ¬ h.Alive mark.cell

def Sees (h : History α) : Step α → Sight α → Prop
  | .read name,sight => ∃ cell value, h.handles name = some cell ∧ h.value? cell = some value ∧ sight = .value value
  | .peek name,sight | .observe name,sight => ∃ mark change value, h.watches name = some mark ∧
      h.value? mark.cell = some value ∧ h.Tells mark change ∧ sight = .change change value
  | .poll name,sight => ∃ mark wait, h.watches name = some mark ∧ h.Answers mark wait ∧ sight = .wait wait
  | _,sight => sight = .nothing

def Told : History α → List (Step α) → List (Sight α) → Prop
  | _,[],[] => True
  | h,first :: rest,sight :: sights => h.Sees first sight ∧ Told (h.record first) rest sights
  | _,_,_ => False

theorem onCell_append (cell : Nat) (one two : List (Nat × (α → α))) :
    onCell cell (one ++ two) = onCell cell one ++ onCell cell two := List.filterMap_append

theorem onCell_self (cell : Nat) (f : α → α) : onCell cell [(cell,f)] = [f] := by simp [onCell]

theorem onCell_other (cell other : Nat) (f : α → α) (ne : cell ≠ other) : onCell other [(cell,f)] = [] := by
  simp [onCell,ne]

theorem onCell_absent (cell : Nat) (writes : List (Nat × (α → α))) (absent : ∀ write ∈ writes, write.1 ≠ cell) :
    onCell cell writes = [] := by
  refine List.filterMap_eq_nil_iff.mpr ?_
  intro write member
  simp [absent write member]

-- A watch counts the writes it has seen; the history says where they stand. The
-- two agree on whether anything was missed.
theorem seen_all (h : History α) (mark : Mark) :
    (onCell mark.cell h.writes).length = (h.seen mark).seen ↔ ¬ h.Unseen mark := by
  have split : onCell mark.cell h.writes =
      onCell mark.cell (h.writes.take mark.upTo) ++ onCell mark.cell (h.writes.drop mark.upTo) := by
    rw [← onCell_append,List.take_append_drop]
  rw [split,List.length_append]
  simp only [seen]
  constructor
  · rintro same ⟨write,later,hit⟩
    have member : write.2 ∈ onCell mark.cell (h.writes.drop mark.upTo) :=
      List.mem_filterMap.mpr ⟨write,later,by simp [hit]⟩
    have positive := List.length_pos_of_mem member
    omega
  · intro none
    have absent : onCell mark.cell (h.writes.drop mark.upTo) = [] := by
      refine onCell_absent _ _ ?_
      intro write later hit
      exact none ⟨write,later,hit⟩
    simp [absent]

end History

end AccountLink.Shelf
