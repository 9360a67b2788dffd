import AccountLink.Proofs.Cell.Refines

namespace AccountLink.Shelf

variable {α : Type}

open History

-- What there is to know of cells whatever their handles are called: the first
-- value of each, every write in order with the cell it went to, and the cell
-- that each watch looks at.
structure Column (α : Type) where
  births : List α
  writes : List (Nat × (α → α))
  watches : String → Option Nat

namespace Column

def empty : Column α := ⟨[],[],fun _ => none⟩

def born (c : Column α) (value : α) : Column α := {c with births := c.births ++ [value]}

def wrote (c : Column α) (cell : Nat) (fs : List (α → α)) : Column α :=
  {c with writes := c.writes ++ fs.map (cell,·)}

def watched (c : Column α) (name : String) (cell : Option Nat) : Column α :=
  {c with watches := Function.update c.watches name cell}

def value? (c : Column α) (cell : Nat) : Option α :=
  c.births[cell]?.map fun first => (onCell cell c.writes).foldl (fun a f => f a) first

end Column

def History.column (h : History α) : Column α := ⟨h.births,h.writes,Option.map Mark.cell ∘ h.watches⟩

theorem write_cell (shelf next : Shelf α) (name : String) (f : α → α) (written : shelf.write name f = some next) :
    ∃ cell, shelf.handles.get? name = some cell ∧ next = shelf.amend cell [f] := by
  obtain ⟨cell,bound,_⟩ := Option.bind_eq_some_iff.mp written
  rw [write_bound _ _ _ _ bound,Option.some.injEq] at written
  exact ⟨cell,bound,written.symm⟩

def Kept (shelf : Shelf α) (c : Column α) (handles : String → Option Nat) : Prop :=
  ∃ h, Refines shelf h ∧ h.column = c ∧ h.handles = handles

theorem empty_kept : Kept (Shelf.empty : Shelf α) .empty fun _ => none := ⟨_,.empty,rfl,rfl⟩

namespace Kept

variable {shelf next : Shelf α} {c : Column α} {handles : String → Option Nat}

theorem names (kept : Kept shelf c handles) : shelf.handles.get? = handles := by
  obtain ⟨h,held,_,rfl⟩ := kept
  exact held.handles

theorem watching (kept : Kept shelf c handles) (name : String) :
    (shelf.watches.get? name).isSome = (c.watches name).isSome := by
  obtain ⟨h,held,rfl,_⟩ := kept
  rw [held.watches]
  simp [column]

theorem snapshot (kept : Kept shelf c handles) (name : String) (cell : Nat) (bound : handles name = some cell) :
    ∃ value, c.value? cell = some value ∧ shelf.snapshot? name = some value := by
  obtain ⟨h,held,rfl,rfl⟩ := kept
  exact held.snapshot name cell bound

theorem snapshot_absent (kept : Kept shelf c handles) (name : String) (absent : handles name = none) :
    shelf.snapshot? name = none := by
  simp [snapshot?,cellOf?,kept.names,absent]

theorem look_absent (kept : Kept shelf c handles) (name : String) (absent : c.watches name = none) :
    shelf.look? name = none := by
  have unbound := kept.watching name
  rw [absent,Option.isSome_none,Option.isSome_eq_false_iff,Option.isNone_iff_eq_none] at unbound
  simp [look?,unbound]

theorem look (kept : Kept shelf c handles) (name : String) (cell : Nat) (found : c.watches name = some cell) :
    ∃ change value, shelf.look? name = some (change,value) ∧ c.value? cell = some value ∧
      (change = .closed ↔ ∀ other, handles other ≠ some cell) := by
  obtain ⟨h,held,rfl,rfl⟩ := kept
  obtain ⟨mark,marked,rfl⟩ := Option.map_eq_some_iff.mp found
  obtain ⟨change,value,looked,known,tells⟩ := held.look name mark marked
  exact ⟨change,value,looked,known,tells.closed.trans not_exists⟩

-- One cell is written: all its handles show the outcome, and all others what they showed before.
theorem spread (kept : Kept shelf c handles) (on : String) (cell : Nat) (fs : List (α → α))
    (bound : handles on = some cell) :
    ∃ before, shelf.snapshot? on = some before ∧ ∀ name other, handles name = some other →
      (shelf.amend cell fs).snapshot? name =
        if other = cell then some (fs.foldl (fun a f => f a) before) else shelf.snapshot? name := by
  obtain ⟨before,_,here⟩ := kept.snapshot on cell bound
  refine ⟨before,here,?_⟩
  intro name other there
  rw [← kept.names] at bound there
  rw [snapshot_bound (shelf.amend cell fs) name other there,snapshot_bound shelf name other there]
  rw [snapshot_bound shelf on cell bound] at here
  obtain ⟨found,inside,rfl⟩ := Option.map_eq_some_iff.mp here
  by_cases same : other = cell
  · rw [same,amend_self,inside,if_pos rfl]
    rfl
  · rw [amend_other shelf cell other fs (Ne.symm same),if_neg same]

theorem writes (kept : Kept shelf c handles) (name : String) (f : α → α) (there : (handles name).isSome) :
    ∃ next, shelf.write name f = some next := by
  obtain ⟨cell,bound⟩ := Option.isSome_iff_exists.mp there
  exact ⟨_,write_bound shelf name cell f (by rw [kept.names,bound])⟩

theorem shares (kept : Kept shelf c handles) (name source : String) (there : (handles source).isSome) :
    ∃ next, shelf.share name source = some next := by
  obtain ⟨cell,bound⟩ := Option.isSome_iff_exists.mp there
  exact ⟨_,by simp [Shelf.share,kept.names,bound]; rfl⟩

theorem create (kept : Kept shelf c handles) (name : String) (value : α) :
    Kept (shelf.create name value) (c.born value) (Function.update handles name (some c.births.length)) := by
  obtain ⟨h,held,rfl,rfl⟩ := kept
  exact ⟨_,held.create name value,rfl,rfl⟩

theorem shared_bound (kept : Kept shelf c handles) (name source : String)
    (shared : shelf.share name source = some next) : ∃ cell, handles source = some cell := by
  obtain ⟨cell,bound,_⟩ := Option.bind_eq_some_iff.mp shared
  exact ⟨cell,kept.names ▸ bound⟩

theorem share (kept : Kept shelf c handles) (name source : String) (shared : shelf.share name source = some next) :
    Kept next c (Function.update handles name (handles source)) := by
  obtain ⟨cell,bound⟩ := kept.shared_bound name source shared
  obtain ⟨h,held,rfl,rfl⟩ := kept
  obtain ⟨_,again,after⟩ := held.share name source cell bound
  cases shared.symm.trans again
  exact ⟨_,after,rfl,rfl⟩

theorem drop (kept : Kept shelf c handles) (name : String) :
    Kept (shelf.drop name) c (Function.update handles name none) := by
  obtain ⟨h,held,rfl,rfl⟩ := kept
  exact ⟨_,held.drop name,rfl,rfl⟩

theorem amend (kept : Kept shelf c handles) (on : String) (cell : Nat) (fs : List (α → α))
    (bound : handles on = some cell) : Kept (shelf.amend cell fs) (c.wrote cell fs) handles := by
  induction fs generalizing shelf c with
  | nil => simpa [amend_nil,Column.wrote] using kept
  | cons f rest ih =>
      have one : Kept (shelf.amend cell [f]) (c.wrote cell [f]) handles := by
        obtain ⟨h,held,rfl,rfl⟩ := kept
        refine ⟨_,held.write on cell f bound,?_⟩
        simp [wrote,bound,column,Column.wrote]
      simpa [amend_append,Column.wrote] using ih one

theorem subscribe (kept : Kept shelf c handles) (handle name : String)
    (made : shelf.subscribe handle name = some next) : Kept next (c.watched name (handles handle)) handles := by
  obtain ⟨cell,bound,_⟩ := Option.bind_eq_some_iff.mp made
  rw [kept.names] at bound
  obtain ⟨h,held,rfl,rfl⟩ := kept
  obtain ⟨_,again,after⟩ := held.subscribe handle name cell bound
  cases made.symm.trans again
  refine ⟨_,after,?_,rfl⟩
  simp [record,bound,column,Column.watched,Function.comp_update]

theorem unsubscribe (kept : Kept shelf c handles) (name : String) :
    Kept (shelf.unsubscribe name) (c.watched name none) handles := by
  obtain ⟨h,held,rfl,rfl⟩ := kept
  refine ⟨_,held.unwatch name,?_,rfl⟩
  simp [record,column,Column.watched,Function.comp_update]

theorem subscribes (kept : Kept shelf c handles) (handle name : String) (there : (handles handle).isSome) :
    ∃ next, shelf.subscribe handle name = some next := by
  obtain ⟨h,held,rfl,rfl⟩ := kept
  obtain ⟨cell,bound⟩ := Option.isSome_iff_exists.mp there
  obtain ⟨next,made,_⟩ := held.subscribe handle name cell bound
  exact ⟨next,made⟩

theorem marks (kept : Kept shelf c handles) (name : String) (there : (c.watches name).isSome) :
    ∃ next, shelf.mark name = some next := by
  obtain ⟨h,held,rfl,rfl⟩ := kept
  obtain ⟨cell,there⟩ := Option.isSome_iff_exists.mp there
  obtain ⟨mark,found,_⟩ := Option.map_eq_some_iff.mp there
  obtain ⟨next,marked,_⟩ := held.mark name mark found
  exact ⟨next,marked⟩

theorem mark (kept : Kept shelf c handles) (name : String) (marked : shelf.mark name = some next) :
    Kept next c handles := by
  obtain ⟨watch,bound,_⟩ := Option.bind_eq_some_iff.mp marked
  obtain ⟨h,held,rfl,rfl⟩ := kept
  rw [held.watches] at bound
  obtain ⟨mark,found,_⟩ := Option.map_eq_some_iff.mp bound
  obtain ⟨_,again,after⟩ := held.mark name mark found
  cases marked.symm.trans again
  refine ⟨_,after,?_,by simp [History.marked,found]⟩
  have there : (Option.map Mark.cell ∘ h.watches) name = some mark.cell := by simp [found]
  simp only [History.marked,found,column,Function.comp_update,Option.map_some,← there,Function.update_eq_self]

end Kept

end AccountLink.Shelf
