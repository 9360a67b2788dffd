import Mathlib.Data.List.Nodup
import Mathlib.Logic.Function.Basic
import AccountLink.Cell.Step

namespace AccountLink.Names

variable {α : Type}

theorem get?_nil (name : String) : get? ([] : Names α) name = none := rfl

theorem get?_cons (first other : String) (a : α) (rest : Names α) :
    get? ((first,a) :: rest) other = if first = other then some a else get? rest other := by
  by_cases same : first = other <;> simp [get?,same]

theorem drop_get? (names : Names α) (name : String) :
    (names.drop name).get? = Function.update names.get? name none := by
  funext other
  induction names with
  | nil => by_cases same : other = name <;> simp [drop,get?_nil,Function.update,same]
  | cons head rest ih =>
      obtain ⟨first,a⟩ := head
      by_cases gone : first = name
      · subst gone
        have shorter : drop ((first,a) :: rest) first = drop rest first := by simp [drop]
        rw [shorter,ih]
        by_cases same : other = first
        · simp [same]
        · rw [Function.update_of_ne same,Function.update_of_ne same,get?_cons,if_neg (Ne.symm same)]
      · have kept : drop ((first,a) :: rest) name = (first,a) :: drop rest name := by simp [drop,gone]
        rw [kept,get?_cons,ih]
        by_cases same : other = name
        · subst same; simp [gone]
        · rw [Function.update_of_ne same,Function.update_of_ne same,get?_cons]

theorem bind_get? (names : Names α) (name : String) (a : α) :
    (names.bind name a).get? = Function.update names.get? name (some a) := by
  funext other
  unfold bind
  rw [get?_cons,drop_get?]
  by_cases same : other = name
  · simp [same]
  · rw [if_neg (Ne.symm same),Function.update_of_ne same,Function.update_of_ne same]

-- No name stands for two things. Shadowed entries would keep a cell open that nobody can reach.
def Distinct (names : Names α) : Prop := (names.map Prod.fst).Nodup

theorem nil_distinct : Distinct ([] : Names α) := List.nodup_nil

theorem drop_distinct (names : Names α) (name : String) (distinct : names.Distinct) :
    (names.drop name).Distinct :=
  distinct.sublist (List.filter_sublist.map Prod.fst)

theorem bind_distinct (names : Names α) (name : String) (a : α) (distinct : names.Distinct) :
    (names.bind name a).Distinct := by
  refine List.nodup_cons.mpr ⟨?_,drop_distinct names name distinct⟩
  intro member
  obtain ⟨entry,kept,same⟩ := List.mem_map.mp member
  have other := (List.mem_filter.mp kept).2
  simp [same] at other

theorem get?_mem (names : Names α) (distinct : names.Distinct) (name : String) (a : α) :
    names.get? name = some a ↔ (name,a) ∈ names := by
  induction names with
  | nil => simp [get?_nil]
  | cons head rest ih =>
      obtain ⟨first,b⟩ := head
      obtain ⟨fresh,distinct⟩ := List.nodup_cons.mp distinct
      rw [get?_cons]
      by_cases same : first = name
      · subst same
        have absent : (first,a) ∉ rest := fun member => fresh (List.mem_map.mpr ⟨_,member,rfl⟩)
        simp [absent,eq_comm]
      · simp [same,Ne.symm same,ih distinct]

end AccountLink.Names

namespace AccountLink

variable {α : Type}

theorem foldl_write (fs : List (α → α)) (cell : Cell α) :
    fs.foldl Cell.write cell = ⟨fs.foldl (fun a f => f a) cell.value,cell.writes+fs.length⟩ := by
  induction fs generalizing cell with
  | nil => rfl
  | cons f fs ih => simp only [List.foldl_cons,ih,Cell.write,List.length_cons]; congr 1; omega

namespace Shelf

def amend (shelf : Shelf α) (cell : Nat) (fs : List (α → α)) : Shelf α :=
  {shelf with cells := shelf.cells.modify cell fun c => fs.foldl Cell.write c}

@[simp] theorem amend_watches (shelf : Shelf α) (cell : Nat) (fs : List (α → α)) :
    (shelf.amend cell fs).watches = shelf.watches := rfl

theorem amend_nil (shelf : Shelf α) (cell : Nat) : shelf.amend cell [] = shelf := by
  simp [amend,show (fun c : Cell α => c) = id from rfl]

theorem amend_append (shelf : Shelf α) (cell : Nat) (fs gs : List (α → α)) :
    (shelf.amend cell fs).amend cell gs = shelf.amend cell (fs ++ gs) := by
  simp [amend,List.modify_modify_eq,Function.comp_def]

theorem amend_self (shelf : Shelf α) (cell : Nat) (fs : List (α → α)) :
    (shelf.amend cell fs).cells[cell]? = shelf.cells[cell]?.map fun c =>
      ⟨fs.foldl (fun a f => f a) c.value,c.writes+fs.length⟩ := by
  simp [amend,foldl_write]

theorem amend_other (shelf : Shelf α) (cell other : Nat) (fs : List (α → α)) (ne : cell ≠ other) :
    (shelf.amend cell fs).cells[other]? = shelf.cells[other]? := by
  simp [amend,ne]

theorem write_bound (shelf : Shelf α) (name : String) (cell : Nat) (f : α → α)
    (bound : shelf.handles.get? name = some cell) : shelf.write name f = some (shelf.amend cell [f]) := by
  simp [write,bound,amend]

theorem snapshot_bound (shelf : Shelf α) (name : String) (cell : Nat)
    (bound : shelf.handles.get? name = some cell) :
    shelf.snapshot? name = shelf.cells[cell]?.map (·.value) := by
  simp [snapshot?,cellOf?,bound]

theorem snapshot_there (shelf : Shelf α) (name : String) (a : α) : shelf.snapshot? name = some a ↔
    ∃ cell found, shelf.handles.get? name = some cell ∧ shelf.cells[cell]? = some found ∧ found.value = a := by
  simp [snapshot?,cellOf?,Option.bind_eq_some_iff]

theorem isOpen_bound (shelf : Shelf α) (cell : Nat) (distinct : shelf.handles.Distinct) :
    shelf.isOpen cell = true ↔ ∃ name, shelf.handles.get? name = some cell := by
  unfold isOpen
  rw [List.any_eq_true]
  constructor
  · rintro ⟨⟨name,found⟩,member,same⟩
    have same : found = cell := by simpa using same
    exact ⟨name,(Names.get?_mem _ distinct name cell).mpr (same ▸ member)⟩
  · rintro ⟨name,bound⟩
    exact ⟨(name,cell),(Names.get?_mem _ distinct name cell).mp bound,by simp⟩

theorem look_found (shelf : Shelf α) (name : String) (watch : Watch) (cell : Cell α)
    (bound : shelf.watches.get? name = some watch) (found : shelf.cells[watch.cell]? = some cell) :
    shelf.look? name = some (if shelf.isOpen watch.cell then
      if cell.writes = watch.seen then .unchanged else .changed else .closed,cell.value) := by
  cases opened : shelf.isOpen watch.cell <;> simp [look?,bound,found,opened]

theorem mark_found (shelf : Shelf α) (name : String) (watch : Watch) (cell : Cell α)
    (bound : shelf.watches.get? name = some watch) (found : shelf.cells[watch.cell]? = some cell) :
    shelf.mark name = some {shelf with watches := shelf.watches.bind name ⟨watch.cell,cell.writes⟩} := by
  simp [mark,bound,found]

theorem poll_found (shelf : Shelf α) (name : String) (watch : Watch) (cell : Cell α)
    (bound : shelf.watches.get? name = some watch) (found : shelf.cells[watch.cell]? = some cell) :
    shelf.poll name = if cell.writes = watch.seen then
      some (if shelf.isOpen watch.cell then .pending else .closed,shelf)
      else (shelf.mark name).map (.changed,·) := by
  by_cases same : cell.writes = watch.seen
  · cases opened : shelf.isOpen watch.cell <;> simp [poll,bound,found,same,opened]
  · simp [poll,bound,found,same,mark_found shelf name watch cell bound found]

end Shelf

end AccountLink
