import AccountLink.Cell.Names

-- Observable cells. A cell counts its writes, whether they change its value or not; a watch remembers how many
-- of them it has seen. Handles are names for cells, and a cell of which every handle is gone is closed to its
-- watches, which keep its last value.

namespace AccountLink

structure Cell (α : Type) where
  value : α
  writes : Nat
deriving Repr

def Cell.write (cell : Cell α) (f : α → α) : Cell α := ⟨f cell.value,cell.writes + 1⟩

structure Watch where
  cell : Nat
  seen : Nat
deriving DecidableEq, Repr

structure Shelf (α : Type) where
  cells : List (Cell α)
  handles : Names Nat
  watches : Names Watch

-- Whether a watch has missed a write; that of a closed cell cannot tell any more.
inductive Change where
  | unchanged
  | changed
  | closed
deriving DecidableEq, Repr

inductive Wait where
  | changed
  | closed
  | pending
deriving DecidableEq, Repr

namespace Shelf

variable {α : Type}

def single (name : String) (value : α) : Shelf α := ⟨[⟨value,0⟩],[(name,0)],[]⟩

def cellOf? (shelf : Shelf α) (name : String) : Option (Cell α) := do
  shelf.cells[← shelf.handles.get? name]?

def snapshot? (shelf : Shelf α) (name : String) : Option α := (shelf.cellOf? name).map (·.value)

def isOpen (shelf : Shelf α) (cell : Nat) : Bool := shelf.handles.any (·.2 == cell)

def create (shelf : Shelf α) (name : String) (value : α) : Shelf α where
  cells := shelf.cells ++ [⟨value,0⟩]
  handles := shelf.handles.bind name shelf.cells.length
  watches := shelf.watches

def share (shelf : Shelf α) (name source : String) : Option (Shelf α) := do
  let cell ← shelf.handles.get? source
  some {shelf with handles := shelf.handles.bind name cell}

def drop (shelf : Shelf α) (name : String) : Shelf α :=
  {shelf with handles := shelf.handles.drop name}

def write (shelf : Shelf α) (name : String) (f : α → α) : Option (Shelf α) := do
  let cell ← shelf.handles.get? name
  some {shelf with cells := shelf.cells.modify cell (·.write f)}

-- Starts a watch on the cell of a handle; what was written before counts as seen.
def subscribe (shelf : Shelf α) (handle name : String) : Option (Shelf α) := do
  let cell ← shelf.handles.get? handle
  let found ← shelf.cells[cell]?
  some {shelf with watches := shelf.watches.bind name ⟨cell,found.writes⟩}

def subscribeLike (shelf : Shelf α) (source name : String) : Option (Shelf α) := do
  let watch ← shelf.watches.get? source
  some {shelf with watches := shelf.watches.bind name watch}

def unsubscribe (shelf : Shelf α) (name : String) : Shelf α :=
  {shelf with watches := shelf.watches.drop name}

def look? (shelf : Shelf α) (name : String) : Option (Change × α) := do
  let watch ← shelf.watches.get? name
  let cell ← shelf.cells[watch.cell]?
  let change : Change :=
    if !shelf.isOpen watch.cell then .closed else if cell.writes = watch.seen then .unchanged else .changed
  some (change,cell.value)

def mark (shelf : Shelf α) (name : String) : Option (Shelf α) := do
  let watch ← shelf.watches.get? name
  let cell ← shelf.cells[watch.cell]?
  some {shelf with watches := shelf.watches.bind name ⟨watch.cell,cell.writes⟩}

-- Waits for a change, asking once: a missed write comes before a closed cell, and is then seen.
def poll (shelf : Shelf α) (name : String) : Option (Wait × Shelf α) := do
  let watch ← shelf.watches.get? name
  let cell ← shelf.cells[watch.cell]?
  if cell.writes ≠ watch.seen then
    let marked ← shelf.mark name
    some (.changed,marked)
  else if shelf.isOpen watch.cell then some (.pending,shelf)
  else some (.closed,shelf)

end Shelf

end AccountLink
