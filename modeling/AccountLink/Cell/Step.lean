import AccountLink.Cell.Basic

namespace AccountLink.Shelf

-- Names are those of handles, and of watches where a step looks at one. An update computes the new value
-- from the old one and from what handles of other cells show.
inductive Step (α : Type) where
  | create (name : String) (value : α)
  | share (name source : String)
  | drop (name : String)
  | set (name : String) (value : α)
  | update (name : String) (others : List String) (f : List α → α → α)
  | read (name : String)
  | subscribe (handle name : String)
  | subscribeLike (source name : String)
  | unsubscribe (name : String)
  | peek (name : String)
  | observe (name : String)
  | poll (name : String)

inductive Sight (α : Type) where
  | nothing
  | value (value : α)
  | change (change : Change) (value : α)
  | wait (wait : Wait)
deriving DecidableEq, Repr

variable {α : Type}

def empty : Shelf α := ⟨[],[],[]⟩

-- What a handle of another cell shows; an update that looks at its own cell would never end.
def elsewhere? (shelf : Shelf α) (cell : Nat) (name : String) : Option α := do
  let other ← shelf.handles.get? name
  if other = cell then none else (shelf.cells[other]?).map (·.value)

def elsewhere (shelf : Shelf α) (cell : Nat) : List String → Option (List α)
  | [] => some []
  | name :: names => do
    let value ← shelf.elsewhere? cell name
    let values ← shelf.elsewhere cell names
    some (value :: values)

def quiet (shelf : Shelf α) : Option (Shelf α × Sight α) := some (shelf,.nothing)

def step (shelf : Shelf α) : Step α → Option (Shelf α × Sight α)
  | .create name value => (shelf.create name value).quiet
  | .share name source => (shelf.share name source).bind quiet
  | .drop name => (shelf.drop name).quiet
  | .set name value => (shelf.write name fun _ => value).bind quiet
  | .update name others f => do
    let cell ← shelf.handles.get? name
    let values ← shelf.elsewhere cell others
    (shelf.write name (f values)).bind quiet
  | .read name => (shelf.snapshot? name).map fun value => (shelf,.value value)
  | .subscribe handle name => (shelf.subscribe handle name).bind quiet
  | .subscribeLike source name => (shelf.subscribeLike source name).bind quiet
  | .unsubscribe name => (shelf.unsubscribe name).quiet
  | .peek name => (shelf.look? name).map fun (change,value) => (shelf,.change change value)
  | .observe name => do
    let (change,value) ← shelf.look? name
    let marked ← shelf.mark name
    some (marked,.change change value)
  | .poll name => (shelf.poll name).map fun (wait,shelf) => (shelf,.wait wait)

def run : Shelf α → List (Step α) → Option (Shelf α × List (Sight α))
  | shelf,[] => some (shelf,[])
  | shelf,first :: rest => do
    let (shelf,sight) ← shelf.step first
    let (shelf,sights) ← run shelf rest
    some (shelf,sight :: sights)

end AccountLink.Shelf
