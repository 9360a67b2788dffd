-- Things with names: binding a name again replaces what it stood for.

namespace AccountLink

abbrev Names (α : Type) := List (String × α)

namespace Names

def get? (names : Names α) (name : String) : Option α :=
  (names.find? (·.1 == name)).map (·.2)

def drop (names : Names α) (name : String) : Names α := names.filter (·.1 != name)

def bind (names : Names α) (name : String) (a : α) : Names α := (name,a) :: names.drop name

end Names

end AccountLink
