import AccountLink.Json.Reader

-- Records with named fields, read from JSON. A `Form` reads one value and says which values it accepts; a
-- `Shape` is a list of fields with their forms. `Shape.read` takes an object, in which members of other names
-- are passed over, or a list of the fields in order; `Shape.accept` says the same of a value that is already
-- read. A field that is left out keeps its blank unless it is required.

namespace AccountLink.Json

open AccountLink.Text

structure Form (α : Type) where
  read : Nat → Reader (Except Mismatch α)
  accept : Value → Option α

namespace Form

def map (f : α → β) (form : Form α) : Form β where
  read room text := do
    let (a,rest) ← form.read room text
    .ok (a.map f,rest)
  accept v := (form.accept v).map f

end Form

def unexpected (expected : String) : List Char → Except Failure α
  | [] => .error (.within .endOfValue [])
  | c :: rest =>
    if c = '[' then .error (.before (.mismatch (.unexpected (.array []) expected)) (c :: rest))
    else if c = '{' then .error (.before (.mismatch (.unexpected (.object []) expected)) (c :: rest))
    else do
      let (found,rest) ← readScalar (c :: rest)
      .error (.before (.mismatch (.unexpected found expected)) rest)

def readText (text : List Char) : Except Failure (Reading String) :=
  match skipGaps text with
  | '"' :: rest => readString rest
  | other => unexpected "a string" other

def readOptional (one : Reader α) (text : List Char) : Except Failure (Reading (Option α)) :=
  match skipGaps text with
  | 'n' :: rest => do
    let rest ← readWord ['u','l','l'] rest
    .ok (none,rest)
  | other => do
    let (a,rest) ← one other
    .ok (some a,rest)

def readList : Nat → Reader (List Value)
  | room,text =>
    match skipGaps text with
    | '[' :: rest =>
      match room with
      | 0 => .error (.within .tooDeep ('[' :: rest))
      | room + 1 => readItems (readValue room) (rest.length + 1) true rest
    | other => unexpected "a sequence" other

namespace Form

def text : Form String where
  read _ input := do
    let (s,rest) ← readText input
    .ok (.ok s,rest)
  accept
    | .string s => some s
    | _ => none

def optionalText : Form (Option String) where
  read _ input := do
    let (s,rest) ← readOptional readText input
    .ok (.ok s,rest)
  accept
    | .null => some none
    | .string s => some (some s)
    | _ => none

def anything : Form (Option Value) where
  read room input := do
    let (v,rest) ← readOptional (readValue room) input
    .ok (.ok v,rest)
  accept
    | .null => some none
    | v => some (some v)

def list : Form (List Value) where
  read room input := do
    let (vs,rest) ← readList room input
    .ok (.ok vs,rest)
  accept
    | .array vs => some vs
    | _ => none

-- An amount that a value states: a string as it is, a number by its text, null for none.
def amountOf : Value → Option (Option String)
  | .null => some none
  | .string s => some (some s)
  | .number n => some (some (String.ofList n.chars))
  | _ => none

def amount : Form (Option String) where
  read room input := do
    let (v,rest) ← readValue room input
    .ok ((amountOf v).elim (.error .amount) .ok,rest)
  accept := amountOf

end Form

structure Field (ρ : Type) where
  name : String
  required : Bool
  form : Form (ρ → ρ)

def Field.of (name : String) (form : Form α) (set : α → ρ → ρ) : Field ρ :=
  ⟨name,false,form.map set⟩

def Field.needed (name : String) (form : Form α) (set : α → ρ → ρ) : Field ρ :=
  ⟨name,true,form.map set⟩

structure Shape (ρ : Type) where
  name : String
  fields : List (Field ρ)
  blank : ρ

namespace Shape

def expected (shape : Shape ρ) : String := "struct " ++ shape.name

def withLength (shape : Shape ρ) : String :=
  shape.expected ++ " with " ++ toString shape.fields.length ++
    (if shape.fields.length = 1 then " element" else " elements")

-- A mismatch inside an object is placed behind its closing bracket, if that comes next.
def objectMismatch (m : Mismatch) (rest : List Char) : Failure :=
  match skipGaps rest with
  | '}' :: after => .before (.mismatch m) after
  | other => .before (.mismatch m) other

-- A mismatch inside a list is placed behind its closing bracket or a comma, if one comes next.
def listMismatch (m : Mismatch) (rest : List Char) : Failure :=
  match skipGaps rest with
  | ']' :: after => .before (.mismatch m) after
  | ',' :: after => .before (.mismatch m) (skipGaps after)
  | other => .before (.mismatch m) other

structure Progress (ρ : Type) where
  record : ρ
  seen : List String

def readMember (shape : Shape ρ) (room : Nat) (progress : Progress ρ) (key : String) (text : List Char) :
    Except Failure (Reading (Progress ρ)) :=
  match shape.fields.find? (·.name == key) with
  | none => do
    let rest ← readColon text
    let rest ← skipValue rest
    .ok (progress,rest)
  | some field =>
    if progress.seen.contains key then .error (objectMismatch (.duplicate key) text)
    else do
      let rest ← readColon text
      let (change,rest) ← field.form.read room rest
      match change with
      | .ok set => .ok (⟨set progress.record,key :: progress.seen⟩,rest)
      | .error m => .error (objectMismatch m rest)

def firstMissing (shape : Shape ρ) (seen : List String) : Option String :=
  (shape.fields.find? fun field => field.required && !seen.contains field.name).map (·.name)

def readObject (shape : Shape ρ) (room : Nat) (text : List Char) : Except Failure (Reading ρ) := do
  let (progress,rest) ← readMembers (shape.readMember room) (text.length + 1) true ⟨shape.blank,[]⟩ text
  match shape.firstMissing progress.seen with
  | none => .ok (progress.record,rest)
  | some name => .error (.before (.mismatch (.missing name)) rest)

def readListEnd (text : List Char) : Except Failure (List Char) :=
  match skipGaps text with
  | [] => .error (.within .endOfList [])
  | c :: rest =>
    if c = ']' then .ok rest
    else if c = ',' then
      match skipGaps rest with
      | ']' :: more => .error (.within .trailingComma (']' :: more))
      | other => .error (.within .trailingText other)
    else .error (.within .trailingText (c :: rest))

def readFields (shape : Shape ρ) (room : Nat) : List (Field ρ) → Nat → ρ → Reader ρ
  | [],_,record,text => do
    let rest ← readListEnd text
    .ok (record,rest)
  | field :: fields,index,record,text => do
    match ← nextItem (index == 0) text with
    | .close rest =>
      match (field :: fields).findIdx? (·.required) with
      | none => .ok (record,rest)
      | some offset => .error (.before (.mismatch (.wrongLength (index + offset) shape.withLength)) rest)
    | .item item =>
      let (change,rest) ← field.form.read room item
      match change with
      | .ok set => readFields shape room fields (index + 1) (set record) rest
      | .error m => .error (listMismatch m rest)

def read (shape : Shape ρ) (room : Nat) (text : List Char) : Except Failure (Reading ρ) :=
  match skipGaps text with
  | '[' :: rest =>
    match room with
    | 0 => .error (.within .tooDeep ('[' :: rest))
    | room + 1 => shape.readFields room shape.fields 0 shape.blank rest
  | '{' :: rest =>
    match room with
    | 0 => .error (.within .tooDeep ('{' :: rest))
    | room + 1 => shape.readObject room rest
  | other => unexpected shape.expected other

def decode (shape : Shape ρ) (text : List Char) : Except Failure ρ := do
  let (record,rest) ← shape.read roomForValues text
  readEnd rest
  .ok record

def acceptMembers (shape : Shape ρ) (members : Members) : Option ρ :=
  shape.fields.foldlM (fun record field =>
    match members.get? field.name with
    | some v => (field.form.accept v).map (· record)
    | none => if field.required then none else some record) shape.blank

def acceptItems : List (Field ρ) → ρ → List Value → Option ρ
  | [],record,[] => some record
  | [],_,_ :: _ => none
  | fields,record,[] => if fields.any (·.required) then none else some record
  | field :: fields,record,v :: vs => do
    let set ← field.form.accept v
    acceptItems fields (set record) vs

def accept (shape : Shape ρ) : Value → Option ρ
  | .object members => shape.acceptMembers members
  | .array items => acceptItems shape.fields shape.blank items
  | _ => none

def form (shape : Shape ρ) : Form (Option ρ) where
  read room input := do
    let (r,rest) ← readOptional (shape.read room) input
    .ok (.ok r,rest)
  accept
    | .null => some none
    | v => (shape.accept v).map some

end Shape

end AccountLink.Json
