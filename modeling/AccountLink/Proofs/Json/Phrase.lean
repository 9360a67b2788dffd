import AccountLink.Json.Reader

-- The grammar of JSON texts. A phrase is what a text says, token by token: strings and numbers as they are
-- spelled, items and members in their order, keys repeated or not. `Phrase.Writes` relates it to the texts that
-- say it, which differ in their blanks. Whether a phrase has a value is another matter.

namespace AccountLink.Json

open AccountLink.Text

def hexUnit (a b c d : Char) : Option Nat := do
  let w ← hexValue a
  let x ← hexValue b
  let y ← hexValue c
  let z ← hexValue d
  some (((w * 16 + x) * 16 + y) * 16 + z)

-- One character of a string, as it is spelled. A unit may be half of a pair, or the half of none.
inductive Letter where
  | plain (c : Char) (proper : c ≠ '"' ∧ c ≠ '\\' ∧ 32 ≤ c.toNat)
  | short (e c : Char) (stands : shortEscape e = some c)
  | unit (a b c d : Char) (n : Nat) (stands : hexUnit a b c d = some n)

def Letter.text : Letter → List Char
  | .plain c _ => [c]
  | .short e _ _ => ['\\',e]
  | .unit a b c d _ _ => ['\\','u',a,b,c,d]

def spelled (letters : List Letter) : List Char := letters.flatMap Letter.text

abbrev Leading (n : Nat) : Prop := 0xd800 ≤ n ∧ n ≤ 0xdbff

abbrev Trailing (n : Nat) : Prop := 0xdc00 ≤ n ∧ n ≤ 0xdfff

def paired (n m : Nat) : Char := Char.ofNat (0x10000 + (n - 0xd800) * 0x400 + (m - 0xdc00))

def unescaped : List Letter → Option (List Char)
  | [] => some []
  | .plain c _ :: rest => (unescaped rest).map (c :: ·)
  | .short _ c _ :: rest => (unescaped rest).map (c :: ·)
  | .unit _ _ _ _ n _ :: rest =>
    if Trailing n then none
    else if Leading n then
      match rest with
      | .unit _ _ _ _ m _ :: rest => if Trailing m then (unescaped rest).map (paired n m :: ·) else none
      | _ => none
    else (unescaped rest).map (Char.ofNat n :: ·)

def Digits (ds : List Char) : Prop := ds ≠ [] ∧ ∀ c ∈ ds, c.isDigit = true

structure Power where
  mark : Char
  sign : List Char
  digits : List Char
  marked : mark = 'e' ∨ mark = 'E'
  signed : sign = [] ∨ sign = ['+'] ∨ sign = ['-']
  counted : Digits digits

def Power.text (power : Power) : List Char := power.mark :: (power.sign ++ power.digits)

structure Numeral where
  negative : Bool
  whole : List Char
  decimals : Option (List Char)
  power : Option Power
  counted : Digits whole
  zero : whole.head? = some '0' → whole = ['0']
  continued : ∀ ds, decimals = some ds → Digits ds

namespace Numeral

def ending (n : Numeral) : List Char := n.power.elim [] Power.text

def fraction (n : Numeral) : List Char := n.decimals.elim [] ('.' :: ·) ++ n.ending

def unsigned (n : Numeral) : List Char := n.whole ++ n.fraction

def text (n : Numeral) : List Char := if n.negative then '-' :: n.unsigned else n.unsigned

end Numeral

inductive Phrase where
  | null
  | bool (b : Bool)
  | number (n : Numeral)
  | string (letters : List Letter)
  | array (items : List Phrase)
  | object (members : List (List Letter × Phrase))

theorem Phrase.ind {P : Phrase → Prop} (null : P .null) (bool : ∀ b, P (.bool b)) (number : ∀ n, P (.number n))
    (string : ∀ letters, P (.string letters)) (array : ∀ items, (∀ p ∈ items, P p) → P (.array items))
    (object : ∀ members, (∀ m ∈ members, P m.2) → P (.object members)) : ∀ p, P p
  | .null => null
  | .bool b => bool b
  | .number n => number n
  | .string letters => string letters
  | .array items => array items fun p _ => Phrase.ind null bool number string array object p
  | .object members => object members fun m _ => Phrase.ind null bool number string array object m.2
termination_by p => sizeOf p
decreasing_by
  · have smaller := List.sizeOf_lt_of_mem ‹p ∈ items›
    simp only [Phrase.array.sizeOf_spec]
    omega
  · have smaller := List.sizeOf_lt_of_mem ‹m ∈ members›
    obtain ⟨key,p⟩ := m
    simp only [Phrase.object.sizeOf_spec,Prod.mk.sizeOf_spec] at smaller ⊢
    omega

def Blank (gap : List Char) : Prop := ∀ c ∈ gap, isGap c = true

inductive Lead : Bool → List Char → Prop where
  | first {gap} (blank : Blank gap) : Lead true gap
  | later {before after} (blankBefore : Blank before) (blankAfter : Blank after) :
      Lead false (before ++ ',' :: after)

inductive Listed {α : Type} (close : Char) (writes : α → List Char → Prop) : Bool → List α → List Char → Prop where
  | nil {first gap} (blank : Blank gap) : Listed close writes first [] (gap ++ [close])
  | cons {first lead item items text more} (led : Lead first lead) (written : writes item text)
      (others : Listed close writes false items more) :
      Listed close writes first (item :: items) (lead ++ (text ++ more))

inductive Paired (writes : Phrase → List Char → Prop) : List Letter × Phrase → List Char → Prop where
  | pair {key p before after text} (blankBefore : Blank before) (blankAfter : Blank after) (written : writes p text) :
      Paired writes (key,p) ('"' :: (spelled key ++ '"' :: (before ++ ':' :: (after ++ text))))

inductive Phrase.Writes : Phrase → List Char → Prop where
  | null : Writes .null ['n','u','l','l']
  | yes : Writes (.bool true) ['t','r','u','e']
  | no : Writes (.bool false) ['f','a','l','s','e']
  | number {n} : Writes (.number n) n.text
  | string {letters} : Writes (.string letters) ('"' :: (spelled letters ++ ['"']))
  | array {items body} (listed : Listed ']' Writes true items body) : Writes (.array items) ('[' :: body)
  | object {members body} (listed : Listed '}' (Paired Writes) true members body) :
      Writes (.object members) ('{' :: body)

inductive Phrase.Document : Phrase → List Char → Prop where
  | text {p before text after} (blankBefore : Blank before) (blankAfter : Blank after) (written : Phrase.Writes p text) :
      Document p (before ++ (text ++ after))

mutual

def Phrase.text : Phrase → List Char
  | .null => ['n','u','l','l']
  | .bool true => ['t','r','u','e']
  | .bool false => ['f','a','l','s','e']
  | .number n => n.text
  | .string letters => '"' :: (spelled letters ++ ['"'])
  | .array items => '[' :: itemsText true items
  | .object members => '{' :: membersText true members

def itemsText : Bool → List Phrase → List Char
  | _,[] => [']']
  | true,item :: items => item.text ++ itemsText false items
  | false,item :: items => ',' :: (item.text ++ itemsText false items)

def membersText : Bool → List (List Letter × Phrase) → List Char
  | _,[] => ['}']
  | true,(key,p) :: members => '"' :: (spelled key ++ '"' :: ':' :: p.text) ++ membersText false members
  | false,(key,p) :: members => ',' :: ('"' :: (spelled key ++ '"' :: ':' :: p.text) ++ membersText false members)

end

theorem blank_nil : Blank [] := List.forall_mem_nil _

theorem lead_tight (first : Bool) : Lead first (if first then [] else [',']) := by
  cases first with
  | true => exact .first blank_nil
  | false => exact .later blank_nil blank_nil

theorem itemsText_listed (first : Bool) (items : List Phrase) (written : ∀ p ∈ items, p.Writes p.text) :
    Listed ']' Phrase.Writes first items (itemsText first items) := by
  induction items generalizing first with
  | nil => simpa [itemsText] using @Listed.nil _ ']' Phrase.Writes first [] blank_nil
  | cons p items ih =>
      have others := ih false fun q member => written q (List.mem_cons_of_mem p member)
      have listed := Listed.cons (lead_tight first) (written p (by simp)) others
      cases first <;> simpa [itemsText] using listed

theorem membersText_listed (first : Bool) (members : List (List Letter × Phrase))
    (written : ∀ m ∈ members, m.2.Writes m.2.text) :
    Listed '}' (Paired Phrase.Writes) first members (membersText first members) := by
  induction members generalizing first with
  | nil => simpa [membersText] using @Listed.nil _ '}' (Paired Phrase.Writes) first [] blank_nil
  | cons m members ih =>
      obtain ⟨key,p⟩ := m
      have others := ih false fun n member => written n (List.mem_cons_of_mem _ member)
      have one : Paired Phrase.Writes (key,p) _ := .pair blank_nil blank_nil (written (key,p) (by simp))
      have listed := Listed.cons (lead_tight first) one others
      cases first <;> simpa [membersText] using listed

theorem Phrase.text_written (p : Phrase) : p.Writes p.text := by
  induction p using Phrase.ind with
  | null => exact .null
  | bool b => cases b with
    | true => exact .yes
    | false => exact .no
  | number n => exact .number
  | string letters => exact .string
  | array items ih => exact .array (itemsText_listed true items ih)
  | object members ih => exact .object (membersText_listed true members ih)

theorem Phrase.text_document (p : Phrase) : p.Document p.text := by
  simpa using Phrase.Document.text blank_nil blank_nil p.text_written

end AccountLink.Json
