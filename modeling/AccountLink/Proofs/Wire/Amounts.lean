import AccountLink.Proofs.Json.Places
import AccountLink.Proofs.Json.Written
import AccountLink.Proofs.Wire.Kinds

namespace AccountLink.Wire

open AccountLink.Json

theorem toString_chars (n : Int) : (toString n).toList = (Number.integer n).chars := by
  cases n with
  | ofNat m => simp [Number.chars,toString,Int.repr]
  | negSucc m => simp [Number.chars,toString,Int.repr]

theorem numeral_parts {a b : Numeral} (same : a.text = b.text) : a.negative = b.negative ∧ a.unsigned = b.unsigned := by
  have signed {a b : Numeral} (minus : a.negative = true) (plus : b.negative = false) : a.text ≠ b.text := by
    intro same
    obtain ⟨d,more,split,digit⟩ := unsigned_head b
    simp only [Numeral.text,minus,plus,split,if_true,Bool.false_eq_true,if_false,List.cons.injEq] at same
    rw [← same.1] at digit
    contradiction
  cases one : a.negative <;> cases two : b.negative
  · exact ⟨rfl,by simpa [Numeral.text,one,two] using same⟩
  · exact absurd same.symm (signed two one)
  · exact absurd same (signed one two)
  · exact ⟨rfl,by simpa [Numeral.text,one,two] using same⟩

theorem numeral_integer {n : Int} (fits : (Number.integer n).Fits) {numeral : Numeral}
    (stands : numeral.text = (toString n).toList) : numeral.value? = some (.integer n) := by
  rw [toString_chars,← ofInt_text] at stands
  obtain ⟨sign,digits⟩ := numeral_parts stands
  rw [← ofInt_value fits,Numeral.value?,Numeral.value?,sign,digits]

inductive WholeAmount (n : Int) : Phrase → Prop where
  | number {numeral : Numeral} (stands : numeral.text = (toString n).toList) : WholeAmount n (.number numeral)
  | string {letters} (stands : unescaped letters = some (toString n).toList) : WholeAmount n (.string letters)

inductive Amountless : Phrase → Prop where
  | bool {b} : Amountless (.bool b)
  | array {items} : Amountless (.array items)
  | object {members} : Amountless (.object members)

theorem amount_number (room : Nat) {n : Int} (fits : (Number.integer n).Fits) {numeral : Numeral}
    (stands : numeral.text = (toString n).toList) :
    Form.amount.value? room (.number numeral) = some (some (toString n)) := by
  rw [Form.amount_value,Phrase.value?,numeral_integer fits stands]
  change some (some (String.ofList (Number.integer n).chars)) = _
  rw [← toString_chars,String.ofList_toList]

theorem amount_whole (room : Nat) {n : Int} (fits : (Number.integer n).Fits) {p : Phrase} (whole : WholeAmount n p) :
    Form.amount.value? room p = some (some (toString n)) := by
  cases whole with
  | number stands => exact amount_number room fits stands
  | string stands => exact Form.amount_string room stands

theorem amount_refused (room : Nat) {p : Phrase} (amountless : Amountless p) : Form.amount.value? room p = none := by
  rw [Form.amount_value]
  cases amountless with
  | bool => rw [Phrase.value?]; rfl
  | @array items =>
      cases room with
      | zero => rw [Phrase.value?]; rfl
      | succ room =>
          rw [Phrase.value?]
          cases items.mapM (Phrase.value? room) <;> rfl
  | @object members =>
      cases room with
      | zero => rw [Phrase.value?]; rfl
      | succ room =>
          rw [Phrase.value?]
          cases foldMembers _ [] members <;> rfl

inductive Kind.AmountPlace : Kind → (Phrase → Phrase) → Prop where
  | login {hole} (place : LoginReply.shape.Place "confidios_balance" hole) : AmountPlace .login hole
  | content {hole} (place : FileContent.shape.Place "balance" hole) : AmountPlace .content hole
  | reading {hole inner} (place : ReadReply.shape.Place "content" hole) (amount : FileContent.shape.Place "balance" inner) :
      AmountPlace .reading (hole ∘ inner)

def Kind.amount : (kind : Kind) → kind.Record → Option String
  | .login,r => r.balance
  | .content,c => c.balance
  | .reading,r => r.content.bind (·.balance)
  | _,_ => none

def Kind.withAmount (amount : Option String) : (kind : Kind) → kind.Record → kind.Record
  | .login,r => {r with balance := amount}
  | .content,c => {c with balance := amount}
  | .reading,r => {r with content := r.content.map ({· with balance := amount})}
  | _,r => r

theorem content_amount {hole : Phrase → Phrase} (place : FileContent.shape.Place "balance" hole) (room : Nat) :
    ∃ rest : Option FileContent, ∀ p, FileContent.shape.phrase? (room+1) (hole p) =
      (Form.amount.value? room p).bind fun amount => rest.map ({· with balance := amount}) := by
  obtain ⟨rest,placed⟩ := Shape.phrase_place Kind.content.shape_orderly (.head _) rfl place room
  refine ⟨rest,fun p => (placed p).trans ?_⟩
  rw [Field.of,map_value,Option.bind_map]
  rfl

theorem amount_place {kind : Kind} {hole : Phrase → Phrase} (place : kind.AmountPlace hole) :
    ∃ room, ∃ rest : Option kind.Record,
      (∀ record, rest = some record → ∀ s, kind.amount (kind.withAmount (some s) record) = some s) ∧
      ∀ p, kind.shape.phrase? roomForValues (hole p) =
        (Form.amount.value? room p).bind fun amount => rest.map (kind.withAmount amount) := by
  cases place with
  | login place =>
      obtain ⟨rest,placed⟩ := Shape.phrase_place Kind.login.shape_orderly (.tail _ (.tail _ (.head _))) rfl place 126
      refine ⟨126,rest,fun _ _ _ => rfl,fun p => (placed p).trans ?_⟩
      rw [Field.of,map_value,Option.bind_map]
      rfl
  | content place =>
      obtain ⟨rest,placed⟩ := content_amount place 126
      exact ⟨126,rest,fun _ _ _ => rfl,placed⟩
  | @reading hole inner place amount =>
      obtain ⟨rest,placed⟩ := Shape.phrase_place Kind.reading.shape_orderly (.tail _ (.head _)) rfl place 126
      obtain ⟨content,filled⟩ := content_amount amount 125
      refine ⟨125,content.bind fun c => rest.map ({· with content := some c}),?_,fun p => (placed (inner p)).trans ?_⟩
      · intro record made s
        obtain ⟨c,_,made⟩ := Option.bind_eq_some_iff.mp made
        obtain ⟨r,_,rfl⟩ := Option.map_eq_some_iff.mp made
        rfl
      · rw [Field.of,map_value,Shape.form_value Kind.content_steady,Shape.place_optional amount,filled p]
        cases Form.amount.value? 125 p with
        | none => rfl
        | some s => cases content <;> cases rest <;> rfl

section Documents

variable {kind : Kind} {hole : Phrase → Phrase} {text bare : List Char}

theorem decode_amount (place : kind.AmountPlace hole) {n : Int} (fits : (Number.integer n).Fits) {p : Phrase}
    (whole : WholeAmount n p) (document : (hole p).Document text) (bareDocument : (hole .null).Document bare) :
    (kind.shape.decode text).toOption = (kind.shape.decode bare).toOption.map (kind.withAmount (some (toString n))) := by
  obtain ⟨room,rest,_,placed⟩ := amount_place place
  rw [Shape.decode_document kind.shape_steady document,Shape.decode_document kind.shape_steady bareDocument,
    placed,placed,amount_whole room fits whole,Form.amount_null room,Option.bind_some,Option.bind_some,Option.map_map]
  refine congrArg (Option.map · rest) (funext fun record => ?_)
  cases place with
  | login | content => rfl
  | reading =>
      obtain ⟨status,content⟩ := record
      cases content <;> rfl

theorem decoded_amount (place : kind.AmountPlace hole) {n : Int} (fits : (Number.integer n).Fits) {p : Phrase}
    (whole : WholeAmount n p) (document : (hole p).Document text) {record : kind.Record}
    (decoded : kind.shape.decode text = .ok record) : kind.amount record = some (toString n) := by
  obtain ⟨room,rest,told,placed⟩ := amount_place place
  rw [← toOption_some,Shape.decode_document kind.shape_steady document,placed,amount_whole room fits whole,
    Option.bind_some,Option.map_eq_some_iff] at decoded
  obtain ⟨record,made,rfl⟩ := decoded
  exact told record made (toString n)

theorem decode_amountless (place : kind.AmountPlace hole) {p : Phrase} (amountless : Amountless p)
    (document : (hole p).Document text) (record : kind.Record) : kind.shape.decode text ≠ .ok record := by
  obtain ⟨room,rest,_,placed⟩ := amount_place place
  rw [Ne,← toOption_some,Shape.decode_document kind.shape_steady document,placed,amount_refused room amountless,
    Option.bind_none]
  nofun

variable {n : Int} (fits : (Number.integer n).Fits) {p : Phrase} (whole : WholeAmount n p) {key outer : List Letter}
include fits whole

theorem amount_read {ρ : Type} (room : Nat) (name : String) (set : Option String → ρ → ρ) :
    (Field.of name .amount set).form.value? room p = some (set (some (toString n))) := by
  rw [Field.of,map_value,amount_whole room fits whole]
  rfl

theorem login_alone (spelt : unescaped key = some "confidios_balance".toList)
    (document : Phrase.Document (.object [(key,p)]) text) :
    LoginReply.shape.decode text = .ok ⟨none,none,some (toString n)⟩ :=
  Shape.decode_alone Kind.login.shape_orderly (by decide) (.tail _ (.tail _ (.head _))) spelt
    (amount_read fits whole 126 _ _) document

theorem content_alone (spelt : unescaped key = some "balance".toList)
    (document : Phrase.Document (.object [(key,p)]) text) :
    FileContent.shape.decode text = .ok ⟨some (toString n),none⟩ :=
  Shape.decode_alone Kind.content.shape_orderly (by decide) (.head _) spelt (amount_read fits whole 126 _ _) document

theorem reading_alone (speltOuter : unescaped outer = some "content".toList) (spelt : unescaped key = some "balance".toList)
    (document : Phrase.Document (.object [(outer,.object [(key,p)])]) text) :
    ReadReply.shape.decode text = .ok ⟨none,some ⟨some (toString n),none⟩⟩ := by
  have content : FileContent.shape.members? 125 [(key,p)] = some ⟨some (toString n),none⟩ :=
    Shape.members_alone Kind.content.shape_orderly (by decide) (.head _) spelt 125 (amount_read fits whole 125 _ _)
  have reads : (Field.of "content" FileContent.shape.form fun c (r : ReadReply) => {r with content := c}).form.value? 126
      (.object [(key,p)]) = some ({· with content := some ⟨some (toString n),none⟩}) := by
    rw [Field.of,map_value,Shape.form_value Kind.content_steady]
    exact congrArg (Option.map _ ∘ Option.map some) content
  exact Shape.decode_alone Kind.reading.shape_orderly (by decide) (.tail _ (.head _)) speltOuter reads document

end Documents

end AccountLink.Wire
