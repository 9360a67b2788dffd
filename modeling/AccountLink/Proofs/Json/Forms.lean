import AccountLink.Json.Shape
import AccountLink.Proofs.Json.Values

namespace AccountLink.Json

open AccountLink.Text

-- What a form comes to is settled by the phrase and the room, not by how the phrase is written.
def Form.Means {α : Type} (form : Form α) (meaning : Nat → Phrase → Option (Except Mismatch α)) : Prop :=
  ∀ room p text, p.Writes text → Reads (form.read room) text (meaning room p)

def Form.Steady {α : Type} (form : Form α) : Prop := ∃ meaning, form.Means meaning

def Form.value? {α : Type} (form : Form α) (room : Nat) (p : Phrase) : Option α :=
  (form.read room p.text).toOption.bind fun read => read.1.toOption

theorem Form.Means.value {α : Type} {form : Form α} {meaning : Nat → Phrase → Option (Except Mismatch α)}
    (means : form.Means meaning) (room : Nat) (p : Phrase) :
    form.value? room p = (meaning room p).bind Except.toOption := by
  have read := means room p p.text p.text_written [] [] blank_nil apart_nil
  rw [List.append_nil,List.nil_append] at read
  rw [Form.value?,read]
  cases meaning room p <;> rfl

theorem map_means {α β : Type} {form : Form α} {meaning : Nat → Phrase → Option (Except Mismatch α)} (f : α → β)
    (means : form.Means meaning) : (form.map f).Means fun room p => (meaning room p).map (Except.map f) := by
  intro room p text written gap rest blank apart
  simp only [Form.map,toOption_bind,means room p text written gap rest blank apart]
  cases meaning room p <;> rfl

theorem map_steady {α β : Type} {form : Form α} (f : α → β) (steady : form.Steady) : (form.map f).Steady := by
  obtain ⟨meaning,means⟩ := steady
  exact ⟨_,map_means f means⟩

theorem map_value {α β : Type} {form : Form α} (f : α → β) (room : Nat) (p : Phrase) :
    (form.map f).value? room p = (form.value? room p).map f := by
  simp only [Form.value?,Form.map,toOption_bind]
  rcases (form.read room p.text).toOption with _ | ⟨_ | _,_⟩ <;> rfl

theorem unexpected_refused {α : Type} (expected : String) (text : List Char) :
    (unexpected expected text : Except Failure α).toOption = none := by
  unfold unexpected
  split
  · rfl
  · split
    · rfl
    · split
      · rfl
      · rw [toOption_bind]
        cases (readScalar _).toOption <;> rfl

def Phrase.string? : Phrase → Option String
  | .string letters => (unescaped letters).map String.ofList
  | _ => none

theorem readText_reads {p : Phrase} {text : List Char} (written : p.Writes text) : Reads readText text p.string? := by
  intro gap rest blank apart
  rw [readText,skipGaps_starts rest blank (writes_starts written)]
  cases written with
  | @string letters =>
      simp only [List.cons_append,List.append_assoc,List.nil_append,readString_letters,Phrase.string?]
      cases unescaped letters <;> rfl
  | @number n =>
      obtain ⟨c,more,same,_,_,_,_,_,quote⟩ := numeral_head n
      rw [same]
      split
      · next found =>
          cases found
          exact absurd rfl quote
      · exact unexpected_refused _ _
  | null | yes | no | array | object => exact unexpected_refused _ _

theorem readOptional_reads {α : Type} {one : Reader α} {p : Phrase} {text : List Char} {result : Option α}
    (written : p.Writes text) (other : p ≠ .null) (reads : Reads one text result) :
    Reads (readOptional one) text (result.map some) := by
  intro gap rest blank apart
  have read := reads [] rest blank_nil apart
  obtain ⟨c,more,same,_,_,null,_⟩ := writes_head written
  rw [readOptional,skipGaps_starts rest blank (writes_starts written)]
  split
  · next found =>
      rw [same] at found
      cases found
      exact absurd (null rfl) other
  · rw [List.nil_append] at read
    simp only [toOption_bind,read]
    cases result <;> rfl

theorem readOptional_null {α : Type} (one : Reader α) {text : List Char} (written : Phrase.null.Writes text) :
    Reads (readOptional one) text (some none) := by
  intro gap rest blank apart
  rw [readOptional,skipGaps_starts rest blank (writes_starts written)]
  cases written
  rfl

def Phrase.items? (room : Nat) : Phrase → Option (List Value)
  | .array items =>
    match room with
    | 0 => none
    | room + 1 => items.mapM (Phrase.value? room)
  | _ => none

theorem readList_reads (room : Nat) {p : Phrase} {text : List Char} (written : p.Writes text) :
    Reads (readList room) text (p.items? room) := by
  intro gap rest blank apart
  rw [readList,skipGaps_starts rest blank (writes_starts written)]
  cases written with
  | @array items body listed =>
      cases room with
      | zero => rfl
      | succ room =>
          obtain ⟨spare,fuel⟩ := items_fuel rest listed
          simp only [List.cons_append,fuel,Phrase.items?]
          exact readItems_listed listed (fun p _ t => writes_starts)
            (fun p _ t => readValue_reads room p t) spare rest
  | @number n =>
      obtain ⟨c,more,same,_,_,list,_⟩ := numeral_head n
      rw [same]
      split
      · next found =>
          cases found
          exact absurd rfl list
      · exact unexpected_refused _ _
  | null | yes | no | string | object => exact unexpected_refused _ _

def Phrase.optional {α : Type} (p : Phrase) (result : Option α) : Option (Option α) :=
  match p with
  | .null => some none
  | _ => result.map some

theorem readOptional_optional {α : Type} {one : Reader α} {p : Phrase} {text : List Char} {result : Option α}
    (written : p.Writes text) (reads : Reads one text result) :
    Reads (readOptional one) text (p.optional result) := by
  cases p with
  | null => exact readOptional_null one written
  | bool | number | string | array | object => exact readOptional_reads written (by simp) reads

namespace Form

theorem plain_means {α : Type} {one : Nat → Reader α} {accept : Value → Option α} {meaning : Nat → Phrase → Option α}
    (reads : ∀ room p text, p.Writes text → Reads (one room) text (meaning room p)) :
    Means ⟨fun room input => do
      let (a,rest) ← one room input
      .ok (.ok a,rest),accept⟩ fun room p => (meaning room p).map .ok := by
  intro room p text written gap rest blank apart
  simp only [toOption_bind,reads room p text written gap rest blank apart]
  cases meaning room p <;> rfl

theorem Means.plain_value {α : Type} {form : Form α} {meaning : Nat → Phrase → Option α}
    (means : form.Means fun room p => (meaning room p).map .ok) (room : Nat) (p : Phrase) :
    form.value? room p = meaning room p := by
  rw [means.value]
  cases meaning room p <;> rfl

theorem text_means : Form.text.Means fun _ p => p.string?.map .ok :=
  plain_means fun _ _ _ => readText_reads

theorem optionalText_means : Form.optionalText.Means fun _ p => (p.optional p.string?).map .ok :=
  plain_means fun _ _ _ written => readOptional_optional written (readText_reads written)

theorem anything_means : Form.anything.Means fun room p => (p.optional (p.value? room)).map .ok :=
  plain_means fun room p text written => readOptional_optional written (readValue_reads room p text written)

theorem list_means : Form.list.Means fun room p => (p.items? room).map .ok :=
  plain_means fun room _ _ => readList_reads room

theorem amount_means : Form.amount.Means fun room p =>
    (p.value? room).map fun v => (amountOf v).elim (.error .amount) .ok := by
  intro room p text written gap rest blank apart
  simp only [Form.amount,toOption_bind,readValue_reads room p text written gap rest blank apart]
  cases p.value? room <;> rfl

variable (room : Nat) (p : Phrase)

theorem text_value : Form.text.value? room p = p.string? := text_means.plain_value room p

theorem optionalText_value : optionalText.value? room p = p.optional p.string? := optionalText_means.plain_value room p

theorem anything_value : anything.value? room p = p.optional (p.value? room) := anything_means.plain_value room p

theorem list_value : list.value? room p = p.items? room := list_means.plain_value room p

theorem amount_value : amount.value? room p = (p.value? room).bind amountOf := by
  rw [amount_means.value]
  cases p.value? room with
  | none => rfl
  | some v =>
      change ((amountOf v).elim (Except.error Mismatch.amount) Except.ok).toOption = amountOf v
      cases amountOf v <;> rfl

theorem amount_null : amount.value? room .null = some none := by
  rw [amount_value,Phrase.value?]
  rfl

theorem amount_string {letters : List Letter} {s : String} (stands : unescaped letters = some s.toList) :
    amount.value? room (.string letters) = some (some s) := by
  rw [amount_value,Phrase.value?,stands,Option.map_some,String.ofList_toList]
  rfl

end Form

end AccountLink.Json
