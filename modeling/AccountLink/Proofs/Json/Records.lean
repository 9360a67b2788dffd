import AccountLink.Proofs.Json.Forms

namespace AccountLink.Json

open AccountLink.Text

abbrev Entries := List (String × Phrase)

def named (members : List (List Letter × Phrase)) : Option Entries :=
  members.mapM fun m => (unescaped m.1).map fun cs => (String.ofList cs,m.2)

theorem named_cons (key : List Letter) (p : Phrase) (members : List (List Letter × Phrase)) :
    named ((key,p) :: members) =
      (unescaped key).bind fun cs => (named members).map ((String.ofList cs,p) :: ·) := by
  simp only [named,List.mapM_cons]
  cases unescaped key with
  | none => rfl
  | some cs => cases members.mapM fun m => (unescaped m.1).map fun cs => (String.ofList cs,m.2) <;> rfl

theorem foldMembers_named {σ : Type} (step : σ → String → Phrase → Option σ) (state : σ)
    {members : List (List Letter × Phrase)} {entries : Entries} (readable : named members = some entries) :
    foldMembers step state members = entries.foldlM (fun state e => step state e.1 e.2) state := by
  unfold foldMembers
  induction members generalizing state entries with
  | nil =>
      cases readable
      rfl
  | cons m members ih =>
      obtain ⟨key,p⟩ := m
      rw [named_cons] at readable
      obtain ⟨cs,spelt,others⟩ := Option.bind_eq_some_iff.mp readable
      obtain ⟨rest,readableRest,rfl⟩ := Option.map_eq_some_iff.mp others
      simp only [List.foldlM_cons,spelt,Option.bind_some]
      cases step state (String.ofList cs) p with
      | none => rfl
      | some state => exact ih state readableRest

namespace Shape

variable {ρ : Type}

def Steady (shape : Shape ρ) : Prop := ∀ field ∈ shape.fields, field.form.Steady

def take (shape : Shape ρ) (room : Nat) (progress : Progress ρ) (key : String) (p : Phrase) : Option (Progress ρ) :=
  match shape.fields.find? (·.name == key) with
  | none => some progress
  | some field =>
    if progress.seen.contains key then none
    else (field.form.value? room p).map fun set => ⟨set progress.record,key :: progress.seen⟩

def members? (shape : Shape ρ) (room : Nat) (members : List (List Letter × Phrase)) : Option ρ :=
  (foldMembers (shape.take room) ⟨shape.blank,[]⟩ members).bind fun progress =>
    match shape.firstMissing progress.seen with
    | none => some progress.record
    | some _ => none

theorem readMember_take {shape : Shape ρ} (steady : shape.Steady) (room : Nat) {p : Phrase} {text : List Char}
    (written : p.Writes text) (progress : Progress ρ) (key : String) (before after rest : List Char)
    (blankBefore : Blank before) (blankAfter : Blank after) (apart : Apart rest) :
    (shape.readMember room progress key (before ++ ':' :: (after ++ (text ++ rest)))).toOption =
      (shape.take room progress key p).map (·,rest) := by
  rw [readMember,take]
  cases found : shape.fields.find? (·.name == key) with
  | none =>
      simp [readColon_blank _ blankBefore,skipValue_phrase p text written after rest blankAfter apart]
  | some field =>
      obtain ⟨meaning,means⟩ := steady field (List.mem_of_find?_eq_some found)
      cases progress.seen.contains key with
      | true => rfl
      | false =>
          simp only [Bool.false_eq_true,if_false,readColon_blank _ blankBefore,toOption_bind,toOption_ok,Option.bind_some,
            means room p text written after rest blankAfter apart,means.value]
          rcases meaning room p with _ | _ | _ <;> rfl

theorem readObject_members {shape : Shape ρ} (steady : shape.Steady) (room : Nat)
    {members : List (List Letter × Phrase)} {body : List Char}
    (listed : Listed '}' (Paired Phrase.Writes) true members body) (rest : List Char) :
    (shape.readObject room (body ++ rest)).toOption = (shape.members? room members).map (·,rest) := by
  obtain ⟨spare,fuel⟩ := members_fuel rest listed
  have read := readMembers_listed (shape.readMember room) (shape.take room) listed
    (fun m _ t written => readMember_take steady room written) spare ⟨shape.blank,[]⟩ rest
  rw [readObject,fuel,toOption_bind,read,members?]
  cases foldMembers (shape.take room) ⟨shape.blank,[]⟩ members with
  | none => rfl
  | some progress =>
      simp only [Option.map_some,Option.bind_some]
      cases shape.firstMissing progress.seen <;> rfl

def items? (room : Nat) : List (Field ρ) → ρ → List Phrase → Option ρ
  | [],record,[] => some record
  | [],_,_ :: _ => none
  | field :: fields,record,[] => if (field :: fields).any (·.required) then none else some record
  | field :: fields,record,p :: ps => (field.form.value? room p).bind fun set => items? room fields (set record) ps

theorem readListEnd_listed {first : Bool} {items : List Phrase} {text : List Char}
    (listed : Listed ']' Phrase.Writes first items text) (rest : List Char) :
    (readListEnd (text ++ rest)).toOption = if items.isEmpty then some rest else none := by
  rw [readListEnd]
  cases listed with
  | nil blank => simp [skipGaps_blank _ blank,skipGaps_cons rest (c := ']') rfl]
  | @cons first lead p items t more led written others =>
      cases led with
      | first blank =>
          obtain ⟨c,tail,rfl,ungapped,opened⟩ := writes_starts written
          simp only [List.append_assoc,List.cons_append,skipGaps_blank _ blank,skipGaps_cons _ ungapped,opened,if_false]
          split
          · split <;> rfl
          · rfl
      | later blankBefore blankAfter =>
          simp only [List.append_assoc,List.cons_append,skipGaps_blank _ blankBefore,skipGaps_cons _ (c := ',') rfl]
          simp only [Char.reduceEq,if_true,if_false]
          split <;> rfl

theorem readFields_listed (shape : Shape ρ) (room : Nat) (fields : List (Field ρ))
    (steady : ∀ field ∈ fields, field.form.Steady) (index : Nat) (record : ρ)
    {items : List Phrase} {text : List Char} (listed : Listed ']' Phrase.Writes (index == 0) items text)
    (rest : List Char) :
    (shape.readFields room fields index record (text ++ rest)).toOption = (items? room fields record items).map (·,rest) := by
  induction fields generalizing index record items text with
  | nil =>
      rw [readFields,toOption_bind,readListEnd_listed listed]
      cases items <;> rfl
  | cons field fields ih =>
      rw [readFields]
      cases listed with
      | nil blank =>
          simp only [List.append_assoc,List.cons_append,List.nil_append,nextItem_close _ rest blank,items?,bind,Except.bind]
          cases found : (field :: fields).findIdx? (·.required) with
          | none =>
              have free : (field :: fields).any (·.required) = false := by
                simpa using List.findIdx?_eq_none_iff.mp found
              simp [free]
          | some offset =>
              have missing : (field :: fields).any (·.required) = true := by
                rw [List.any_eq_true]
                obtain ⟨h,required,_⟩ := List.findIdx?_eq_some_iff_getElem.mp found
                exact ⟨_,List.getElem_mem h,required⟩
              simp [missing]
      | @cons _ lead p items t more led written others =>
          have next := nextItem_lead led (starts_append (more ++ rest) (writes_starts written))
          have apart := listed_apart (.inl rfl) rest others
          obtain ⟨meaning,means⟩ := steady field (by simp)
          have read := means room p t written [] (more ++ rest) blank_nil apart
          rw [List.nil_append] at read
          rw [List.append_assoc,List.append_assoc,next,items?,means.value]
          simp only [toOption_bind,toOption_ok,Option.bind_some,read]
          rcases meaning room p with _ | _ | set
          · rfl
          · rfl
          · exact ih (fun field member => steady field (List.mem_cons_of_mem _ member)) (index+1) (set record) others

def phrase? (shape : Shape ρ) (room : Nat) : Phrase → Option ρ
  | .array items =>
    match room with
    | 0 => none
    | room + 1 => items? room shape.fields shape.blank items
  | .object members =>
    match room with
    | 0 => none
    | room + 1 => shape.members? room members
  | _ => none

theorem read_reads {shape : Shape ρ} (steady : shape.Steady) (room : Nat) {p : Phrase} {text : List Char}
    (written : p.Writes text) : Reads (shape.read room) text (shape.phrase? room p) := by
  intro gap rest blank apart
  rw [Shape.read,skipGaps_starts rest blank (writes_starts written)]
  cases written with
  | array listed =>
      cases room with
      | zero => rfl
      | succ room => exact readFields_listed shape room shape.fields steady 0 shape.blank listed rest
  | object listed =>
      cases room with
      | zero => rfl
      | succ room => exact readObject_members steady room listed rest
  | @number n =>
      obtain ⟨c,more,same,_,_,list,record,_⟩ := numeral_head n
      rw [same]
      split
      · next found =>
          cases found
          exact absurd rfl list
      · next found =>
          cases found
          exact absurd rfl record
      · exact unexpected_refused _ _
  | null | yes | no | string => exact unexpected_refused _ _

theorem form_means {shape : Shape ρ} (steady : shape.Steady) :
    shape.form.Means fun room p => (p.optional (shape.phrase? room p)).map .ok :=
  Form.plain_means fun room _ _ written => readOptional_optional written (read_reads steady room written)

theorem form_value {shape : Shape ρ} (steady : shape.Steady) (room : Nat) (p : Phrase) :
    shape.form.value? room p = p.optional (shape.phrase? room p) := (form_means steady).plain_value room p

theorem decode_document {shape : Shape ρ} (steady : shape.Steady) {p : Phrase} {text : List Char}
    (document : p.Document text) : (shape.decode text).toOption = shape.phrase? roomForValues p := by
  cases document with
  | @text before text after blankBefore blankAfter written =>
      have read := read_reads steady roomForValues written before after blankBefore (apart_blank blankAfter)
      rw [decode,toOption_bind,read]
      cases shape.phrase? roomForValues p with
      | none => rfl
      | some record => simp [readEnd_blank blankAfter]

end Shape

end AccountLink.Json
