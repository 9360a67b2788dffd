import AccountLink.Proofs.Json.Brackets
import AccountLink.Proofs.Json.Numbers

namespace AccountLink.Json

open AccountLink.Text

def Numeral.value? (n : Numeral) : Option Number := (readNumber n.negative n.unsigned).toOption.map (·.1)

theorem readNumber_numeral (n : Numeral) (rest : List Char) (apart : Apart rest) :
    (readNumber n.negative (n.unsigned ++ rest)).toOption = n.value?.map (·,rest) := by
  obtain ⟨result,stops⟩ := readNumber_stops n
  have alone := stops [] apart_nil
  rw [List.append_nil] at alone
  rw [stops rest apart,Numeral.value?,alone]
  cases result <;> rfl

def Phrase.value? : Nat → Phrase → Option Value
  | _,.null => some .null
  | _,.bool b => some (.bool b)
  | _,.number n => n.value?.map .number
  | _,.string letters => (unescaped letters).map fun cs => .string (String.ofList cs)
  | 0,.array _ => none
  | room + 1,.array items => (items.mapM (Phrase.value? room)).map .array
  | 0,.object _ => none
  | room + 1,.object members =>
    (foldMembers (fun done key p => (p.value? room).map (Members.put key · done)) [] members).map .object

theorem digit_head {d : Char} (digit : d.isDigit = true) :
    isGap d = false ∧ d ≠ ']' ∧ d ≠ '[' ∧ d ≠ '{' ∧ d ≠ 'n' ∧ d ≠ 't' ∧ d ≠ 'f' ∧ d ≠ '"' ∧ d ≠ '-' := by
  refine ⟨Bool.eq_false_iff.mpr fun gap => ?_,?_⟩
  · rw [(gap_undigited gap).1] at digit
    contradiction
  · refine ⟨?_,?_,?_,?_,?_,?_,?_,?_⟩ <;> (rintro rfl; exact absurd digit (by decide))

theorem unsigned_head (n : Numeral) : ∃ d more, n.unsigned = d :: more ∧ d.isDigit = true := by
  obtain ⟨d,more,same,digit,_⟩ := digits_cons n.counted
  exact ⟨d,more ++ n.fraction,by simp [Numeral.unsigned,same],digit⟩

theorem numeral_head (n : Numeral) : ∃ c more, n.text = c :: more ∧
    isGap c = false ∧ c ≠ ']' ∧ c ≠ '[' ∧ c ≠ '{' ∧ c ≠ 'n' ∧ c ≠ '"' := by
  cases sign : n.negative with
  | true => exact ⟨'-',n.unsigned,by simp [Numeral.text,sign],rfl,by decide⟩
  | false =>
      obtain ⟨d,more,same,digit⟩ := unsigned_head n
      obtain ⟨ungapped,close,list,record,null,_,_,quote,_⟩ := digit_head digit
      exact ⟨d,more,by simp [Numeral.text,sign,same],ungapped,close,list,record,null,quote⟩

theorem writes_head {p : Phrase} {text : List Char} (written : p.Writes text) :
    ∃ c more, text = c :: more ∧ isGap c = false ∧ c ≠ ']' ∧ (c = 'n' → p = .null) ∧
      (c = '"' → ∃ letters, p = .string letters) ∧ (c = '[' → ∃ items, p = .array items) ∧
      (c = '{' → ∃ members, p = .object members) := by
  cases written with
  | @number n =>
      obtain ⟨c,more,same,ungapped,close,list,record,null,quote⟩ := numeral_head n
      exact ⟨c,more,same,ungapped,close,fun h => absurd h null,fun h => absurd h quote,
        fun h => absurd h list,fun h => absurd h record⟩
  | null | yes | no | string | array listed | object listed => exact ⟨_,_,rfl,rfl,by decide,by simp⟩

theorem writes_starts {p : Phrase} {text : List Char} (written : p.Writes text) : Starts text := by
  obtain ⟨c,more,same,ungapped,close,_⟩ := writes_head written
  exact ⟨c,more,same,ungapped,close⟩

theorem skipGaps_starts {gap text : List Char} (rest : List Char) (blank : Blank gap) (starts : Starts text) :
    skipGaps (gap ++ (text ++ rest)) = text ++ rest := by
  obtain ⟨c,more,rfl,ungapped,_⟩ := starts
  rw [skipGaps_blank _ blank,List.cons_append,skipGaps_cons _ ungapped]

theorem readScalar_numeral (n : Numeral) (rest : List Char) (apart : Apart rest) :
    (readScalar (n.text ++ rest)).toOption = (n.value?.map .number).map (·,rest) := by
  have read := readNumber_numeral n rest apart
  cases sign : n.negative with
  | true =>
      rw [sign] at read
      simp only [Numeral.text,sign,if_true,List.cons_append,readScalar,Char.reduceEq,if_false,toOption_bind,read]
      cases n.value? <;> rfl
  | false =>
      rw [sign] at read
      obtain ⟨d,more,same,digit⟩ := unsigned_head n
      obtain ⟨_,_,_,_,null,yes,no,quote,minus⟩ := digit_head digit
      rw [same,List.cons_append] at read
      simp only [Numeral.text,sign,same,List.cons_append,readScalar,null,yes,no,quote,minus,digit,if_true,if_false,
        Bool.false_eq_true,toOption_bind,read]
      cases n.value? <;> rfl

theorem readScalar_string (letters : List Letter) (rest : List Char) :
    (readScalar ('"' :: (spelled letters ++ ['"']) ++ rest)).toOption =
      ((unescaped letters).map fun cs => Value.string (String.ofList cs)).map (·,rest) := by
  simp only [List.cons_append,List.append_assoc,List.nil_append,readScalar,Char.reduceEq,if_true,if_false,
    toOption_bind,readString_letters]
  cases unescaped letters <;> rfl

theorem readValue_scalar (room : Nat) {c : Char} (gap rest : List Char) (blank : Blank gap) (ungapped : isGap c = false)
    (list : c ≠ '[') (record : c ≠ '{') : readValue room (gap ++ c :: rest) = readScalar (c :: rest) := by
  rw [readValue,skipGaps_blank _ blank,skipGaps_cons _ ungapped]
  simp [list,record]

theorem items_fuel {items : List Phrase} {body : List Char} (rest : List Char)
    (listed : Listed ']' Phrase.Writes true items body) :
    ∃ spare, (body ++ rest).length+1 = spare+items.length+1 := by
  refine listed_fuel (fun p _ t written => ?_) rest listed
  obtain ⟨c,more,rfl,_⟩ := writes_starts written
  exact List.cons_ne_nil c more

theorem members_fuel {members : List (List Letter × Phrase)} {body : List Char} (rest : List Char)
    (listed : Listed '}' (Paired Phrase.Writes) true members body) :
    ∃ spare, (body ++ rest).length+1 = spare+members.length+1 := by
  refine listed_fuel (fun m _ t paired => ?_) rest listed
  cases paired
  exact List.cons_ne_nil _ _

theorem putMember_reads {room : Nat} {p : Phrase} {text : List Char} (reads : Reads (readValue room) text (p.value? room))
    (done : Members) (key : String) {before after rest : List Char} (blankBefore : Blank before) (blankAfter : Blank after)
    (apart : Apart rest) :
    (putMember (readValue room) done key (before ++ ':' :: (after ++ (text ++ rest)))).toOption =
      ((p.value? room).map (Members.put key · done)).map (·,rest) := by
  simp only [putMember,readColon_blank _ blankBefore,toOption_bind,toOption_ok,Option.bind_some,
    reads after rest blankAfter apart]
  cases p.value? room <;> rfl

theorem readValue_array (room : Nat) {items : List Phrase} {body : List Char}
    (listed : Listed ']' Phrase.Writes true items body)
    (reads : ∀ p ∈ items, ∀ t, p.Writes t → Reads (readValue room) t (p.value? room)) :
    Reads (readValue (room+1)) ('[' :: body) (Phrase.value? (room+1) (.array items)) := by
  intro gap rest blank apart
  obtain ⟨spare,fuel⟩ := items_fuel rest listed
  have read := readItems_listed listed (fun p _ t => writes_starts) reads spare rest
  rw [readValue,skipGaps_blank _ blank,List.cons_append,skipGaps_cons _ (c := '[') rfl]
  simp only [if_true,toOption_bind,fuel,read,Phrase.value?]
  cases items.mapM (Phrase.value? room) <;> rfl

theorem readValue_object (room : Nat) {members : List (List Letter × Phrase)} {body : List Char}
    (listed : Listed '}' (Paired Phrase.Writes) true members body)
    (reads : ∀ m ∈ members, ∀ t, m.2.Writes t → Reads (readValue room) t (m.2.value? room)) :
    Reads (readValue (room+1)) ('{' :: body) (Phrase.value? (room+1) (.object members)) := by
  intro gap rest blank apart
  obtain ⟨spare,fuel⟩ := members_fuel rest listed
  have each : ∀ m ∈ members, ∀ t, m.2.Writes t → ∀ done key before after rest, Blank before → Blank after → Apart rest →
      (putMember (readValue room) done key (before ++ ':' :: (after ++ (t ++ rest)))).toOption =
        ((m.2.value? room).map (Members.put key · done)).map (·,rest) :=
    fun m member t written done key _ _ _ blankBefore blankAfter =>
      putMember_reads (reads m member t written) done key blankBefore blankAfter
  have read := readMembers_listed (putMember (readValue room))
    (fun done key p => (p.value? room).map (Members.put key · done)) listed each spare [] rest
  rw [readValue,skipGaps_blank _ blank,List.cons_append,skipGaps_cons _ (c := '{') rfl]
  simp only [Char.reduceEq,if_true,if_false,toOption_bind,fuel,read,Phrase.value?]
  cases foldMembers _ [] members <;> rfl

-- By induction on the room that is left, as the reader goes down one level at a bracket.
theorem readValue_reads (room : Nat) (p : Phrase) (text : List Char) (written : p.Writes text) :
    Reads (readValue room) text (p.value? room) := by
  induction room using Nat.strongRecOn generalizing p text with
  | ind room ih =>
    cases written with
    | null | yes | no =>
        intro gap rest blank apart
        rw [List.cons_append,readValue_scalar _ _ _ blank rfl (by decide) (by decide),Phrase.value?]
        rfl
    | @number n =>
        intro gap rest blank apart
        obtain ⟨c,more,same,ungapped,_,list,record,_⟩ := numeral_head n
        have read := readScalar_numeral n rest apart
        rw [same,List.cons_append] at read
        rw [same,List.cons_append,readValue_scalar _ _ _ blank ungapped list record,read,Phrase.value?]
    | @string letters =>
        intro gap rest blank apart
        have read := readScalar_string letters rest
        rw [List.cons_append,readValue_scalar _ _ _ blank rfl (by decide) (by decide),Phrase.value?,← read]
        rfl
    | array listed =>
        cases room with
        | succ room => exact readValue_array room listed fun p _ => ih room (Nat.lt_succ_self room) p
        | zero =>
            intro gap rest blank apart
            rw [readValue,skipGaps_blank _ blank,List.cons_append,skipGaps_cons _ (c := '[') rfl]
            rfl
    | object listed =>
        cases room with
        | succ room => exact readValue_object room listed fun m _ => ih room (Nat.lt_succ_self room) m.2
        | zero =>
            intro gap rest blank apart
            rw [readValue,skipGaps_blank _ blank,List.cons_append,skipGaps_cons _ (c := '{') rfl]
            rfl

theorem readWord_append (word rest : List Char) : readWord word (word ++ rest) = .ok rest := by
  induction word with
  | nil => rfl
  | cons w word ih => simpa [readWord] using ih

theorem skipNested_numeral (fuel : Nat) (n : Numeral) (gap rest : List Char) (blank : Blank gap) (apart : Apart rest) :
    skipNested (fuel+1) (gap ++ (n.text ++ rest)) = .ok rest := by
  have passed := skipNumber_unsigned n rest apart
  rw [skipNested,skipGaps_starts rest blank (writes_starts .number)]
  cases sign : n.negative with
  | true => simpa [Numeral.text,sign] using passed
  | false =>
      obtain ⟨d,more,same,digit⟩ := unsigned_head n
      obtain ⟨_,_,_,_,null,yes,no,quote,minus⟩ := digit_head digit
      rw [same] at passed
      simpa [Numeral.text,sign,same,null,yes,no,quote,minus,digit] using passed

-- By induction on the fuel: a text is longer than those of its items.
theorem skipNested_phrase (fuel : Nat) (p : Phrase) (text : List Char) (written : p.Writes text)
    (enough : text.length ≤ fuel) (gap rest : List Char) (blank : Blank gap) (apart : Apart rest) :
    skipNested fuel (gap ++ (text ++ rest)) = .ok rest := by
  induction fuel generalizing p text gap rest with
  | zero =>
      obtain ⟨c,more,rfl,_⟩ := writes_starts written
      exact absurd enough (by simp)
  | succ fuel ih =>
      cases written with
      | null =>
          rw [skipNested,skipGaps_starts rest blank (writes_starts .null)]
          exact readWord_append ['u','l','l'] rest
      | yes =>
          rw [skipNested,skipGaps_starts rest blank (writes_starts .yes)]
          exact readWord_append ['r','u','e'] rest
      | no =>
          rw [skipNested,skipGaps_starts rest blank (writes_starts .no)]
          exact readWord_append ['a','l','s','e'] rest
      | @number n => exact skipNested_numeral fuel n gap rest blank apart
      | @string letters =>
          rw [skipNested,skipGaps_starts rest blank (writes_starts .string),List.cons_append,List.append_assoc]
          exact skipString_letters letters rest
      | @array items body listed =>
          have bound : body.length ≤ fuel := Nat.le_of_succ_le_succ enough
          obtain ⟨spare,steps⟩ := items_fuel rest listed
          rw [skipNested,skipGaps_starts rest blank (writes_starts (.array listed)),List.cons_append]
          simp only [Char.reduceEq,if_true,if_false,steps]
          exact skipItems_listed listed (fun p _ t => writes_starts)
            (fun p _ t written short => ih p t written (Nat.le_trans short bound)) spare rest
      | @object members body listed =>
          have bound : body.length ≤ fuel := Nat.le_of_succ_le_succ enough
          obtain ⟨spare,steps⟩ := members_fuel rest listed
          rw [skipNested,skipGaps_starts rest blank (writes_starts (.object listed)),List.cons_append]
          simp only [Char.reduceEq,if_true,if_false,steps]
          exact skipMembers_listed listed
            (fun m _ t written short => ih m.2 t written (Nat.le_trans short bound)) spare rest

theorem skipValue_phrase (p : Phrase) (text : List Char) (written : p.Writes text) (gap rest : List Char)
    (blank : Blank gap) (apart : Apart rest) : skipValue (gap ++ (text ++ rest)) = .ok rest :=
  skipNested_phrase _ p text written (by simp only [List.length_append]; omega) gap rest blank apart

theorem readEnd_blank {gap : List Char} (blank : Blank gap) : readEnd gap = .ok () := by
  rw [readEnd,skipGaps_blank_nil blank]

end AccountLink.Json
