import AccountLink.Json.Printer
import AccountLink.Proofs.Json.Fits
import AccountLink.Proofs.Json.Values

namespace AccountLink.Json

open AccountLink.Text AccountLink.Decimal

theorem hexValue_digit : ∀ n < 16, hexValue (hexDigit n) = some n := by decide

theorem hexUnit_control {n : Nat} (control : n < 32) :
    hexUnit '0' '0' (hexDigit (n/16)) (hexDigit (n%16)) = some n := by
  have zero : hexValue '0' = some 0 := rfl
  have high := hexValue_digit (n/16) (by omega)
  have low := hexValue_digit (n%16) (by omega)
  simp only [hexUnit,zero,high,low,Option.bind_eq_bind,Option.bind_some,Option.some.injEq]
  omega

theorem char_toNat {c : Char} {n : Nat} (same : c.toNat = n) : Char.ofNat n = c := by
  rw [← same,Char.ofNat_toNat]

def Letter.of (c : Char) : Letter :=
  if quote : c = '"' then .short '"' c (by rw [quote]; rfl)
  else if back : c = '\\' then .short '\\' c (by rw [back]; rfl)
  else if line : c = '\n' then .short 'n' c (by rw [line]; rfl)
  else if carriage : c = '\r' then .short 'r' c (by rw [carriage]; rfl)
  else if tab : c = '\t' then .short 't' c (by rw [tab]; rfl)
  else if bell : c.toNat = 8 then .short 'b' c (by rw [← char_toNat bell]; rfl)
  else if feed : c.toNat = 12 then .short 'f' c (by rw [← char_toNat feed]; rfl)
  else if control : c.toNat < 32 then .unit '0' '0' (hexDigit (c.toNat/16)) (hexDigit (c.toNat%16)) c.toNat (hexUnit_control control)
  else .plain c ⟨quote,back,Nat.not_lt.mp control⟩

def spelling (s : String) : List Letter := s.toList.map Letter.of

theorem of_text (c : Char) : (Letter.of c).text = escapeChar c := by
  unfold Letter.of escapeChar
  repeat' split
  all_goals rfl

theorem unescaped_control {c : Char} (control : c.toNat < 32) (letters : List Letter) :
    unescaped (.unit '0' '0' (hexDigit (c.toNat/16)) (hexDigit (c.toNat%16)) c.toNat (hexUnit_control control) :: letters) =
      (unescaped letters).map (c :: ·) := by
  have trailing : ¬ Trailing c.toNat := by rintro ⟨low,_⟩; omega
  have leading : ¬ Leading c.toNat := by rintro ⟨low,_⟩; omega
  rw [unescaped.eq_def]
  simp only [trailing,leading,if_false,Char.ofNat_toNat]

theorem unescaped_of (c : Char) (letters : List Letter) :
    unescaped (Letter.of c :: letters) = (unescaped letters).map (c :: ·) := by
  unfold Letter.of
  repeat' split
  all_goals first
    | rfl
    | exact unescaped_control ‹_› letters

theorem unescaped_spelling (s : String) : unescaped (spelling s) = some s.toList := by
  rw [spelling]
  induction s.toList with
  | nil => rfl
  | cons c cs ih => rw [List.map_cons,unescaped_of,ih,Option.map_some]

theorem quoted_spelling (s : String) : quoted s.toList = '"' :: (spelled (spelling s) ++ ['"']) := by
  rw [quoted,spelled,spelling,List.flatMap_map,List.cons_append]
  simp only [of_text]

theorem toDigits_zero {n : Nat} (head : (Nat.toDigits 10 n).head? = some '0') : n = 0 := by
  induction n using Nat.strongRecOn with
  | ind n ih =>
    rcases Nat.lt_or_ge n 10 with small | large
    · rw [Nat.toDigits_of_lt_base small] at head
      have single : ∀ d < 10, some (Nat.digitChar d) = some '0' → d = 0 := by decide
      exact single n small head
    · obtain ⟨d,more,front⟩ := List.exists_cons_of_ne_nil (@Nat.toDigits_ne_nil (n/10) 10)
      rw [Nat.toDigits_of_base_le (by decide) large,front,List.cons_append] at head
      have zero := ih (n/10) (by omega) (by rw [front]; exact head)
      omega

theorem undivided : ∀ ds, none = some ds → Digits ds := nofun

def Numeral.ofInt (n : Int) : Numeral where
  negative := decide (n < 0)
  whole := Nat.toDigits 10 n.natAbs
  decimals := none
  power := none
  counted := ⟨Nat.toDigits_ne_nil,fun _ => Nat.isDigit_of_mem_toDigits (by decide) (by decide)⟩
  zero head := by rw [toDigits_zero head]; rfl
  continued := undivided

theorem ofInt_text (n : Int) : (Numeral.ofInt n).text = (Number.integer n).chars := by
  by_cases negative : n < 0 <;>
    simp [Numeral.ofInt,Numeral.text,Numeral.unsigned,Numeral.fraction,Numeral.ending,Number.chars,negative]

theorem absorb_digits (significand : Nat) (ds : List Char)
    (fits : Nat.ofDigitChars 10 ds significand < significandBound) :
    absorb significand ds = (Nat.ofDigitChars 10 ds significand,ds.length) := by
  induction ds generalizing significand with
  | nil => rfl
  | cons d ds ih =>
      rw [Nat.ofDigitChars_cons] at fits ⊢
      have next : significand*10+digitValue d = 10*significand+(d.toNat - '0'.toNat) := by
        rw [Nat.mul_comm]
        rfl
      have room : 10*significand+(d.toNat - '0'.toNat) < significandBound := by
        rw [Nat.ofDigitChars_eq_ofDigitChars_zero] at fits
        have grows := Nat.le_mul_of_pos_left (10*significand+(d.toNat - '0'.toNat)) (Nat.pow_pos (n := ds.length) (by decide : 0 < 10))
        omega
      simp only [absorb,next,room,if_true,ih _ fits,List.length_cons]

theorem readNumber_digits (negative : Bool) {n : Nat} (fits : n < significandBound) :
    readNumber negative (Nat.toDigits 10 n) = .ok (wholeNumber negative n,[]) := by
  have whole := finishInteger_apart negative n [] apart_nil
  have digits : ∀ c ∈ Nat.toDigits 10 n, c.isDigit = true :=
    fun _ => Nat.isDigit_of_mem_toDigits (by decide) (by decide)
  have counted := @Nat.ofDigitChars_toDigits 10 n (by decide) (by decide)
  have absorbed := absorb_digits 0 (Nat.toDigits 10 n) (by rwa [counted])
  rw [counted] at absorbed
  cases ds : Nat.toDigits 10 n with
  | nil => exact absurd ds Nat.toDigits_ne_nil
  | cons d more =>
      rw [ds] at digits absorbed
      by_cases zero : d = '0'
      · obtain rfl : n = 0 := toDigits_zero (by rw [ds,zero]; rfl)
        cases ds
        exact whole
      · have undigited : Undigited [] := by simp [Undigited]
        have all : digitsOf (d :: more) = d :: more := by simpa using digitsOf_append digits undigited
        have none : afterDigits (d :: more) = [] := by simpa using afterDigits_append digits undigited
        simp only [readNumber,zero,digits d (by simp),all,none,absorbed,if_true,if_false]
        exact whole

theorem wholeNumber_int {n : Int} (least : Number.least ≤ n) :
    wholeNumber (decide (n < 0)) n.natAbs = .integer n := by
  by_cases negative : n < 0
  · have back : -(n.natAbs : Int) = n := by omega
    have some : n.natAbs ≠ 0 := by omega
    rw [wholeNumber,decide_eq_true negative,if_neg (by decide),back,if_pos ⟨some,least⟩]
  · have back : (n.natAbs : Int) = n := by omega
    rw [wholeNumber,decide_eq_false negative,if_pos (by decide),back]

theorem ofInt_value {n : Int} (fits : (Number.integer n).Fits) : (Numeral.ofInt n).value? = some (.integer n) := by
  have large : (significandBound : Int) = Number.bound := rfl
  have small : (significandBound : Int) = -2 * Number.least := rfl
  obtain ⟨least,bound⟩ := fits
  have read := readNumber_digits (decide (n < 0)) (n := n.natAbs) (by omega)
  rw [wholeNumber_int least] at read
  simp [Numeral.value?,Numeral.ofInt,Numeral.unsigned,Numeral.fraction,Numeral.ending,read]

mutual

-- Floats have no phrase here; null stands for them.
def Value.phrase : Value → Phrase
  | .null => .null
  | .bool b => .bool b
  | .number (.integer n) => .number (.ofInt n)
  | .number (.float _) => .null
  | .string s => .string (spelling s)
  | .array items => .array (itemPhrases items)
  | .object members => .object (memberPhrases members)

def itemPhrases : List Value → List Phrase
  | [] => []
  | v :: items => v.phrase :: itemPhrases items

def memberPhrases : List (String × Value) → List (List Letter × Phrase)
  | [] => []
  | (key,v) :: members => (spelling key,v.phrase) :: memberPhrases members

end

structure Layout.Blank (layout : Layout) : Prop where
  gap : ∀ depth, Json.Blank (layout.gap depth)
  afterColon : Json.Blank layout.afterColon

theorem compact_blank : Layout.compact.Blank := ⟨fun _ => blank_nil,blank_nil⟩

theorem pretty_blank : Layout.pretty.Blank where
  gap _ := List.forall_mem_cons.mpr ⟨rfl,fun _ member => (List.eq_of_mem_replicate member) ▸ rfl⟩
  afterColon := List.forall_mem_singleton.mpr rfl

section Writes

variable {layout : Layout}

theorem writeItems_listed (blank : layout.Blank) (depth : Nat) (items : List Value)
    (written : ∀ v ∈ items, ∀ depth, v.phrase.Writes (v.write layout depth)) :
    Listed ']' Phrase.Writes false (itemPhrases items) (writeItems layout depth items) := by
  induction items with
  | nil => exact .nil (blank.gap depth)
  | cons v items ih =>
      have others := ih fun w member => written w (List.mem_cons_of_mem v member)
      have listed := Listed.cons (.later blank_nil (blank.gap (depth+1))) (written v (by simp) (depth+1)) others
      simpa [writeItems,itemPhrases] using listed

theorem write_paired (blank : layout.Blank) (depth : Nat) (key : String) {v : Value}
    (written : v.phrase.Writes (v.write layout (depth+1))) : Paired Phrase.Writes (spelling key,v.phrase)
      (quoted key.toList ++ ':' :: layout.afterColon ++ v.write layout (depth+1)) := by
  have paired := @Paired.pair _ (spelling key) _ _ _ _ blank_nil blank.afterColon written
  simpa [quoted_spelling] using paired

theorem writeMembers_listed (blank : layout.Blank) (depth : Nat) (members : Members)
    (written : ∀ m ∈ members, ∀ depth, m.2.phrase.Writes (m.2.write layout depth)) :
    Listed '}' (Paired Phrase.Writes) false (memberPhrases members) (writeMembers layout depth members) := by
  induction members with
  | nil => exact .nil (blank.gap depth)
  | cons m members ih =>
      obtain ⟨key,v⟩ := m
      have others := ih fun n member => written n (List.mem_cons_of_mem _ member)
      have paired := write_paired blank depth key (written (key,v) (by simp) (depth+1))
      have listed := Listed.cons (.later blank_nil (blank.gap (depth+1))) paired others
      simpa [writeMembers,memberPhrases] using listed

theorem write_phrase (blank : layout.Blank) {v : Value} (floatless : v.Floatless) (depth : Nat) :
    v.phrase.Writes (v.write layout depth) := by
  induction floatless generalizing depth with
  | null => exact .null
  | @bool b => cases b with
    | true => exact .yes
    | false => exact .no
  | @integer n =>
      rw [Value.phrase,Value.write,← ofInt_text]
      exact .number
  | @string s =>
      rw [Value.phrase,Value.write,quoted_spelling]
      exact .string
  | @array items each ih =>
      rw [Value.phrase]
      cases items with
      | nil => exact .array (.nil blank_nil)
      | cons v items =>
          have others := writeItems_listed blank depth items fun w member => ih w (List.mem_cons_of_mem v member)
          have listed := Listed.cons (.first (blank.gap (depth+1))) (ih v (by simp) (depth+1)) others
          simpa [Value.write,itemPhrases] using Phrase.Writes.array listed
  | @object members each ih =>
      rw [Value.phrase]
      cases members with
      | nil => exact .object (.nil blank_nil)
      | cons m members =>
          obtain ⟨key,v⟩ := m
          have others := writeMembers_listed blank depth members fun n member => ih n (List.mem_cons_of_mem _ member)
          have paired := write_paired blank depth key (ih (key,v) (by simp) (depth+1))
          have listed := Listed.cons (.first (blank.gap (depth+1))) paired others
          simpa [Value.write,memberPhrases] using Phrase.Writes.object listed

end Writes

theorem itemPhrases_value {room : Nat} {items : List Value} (f : Value → Value)
    (values : ∀ v ∈ items, v.phrase.value? room = some (f v)) :
    (itemPhrases items).mapM (Phrase.value? room) = some (items.map f) := by
  induction items with
  | nil => rfl
  | cons v items ih =>
      rw [itemPhrases,List.mapM_cons,values v (by simp),ih fun w member => values w (List.mem_cons_of_mem v member)]
      rfl

def putAll (f : Value → Value) (done members : Members) : Members :=
  members.foldl (fun done m => done.put m.1 (f m.2)) done

theorem memberPhrases_value {room : Nat} {members : Members} (f : Value → Value)
    (values : ∀ m ∈ members, m.2.phrase.value? room = some (f m.2)) (done : Members) :
    foldMembers (fun done key p => (p.value? room).map (Members.put key · done)) done (memberPhrases members) =
      some (putAll f done members) := by
  unfold foldMembers
  induction members generalizing done with
  | nil => rfl
  | cons m members ih =>
      obtain ⟨key,v⟩ := m
      rw [memberPhrases,List.foldlM_cons,unescaped_spelling]
      simp only [Option.bind_some,String.ofList_toList,values (key,v) (by simp),Option.map_some]
      exact ih (fun n member => values n (List.mem_cons_of_mem _ member)) (done.put key (f v))

theorem putAll_sorted (done : Members) {members : Members} (sorted : Members.Sorted (done ++ members)) :
    putAll id done members = done ++ members := by
  unfold putAll
  induction members generalizing done with
  | nil => exact (List.append_nil done).symm
  | cons m members ih =>
      obtain ⟨key,v⟩ := m
      have last : ∀ m ∈ done, m.1 < key := fun m member =>
        (List.pairwise_append.mp sorted).2.2 m member (key,v) (by simp)
      rw [← List.singleton_append,← List.append_assoc] at sorted ⊢
      rw [List.singleton_append,List.foldl_cons,id,Members.put_last v last]
      exact ih (done ++ [(key,v)]) sorted

-- By induction on the levels of nesting for which there is room.
theorem phrase_value {room : Nat} {v : Value} (fits : v.Fits room) (floatless : v.Floatless) :
    v.phrase.value? room = some v := by
  induction fits with
  | null | bool => rw [Value.phrase,Phrase.value?]
  | @number room n fits =>
      cases floatless
      rw [Value.phrase,Phrase.value?,ofInt_value fits,Option.map_some]
  | @string room s =>
      rw [Value.phrase,Phrase.value?,unescaped_spelling,Option.map_some,String.ofList_toList]
  | array fit ih =>
      cases floatless with
      | array each =>
          rw [Value.phrase,Phrase.value?,itemPhrases_value id fun v member => ih v member (each v member),List.map_id,Option.map_some]
  | object sorted fit ih =>
      cases floatless with
      | object each =>
          rw [Value.phrase,Phrase.value?,memberPhrases_value id (fun m member => ih m member (each m member)) [],
            putAll_sorted [] sorted]
          rfl

end AccountLink.Json
