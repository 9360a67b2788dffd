import AccountLink.Proofs.Json.Strings

namespace AccountLink.Json

open AccountLink.Text

def Starts (text : List Char) : Prop := ∃ c more, text = c :: more ∧ isGap c = false ∧ c ≠ ']'

theorem starts_append {text : List Char} (rest : List Char) (starts : Starts text) : Starts (text ++ rest) := by
  obtain ⟨c,more,rfl,start⟩ := starts
  exact ⟨c,more ++ rest,rfl,start⟩

theorem nextItem_close {gap : List Char} (first : Bool) (rest : List Char) (blank : Blank gap) :
    nextItem first (gap ++ ']' :: rest) = .ok (.close rest) := by
  simp [nextItem,skipGaps_blank _ blank,skipGaps_cons rest (c := ']') rfl]

theorem nextItem_lead {first : Bool} {lead text : List Char} (led : Lead first lead) (starts : Starts text) :
    nextItem first (lead ++ text) = .ok (.item text) := by
  obtain ⟨c,more,rfl,ungapped,opened⟩ := starts
  cases led with
  | first blank => simp [nextItem,skipGaps_blank _ blank,skipGaps_cons more ungapped,opened]
  | later blankBefore blankAfter =>
      rw [List.append_assoc,List.cons_append]
      simp [nextItem,skipGaps_blank _ blankBefore,skipGaps_blank _ blankAfter,skipGaps_cons _ (c := ',') rfl,
        skipGaps_cons more ungapped,opened]

theorem nextKey_close {gap : List Char} (first : Bool) (rest : List Char) (blank : Blank gap) :
    nextKey first (gap ++ '}' :: rest) = .ok (.close rest) := by
  simp [nextKey,skipGaps_blank _ blank,skipGaps_cons rest (c := '}') rfl]

theorem nextKey_lead {first : Bool} {lead : List Char} (led : Lead first lead) (text : List Char) :
    nextKey first (lead ++ '"' :: text) = .ok (.item text) := by
  cases led with
  | first blank => simp [nextKey,skipGaps_blank _ blank,skipGaps_cons text (c := '"') rfl]
  | later blankBefore blankAfter =>
      rw [List.append_assoc,List.cons_append]
      simp [nextKey,skipGaps_blank _ blankBefore,skipGaps_blank _ blankAfter,skipGaps_cons _ (c := ',') rfl,
        skipGaps_cons text (c := '"') rfl]

theorem readColon_blank {gap : List Char} (rest : List Char) (blank : Blank gap) :
    readColon (gap ++ ':' :: rest) = .ok rest := by
  simp [readColon,skipGaps_blank _ blank,skipGaps_cons rest (c := ':') rfl]

section Listed

variable {β : Type} {close : Char} {writes : β → List Char → Prop} {first : Bool} {items : List β} {text : List Char}

theorem listed_length (some : ∀ b ∈ items, ∀ t, writes b t → t ≠ []) (listed : Listed close writes first items text) :
    items.length < text.length := by
  induction listed with
  | nil blank => simp
  | @cons first lead item items t more led written others ih =>
      have one := List.length_pos_iff.mpr (some item (by simp) t written)
      have rest := ih fun b member => some b (List.mem_cons_of_mem item member)
      simp only [List.length_cons,List.length_append]
      omega

theorem listed_fuel (some : ∀ b ∈ items, ∀ t, writes b t → t ≠ []) (rest : List Char)
    (listed : Listed close writes first items text) : ∃ spare, (text ++ rest).length+1 = spare+items.length+1 := by
  have fewer := listed_length some listed
  exact ⟨(text ++ rest).length - items.length,by simp only [List.length_append]; omega⟩

theorem listed_apart (closes : close = ']' ∨ close = '}') (rest : List Char)
    (listed : Listed close writes false items text) : Apart (text ++ rest) := by
  cases listed with
  | nil blank =>
      rw [List.append_assoc]
      exact apart_before rest blank (.inr closes)
  | cons led written others =>
      cases led with
      | later blankBefore blankAfter =>
          simp only [List.append_assoc,List.cons_append]
          exact apart_before _ blankBefore (.inl rfl)

end Listed

section Items

variable {β : Type} {writes : β → List Char → Prop} {first : Bool} {items : List β} {text : List Char}

theorem readItems_listed {α : Type} {one : Reader α} {value? : β → Option α}
    (listed : Listed ']' writes first items text) (starts : ∀ b ∈ items, ∀ t, writes b t → Starts t)
    (reads : ∀ b ∈ items, ∀ t, writes b t → Reads one t (value? b)) (spare : Nat) (rest : List Char) :
    (readItems one (spare+items.length+1) first (text ++ rest)).toOption = (items.mapM value?).map (·,rest) := by
  induction listed with
  | nil blank => simp [readItems,nextItem_close _ rest blank,bind,Except.bind]
  | @cons first lead item items t more led written others ih =>
      have apart := listed_apart (.inl rfl) rest others
      have here := reads item (by simp) t written [] (more ++ rest) blank_nil apart
      have later := ih (fun b member => starts b (List.mem_cons_of_mem item member))
        (fun b member => reads b (List.mem_cons_of_mem item member))
      have next := nextItem_lead led (starts_append (more ++ rest) (starts item (by simp) t written))
      change (readItems one (spare+items.length+1+1) first _).toOption = _
      rw [readItems,List.append_assoc,List.append_assoc,next]
      simp only [List.nil_append] at here
      simp only [toOption_bind,toOption_ok,Option.bind_some,here,List.mapM_cons]
      cases value? item with
      | none => rfl
      | some a =>
          simp only [Option.map_some,Option.bind_some,later]
          cases items.mapM value? <;> rfl

theorem skipItems_listed {one : List Char → Except Failure (List Char)}
    (listed : Listed ']' writes first items text) (starts : ∀ b ∈ items, ∀ t, writes b t → Starts t)
    (skips : ∀ b ∈ items, ∀ t, writes b t → t.length ≤ text.length →
      ∀ gap rest, Blank gap → Apart rest → one (gap ++ (t ++ rest)) = .ok rest) (spare : Nat) (rest : List Char) :
    skipItems one (spare+items.length+1) first (text ++ rest) = .ok rest := by
  induction listed with
  | nil blank => simp [skipItems,skipGaps_blank _ blank,skipGaps_cons rest (c := ']') rfl]
  | @cons first lead item items t more led written others ih =>
      have apart := listed_apart (.inl rfl) rest others
      have here := skips item (by simp) t written (by simp only [List.length_append]; omega)
      have later := ih (fun b member => starts b (List.mem_cons_of_mem item member))
        (fun b member u writtenItem bound => skips b (List.mem_cons_of_mem item member) u writtenItem
          (by simp only [List.length_append]; omega))
      obtain ⟨c,tail,same,ungapped,opened⟩ := starts item (by simp) t written
      change skipItems one (spare+items.length+1+1) first _ = _
      rw [skipItems,List.append_assoc,List.append_assoc]
      cases led with
      | first blank =>
          have passed := here [] (more ++ rest) blank_nil apart
          rw [List.nil_append,same,List.cons_append] at passed
          simp only [skipGaps_blank _ blank,same,List.cons_append,skipGaps_cons _ ungapped,opened,passed,
            if_true,if_false,bind,Except.bind]
          exact later
      | later blankBefore blankAfter =>
          have passed := here _ (more ++ rest) blankAfter apart
          rw [List.append_assoc,List.cons_append]
          simp only [skipGaps_blank _ blankBefore,skipGaps_cons _ (c := ',') rfl,Char.reduceEq,passed,
            if_true,if_false,Bool.false_eq_true,bind,Except.bind]
          exact later

end Items

section Members

variable {writes : Phrase → List Char → Prop} {first : Bool} {members : List (List Letter × Phrase)} {text : List Char}

def foldMembers {σ : Type} (step : σ → String → Phrase → Option σ) (state : σ) (members : List (List Letter × Phrase)) :
    Option σ :=
  members.foldlM (fun state m => (unescaped m.1).bind fun cs => step state (String.ofList cs) m.2) state

theorem readMembers_listed {σ : Type} (one : σ → String → Reader σ) (step : σ → String → Phrase → Option σ)
    (listed : Listed '}' (Paired writes) first members text)
    (reads : ∀ m ∈ members, ∀ t, writes m.2 t → ∀ state key before after rest, Blank before → Blank after →
      Apart rest → (one state key (before ++ ':' :: (after ++ (t ++ rest)))).toOption = (step state key m.2).map (·,rest))
    (spare : Nat) (state : σ) (rest : List Char) :
    (readMembers one (spare+members.length+1) first state (text ++ rest)).toOption =
      (foldMembers step state members).map (·,rest) := by
  unfold foldMembers
  induction listed generalizing state with
  | nil blank => simp [readMembers,nextKey_close _ rest blank,bind,Except.bind]
  | @cons first lead member members t more led paired others ih =>
      have apart := listed_apart (.inr rfl) rest others
      have later := ih fun m member => reads m (List.mem_cons_of_mem _ member)
      cases paired with
      | @pair key p before after t blankBefore blankAfter written =>
          have here := reads (key,p) (by simp) t written state
          change (readMembers one (spare+members.length+1+1) first state _).toOption = _
          rw [readMembers,List.append_assoc,List.append_assoc,List.cons_append,nextKey_lead led]
          simp only [List.append_assoc,List.cons_append,toOption_bind,toOption_ok,Option.bind_some,readString_letters,
            List.foldlM_cons]
          cases unescaped key with
          | none => rfl
          | some cs =>
              simp only [Option.map_some,Option.bind_some,here _ _ _ _ blankBefore blankAfter apart]
              cases step state (String.ofList cs) p with
              | none => rfl
              | some state => simpa using later state

theorem skipMember_pair {one : List Char → Except Failure (List Char)} (key : List Letter) {before after t : List Char}
    (rest gap : List Char) (blank : Blank gap) (blankBefore : Blank before)
    (passed : one (after ++ (t ++ rest)) = .ok rest) :
    skipMember one (gap ++ '"' :: (spelled key ++ '"' :: (before ++ ':' :: (after ++ (t ++ rest))))) = .ok rest := by
  simp [skipMember,skipGaps_blank _ blank,skipGaps_cons _ (c := '"') rfl,skipString_letters,
    readColon_blank _ blankBefore,passed,bind,Except.bind]

theorem skipMembers_listed {one : List Char → Except Failure (List Char)}
    (listed : Listed '}' (Paired writes) first members text)
    (skips : ∀ m ∈ members, ∀ t, writes m.2 t → t.length ≤ text.length →
      ∀ gap rest, Blank gap → Apart rest → one (gap ++ (t ++ rest)) = .ok rest) (spare : Nat) (rest : List Char) :
    skipMembers one (spare+members.length+1) first (text ++ rest) = .ok rest := by
  induction listed with
  | nil blank => simp [skipMembers,skipGaps_blank _ blank,skipGaps_cons rest (c := '}') rfl]
  | @cons first lead member members t more led paired others ih =>
      have apart := listed_apart (.inr rfl) rest others
      have later := ih fun m member u writtenMember bound => skips m (List.mem_cons_of_mem _ member) u writtenMember
        (by simp only [List.length_append]; omega)
      cases paired with
      | @pair key p before after t blankBefore blankAfter written =>
          have here := skips (key,p) (by simp) t written
            (by simp only [List.length_append,List.length_cons]; omega) after (more ++ rest) blankAfter apart
          change skipMembers one (spare+members.length+1+1) first _ = _
          rw [skipMembers,List.append_assoc,List.append_assoc]
          cases led with
          | first blank =>
              have passed := skipMember_pair key (more ++ rest) [] blank_nil blankBefore here
              rw [List.nil_append] at passed
              simp only [List.append_assoc,List.cons_append,skipGaps_blank _ blank,skipGaps_cons _ (c := '"') rfl,
                Char.reduceEq,passed,if_true,if_false,bind,Except.bind]
              exact later
          | later blankGap blankLead =>
              have passed := skipMember_pair key (more ++ rest) _ blankLead blankBefore here
              simp only [List.append_assoc,List.cons_append,skipGaps_blank _ blankGap,skipGaps_cons _ (c := ',') rfl,
                Char.reduceEq,passed,if_true,if_false,Bool.false_eq_true,bind,Except.bind]
              exact later

end Members

end AccountLink.Json
