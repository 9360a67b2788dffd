import AccountLink.Proofs.Json.Reads

namespace AccountLink.Json

open AccountLink.Text AccountLink.Decimal

theorem bind_ok {ε α β : Type} {x : Except ε α} {f : α → Except ε β} {b : β} :
    (x >>= f) = .ok b ↔ ∃ a, x = .ok a ∧ f a = .ok b := by
  cases x with
  | error e => exact ⟨nofun,nofun⟩
  | ok a => exact ⟨fun found => ⟨a,rfl,found⟩,fun ⟨_,same,found⟩ => by cases same; exact found⟩

def Number.Fits : Number → Prop
  | .integer n => Number.least ≤ n ∧ n < Number.bound
  | .float _ => True

inductive Value.Fits : Nat → Value → Prop where
  | null {room} : Fits room .null
  | bool {room b} : Fits room (.bool b)
  | number {room n} (fits : n.Fits) : Fits room (.number n)
  | string {room s} : Fits room (.string s)
  | array {room items} (fit : ∀ v ∈ items, Fits room v) : Fits (room+1) (.array items)
  | object {room} {members : Members} (sorted : members.Sorted) (fit : ∀ m ∈ members, Fits room m.2) :
      Fits (room+1) (.object members)

inductive Value.Floatless : Value → Prop where
  | null : Floatless .null
  | bool {b} : Floatless (.bool b)
  | integer {n} : Floatless (.number (.integer n))
  | string {s} : Floatless (.string s)
  | array {items} (each : ∀ v ∈ items, Floatless v) : Floatless (.array items)
  | object {members : Members} (each : ∀ m ∈ members, Floatless m.2) : Floatless (.object members)

namespace Members

theorem put_member {key : String} {value : Value} {members : Members} {m : String × Value}
    (member : m ∈ members.put key value) : m = (key,value) ∨ m ∈ members := by
  induction members with
  | nil => exact .inl (List.mem_singleton.mp member)
  | cons first rest ih =>
      obtain ⟨k,v⟩ := first
      rw [put] at member
      split at member
      · rcases List.mem_cons.mp member with here | there
        · exact .inl here
        · exact .inr (List.mem_cons_of_mem _ there)
      · split at member
        · exact List.mem_cons.mp member
        · rcases List.mem_cons.mp member with here | there
          · exact .inr (here ▸ List.mem_cons_self)
          · exact (ih there).imp_right (List.mem_cons_of_mem _)

theorem put_sorted {members : Members} (key : String) (value : Value) (sorted : members.Sorted) :
    (members.put key value).Sorted := by
  induction members with
  | nil => exact List.pairwise_singleton _ _
  | cons first rest ih =>
      obtain ⟨k,v⟩ := first
      obtain ⟨above,others⟩ := List.pairwise_cons.mp sorted
      rw [put]
      split
      · next same =>
          subst same
          exact List.pairwise_cons.mpr ⟨above,others⟩
      · next apart =>
          split
          · next before =>
              refine List.pairwise_cons.mpr ⟨fun m member => ?_,sorted⟩
              rcases List.mem_cons.mp member with rfl | later
              · exact before
              · exact String.lt_trans before (above m later)
          · next after =>
              refine List.pairwise_cons.mpr ⟨fun m member => ?_,ih others⟩
              rcases put_member member with rfl | old
              · exact String.not_le.mp fun le => apart (String.le_antisymm le (String.not_lt.mp after))
              · exact above m old

theorem put_last {members : Members} {key : String} (value : Value) (last : ∀ m ∈ members, m.1 < key) :
    members.put key value = members ++ [(key,value)] := by
  induction members with
  | nil => rfl
  | cons first rest ih =>
      obtain ⟨k,v⟩ := first
      have before : k < key := last (k,v) (by simp)
      have apart : key ≠ k := fun same => String.lt_irrefl k (same ▸ before)
      rw [put,if_neg apart,if_neg (String.lt_asymm before),ih fun m member => last m (List.mem_cons_of_mem _ member)]
      rfl

end Members

theorem absorb_bound (significand : Nat) (ds : List Char) (bound : significand < significandBound) :
    (absorb significand ds).1 < significandBound := by
  induction ds generalizing significand with
  | nil => exact bound
  | cons d ds ih =>
      rw [absorb]
      split
      · next fits => exact ih _ fits
      · exact bound

section Floats

variable {negative : Bool} {significand : Nat} {exponent : Int} {text rest : List Char} {n : Number}

theorem scaled_fits (read : scaled negative significand exponent text = .ok (n,rest)) : n.Fits := by
  unfold scaled at read
  split at read
  · cases read
    trivial
  · contradiction

theorem readExponent_fits (read : readExponent negative significand exponent text = .ok (n,rest)) : n.Fits := by
  unfold readExponent at read
  simp only at read
  split at read
  · contradiction
  · split at read
    · contradiction
    · split at read
      · exact scaled_fits read
      · split at read
        · contradiction
        · cases read
          trivial

theorem finishFloat_fits (read : finishFloat negative significand exponent text = .ok (n,rest)) : n.Fits := by
  unfold finishFloat at read
  split at read
  · split at read
    · exact readExponent_fits read
    · exact scaled_fits read
  · exact scaled_fits read

theorem readDecimals_fits (read : readDecimals negative significand exponent text = .ok (n,rest)) : n.Fits := by
  unfold readDecimals at read
  simp only at read
  split at read
  · contradiction
  · exact finishFloat_fits read

theorem finishInteger_fits (bound : significand < significandBound)
    (read : finishInteger negative significand text = .ok (n,rest)) : n.Fits := by
  have large : (significandBound : Int) = Number.bound := rfl
  have small : Number.least ≤ 0 ∧ (0 : Int) < Number.bound := by decide
  unfold finishInteger at read
  split at read
  · exact readDecimals_fits read
  · exact readExponent_fits read
  · exact readExponent_fits read
  · split at read
    · cases read
      exact ⟨by omega,by omega⟩
    · split at read
      · next least =>
          cases read
          exact ⟨least.2,by omega⟩
      · cases read
        trivial

theorem readNumber_fits (read : readNumber negative text = .ok (n,rest)) : n.Fits := by
  unfold readNumber at read
  split at read
  · contradiction
  · split at read
    · split at read
      · split at read
        · contradiction
        · exact finishInteger_fits (by decide) read
      · exact finishInteger_fits (by decide) read
    · split at read
      · simp only at read
        split at read
        · exact finishInteger_fits (absorb_bound 0 _ (by decide)) read
        · split at read
          · exact readDecimals_fits read
          · exact finishFloat_fits read
      · contradiction

end Floats

theorem readScalar_fits {text rest : List Char} {v : Value} (room : Nat) (read : readScalar text = .ok (v,rest)) :
    v.Fits room := by
  unfold readScalar at read
  split at read
  · contradiction
  · split at read
    · obtain ⟨_,_,read⟩ := bind_ok.mp read
      cases read
      exact .null
    split at read
    · obtain ⟨_,_,read⟩ := bind_ok.mp read
      cases read
      exact .bool
    split at read
    · obtain ⟨_,_,read⟩ := bind_ok.mp read
      cases read
      exact .bool
    split at read
    · obtain ⟨_,_,read⟩ := bind_ok.mp read
      cases read
      exact .string
    split at read
    · obtain ⟨_,number,read⟩ := bind_ok.mp read
      cases read
      exact .number (readNumber_fits number)
    split at read
    · obtain ⟨_,number,read⟩ := bind_ok.mp read
      cases read
      exact .number (readNumber_fits number)
    · contradiction

theorem readItems_fit {α : Type} {one : Reader α} {P : α → Prop}
    (each : ∀ text a rest, one text = .ok (a,rest) → P a) {fuel : Nat} {first : Bool} {text rest : List Char}
    {items : List α} (read : readItems one fuel first text = .ok (items,rest)) : ∀ a ∈ items, P a := by
  induction fuel generalizing first text items with
  | zero => contradiction
  | succ fuel ih =>
      rw [readItems] at read
      obtain ⟨next,_,read⟩ := bind_ok.mp read
      cases next with
      | close rest =>
          cases read
          exact List.forall_mem_nil _
      | item text =>
          obtain ⟨⟨a,more⟩,here,read⟩ := bind_ok.mp read
          obtain ⟨⟨others,_⟩,later,read⟩ := bind_ok.mp read
          cases read
          exact List.forall_mem_cons.mpr ⟨each _ _ _ here,ih later⟩

theorem readMembers_keeps {σ : Type} {one : σ → String → Reader σ} {P : σ → Prop}
    (each : ∀ state key text next rest, P state → one state key text = .ok (next,rest) → P next) {fuel : Nat}
    {first : Bool} {state last : σ} {text rest : List Char} (start : P state)
    (read : readMembers one fuel first state text = .ok (last,rest)) : P last := by
  induction fuel generalizing first state text with
  | zero => contradiction
  | succ fuel ih =>
      rw [readMembers] at read
      obtain ⟨next,_,read⟩ := bind_ok.mp read
      cases next with
      | close rest =>
          cases read
          exact start
      | item text =>
          obtain ⟨⟨key,more⟩,_,read⟩ := bind_ok.mp read
          obtain ⟨⟨next,_⟩,here,read⟩ := bind_ok.mp read
          exact ih (each _ _ _ _ _ start here) read

theorem putMember_keeps {room : Nat} {value : Reader Value} (each : ∀ text v rest, value text = .ok (v,rest) → v.Fits room)
    {done next : Members} {key : String} {text rest : List Char} (kept : done.Sorted ∧ ∀ m ∈ done, m.2.Fits room)
    (put : putMember value done key text = .ok (next,rest)) : next.Sorted ∧ ∀ m ∈ next, m.2.Fits room := by
  rw [putMember] at put
  obtain ⟨_,_,put⟩ := bind_ok.mp put
  obtain ⟨⟨v,_⟩,here,put⟩ := bind_ok.mp put
  cases put
  refine ⟨Members.put_sorted key v kept.1,fun m member => ?_⟩
  rcases Members.put_member member with rfl | old
  · exact each _ _ _ here
  · exact kept.2 m old

-- By induction on the room: a bracket takes one level of it.
theorem readValue_fits {room : Nat} {text rest : List Char} {v : Value} (read : readValue room text = .ok (v,rest)) :
    v.Fits room := by
  induction room using Nat.strongRecOn generalizing text rest v with
  | ind room ih =>
    rw [readValue] at read
    split at read
    · contradiction
    · split at read
      · split at read
        · contradiction
        · next room =>
            obtain ⟨⟨items,_⟩,listed,read⟩ := bind_ok.mp read
            cases read
            exact .array (readItems_fit (fun _ _ _ here => ih room (Nat.lt_succ_self room) here) listed)
      · split at read
        · split at read
          · contradiction
          · next room =>
              obtain ⟨⟨members,_⟩,listed,read⟩ := bind_ok.mp read
              cases read
              have kept := readMembers_keeps (P := fun done : Members => done.Sorted ∧ ∀ m ∈ done, m.2.Fits room)
                (fun _ _ _ _ _ kept put => putMember_keeps (fun _ _ _ here => ih room (Nat.lt_succ_self room) here) kept put)
                ⟨List.Pairwise.nil,List.forall_mem_nil _⟩ listed
              exact .object kept.1 kept.2
        · exact readScalar_fits room read

end AccountLink.Json
