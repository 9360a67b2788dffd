import AccountLink.Proofs.Json.Reads

namespace AccountLink.Json

open AccountLink.Text AccountLink.Decimal

def Undigited (rest : List Char) : Prop := ∀ c, rest.head? = some c → c.isDigit = false

theorem gap_undigited {c : Char} (gap : isGap c = true) : c.isDigit = false ∧ c ≠ '.' ∧ c ≠ 'e' ∧ c ≠ 'E' := by
  simp only [isGap,Bool.or_eq_true,decide_eq_true_eq] at gap
  rcases gap with ((rfl | rfl) | rfl) | rfl <;> decide

theorem apart_head {rest : List Char} {c : Char} (apart : Apart rest) (head : rest.head? = some c) :
    c.isDigit = false ∧ c ≠ '.' ∧ c ≠ 'e' ∧ c ≠ 'E' := by
  rcases apart c head with gap | rfl | rfl | rfl
  · exact gap_undigited gap
  all_goals decide

theorem apart_undigited {rest : List Char} (apart : Apart rest) : Undigited rest :=
  fun _ head => (apart_head apart head).1

theorem digitsOf_append {ds rest : List Char} (digits : ∀ c ∈ ds, c.isDigit = true) (undigited : Undigited rest) :
    digitsOf (ds ++ rest) = ds := by
  rw [digitsOf,List.takeWhile_append_of_pos digits]
  cases rest with
  | nil => simp
  | cons c rest => simp [undigited c rfl]

theorem afterDigits_append {ds rest : List Char} (digits : ∀ c ∈ ds, c.isDigit = true) (undigited : Undigited rest) :
    afterDigits (ds ++ rest) = rest := by
  rw [afterDigits,List.dropWhile_append_of_pos digits]
  cases rest with
  | nil => rfl
  | cons c rest => simp [undigited c rfl]

theorem digits_cons {ds : List Char} (digits : Digits ds) :
    ∃ d more, ds = d :: more ∧ d.isDigit = true ∧ ∀ c ∈ more, c.isDigit = true := by
  obtain ⟨some,digits⟩ := digits
  obtain ⟨d,more,rfl⟩ := List.exists_cons_of_ne_nil some
  exact ⟨d,more,rfl,digits d (by simp),fun c member => digits c (List.mem_cons_of_mem d member)⟩

theorem exponentSign_power (power : Power) (rest : List Char) :
    exponentSign (power.sign ++ (power.digits ++ rest)) = (power.sign == ['-'],power.digits ++ rest) := by
  rcases power.signed with none | plus | minus
  · obtain ⟨d,more,same,digit,_⟩ := digits_cons power.counted
    rw [none,same,List.nil_append,List.cons_append]
    unfold exponentSign
    split
    · next found => cases found; exact absurd digit (by decide)
    · next found => cases found; exact absurd digit (by decide)
    · rfl
  · rw [plus]; rfl
  · rw [minus]; rfl

-- Either all digits are taken, or some are left when the exponent is too large by then.
theorem readExponentDigits_stops (n : Nat) (ds : List Char) (digits : ∀ c ∈ ds, c.isDigit = true) :
    (∃ m, ∀ rest, Undigited rest → readExponentDigits n (ds ++ rest) = .ok (m,rest)) ∨
      ∃ left, (∀ c ∈ left, c.isDigit = true) ∧
        ∀ rest, Undigited rest → readExponentDigits n (ds ++ rest) = .error (left ++ rest) := by
  induction ds generalizing n with
  | nil =>
      refine .inl ⟨n,fun rest undigited => ?_⟩
      cases rest with
      | nil => rfl
      | cons c rest => simp [readExponentDigits,undigited c rfl]
  | cons d ds ih =>
      have digit := digits d (by simp)
      have others : ∀ c ∈ ds, c.isDigit = true := fun c member => digits c (List.mem_cons_of_mem d member)
      by_cases fits : n*10+digitValue d < exponentBound
      · simpa [readExponentDigits,digit,fits] using ih (n*10+digitValue d) others
      · exact .inr ⟨ds,others,fun rest _ => by simp [readExponentDigits,digit,fits]⟩

def Stops {α : Type} (one : Reader α) (text : List Char) : Prop :=
  ∃ result : Option α, ∀ rest, Apart rest → (one (text ++ rest)).toOption = result.map (·,rest)

theorem scaled_stops (negative : Bool) (significand : Nat) (exponent : Int) :
    Stops (scaled negative significand exponent) [] := by
  refine ⟨(Magnitude.scale significand exponent).map fun size => .float ⟨negative,size⟩,fun rest _ => ?_⟩
  rw [List.nil_append,scaled]
  cases Magnitude.scale significand exponent <;> rfl

theorem readExponent_stops (negative : Bool) (significand : Nat) (exponent : Int) (power : Power) :
    Stops (readExponent negative significand exponent) (power.sign ++ power.digits) := by
  obtain ⟨d,more,same,digit,digits⟩ := digits_cons power.counted
  have start : ∀ rest, exponentSign (power.sign ++ power.digits ++ rest) =
      (power.sign == ['-'],d :: (more ++ rest)) := by
    intro rest
    rw [List.append_assoc,exponentSign_power,same]
    rfl
  rcases readExponentDigits_stops (digitValue d) more digits with ⟨m,all⟩ | ⟨left,leftDigits,some⟩
  · obtain ⟨result,stops⟩ := scaled_stops negative significand
      (if power.sign == ['-'] then exponent - m else exponent + m)
    refine ⟨result,fun rest apart => ?_⟩
    simp only [readExponent,start,digit,all rest (apart_undigited apart)]
    exact stops rest apart
  · by_cases large : significand ≠ 0 ∧ (!(power.sign == ['-'])) = true
    · refine ⟨none,fun rest apart => ?_⟩
      simp only [readExponent,start,digit,some rest (apart_undigited apart),if_pos large]
      rfl
    · refine ⟨.some (.float ⟨negative,.zero⟩),fun rest apart => ?_⟩
      have undigited := apart_undigited apart
      simp only [readExponent,start,digit,some rest undigited,if_neg large,afterDigits_append leftDigits undigited]
      rfl

theorem ending_head (n : Numeral) {rest : List Char} {c : Char} (apart : Apart rest)
    (head : (n.ending ++ rest).head? = some c) : c.isDigit = false ∧ c ≠ '.' := by
  unfold Numeral.ending at head
  cases ending : n.power with
  | none =>
      rw [ending] at head
      obtain ⟨undigited,unpointed,_⟩ := apart_head apart head
      exact ⟨undigited,unpointed⟩
  | some power =>
      obtain rfl : power.mark = c := by simpa [ending,Power.text] using head
      rcases power.marked with mark | mark <;> rw [mark] <;> decide

theorem ending_undigited (n : Numeral) {rest : List Char} (apart : Apart rest) : Undigited (n.ending ++ rest) :=
  fun _ head => (ending_head n apart head).1

theorem finishFloat_stops (negative : Bool) (significand : Nat) (exponent : Int) (n : Numeral) :
    Stops (finishFloat negative significand exponent) n.ending := by
  unfold Numeral.ending
  cases n.power with
  | none =>
      obtain ⟨result,stops⟩ := scaled_stops negative significand exponent
      refine ⟨result,fun rest apart => ?_⟩
      cases rest with
      | nil => exact stops [] apart
      | cons c rest =>
          obtain ⟨_,_,small,large⟩ := apart_head apart (c := c) rfl
          simpa [finishFloat,small,large] using stops (c :: rest) apart
  | some power =>
      obtain ⟨result,stops⟩ := readExponent_stops negative significand exponent power
      refine ⟨result,fun rest apart => ?_⟩
      simpa [finishFloat,Power.text,power.marked] using stops rest apart

theorem readDecimals_stops (negative : Bool) (significand : Nat) (exponent : Int) (n : Numeral) (ds : List Char)
    (digits : Digits ds) : Stops (readDecimals negative significand exponent) (ds ++ n.ending) := by
  obtain ⟨result,stops⟩ := finishFloat_stops negative (absorb significand ds).1 (exponent - (absorb significand ds).2) n
  refine ⟨result,fun rest apart => ?_⟩
  have undigited := ending_undigited n apart
  rw [List.append_assoc]
  simp only [readDecimals,digitsOf_append digits.2 undigited,afterDigits_append digits.2 undigited]
  simpa [digits.1] using stops rest apart

theorem fraction_undigited (n : Numeral) {rest : List Char} (apart : Apart rest) : Undigited (n.fraction ++ rest) := by
  unfold Numeral.fraction
  cases n.decimals with
  | none => exact ending_undigited n apart
  | some ds =>
      intro c head
      obtain rfl : '.' = c := by simpa using head
      decide

-- A whole number is a float only if it is past 64 bits, or zero with a sign.
def wholeNumber (negative : Bool) (n : Nat) : Number :=
  if !negative then .integer n
  else if n ≠ 0 ∧ -(n : Int) ≥ Number.least then .integer (-(n : Int))
  else .float ⟨true,.ofNat n⟩

theorem finishInteger_apart (negative : Bool) (n : Nat) (rest : List Char) (apart : Apart rest) :
    finishInteger negative n rest = .ok (wholeNumber negative n,rest) := by
  unfold finishInteger
  split
  · exact absurd rfl (apart_head apart (c := '.') rfl).2.1
  · exact absurd rfl (apart_head apart (c := 'e') rfl).2.2.1
  · exact absurd rfl (apart_head apart (c := 'E') rfl).2.2.2
  · simp only [wholeNumber]
    split
    · rfl
    · split <;> rfl

theorem finishInteger_stops (negative : Bool) (significand : Nat) (n : Numeral) :
    Stops (finishInteger negative significand) n.fraction := by
  cases decimals : n.decimals with
  | some ds =>
      obtain ⟨result,stops⟩ := readDecimals_stops negative significand 0 n ds (n.continued ds decimals)
      refine ⟨result,fun rest apart => ?_⟩
      simpa [Numeral.fraction,decimals,finishInteger] using stops rest apart
  | none =>
      cases ending : n.power with
      | some power =>
          obtain ⟨result,stops⟩ := readExponent_stops negative significand 0 power
          refine ⟨result,fun rest apart => ?_⟩
          have stopped := stops rest apart
          rcases power.marked with mark | mark <;>
            simpa [Numeral.fraction,Numeral.ending,decimals,ending,Power.text,mark,finishInteger] using stopped
      | none =>
          refine ⟨some (wholeNumber negative significand),fun rest apart => ?_⟩
          simp [Numeral.fraction,Numeral.ending,decimals,ending,finishInteger_apart negative significand rest apart]

theorem readNumber_stops (n : Numeral) : Stops (readNumber n.negative) n.unsigned := by
  obtain ⟨d,more,same,digit,digits⟩ := digits_cons n.counted
  have started : ∀ rest, n.unsigned ++ rest = d :: (more ++ (n.fraction ++ rest)) := by
    intro rest
    simp [Numeral.unsigned,same]
  by_cases zero : d = '0'
  · subst zero
    obtain rfl : more = [] := by simpa [same] using n.zero (by simp [same])
    obtain ⟨result,stops⟩ := finishInteger_stops n.negative 0 n
    refine ⟨result,fun rest apart => ?_⟩
    have undigited := fraction_undigited n apart
    rw [← stops rest apart,started]
    cases follows : n.fraction ++ rest with
    | nil => rfl
    | cons c rest => simp [readNumber,undigited c (by rw [follows]; rfl)]
  · have whole : ∀ c ∈ d :: more, c.isDigit = true := List.forall_mem_cons.mpr ⟨digit,digits⟩
    have taken : ∀ rest, Apart rest → digitsOf (d :: (more ++ (n.fraction ++ rest))) = d :: more ∧
        afterDigits (d :: (more ++ (n.fraction ++ rest))) = n.fraction ++ rest := fun rest apart =>
      ⟨digitsOf_append whole (fraction_undigited n apart),afterDigits_append whole (fraction_undigited n apart)⟩
    by_cases fits : (absorb 0 (d :: more)).2 = (d :: more).length
    · obtain ⟨result,stops⟩ := finishInteger_stops n.negative (absorb 0 (d :: more)).1 n
      refine ⟨result,fun rest apart => ?_⟩
      simp only [started,readNumber,zero,digit,taken rest apart,fits,if_true,if_false]
      exact stops rest apart
    · -- Digits that the significand has no room for count as zeros.
      cases decimals : n.decimals with
      | some ds =>
          obtain ⟨result,stops⟩ := readDecimals_stops n.negative (absorb 0 (d :: more)).1
            ((d :: more).length - (absorb 0 (d :: more)).2 : Nat) n ds (n.continued ds decimals)
          refine ⟨result,fun rest apart => ?_⟩
          simp only [started,readNumber,zero,digit,taken rest apart,fits,if_true,if_false]
          simpa [Numeral.fraction,decimals] using stops rest apart
      | none =>
          obtain ⟨result,stops⟩ := finishFloat_stops n.negative (absorb 0 (d :: more)).1
            ((d :: more).length - (absorb 0 (d :: more)).2 : Nat) n
          refine ⟨result,fun rest apart => ?_⟩
          simp only [started,readNumber,zero,digit,taken rest apart,fits,if_true,if_false]
          simp only [Numeral.fraction,decimals,Option.elim_none,List.nil_append]
          split
          · next found => exact absurd rfl (ending_head n apart (c := '.') (by rw [found]; rfl)).2
          · exact stops rest apart

theorem skipExponent_power (power : Power) (rest : List Char) (apart : Apart rest) :
    skipExponent (power.sign ++ (power.digits ++ rest)) = .ok rest := by
  obtain ⟨d,more,same,digit,digits⟩ := digits_cons power.counted
  rw [skipExponent,exponentSign_power,same]
  simp [digit,afterDigits_append digits (apart_undigited apart)]

theorem skipFraction_ending (n : Numeral) (rest : List Char) (apart : Apart rest) :
    skipFraction (n.ending ++ rest) = .ok rest := by
  unfold Numeral.ending
  cases n.power with
  | some power =>
      have marked := skipExponent_power power rest apart
      rcases power.marked with mark | mark <;> simpa [Power.text,mark,skipFraction] using marked
  | none =>
      cases rest with
      | nil => rfl
      | cons c rest =>
          obtain ⟨_,point,small,large⟩ := apart_head apart (c := c) rfl
          simp [skipFraction,point,small,large]

theorem skipFraction_point (ds more : List Char) (digits : Digits ds) (undigited : Undigited more)
    (unpointed : more.head? ≠ some '.') : skipFraction ('.' :: (ds ++ more)) = skipFraction more := by
  rw [skipFraction]
  simp only [if_true,digitsOf_append digits.2 undigited,afterDigits_append digits.2 undigited,
    List.isEmpty_iff,digits.1,if_false]
  cases more with
  | nil => rfl
  | cons d more =>
      have other : d ≠ '.' := by simpa using unpointed
      simp [skipFraction,other]

theorem skipFraction_fraction (n : Numeral) (rest : List Char) (apart : Apart rest) :
    skipFraction (n.fraction ++ rest) = .ok rest := by
  unfold Numeral.fraction
  cases decimals : n.decimals with
  | none => exact skipFraction_ending n rest apart
  | some ds =>
      have unpointed : (n.ending ++ rest).head? ≠ some '.' := fun head => (ending_head n apart head).2 rfl
      rw [← skipFraction_ending n rest apart]
      simpa using skipFraction_point ds (n.ending ++ rest) (n.continued ds decimals) (ending_undigited n apart) unpointed

theorem skipNumber_unsigned (n : Numeral) (rest : List Char) (apart : Apart rest) :
    skipNumber (n.unsigned ++ rest) = .ok rest := by
  obtain ⟨d,more,same,digit,digits⟩ := digits_cons n.counted
  have undigited := fraction_undigited n apart
  have passed := skipFraction_fraction n rest apart
  have started : n.unsigned ++ rest = d :: (more ++ (n.fraction ++ rest)) := by simp [Numeral.unsigned,same]
  by_cases zero : d = '0'
  · subst zero
    obtain rfl : more = [] := by simpa [same] using n.zero (by simp [same])
    rw [started]
    cases follows : n.fraction ++ rest with
    | nil =>
        rw [follows] at passed
        exact passed
    | cons c more =>
        rw [follows] at passed undigited
        simpa [skipNumber,undigited c rfl] using passed
  · simp [started,skipNumber,zero,digit,afterDigits_append digits undigited,passed]

end AccountLink.Json
