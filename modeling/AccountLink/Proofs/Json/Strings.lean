import AccountLink.Proofs.Json.Reads

namespace AccountLink.Json

open AccountLink.Text

@[simp] theorem spelled_cons (letter : Letter) (letters : List Letter) :
    spelled (letter :: letters) = letter.text ++ spelled letters := List.flatMap_cons

theorem readHex_unit {a b c d : Char} {n : Nat} (stands : hexUnit a b c d = some n) (rest : List Char) :
    readHex (a :: b :: c :: d :: rest) = .ok (n,rest) := by
  simp only [hexUnit,Option.bind_eq_bind,Option.bind_eq_some_iff,Option.some.injEq] at stands
  obtain ⟨w,hw,x,hx,y,hy,z,hz,rfl⟩ := stands
  simp [readHex,hw,hx,hy,hz]

theorem short_single {e c : Char} (stands : shortEscape e = some c) : e ≠ 'u' := by
  rintro rfl
  have none : shortEscape 'u' = none := rfl
  rw [none] at stands
  contradiction

theorem readEscape_short {e c : Char} (stands : shortEscape e = some c) (rest : List Char) :
    readEscape (e :: rest) = .ok (c,rest) := by
  rw [readEscape]
  · simp [stands]
  · exact short_single stands

theorem readEscape_unit {a b c d : Char} {n : Nat} (stands : hexUnit a b c d = some n) (rest : List Char) :
    readEscape ('u' :: a :: b :: c :: d :: rest) =
      if Trailing n then .error (.before .loneSurrogate rest)
      else if Leading n then readPairEnd n rest
      else .ok (Char.ofNat n,rest) := by
  simp [readEscape,readHex_unit stands,bind,Except.bind]

theorem readPairEnd_unit {a b c d : Char} {m : Nat} (n : Nat) (stands : hexUnit a b c d = some m) (rest : List Char) :
    readPairEnd n ('\\' :: 'u' :: a :: b :: c :: d :: rest) =
      if Trailing m then .ok (paired n m,rest) else .error (.before .loneSurrogate rest) := by
  simp [readPairEnd,readHex_unit stands,bind,Except.bind,paired]

theorem readPairEnd_short {e c : Char} (n : Nat) (stands : shortEscape e = some c) (rest : List Char) :
    (readPairEnd n ('\\' :: e :: rest)).toOption = none := by
  unfold readPairEnd
  split
  case h_3 same =>
      cases same
      exact absurd rfl (short_single stands)
  all_goals rfl

theorem readPairEnd_other (n : Nat) (letters : List Letter) (rest : List Char)
    (other : ∀ a b c d m stands others, letters ≠ .unit a b c d m stands :: others) :
    (readPairEnd n (spelled letters ++ '"' :: rest)).toOption = none := by
  cases letters with
  | nil => rfl
  | cons letter letters =>
      cases letter with
      | plain c proper => simp [Letter.text,readPairEnd,proper.2.1]
      | short e c stands => exact readPairEnd_short n stands _
      | unit a b c d m stands => exact absurd rfl (other a b c d m stands letters)

theorem readChars_plain {c : Char} (proper : c ≠ '"' ∧ c ≠ '\\' ∧ 32 ≤ c.toNat) (fuel : Nat) (rest : List Char) :
    (readChars (fuel+1) (c :: rest)).toOption =
      (readChars fuel rest).toOption.map fun read => (c :: read.1,read.2) := by
  obtain ⟨unquoted,unescaped,printed⟩ := proper
  simp only [readChars,unquoted,unescaped,Nat.not_lt.mpr printed,if_false,toOption_bind]
  cases (readChars fuel rest).toOption <;> rfl

theorem readChars_escape (fuel : Nat) (rest : List Char) :
    (readChars (fuel+1) ('\\' :: rest)).toOption =
      (readEscape rest).toOption.bind fun escape =>
        (readChars fuel escape.2).toOption.map fun read => (escape.1 :: read.1,read.2) := by
  simp only [readChars,Char.reduceEq,if_false,if_true,toOption_bind]
  congr 1
  funext escape
  cases (readChars fuel escape.2).toOption <;> rfl

-- Each letter takes one step, but for a pair, which takes one for both of its halves.
theorem readChars_letters (letters : List Letter) (spare : Nat) (rest : List Char) :
    (readChars (spare+letters.length+1) (spelled letters ++ '"' :: rest)).toOption =
      (unescaped letters).map (·,rest) := by
  fun_induction unescaped letters generalizing spare with
  | case1 => rfl
  | case2 c proper letters ih =>
      change (readChars (spare+letters.length+1+1) (c :: (spelled letters ++ '"' :: rest))).toOption = _
      rw [readChars_plain proper,ih]
      cases unescaped letters <;> rfl
  | case3 e c stands letters ih =>
      change (readChars (spare+letters.length+1+1) ('\\' :: e :: (spelled letters ++ '"' :: rest))).toOption = _
      simp only [readChars_escape,readEscape_short stands,toOption_ok,Option.bind_some,ih]
      cases unescaped letters <;> rfl
  | case4 a b c d n stands letters trailing =>
      change (readChars (spare+letters.length+1+1) ('\\' :: 'u' :: a :: b :: c :: d :: _)).toOption = _
      rw [readChars_escape,readEscape_unit stands,if_pos trailing]
      rfl
  | case5 a b c d n stands trailing leading a' b' c' d' m stands' letters follows ih =>
      have steps : spare+(letters.length+1+1)+1 = spare+1+letters.length+1+1 := by omega
      change (readChars (spare+(letters.length+1+1)+1) ('\\' :: 'u' :: a :: b :: c :: d ::
        '\\' :: 'u' :: a' :: b' :: c' :: d' :: (spelled letters ++ '"' :: rest))).toOption = _
      rw [steps,readChars_escape,readEscape_unit stands,if_neg trailing,if_pos leading,readPairEnd_unit n stands',
        if_pos follows]
      simp only [toOption_ok,Option.bind_some,ih]
      cases unescaped letters <;> rfl
  | case6 a b c d n stands trailing leading a' b' c' d' m stands' letters apart =>
      change (readChars (spare+(letters.length+1)+1+1) ('\\' :: 'u' :: a :: b :: c :: d ::
        '\\' :: 'u' :: a' :: b' :: c' :: d' :: _)).toOption = _
      rw [readChars_escape,readEscape_unit stands,if_neg trailing,if_pos leading,readPairEnd_unit n stands',if_neg apart]
      rfl
  | case7 a b c d n stands letters trailing leading other =>
      change (readChars (spare+letters.length+1+1) ('\\' :: 'u' :: a :: b :: c :: d ::
        (spelled letters ++ '"' :: rest))).toOption = _
      rw [readChars_escape,readEscape_unit stands,if_neg trailing,if_pos leading,
        readPairEnd_other n letters rest other]
      rfl
  | case8 a b c d n stands letters trailing leading ih =>
      change (readChars (spare+letters.length+1+1) ('\\' :: 'u' :: a :: b :: c :: d ::
        (spelled letters ++ '"' :: rest))).toOption = _
      rw [readChars_escape,readEscape_unit stands,if_neg trailing,if_neg leading]
      simp only [toOption_ok,Option.bind_some,ih]
      cases unescaped letters <;> rfl

theorem letters_length (letters : List Letter) : letters.length ≤ (spelled letters).length := by
  induction letters with
  | nil => simp
  | cons letter letters ih =>
      have some : 1 ≤ letter.text.length := by cases letter <;> simp [Letter.text]
      simp only [spelled_cons,List.length_append,List.length_cons]
      omega

theorem letters_fuel (letters : List Letter) (rest : List Char) :
    ∃ spare, (spelled letters ++ '"' :: rest).length+1 = spare+letters.length+1 := by
  have enough := letters_length letters
  exact ⟨(spelled letters ++ '"' :: rest).length - letters.length,by simp only [List.length_append]; omega⟩

theorem readString_letters (letters : List Letter) (rest : List Char) :
    (readString (spelled letters ++ '"' :: rest)).toOption =
      (unescaped letters).map fun cs => (String.ofList cs,rest) := by
  obtain ⟨spare,fuel⟩ := letters_fuel letters rest
  simp only [readString,fuel,toOption_bind,readChars_letters]
  cases unescaped letters <;> rfl

theorem skipChars_short {e c : Char} (stands : shortEscape e = some c) (fuel : Nat) (rest : List Char) :
    skipChars (fuel+1) ('\\' :: e :: rest) = skipChars fuel rest := by
  rw [skipChars]
  · simp [stands]
  · exact short_single stands

theorem skipChars_letter (letter : Letter) (fuel : Nat) (rest : List Char) :
    skipChars (fuel+1) (letter.text ++ rest) = skipChars fuel rest := by
  cases letter with
  | plain c proper =>
      obtain ⟨unquoted,unescaped,printed⟩ := proper
      simp [Letter.text,skipChars,unquoted,unescaped,Nat.not_lt.mpr printed]
  | short e c stands => exact skipChars_short stands fuel rest
  | unit a b c d n stands => simp [Letter.text,skipChars,readHex_unit stands,bind,Except.bind]

theorem skipChars_letters (letters : List Letter) (spare : Nat) (rest : List Char) :
    skipChars (spare+letters.length+1) (spelled letters ++ '"' :: rest) = .ok rest := by
  induction letters with
  | nil => rfl
  | cons letter letters ih =>
      rw [spelled_cons,List.append_assoc]
      exact (skipChars_letter letter (spare+letters.length+1) _).trans ih

theorem skipString_letters (letters : List Letter) (rest : List Char) :
    skipString (spelled letters ++ '"' :: rest) = .ok rest := by
  obtain ⟨spare,fuel⟩ := letters_fuel letters rest
  rw [skipString,fuel,skipChars_letters]

end AccountLink.Json
