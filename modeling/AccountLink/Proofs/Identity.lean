import AccountLink.Identity
import AccountLink.Proofs.Text.Lowercase

namespace AccountLink

open AccountLink.Text

def inLowerCase (email : String) : String := String.ofList (lowercase email.toList)

@[simp] theorem inLowerCase_toList (email : String) : (inLowerCase email).toList = lowercase email.toList :=
  String.toList_ofList

@[simp] theorem loginName_toList (email : String) : (loginName email).toList = lowercase (spellAt email.toList) :=
  String.toList_ofList

theorem inLowerCase_same (one two : String) : inLowerCase one = inLowerCase two ↔ lowercase one.toList = lowercase two.toList :=
  String.ofList_inj

theorem loginName_same (one two : String) :
    loginName one = loginName two ↔ lowercase (spellAt one.toList) = lowercase (spellAt two.toList) :=
  String.ofList_inj

theorem at_mark : Mark '@' := .inl rfl

theorem hyphen_mark : Mark '-' := .inr rfl

theorem spellAt_without (cs : List Char) (without : '@' ∉ cs) : spellAt cs = cs := by
  induction cs with
  | nil => rfl
  | cons c rest ih =>
      obtain ⟨other,without⟩ := not_or.mp fun member => without (List.mem_cons.mpr member)
      rw [spellAt,if_neg (Ne.symm other),ih without]

theorem spellAt_first (front back : List Char) (first : '@' ∉ front) :
    spellAt (front ++ '@' :: back) = front ++ '-' :: 'a' :: 't' :: '-' :: back := by
  induction front with
  | nil => rfl
  | cons c rest ih =>
      obtain ⟨other,first⟩ := not_or.mp fun member => first (List.mem_cons.mpr member)
      rw [List.cons_append,spellAt,if_neg (Ne.symm other),ih first,List.cons_append]

theorem lowercase_spelled (front back : List Char) :
    lowercase (front ++ '-' :: 'a' :: 't' :: '-' :: back) =
      lowercase front ++ '-' :: 'a' :: 't' :: '-' :: lowercase back := by
  have word : lowercase ['a','t'] = ['a','t'] := by decide +kernel
  have inner := lowercase_divided (mark_divides hyphen_mark) ['a','t'] back
  rw [word] at inner
  rw [lowercase_divided (mark_divides hyphen_mark)]
  exact congrArg (lowercase front ++ '-' :: ·) inner

-- The hyphens keep casing from looking past them just as the at sign did.
theorem lowercase_spellAt (cs : List Char) : lowercase (spellAt cs) = spellAt (lowercase cs) := by
  by_cases there : '@' ∈ cs
  · obtain ⟨front,back,rfl,first⟩ := List.eq_append_cons_of_mem there
    have still : '@' ∉ lowercase front := fun member => first ((lowercase_mark at_mark front).mp member)
    rw [spellAt_first front back first,lowercase_spelled,lowercase_divided (mark_divides at_mark),spellAt_first _ _ still]
  · have still : '@' ∉ lowercase cs := fun member => there ((lowercase_mark at_mark cs).mp member)
    rw [spellAt_without cs there,spellAt_without _ still]

theorem spellAt_count (cs : List Char) : (spellAt cs).count '@' = cs.count '@'-1 := by
  by_cases there : '@' ∈ cs
  · obtain ⟨front,back,rfl,first⟩ := List.eq_append_cons_of_mem there
    rw [spellAt_first front back first]
    simp [List.count_eq_zero_of_not_mem first]
  · rw [spellAt_without cs there,List.count_eq_zero_of_not_mem there]

-- The name is the same whether the address is put in lower case before its at
-- sign is spelled out, after that, or both. So addresses that differ in case only
-- have one name.
theorem loginName_lowercase (email other : String) :
    (loginName email).toList = spellAt (inLowerCase email).toList ∧
    inLowerCase (loginName email) = loginName email ∧
    loginName (inLowerCase email) = loginName email ∧
    (inLowerCase other = inLowerCase email → loginName other = loginName email) ∧
    (loginName email).toList.count '@' = email.toList.count '@'-1 := by
  have commutes (email : String) : (loginName email).toList = spellAt (inLowerCase email).toList := by
    rw [loginName_toList,inLowerCase_toList,lowercase_spellAt]
  refine ⟨commutes email,?_,?_,?_,?_⟩
  · rw [← String.toList_inj,inLowerCase_toList,loginName_toList,lowercase_again]
  · rw [← String.toList_inj,commutes,commutes,inLowerCase_toList,inLowerCase_toList,lowercase_again]
  · intro same
    rw [← String.toList_inj,commutes,commutes,same]
  · rw [loginName_toList,lowercase_count at_mark,spellAt_count]

-- Two spellings of an address in Greek, with two at signs. A sigma ends the word
-- before the first of them and another begins the word behind it.
theorem loginName_lowercase_greek :
    inLowerCase "ΟΔΟΣ@ΣΣ@x" = inLowerCase "οδος@σΣ@X" ∧ loginName "ΟΔΟΣ@ΣΣ@x" = loginName "οδος@σΣ@X" ∧
      loginName "ΟΔΟΣ@ΣΣ@x" = "οδος-at-σς@x" := by
  have same : inLowerCase "ΟΔΟΣ@ΣΣ@x" = inLowerCase "οδος@σΣ@X" := by decide +kernel
  exact ⟨same,(loginName_lowercase "οδος@σΣ@X" "ΟΔΟΣ@ΣΣ@x").2.2.2.1 same,by decide +kernel⟩

def Unhyphened (email : String) : Prop := '@' ∈ email.toList ∧ '-' ∉ email.toList.takeWhile (· != '@')

instance (email : String) : Decidable (Unhyphened email) := inferInstanceAs (Decidable (_ ∧ _))

theorem takeWhile_first {m : Char} {front : List Char} (first : m ∉ front) (back : List Char) :
    (front ++ m :: back).takeWhile (· != m) = front := by
  have before : ∀ c ∈ front, (c != m) = true := by
    intro c member
    simpa using fun same : c = m => first (same ▸ member)
  rw [List.takeWhile_append_of_pos before]
  simp

theorem first_unique {m : Char} {front back before behind : List Char} (first : m ∉ front) (leading : m ∉ before)
    (same : front ++ m :: back = before ++ m :: behind) : front = before ∧ back = behind := by
  have fronts := congrArg (List.takeWhile (· != m)) same
  rw [takeWhile_first first,takeWhile_first leading] at fronts
  subst fronts
  exact ⟨rfl,(List.cons.inj (List.append_cancel_left same)).2⟩

theorem unhyphened_parts {email : String} (unhyphened : Unhyphened email) :
    ∃ front back, email.toList = front ++ '@' :: back ∧ '@' ∉ front ∧ '-' ∉ front := by
  obtain ⟨there,without⟩ := unhyphened
  obtain ⟨front,back,parts,first⟩ := List.eq_append_cons_of_mem there
  rw [parts,takeWhile_first first] at without
  exact ⟨front,back,parts,first,without⟩

-- The first hyphen of such a name is the one that the at sign became, whatever
-- hyphens, at signs and further spellings of these come behind it.
theorem loginName_distinct (one two : String) (unhyphened : Unhyphened one) (also : Unhyphened two) :
    loginName one = loginName two ↔ inLowerCase one = inLowerCase two := by
  obtain ⟨front,back,parts,first,without⟩ := unhyphened_parts unhyphened
  obtain ⟨before,behind,others,leading,lacking⟩ := unhyphened_parts also
  rw [loginName_same,inLowerCase_same]
  constructor
  · intro same
    rw [parts,others,spellAt_first _ _ first,spellAt_first _ _ leading,lowercase_spelled,lowercase_spelled] at same
    have here : '-' ∉ lowercase front := fun member => without ((lowercase_mark hyphen_mark front).mp member)
    have there : '-' ∉ lowercase before := fun member => lacking ((lowercase_mark hyphen_mark before).mp member)
    obtain ⟨fronts,backs⟩ := first_unique here there same
    have backs : lowercase back = lowercase behind := by simpa using backs
    rw [parts,others,lowercase_divided (mark_divides at_mark),lowercase_divided (mark_divides at_mark),fronts,backs]
  · intro same
    rw [lowercase_spellAt,lowercase_spellAt,same]

theorem loginName_distinct_domains :
    Unhyphened "ΣΑΣ@b-at-c" ∧ Unhyphened "σας@B-AT-C" ∧ Unhyphened "σασ@b-at-c" ∧
      loginName "ΣΑΣ@b-at-c" = loginName "σας@B-AT-C" ∧ loginName "ΣΑΣ@b-at-c" ≠ loginName "σασ@b-at-c" := by
  have one : Unhyphened "ΣΑΣ@b-at-c" := by decide +kernel
  have two : Unhyphened "σας@B-AT-C" := by decide +kernel
  have three : Unhyphened "σασ@b-at-c" := by decide +kernel
  refine ⟨one,two,three,(loginName_distinct _ _ one two).mpr (by decide +kernel),?_⟩
  rw [Ne,loginName_distinct _ _ one three]
  decide +kernel

end AccountLink
