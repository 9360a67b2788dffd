import AccountLink.Text.Lowercase

namespace AccountLink.Text

namespace CaseRange

def image (range : CaseRange) (n : Nat) : Nat := (n+range.shift).toNat

-- Whether nothing of one range is taken into another: its image is above, below, or in step with it
-- and never the same. `Nat.blt` since the whole table is gone through twice.
def misses (range other : CaseRange) : Bool :=
  Nat.blt other.last (range.image range.first) || Nat.blt (range.image range.last) other.first ||
    (range.first == range.last || range.step % other.step == 0) &&
      range.image range.first % other.step != other.first % other.step

variable {range other : CaseRange} {n : Nat}

theorem holds_exact : range.holds n = true ↔
    range.first ≤ n ∧ n ≤ range.last ∧ (n-range.first) % range.step = 0 := by
  simp [holds,and_assoc]

theorem image_shift (positive : 0 ≤ range.first+range.shift) (holds : range.holds n = true) :
    range.image n = range.image range.first+(n-range.first) := by
  obtain ⟨above,_,_⟩ := holds_exact.mp holds
  unfold image
  omega

theorem misses_image (positive : 0 ≤ range.first+range.shift) (misses : range.misses other = true)
    (holds : range.holds n = true) : other.holds (range.image n) = false := by
  obtain ⟨above,below,steps⟩ := holds_exact.mp holds
  have here := image_shift positive holds
  have high : range.image range.last = range.image range.first+(range.last-range.first) := by
    unfold image
    omega
  cases hit : other.holds (range.image n) with
  | false => rfl
  | true =>
      obtain ⟨later,earlier,met⟩ := holds_exact.mp hit
      simp only [CaseRange.misses,Bool.or_eq_true,Bool.and_eq_true,Nat.blt_eq,bne_iff_ne,beq_iff_eq] at misses
      rcases misses with (low | high) | ⟨aligned,apart⟩
      · omega
      · omega
      · -- Both are whole numbers of the other's steps away from where the other begins.
        have whole : other.step ∣ n-range.first := by
          rcases aligned with single | multiple
          · rw [show n-range.first = 0 by omega]
            exact Nat.dvd_zero _
          · exact Nat.dvd_trans (Nat.dvd_of_mod_eq_zero multiple) (Nat.dvd_of_mod_eq_zero steps)
        have same : range.image n % other.step = range.image range.first % other.step := by
          rw [here,Nat.add_mod,Nat.mod_eq_zero_of_dvd whole,Nat.add_zero,Nat.mod_mod]
        have begins : range.image n % other.step = other.first % other.step := by
          rw [← Nat.sub_add_cancel later,Nat.add_mod,met,Nat.zero_add,Nat.mod_mod]
        exact absurd (same.symm.trans begins) apart

end CaseRange

-- What no lower case in the table is, besides what the table starts from: the hyphen, the at sign, the
-- character with a lower case of two, and code points that are no characters.
def unmadeRanges : List CaseRange :=
  [⟨0x2d,0x2d,1,0⟩,⟨0x40,0x40,1,0⟩,⟨0x130,0x130,1,0⟩,⟨0xd800,0xdfff,1,0⟩]

theorem table_apart : (lowerRanges.all fun range =>
    0 ≤ range.first+range.shift && range.image range.last < 0x110000 &&
      (unmadeRanges ++ lowerRanges).all range.misses) = true := by
  decide +kernel

theorem table_image {range : CaseRange} {n : Nat} (member : range ∈ lowerRanges) (holds : range.holds n = true) :
    (range.image n).isValidChar ∧ ∀ other ∈ unmadeRanges ++ lowerRanges, other.holds (range.image n) = false := by
  have apart := List.all_eq_true.mp table_apart range member
  simp only [Bool.and_eq_true,decide_eq_true_eq,List.all_eq_true] at apart
  obtain ⟨⟨positive,bound⟩,misses⟩ := apart
  have missed (other : CaseRange) (there : other ∈ unmadeRanges ++ lowerRanges) :=
    CaseRange.misses_image positive (misses other there) holds
  refine ⟨?_,missed⟩
  obtain ⟨above,below,_⟩ := CaseRange.holds_exact.mp holds
  have surrogate := missed ⟨0xd800,0xdfff,1,0⟩ (List.mem_append_left _ (by simp [unmadeRanges]))
  have outside : ¬ (0xd800 ≤ range.image n ∧ range.image n ≤ 0xdfff) := by
    simpa [CaseRange.holds,Nat.mod_one] using surrogate
  have inside : range.image n ≤ range.image range.last := by
    unfold CaseRange.image
    omega
  unfold Nat.isValidChar
  omega

def Small (c : Char) : Prop := lowerChar c = [c] ∧ c ≠ capitalSigma

theorem untabled_small {c : Char} (single : c.toNat ≠ 0x130) (untabled : ∀ range ∈ lowerRanges, range.holds c.toNat = false) :
    Small c := by
  have unfound : lowerRanges.find? (·.holds c.toNat) = none := by
    rw [List.find?_eq_none]
    intro range member
    simp [untabled range member]
  refine ⟨by simp [lowerChar,single,unfound],?_⟩
  rintro rfl
  exact absurd (untabled ⟨0x3a3,0x3ab,1,32⟩ (by decide +kernel)) (by decide)

theorem sought_small {c : Char} (single : c.toNat ≠ 0x130)
    (untabled : (lowerRanges.all fun range => !range.holds c.toNat) = true) : Small c := by
  refine untabled_small single ?_
  intro range there
  simpa using List.all_eq_true.mp untabled range there

def Mark (c : Char) : Prop := c = '@' ∨ c = '-'

instance (c : Char) : Decidable (Mark c) := inferInstanceAs (Decidable (_ ∨ _))

theorem table_small {range : CaseRange} {n : Nat} (member : range ∈ lowerRanges) (holds : range.holds n = true) :
    Small (Char.ofNat (range.image n)) ∧ ¬ Mark (Char.ofNat (range.image n)) := by
  obtain ⟨valid,missed⟩ := table_image member holds
  have code : (Char.ofNat (range.image n)).toNat = range.image n := by
    rw [Char.ofNat,dif_pos valid]
    rfl
  have unmade (m : Nat) (there : ⟨m,m,1,0⟩ ∈ unmadeRanges) : range.image n ≠ m := by
    intro same
    have hit := missed ⟨m,m,1,0⟩ (List.mem_append_left _ there)
    simp [CaseRange.holds,same] at hit
  constructor
  · refine untabled_small ?_ ?_
    · rw [code]
      exact unmade 0x130 (by simp [unmadeRanges])
    · intro other there
      rw [code]
      exact missed other (List.mem_append_right _ there)
  · rintro (at_ | hyphen)
    · exact unmade 0x40 (by simp [unmadeRanges]) (code.symm.trans (congrArg Char.toNat at_))
    · exact unmade 0x2d (by simp [unmadeRanges]) (code.symm.trans (congrArg Char.toNat hyphen))

theorem lowerChar_small {c d : Char} (member : d ∈ lowerChar c) : Small d ∧ (Mark d → d = c) := by
  unfold lowerChar at member
  split at member
  · have letter : Small 'i' := sought_small (by decide) (by decide +kernel)
    have dot : Small (Char.ofNat 0x307) := sought_small (by decide) (by decide +kernel)
    rcases List.mem_cons.mp member with rfl | member
    · exact ⟨letter,fun mark => absurd mark (by decide)⟩
    · obtain rfl := List.mem_singleton.mp member
      exact ⟨dot,fun mark => absurd mark (by decide)⟩
  · rename_i single
    split at member
    · rename_i range found
      obtain rfl := List.mem_singleton.mp member
      have holds : range.holds c.toNat = true := by simpa using List.find?_some found
      obtain ⟨small,unmarked⟩ := table_small (List.mem_of_find?_eq_some found) holds
      exact ⟨small,fun mark => absurd mark unmarked⟩
    · rename_i unfound
      obtain rfl := List.mem_singleton.mp member
      refine ⟨untabled_small single ?_,fun _ => rfl⟩
      intro range there
      simpa using List.find?_eq_none.mp unfound range there

theorem lowerSigma_small (before after : List Char) :
    Small (lowerSigma before after) ∧ ¬ Mark (lowerSigma before after) := by
  have ends : Small (Char.ofNat 0x3c2) ∧ ¬ Mark (Char.ofNat 0x3c2) :=
    ⟨sought_small (by decide) (by decide +kernel),by decide⟩
  have inside : Small (Char.ofNat 0x3c3) ∧ ¬ Mark (Char.ofNat 0x3c3) :=
    ⟨sought_small (by decide) (by decide +kernel),by decide⟩
  unfold lowerSigma
  split
  · exact ends
  · exact inside

theorem lowerAfter_small (before cs : List Char) : ∀ d ∈ lowerAfter before cs, Small d := by
  induction cs generalizing before with
  | nil => intro d member; cases member
  | cons c rest ih =>
      intro d member
      rcases List.mem_append.mp member with first | later
      · split at first
        · rw [List.mem_singleton.mp first]
          exact (lowerSigma_small before rest).1
        · exact (lowerChar_small first).1
      · exact ih (c :: before) d later

theorem lowerAfter_same (before cs : List Char) (small : ∀ c ∈ cs, Small c) : lowerAfter before cs = cs := by
  induction cs generalizing before with
  | nil => rfl
  | cons c rest ih =>
      obtain ⟨own,notSigma⟩ := small c List.mem_cons_self
      rw [lowerAfter,if_neg notSigma,own,ih (c :: before) fun d member => small d (List.mem_cons_of_mem _ member)]
      rfl

theorem lowercase_again (cs : List Char) : lowercase (lowercase cs) = lowercase cs :=
  lowerAfter_same [] _ (lowerAfter_small [] cs)

structure Divides (c : Char) : Prop where
  small : Small c
  uncased : isCased c = false
  seen : isCaseIgnorable c = false

theorem mark_divides {c : Char} (mark : Mark c) : Divides c := by
  rcases mark with rfl | rfl
  · exact ⟨sought_small (by decide) (by decide +kernel),by decide +kernel,by decide +kernel⟩
  · exact ⟨sought_small (by decide) (by decide +kernel),by decide +kernel,by decide +kernel⟩

section Divides

variable {b : Char} (divides : Divides b)
include divides

theorem startsCased_divided (front back : List Char) : startsCased (front ++ b :: back) = startsCased front := by
  unfold startsCased
  rw [List.dropWhile_append]
  cases shown : front.dropWhile isCaseIgnorable with
  | nil => simp [divides.seen,divides.uncased]
  | cons c rest => rfl

theorem lowerAfter_behind (front back cs : List Char) : lowerAfter (front ++ b :: back) cs = lowerAfter front cs := by
  induction cs generalizing front with
  | nil => rfl
  | cons c rest ih =>
      have later := ih (c :: front)
      rw [List.cons_append] at later
      rw [lowerAfter,lowerAfter,later,lowerSigma,lowerSigma,startsCased_divided divides]

theorem lowerAfter_divided (before front back : List Char) :
    lowerAfter before (front ++ b :: back) = lowerAfter before front ++ b :: lowercase back := by
  induction front generalizing before with
  | nil =>
      have behind : lowerAfter (b :: before) back = lowercase back := lowerAfter_behind divides [] before back
      change (if b = capitalSigma then _ else _) ++ lowerAfter (b :: before) back = [b] ++ lowercase back
      rw [if_neg divides.small.2,divides.small.1,behind]
  | cons c rest ih =>
      rw [List.cons_append,lowerAfter,lowerAfter,ih (c :: before),lowerSigma,lowerSigma,startsCased_divided divides,
        List.append_assoc]

-- Whatever stands on the other side of it, a sigma ends a word before a divider as it does at the end.
theorem lowercase_divided (front back : List Char) :
    lowercase (front ++ b :: back) = lowercase front ++ b :: lowercase back :=
  lowerAfter_divided divides [] front back

end Divides

theorem lowerAfter_count {m : Char} (mark : Mark m) (before cs : List Char) :
    (lowerAfter before cs).count m = cs.count m := by
  induction cs generalizing before with
  | nil => rfl
  | cons c rest ih =>
      rw [lowerAfter,List.count_append,ih (c :: before),List.count_cons,Nat.add_comm]
      congr 1
      by_cases same : c = m
      · subst same
        have small := (mark_divides mark).small
        simp [small.1,small.2]
      · have none : (if (c == m) = true then 1 else 0) = 0 := by simp [same]
        rw [none,List.count_eq_zero]
        intro member
        split at member
        · rw [List.mem_singleton] at member
          exact (lowerSigma_small before rest).2 (member ▸ mark)
        · exact same ((lowerChar_small member).2 mark).symm

theorem lowercase_count {m : Char} (mark : Mark m) (cs : List Char) : (lowercase cs).count m = cs.count m :=
  lowerAfter_count mark [] cs

theorem lowercase_mark {m : Char} (mark : Mark m) (cs : List Char) : m ∈ lowercase cs ↔ m ∈ cs := by
  rw [← List.count_pos_iff,lowercase_count mark,List.count_pos_iff]

end AccountLink.Text
