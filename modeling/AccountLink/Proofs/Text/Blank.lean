import Mathlib.Data.List.TakeWhile
import AccountLink.Text.Blank

namespace AccountLink.Text

section Ends

variable {p : Char → Bool}

theorem dropWhile_exact (cs kept : List Char) : cs.dropWhile p = kept ↔
    (∀ c ∈ kept.head?, p c = false) ∧ ∃ front, (∀ c ∈ front, p c = true) ∧ cs = front ++ kept := by
  constructor
  · rintro rfl
    refine ⟨?_,cs.takeWhile p,fun c member => List.mem_takeWhile_imp member,List.takeWhile_append_dropWhile.symm⟩
    intro c opens
    have first := List.head?_dropWhile_not p cs
    rw [opens] at first
    simpa using first
  · rintro ⟨opens,front,dropped,rfl⟩
    rw [List.dropWhile_append_of_pos dropped]
    cases kept with
    | nil => rfl
    | cons c rest => exact List.dropWhile_cons_of_neg (by simp [opens c rfl])

theorem trimRight_exact (cs kept : List Char) : trimRight p cs = kept ↔
    (∀ c ∈ kept.getLast?, p c = false) ∧ ∃ back, (∀ c ∈ back, p c = true) ∧ cs = kept ++ back := by
  rw [trimRight,List.reverse_eq_iff,dropWhile_exact,List.head?_reverse]
  refine and_congr_right fun _ => ⟨?_,?_⟩
  · rintro ⟨front,dropped,reversed⟩
    refine ⟨front.reverse,fun c member => dropped c (List.mem_reverse.mp member),?_⟩
    rw [← List.reverse_reverse cs,reversed,List.reverse_append,List.reverse_reverse]
  · rintro ⟨back,dropped,rfl⟩
    exact ⟨back.reverse,fun c member => dropped c (List.mem_reverse.mp member),List.reverse_append⟩

theorem trimRight_unique {one other back behind : List Char} (ends : ∀ c ∈ one.getLast?, p c = false)
    (dropped : ∀ c ∈ back, p c = true) (otherEnds : ∀ c ∈ other.getLast?, p c = false)
    (otherDropped : ∀ c ∈ behind, p c = true) (same : one ++ back = other ++ behind) : one = other := by
  have kept := (trimRight_exact _ one).mpr ⟨ends,back,dropped,rfl⟩
  have otherKept := (trimRight_exact _ other).mpr ⟨otherEnds,behind,otherDropped,same⟩
  exact kept.symm.trans otherKept

end Ends

def White (cs : List Char) : Prop := ∀ c ∈ cs, isBlank c = true

structure Trimmed (cs : List Char) : Prop where
  opens : ∀ c ∈ cs.head?, isBlank c = false
  ends : ∀ c ∈ cs.getLast?, isBlank c = false

theorem trim_exact (cs kept : List Char) : trim cs = kept ↔
    Trimmed kept ∧ ∃ front back, White front ∧ White back ∧ cs = front ++ kept ++ back := by
  rw [trim,trimRight_exact]
  constructor
  · rintro ⟨ends,back,after,left⟩
    obtain ⟨opens,front,before,rfl⟩ := (dropWhile_exact cs (kept ++ back)).mp left
    refine ⟨⟨fun c first => opens c ?_,ends⟩,front,back,before,after,(List.append_assoc _ _ _).symm⟩
    rw [List.head?_append,Option.mem_def.mp first]
    rfl
  · rintro ⟨⟨opens,ends⟩,front,back,before,after,rfl⟩
    rw [List.append_assoc,List.dropWhile_append_of_pos before]
    cases kept with
    | nil => exact ⟨ends,[],by simp,List.dropWhile_eq_nil_iff.mpr after⟩
    | cons c rest => exact ⟨ends,back,after,List.dropWhile_cons_of_neg (by simp [opens c rfl])⟩

theorem trim_trimmed {cs : List Char} (trimmed : Trimmed cs) : trim cs = cs :=
  (trim_exact cs cs).mpr ⟨trimmed,[],[],nofun,nofun,(List.append_nil _).symm⟩

end AccountLink.Text
