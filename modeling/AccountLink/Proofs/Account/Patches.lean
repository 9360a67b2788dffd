import Mathlib.Data.List.Induction
import AccountLink.Account.Patch

namespace AccountLink

namespace Instruction

variable {α : Type}

def after (later earlier : Instruction α) : Instruction α :=
  match later with
  | .keep => earlier
  | .set value => .set value
  | .clear => .clear

def tells : Instruction α → Bool
  | .keep => false
  | .set _ => true
  | .clear => true

def last (given : List (Instruction α)) : Instruction α := (given.filter tells).getLast?.getD .keep

def Clash (one other : Instruction α) : Prop := one ≠ .keep ∧ other ≠ .keep ∧ one ≠ other

theorem apply_after (later earlier : Instruction α) (current : Option α) :
    (later.after earlier).apply current = later.apply (earlier.apply current) := by
  cases later <;> rfl

theorem after_self (i : Instruction α) : i.after i = i := by
  cases i <;> rfl

theorem last_single (i : Instruction α) : last [i] = i := by
  cases i <;> rfl

theorem last_snoc (given : List (Instruction α)) (i : Instruction α) : last (given ++ [i]) = i.after (last given) := by
  unfold last
  rw [List.filter_append,List.getLast?_append]
  cases i <;> rfl

theorem apply_commute (one other : Instruction α) (current : Option α) :
    other.apply (one.apply current) = one.apply (other.apply current) ↔ ¬one.Clash other := by
  cases one with
  | keep => simp [apply,Clash]
  | set value =>
      cases other with
      | keep => simp [apply,Clash]
      | set another => simp [apply,Clash,eq_comm]
      | clear => simp [apply,Clash]
  | clear => cases other <;> simp [apply,Clash]

end Instruction

inductive StatusPart where
  | isMember
  | isLoggedIn
  | username
  | balance

def StatusPart.Content : StatusPart → Type
  | .isMember => Bool
  | .isLoggedIn => Bool
  | .username => String
  | .balance => String

def UserStatus.part (s : UserStatus) : (part : StatusPart) → Option part.Content
  | .isMember => s.isMember
  | .isLoggedIn => s.isLoggedIn
  | .username => s.username
  | .balance => s.balance

theorem UserStatus.part_inj {s other : UserStatus} (same : ∀ part, s.part part = other.part part) : s = other := by
  obtain ⟨member,session,name,balance⟩ := s
  obtain rfl : member = _ := same .isMember
  obtain rfl : session = _ := same .isLoggedIn
  obtain rfl : name = _ := same .username
  obtain rfl : balance = _ := same .balance
  rfl

namespace Patch

def part (p : Patch) : (part : StatusPart) → Instruction part.Content
  | .isMember => p.isMember
  | .isLoggedIn => p.isLoggedIn
  | .username => p.username
  | .balance => p.balance

theorem part_apply (p : Patch) (s : UserStatus) (part : StatusPart) :
    (p.apply s).part part = (p.part part).apply (s.part part) := by
  cases part <;> rfl

def followedBy (earlier later : Patch) : Patch where
  isMember := later.isMember.after earlier.isMember
  isLoggedIn := later.isLoggedIn.after earlier.isLoggedIn
  username := later.username.after earlier.username
  balance := later.balance.after earlier.balance

example (balance : String) : (balanceTo balance).followedBy sessionEnded = sessionEnded := rfl

theorem part_followedBy (earlier later : Patch) (part : StatusPart) :
    (earlier.followedBy later).part part = (later.part part).after (earlier.part part) := by
  cases part <;> rfl

theorem part_all (p : Patch) (more : List Patch) (part : StatusPart) :
    (more.foldl followedBy p).part part = .last ((p :: more).map (·.part part)) := by
  induction more using List.reverseRec with
  | nil => exact (Instruction.last_single _).symm
  | append_singleton more q ih =>
      rw [List.foldl_append,List.foldl_cons,List.foldl_nil,part_followedBy,ih,← List.cons_append,List.map_append]
      exact (Instruction.last_snoc _ _).symm

def Clash (one other : Patch) : Prop := ∃ part, (one.part part).Clash (other.part part)

theorem apply_followedBy (earlier later : Patch) (s : UserStatus) :
    (earlier.followedBy later).apply s = later.apply (earlier.apply s) := by
  refine UserStatus.part_inj fun part => ?_
  rw [part_apply,part_apply,part_apply,part_followedBy,Instruction.apply_after]

theorem apply_again (p : Patch) (s : UserStatus) : p.apply (p.apply s) = p.apply s := by
  refine UserStatus.part_inj fun part => ?_
  rw [part_apply,part_apply,← Instruction.apply_after,Instruction.after_self]

theorem apply_commute (one other : Patch) (s : UserStatus) :
    other.apply (one.apply s) = one.apply (other.apply s) ↔ ¬one.Clash other := by
  have parts (part : StatusPart) : (other.apply (one.apply s)).part part = (one.apply (other.apply s)).part part ↔
      ¬(one.part part).Clash (other.part part) := by
    simp only [part_apply]
    exact Instruction.apply_commute _ _ _
  constructor
  · rintro same ⟨part,clash⟩
    exact (parts part).mp (by rw [same]) clash
  · intro agreed
    exact UserStatus.part_inj fun part => (parts part).mpr fun clash => agreed ⟨part,clash⟩

end Patch

namespace CurrentStatus

theorem patched_patched (c : CurrentStatus) (p q : Patch) : (c.patched p).patched q = c.patched (p.followedBy q) :=
  congrArg present (p.apply_followedBy q _).symm

theorem patched_all (c : CurrentStatus) (p : Patch) (more : List Patch) :
    (p :: more).foldl patched c = c.patched (more.foldl .followedBy p) := by
  rw [List.foldl_cons]
  induction more generalizing p with
  | nil => rfl
  | cons q more ih => rw [List.foldl_cons,List.foldl_cons,patched_patched,ih]

theorem patched_commute (c : CurrentStatus) (p q : Patch) :
    (c.patched p).patched q = (c.patched q).patched p ↔ ¬p.Clash q := by
  rw [← p.apply_commute q (c.present?.getD .unknown)]
  exact iff_of_eq (present.injEq _ _)

theorem patched_empty (c : CurrentStatus) : c.patched .empty = c ↔ ∃ s, c = .present s := by
  constructor
  · exact fun same => ⟨_,same.symm⟩
  · rintro ⟨s,rfl⟩
    rfl

end CurrentStatus

-- For every status. Patches one after another are one patch, and each part ends as it was last told, or as it was.
-- An absent status becomes one of unknown parts, so no patch is without effect on it.
theorem patches_compose (c : CurrentStatus) (a : Account) (p q : Patch) (more : List Patch) :
    (p :: more).foldl .patched c = c.patched (more.foldl .followedBy p) ∧
    (∃ s, (p :: more).foldl .patched c = .present s ∧ ∀ part, s.part part =
      (Instruction.last ((p :: more).map (·.part part))).apply ((c.present?.getD .unknown).part part)) ∧
    (c.patched p).patched p = c.patched p ∧
    ((∀ c : CurrentStatus, (c.patched p).patched q = (c.patched q).patched p) ↔ ¬p.Clash q) ∧
    (∃ s, c.patched p = .present s) ∧
    (c.patched .empty = c ↔ ∃ s, c = .present s) ∧
    (a.withPatch p).isAdminLoggedIn = a.isAdminLoggedIn := by
  refine ⟨c.patched_all p more,⟨_,c.patched_all p more,fun part => ?_⟩,?_,?_,⟨_,rfl⟩,c.patched_empty,rfl⟩
  · rw [Patch.part_apply,Patch.part_all]
  · exact congrArg CurrentStatus.present (p.apply_again _)
  · exact ⟨fun same => (CurrentStatus.absent.patched_commute p q).mp (same _),fun agreed c => (c.patched_commute p q).mpr agreed⟩

end AccountLink
