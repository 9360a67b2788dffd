import Mathlib.Data.List.Induction
import AccountLink.Proofs.Session.Calls

namespace AccountLink

attribute [ext] Account

namespace Completion

def adminOutcome? : Completion → Option Bool
  | .adminLogin (.ok _) => some true
  | .adminLogin (.error _) => some false
  | _ => none

def sessionOutcome? : Completion → Option Bool
  | .login (.ok _) => some true
  | .login (.error _) => some false
  | .logout (.ok _) => some false
  | _ => none

def username? : Completion → Option (Option String)
  | .login (.ok reply) => some reply.user
  | _ => none

def balance? : Completion → Option (Option String)
  | .login (.ok reply) => some reply.balance
  | .logout (.ok _) => some none
  | .fetchFile _ (.ok reply) => (contentOf reply).balance.map some
  | _ => none

def logsIn : Completion → Bool
  | .login (.ok _) => true
  | _ => false

def tellsStatus : Completion → Bool
  | .login _ => true
  | .logout (.ok _) => true
  | .fetchFile _ (.ok reply) => (contentOf reply).balance.isSome
  | _ => false

end Completion

open Completion

def latest {β : Type} (settles : Completion → Option β) (done : List Completion) : Option β :=
  (done.filterMap settles).getLast?

theorem latest_snoc {β : Type} (settles : Completion → Option β) (done : List Completion) (c : Completion) :
    latest settles (done ++ [c]) = (settles c).or (latest settles done) := by
  unfold latest
  rw [List.filterMap_append,List.getLast?_append]
  cases found : settles c <;> simp [found]

def CurrentStatus.known (c : CurrentStatus) : UserStatus := c.present?.getD .unknown

-- Each part goes back to the last call that settles it, and to the account
-- from before the calls if there is none.
def Account.settledStatus (a : Account) (done : List Completion) : UserStatus where
  isMember := if ∃ c ∈ done, c.logsIn then some true else a.status.known.isMember
  isLoggedIn := (latest sessionOutcome? done).or a.status.known.isLoggedIn
  username := (latest username? done).getD a.status.known.username
  balance := (latest balance? done).getD a.status.known.balance

def Account.settled (a : Account) (done : List Completion) : Account where
  isAdminLoggedIn := (latest adminOutcome? done).getD a.isAdminLoggedIn
  status := if a.status = .absent ∧ ∀ c ∈ done, c.tellsStatus = false then .absent
    else .present (a.settledStatus done)

def Completion.patched (c : Completion) (s : UserStatus) : UserStatus where
  isMember := if c.logsIn then some true else s.isMember
  isLoggedIn := c.sessionOutcome?.or s.isLoggedIn
  username := c.username?.getD s.username
  balance := c.balance?.getD s.balance

theorem account_parts (c : Completion) (a : Account) : c.account a =
    ⟨c.adminOutcome?.getD a.isAdminLoggedIn,
      if c.tellsStatus then .present (c.patched a.status.known) else a.status⟩ := by
  rw [account_edits]
  cases c with
  | login reply => cases reply <;> rfl
  | logout reply => cases reply <;> rfl
  | adminLogin reply => cases reply <;> rfl
  | createUser user reply => cases reply <;> rfl
  | listFiles path reply => cases reply <;> rfl
  | fetchFile path reply =>
      cases reply with
      | error cause => rfl
      | ok reply =>
          cases found : (contentOf reply).balance with
          | none =>
              rw [edits_unbilled path reply found]
              simp [adminOutcome?,tellsStatus,found]
          | some balance =>
              rw [edits_fetched path reply balance found]
              simp only [adminOutcome?,tellsStatus,patched,balance?,found]
              rfl

theorem patched_untold (c : Completion) (s : UserStatus) (silent : c.tellsStatus = false) : c.patched s = s := by
  cases c with
  | login reply => cases silent
  | logout reply =>
      cases reply with
      | ok reply => cases silent
      | error cause => rfl
  | adminLogin reply => rfl
  | createUser user reply => rfl
  | listFiles path reply => rfl
  | fetchFile path reply =>
      cases reply with
      | error cause => rfl
      | ok reply =>
          have none : (contentOf reply).balance = none := by simpa [tellsStatus] using silent
          simp [patched,logsIn,sessionOutcome?,username?,balance?,none]

theorem settledStatus_nil (a : Account) : a.settledStatus [] = a.status.known := by
  simp [Account.settledStatus,latest]

theorem settledStatus_snoc (a : Account) (done : List Completion) (c : Completion) :
    a.settledStatus (done ++ [c]) = c.patched (a.settledStatus done) := by
  simp only [Account.settledStatus,patched,latest_snoc,UserStatus.mk.injEq]
  refine ⟨?_,Option.or_assoc,?_,?_⟩
  · by_cases now : c.logsIn
    · simp [now]
    · simp [now,or_and_right,exists_or]
  · cases c.username? <;> rfl
  · cases c.balance? <;> rfl

theorem settled_known (a : Account) (done : List Completion) :
    (a.settled done).status.known = a.settledStatus done := by
  by_cases silent : a.status = .absent ∧ ∀ c ∈ done, c.tellsStatus = false
  · have unknown : a.settledStatus done = a.status.known := by
      obtain ⟨_,silent⟩ := silent
      induction done using List.reverseRec with
      | nil => exact settledStatus_nil a
      | append_singleton done c ih =>
          have before := ih fun other member => silent other (List.mem_append_left _ member)
          rw [settledStatus_snoc,before,patched_untold c _ (silent c (by simp))]
    simp only [Account.settled,if_pos silent,unknown]
    rw [silent.1]
  · simp [Account.settled,if_neg silent,CurrentStatus.known,CurrentStatus.present?]

theorem settled_nil (a : Account) : a.settled [] = a := by
  obtain ⟨admin,status⟩ := a
  cases status with
  | absent => rfl
  | present s => simp [Account.settled,settledStatus_nil,latest,CurrentStatus.known,CurrentStatus.present?]

theorem settled_snoc (a : Account) (done : List Completion) (c : Completion) :
    a.settled (done ++ [c]) = c.account (a.settled done) := by
  rw [account_parts,settled_known,← settledStatus_snoc]
  refine Account.ext ?_ ?_
  · simp only [Account.settled,latest_snoc]
    cases c.adminOutcome? <;> rfl
  · cases tells : c.tellsStatus with
    | true => simp [Account.settled,tells]
    | false =>
        simp only [Account.settled,settledStatus_snoc,patched_untold c _ tells,Bool.false_eq_true,if_false]
        refine if_congr (and_congr_right fun _ => ?_) rfl rfl
        rw [List.forall_mem_append]
        exact and_iff_left (List.forall_mem_singleton.mpr tells)

theorem foldl_settled (a : Account) (done : List Completion) :
    done.foldl (fun a c => c.account a) a = a.settled done := by
  induction done using List.reverseRec with
  | nil => exact (settled_nil a).symm
  | append_singleton done c ih => rw [List.foldl_concat,ih,settled_snoc]

-- Calls one after another, on states that share an account: they all complete,
-- and the account ends as each part was last settled.
theorem run_calls_settled (s : Session) (cell : Nat) (before : Cell Account) (calls : List (String × Started))
    (there : s.accounts.cells[cell]? = some before)
    (same : ∀ call ∈ calls, s.accounts.handles.get? call.1 = some cell) :
    ∃ trail, s.run (calls.map fun call => .call call.1 call.2) = some trail ∧
      ∀ on, s.accounts.handles.get? on = some cell →
        (s.last trail).accounts.snapshot? on =
          some (before.value.settled (calls.map fun call => call.2.completion)) := by
  obtain ⟨trail,ran,final⟩ := s.run_calls cell calls same
  refine ⟨trail,ran,?_⟩
  intro on bound
  rw [final,Session.settle_snapshot s on cell _ before bound there,← foldl_settled,List.foldl_flatMap,List.foldl_map]
  simp only [← account_edits]

def visit : List (String × Started) := [
  ("main",⟨⟨"tok","bob@example.com"⟩,.login (.ok ⟨none,some "bob",some "10"⟩)⟩),
  ("main",⟨⟨"tok","bob@example.com"⟩,.fetchFile "/a" (.ok ⟨none,some ⟨some "9",none⟩⟩)⟩),
  ("main",⟨⟨"tok","bob@example.com"⟩,.adminLogin (.error (.status 403 ""))⟩),
  ("main",⟨⟨"tok","bob@example.com"⟩,.logout (.ok ⟨none⟩)⟩)]

theorem run_calls_settled_visit :
    ∃ trail, (Session.start .listener).run (visit.map fun call => .call call.1 call.2) = some trail ∧
      ((Session.start .listener).last trail).accounts.snapshot? "main" =
        some ⟨false,.present ⟨some true,some false,some "bob",none⟩⟩ := by
  have same : ∀ call ∈ visit, (Session.start .listener).accounts.handles.get? call.1 = some 0 := by
    intro call member
    simp only [visit,List.mem_cons,List.not_mem_nil,or_false] at member
    rcases member with rfl | rfl | rfl | rfl <;> rfl
  obtain ⟨trail,ran,final⟩ := run_calls_settled (Session.start .listener) 0 ⟨.initial,0⟩ visit rfl same
  refine ⟨trail,ran,?_⟩
  rw [final "main" rfl]
  rfl

end AccountLink
