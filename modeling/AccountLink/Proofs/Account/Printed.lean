import AccountLink.Account.Status
import AccountLink.Proofs.Json.Ordered

namespace AccountLink

open AccountLink.Json

theorem optional_exact {α : Type} {room : Nat} {f : α → Value} (exact : ∀ a, (f a).Exact room) (o : Option α) :
    (Value.ofOption f o).Exact room := by
  cases o with
  | none => exact .null
  | some a => exact exact a

theorem UserStatus.toValue_exact (room : Nat) (s : UserStatus) : s.toValue.Exact (room+1) := by
  refine .object ?_
  simp only [List.forall_mem_cons]
  exact ⟨optional_exact (fun _ => .bool) _,optional_exact (fun _ => .bool) _,optional_exact (fun _ => .string) _,
    optional_exact (fun _ => .string) _,List.forall_mem_nil _⟩

theorem Account.toValue_exact (room : Nat) (a : Account) : a.toValue.Exact (room+2) := by
  refine .object ?_
  simp only [List.forall_mem_cons]
  exact ⟨.bool,optional_exact (UserStatus.toValue_exact room) _,List.forall_mem_nil _⟩

theorem optional_ordered_inj {α : Type} (f : α → Value) (some : ∀ a, (f a).ordered ≠ .null)
    (inj : ∀ a b, (f a).ordered = (f b).ordered → a = b) {one two : Option α}
    (same : (Value.ofOption f one).ordered = (Value.ofOption f two).ordered) : one = two := by
  cases one with
  | none =>
      cases two with
      | none => rfl
      | some b => exact absurd same.symm (some b)
  | some a =>
      cases two with
      | none => exact absurd same (some a)
      | some b => exact congrArg Option.some (inj a b same)

theorem bool_ordered_inj {one two : Option Bool}
    (same : (Value.ofOption Value.bool one).ordered = (Value.ofOption Value.bool two).ordered) : one = two :=
  optional_ordered_inj .bool (fun _ => nofun) (fun _ _ same => Value.bool.inj same) same

theorem string_ordered_inj {one two : Option String}
    (same : (Value.ofOption Value.string one).ordered = (Value.ofOption Value.string two).ordered) : one = two :=
  optional_ordered_inj .string (fun _ => nofun) (fun _ _ same => Value.string.inj same) same

theorem UserStatus.ordered_inj (s t : UserStatus) (same : s.toValue.ordered = t.toValue.ordered) : s = t := by
  have parts := ordered_object_inj (by rfl) (by simp) same
  simp only [List.map_cons,List.map_nil,List.cons.injEq,and_true] at parts
  obtain ⟨isMember,isLoggedIn,username,balance⟩ := parts
  rw [UserStatus.mk.injEq]
  exact ⟨bool_ordered_inj isMember,bool_ordered_inj isLoggedIn,string_ordered_inj username,string_ordered_inj balance⟩

theorem CurrentStatus.ordered_inj {c d : CurrentStatus} (same : c.toValue.ordered = d.toValue.ordered) : c = d := by
  have present := optional_ordered_inj UserStatus.toValue (fun _ => nofun) UserStatus.ordered_inj same
  cases c with
  | absent =>
      cases d with
      | absent => rfl
      | present t => cases present
  | present s =>
      cases d with
      | absent => cases present
      | present t => exact congrArg CurrentStatus.present (Option.some.inj present)

theorem Account.ordered_inj {a b : Account} (same : a.toValue.ordered = b.toValue.ordered) : a = b := by
  have parts := ordered_object_inj (by rfl) (by simp) same
  simp only [List.map_cons,List.map_nil,List.cons.injEq,and_true] at parts
  obtain ⟨admin,status⟩ := parts
  rw [Account.mk.injEq]
  exact ⟨Value.bool.inj admin,CurrentStatus.ordered_inj status⟩

theorem Account.written_inj {layout : Layout} (blank : layout.Blank) {a b : Account}
    (same : a.toValue.write layout 0 = b.toValue.write layout 0) : a = b := by
  have read := ofText_written blank (a.toValue_exact 125)
  rw [same,ofText_written blank (b.toValue_exact 125)] at read
  exact (Account.ordered_inj (Except.ok.inj read)).symm

-- For every two accounts and in both layouts; an absent status, one that says nothing, and one that says of a name
-- that it is null are all different.
theorem accounts_printed (a b : Account) :
    (a.toValue.compact = b.toValue.compact ↔ a = b) ∧ (a.toValue.pretty = b.toValue.pretty ↔ a = b) := by
  refine ⟨⟨fun same => ?_,fun same => same ▸ rfl⟩,⟨fun same => ?_,fun same => same ▸ rfl⟩⟩
  · exact Account.written_inj compact_blank (String.ofList_injective same)
  · exact Account.written_inj pretty_blank (String.ofList_injective same)

example : (⟨false,.present ⟨none,some true,some "null",none⟩⟩ : Account).toValue.compact =
    "\x7b\"isAdminLoggedIn\":false,\"currentUserStatus\":\x7b\"isMember\":null,\"isLoggedIn\":true," ++
      "\"username\":\"null\",\"balance\":null\x7d\x7d" := by
  decide +kernel

end AccountLink
