import AccountLink.Program.Run
import AccountLink.Text.Lines

namespace AccountLink

open AccountLink.Text AccountLink.Json AccountLink.Program

namespace Text

theorem lines_cons {c : Char} {rest : List Char} (other : c ≠ '\n') (apart : c = '\r' → rest.head? ≠ some '\n') :
    lines (c :: rest) = match lines rest with
      | [] => [[c]]
      | line :: others => (c :: line) :: others := by
  rw [lines.eq_def]
  split
  · contradiction
  · next same => cases same; exact absurd rfl other
  · next same => cases same; exact absurd rfl (apart rfl)
  · next same => cases same; rfl

theorem lines_return {rest : List Char} (feed : rest.head? = some '\n') : lines ('\r' :: rest) = lines rest := by
  cases rest with
  | nil => contradiction
  | cons c rest =>
      cases feed
      rfl

theorem lines_some (c : Char) (rest : List Char) : lines (c :: rest) ≠ [] := by
  rw [lines.eq_def]
  split
  · contradiction
  · exact List.cons_ne_nil _ _
  · exact List.cons_ne_nil _ _
  · split <;> exact List.cons_ne_nil _ _

theorem lines_front (front : List Char) {back other : List Char} {more : List (List Char)} (heads : back.head? = other.head?)
    (nonempty : other ≠ []) (same : lines back = lines other ++ more) :
    lines (front ++ back) = lines (front ++ other) ++ more := by
  induction front with
  | nil => exact same
  | cons c front ih =>
      have next : (front ++ back).head? = (front ++ other).head? := by
        cases front with
        | nil => exact heads
        | cons d front => rfl
      rw [List.cons_append,List.cons_append]
      by_cases feed : c = '\n'
      · subst feed
        change [] :: lines (front ++ back) = [] :: (lines (front ++ other) ++ more)
        rw [ih]
      by_cases ending : c = '\r' ∧ (front ++ other).head? = some '\n'
      · obtain ⟨rfl,follows⟩ := ending
        rw [lines_return (next.trans follows),lines_return follows,ih]
      · have apart : c = '\r' → (front ++ other).head? ≠ some '\n' := fun same follows => ending ⟨same,follows⟩
        rw [lines_cons feed (next ▸ apart),lines_cons feed apart,ih]
        obtain ⟨d,rest,starts⟩ := List.exists_cons_of_ne_nil (List.append_ne_nil_of_right_ne_nil front nonempty)
        cases ended : lines (front ++ other) with
        | nil => exact absurd (starts ▸ ended) (lines_some d rest)
        | cons line others => rfl

theorem lines_feed (front back : List Char) : lines (front ++ '\n' :: back) = lines (front ++ ['\n']) ++ lines back :=
  lines_front front rfl (List.cons_ne_nil _ _) rfl

theorem lines_end (front : List Char) {c : Char} (feed : c ≠ '\n') (carriage : c ≠ '\r') :
    lines (front ++ [c,'\n']) = lines (front ++ [c]) := by
  have alone (rest : List Char) := @lines_cons c rest feed fun same => absurd same carriage
  have last : lines [c,'\n'] = lines [c] := by
    rw [alone,alone]
    rfl
  have ended := @lines_front front [c,'\n'] [c] [] rfl (List.cons_ne_nil _ _) (by rw [last,List.append_nil])
  rwa [List.append_nil] at ended

end Text

theorem Json.writeMembers_end (layout : Layout) (depth : Nat) (members : Members) :
    ∃ front, writeMembers layout depth members = front ++ ['}'] := by
  induction members with
  | nil => exact ⟨_,rfl⟩
  | cons m members ih =>
      obtain ⟨front,same⟩ := ih
      exact ⟨_,by rw [writeMembers,same,← List.append_assoc]⟩

theorem Account.pretty_end (a : Account) : ∃ front, a.toValue.pretty.toList = front ++ ['}'] := by
  obtain ⟨front,same⟩ := Json.writeMembers_end .pretty 0 [("currentUserStatus",a.status.toValue)]
  exact ⟨_,by rw [Value.pretty,String.toList_ofList,Account.toValue,Value.write,same,← List.append_assoc]⟩

namespace Program

def written (items : List Item) : List Char := items.flatMap fun item => item.text.toList ++ ['\n']

theorem output_written (r : Run) : r.output.toList = written r.items := by
  simp [Run.output,written,List.flatMap_map]

theorem lines_written (above : List Item) (below : List Char) :
    lines (written above ++ below) = lines (written above) ++ lines below := by
  rcases List.eq_nil_or_concat above with rfl | ⟨front,item,rfl⟩
  · rfl
  · have ended : written (front ++ [item]) = (written front ++ item.text.toList) ++ ['\n'] := by simp [written]
    rw [List.concat_eq_append,ended,List.append_assoc,List.singleton_append,lines_feed]

theorem lines_account (above : List Item) (account : Account) :
    lines (written (above ++ [.account account])) = lines (written above) ++ lines account.toValue.pretty.toList := by
  obtain ⟨front,same⟩ := account.pretty_end
  have split : written (above ++ [.account account]) = written above ++ (front ++ ['}','\n']) := by
    simp [written,Item.text,same]
  rw [split,lines_written,lines_end front (by decide) (by decide),same]

end Program

end AccountLink
