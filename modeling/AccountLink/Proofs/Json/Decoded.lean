import AccountLink.Proofs.Json.Fits
import AccountLink.Proofs.Json.Forms

namespace AccountLink.Json

open AccountLink.Text

theorem map_reads {α β : Type} {form : Form α} {f : α → β} {room : Nat} {text rest : List Char} {b : β}
    (read : (form.map f).read room text = .ok (.ok b,rest)) : ∃ a, form.read room text = .ok (.ok a,rest) ∧ f a = b := by
  obtain ⟨⟨result,_⟩,here,read⟩ := bind_ok.mp read
  cases result with
  | error m => cases read
  | ok a =>
      cases read
      exact ⟨a,here,rfl⟩

theorem skipGaps_twice (text : List Char) : skipGaps (skipGaps text) = skipGaps text := by
  induction text with
  | nil => rfl
  | cons c text ih =>
      unfold skipGaps at ih ⊢
      by_cases gap : isGap c = true
      · rw [List.dropWhile_cons_of_pos gap,ih]
      · rw [List.dropWhile_cons_of_neg gap,List.dropWhile_cons_of_neg gap]

theorem readScalar_some {c : Char} {text rest : List Char} (other : c ≠ 'n') :
    readScalar (c :: text) ≠ .ok (.null,rest) := by
  intro read
  rw [readScalar,if_neg other] at read
  repeat' split at read
  all_goals first
    | contradiction
    | obtain ⟨_,_,read⟩ := bind_ok.mp read; cases read

theorem readValue_some {room : Nat} {text rest : List Char} (other : ∀ more, skipGaps text ≠ 'n' :: more) :
    readValue room text ≠ .ok (.null,rest) := by
  intro read
  rw [readValue] at read
  split at read
  · contradiction
  · next c more found =>
      have letter : c ≠ 'n' := by
        rintro rfl
        exact other more found
      split at read
      · split at read
        · contradiction
        · obtain ⟨_,_,read⟩ := bind_ok.mp read
          cases read
      · split at read
        · split at read
          · contradiction
          · obtain ⟨_,_,read⟩ := bind_ok.mp read
            cases read
        · exact readScalar_some letter read

theorem anything_some {room : Nat} {text rest : List Char} {v : Value}
    (read : Form.anything.read room text = .ok (.ok (some v),rest)) : v.Fits room ∧ v ≠ .null := by
  obtain ⟨⟨result,_⟩,here,read⟩ := bind_ok.mp read
  cases read
  unfold readOptional at here
  split at here
  · obtain ⟨_,_,here⟩ := bind_ok.mp here
    cases here
  · next other =>
      obtain ⟨⟨w,_⟩,value,here⟩ := bind_ok.mp here
      cases here
      refine ⟨readValue_fits value,?_⟩
      rintro rfl
      exact readValue_some (fun more found => other more (skipGaps_twice text ▸ found)) value

namespace Shape

variable {ρ : Type} {shape : Shape ρ} {room : Nat} {P : ρ → Prop}

def Keeps (shape : Shape ρ) (room : Nat) (P : ρ → Prop) : Prop :=
  ∀ field ∈ shape.fields, ∀ text set rest, field.form.read room text = .ok (.ok set,rest) → ∀ record, P record → P (set record)

theorem readMember_keeps (keeps : shape.Keeps room P) {progress next : Progress ρ} {key : String} {text rest : List Char}
    (start : P progress.record) (read : shape.readMember room progress key text = .ok (next,rest)) : P next.record := by
  unfold readMember at read
  split at read
  · obtain ⟨_,_,read⟩ := bind_ok.mp read
    obtain ⟨_,_,read⟩ := bind_ok.mp read
    cases read
    exact start
  · next field found =>
      split at read
      · contradiction
      · obtain ⟨_,_,read⟩ := bind_ok.mp read
        obtain ⟨⟨change,_⟩,value,read⟩ := bind_ok.mp read
        cases change with
        | error m => cases read
        | ok set =>
            cases read
            exact keeps field (List.mem_of_find?_eq_some found) _ set _ value _ start

theorem readObject_keeps (keeps : shape.Keeps room P) (blank : P shape.blank) {text rest : List Char} {record : ρ}
    (read : shape.readObject room text = .ok (record,rest)) : P record := by
  obtain ⟨⟨progress,_⟩,members,read⟩ := bind_ok.mp read
  have kept := readMembers_keeps (P := fun progress => P progress.record)
    (fun _ _ _ _ _ start member => readMember_keeps keeps start member) blank members
  simp only at read
  split at read
  · cases read
    exact kept
  · contradiction

theorem readFields_keeps (keeps : shape.Keeps room P) {fields : List (Field ρ)}
    (members : ∀ field ∈ fields, field ∈ shape.fields) {index : Nat} {text rest : List Char} {start record : ρ}
    (kept : P start) (read : shape.readFields room fields index start text = .ok (record,rest)) : P record := by
  induction fields generalizing index text start with
  | nil =>
      obtain ⟨_,_,read⟩ := bind_ok.mp read
      cases read
      exact kept
  | cons field fields ih =>
      obtain ⟨next,_,read⟩ := bind_ok.mp read
      cases next with
      | close rest =>
          simp only at read
          split at read
          · cases read
            exact kept
          · contradiction
      | item text =>
          obtain ⟨⟨change,more⟩,value,read⟩ := bind_ok.mp read
          cases change with
          | error m => cases read
          | ok set =>
              exact ih (fun other member => members other (List.mem_cons_of_mem field member))
                (keeps field (members field (by simp)) _ set _ value _ kept) read

theorem read_keeps (keeps : shape.Keeps room P) (blank : P shape.blank) {text rest : List Char} {record : ρ}
    (read : shape.read (room+1) text = .ok (record,rest)) : P record := by
  unfold Shape.read at read
  split at read
  · exact readFields_keeps keeps (fun _ member => member) blank read
  · exact readObject_keeps keeps blank read
  · rw [← toOption_some,unexpected_refused] at read
    contradiction

theorem decode_keeps (keeps : shape.Keeps 126 P) (blank : P shape.blank) {text : List Char} {record : ρ}
    (decoded : shape.decode text = .ok record) : P record := by
  obtain ⟨⟨read,_⟩,here,decoded⟩ := bind_ok.mp decoded
  obtain ⟨_,_,decoded⟩ := bind_ok.mp decoded
  cases decoded
  exact read_keeps keeps blank here

end Shape

end AccountLink.Json
