import AccountLink.Proofs.Json.Phrase

-- What a reader makes of a text, whatever follows it. Where and why reading fails is left out.

namespace AccountLink.Json

open AccountLink.Text

@[simp] theorem toOption_ok {ε α : Type} (a : α) : (Except.ok a : Except ε α).toOption = some a := rfl

@[simp] theorem toOption_error {ε α : Type} (e : ε) : (Except.error e : Except ε α).toOption = none := rfl

@[simp] theorem toOption_bind {ε α β : Type} (x : Except ε α) (f : α → Except ε β) :
    (x >>= f).toOption = x.toOption.bind fun a => (f a).toOption := by
  cases x <;> rfl

theorem toOption_some {ε α : Type} {x : Except ε α} {a : α} : x.toOption = some a ↔ x = .ok a := by
  cases x <;> simp

theorem toOption_isSome {ε α : Type} {x : Except ε α} (there : x.toOption.isSome = true) : ∃ a, x = .ok a := by
  obtain ⟨a,found⟩ := Option.isSome_iff_exists.mp there
  exact ⟨a,toOption_some.mp found⟩

def Apart (rest : List Char) : Prop := ∀ c, rest.head? = some c → isGap c = true ∨ c = ',' ∨ c = ']' ∨ c = '}'

theorem apart_nil : Apart [] := by simp [Apart]

theorem apart_blank {gap : List Char} (blank : Blank gap) : Apart gap := by
  intro c head
  exact .inl (blank c (List.mem_of_mem_head? head))

theorem apart_before {gap : List Char} {c : Char} (rest : List Char) (blank : Blank gap)
    (apart : c = ',' ∨ c = ']' ∨ c = '}') : Apart (gap ++ c :: rest) := by
  intro d head
  cases gap with
  | nil =>
      obtain rfl : c = d := by simpa using head
      exact .inr apart
  | cons e gap =>
      obtain rfl : e = d := by simpa using head
      exact .inl (blank e (by simp))

theorem skipGaps_blank {gap : List Char} (rest : List Char) (blank : Blank gap) :
    skipGaps (gap ++ rest) = skipGaps rest :=
  List.dropWhile_append_of_pos blank

theorem skipGaps_blank_nil {gap : List Char} (blank : Blank gap) : skipGaps gap = [] := by
  simpa [skipGaps] using skipGaps_blank [] blank

theorem skipGaps_cons {c : Char} (rest : List Char) (ungapped : isGap c = false) :
    skipGaps (c :: rest) = c :: rest := by
  simp [skipGaps,ungapped]

def Reads {α : Type} (one : Reader α) (text : List Char) (result : Option α) : Prop :=
  ∀ gap rest, Blank gap → Apart rest → (one (gap ++ (text ++ rest))).toOption = result.map (·,rest)

end AccountLink.Json
