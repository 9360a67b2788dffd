import AccountLink.Proofs.Url.Paths

namespace AccountLink.Url

open AccountLink.Text

theorem cutLast_append {p : Char → Bool} (front : List Char) {back : List Char} (free : ∀ c ∈ back, p c = false) :
    cutLast p (front ++ back) = (cutLast p front).map fun cut => (cut.1,cut.2 ++ back) := by
  have all : ∀ c ∈ back.reverse, (!p c) = true := by
    intro c member
    rw [free c (List.mem_reverse.mp member)]
    rfl
  unfold cutLast
  rw [List.reverse_append,List.dropWhile_append_of_pos all,List.takeWhile_append_of_pos all]
  cases front.reverse.dropWhile (!p ·) with
  | nil => rfl
  | cons c rest => simp

-- The user stands before the last @ in front of where the host ends.
def userOf (text : List Char) : Option User :=
  (cutLast (· = '@') ((text.dropWhile isSlash).takeWhile (!endsHost ·))).bind fun cut => parseUser cut.1

def userInfo (text : List Char) : Option User := (parseScheme (strip text)).bind fun read => userOf read.2

theorem parse_user {text : List Char} {a : Address} (parsed : Address.parse text = some a) : a.user = userInfo text := by
  have ends (c : Char) : (isSlash c || decide (c = '?') || decide (c = '#')) = endsHost c := rfl
  simp only [Address.parse,Option.bind_eq_bind,Option.bind_eq_some_iff,ends] at parsed
  obtain ⟨⟨secure,rest⟩,scheme,host,_,portNumber,_,made⟩ := parsed
  cases made
  rw [userInfo,scheme,Option.bind_some,userOf]
  dsimp only
  cases cutLast (· = '@') ((rest.dropWhile isSlash).takeWhile (!endsHost ·)) <;> rfl

theorem userOf_append (front : List Char) {back : List Char} (unnamed : '@' ∉ back) :
    userOf (front ++ back) = userOf front := by
  have unnamedAfter {more : List Char} (part : more.Sublist back) : ∀ c ∈ more, decide (c = '@') = false := by
    intro c member
    apply decide_eq_false
    rintro rfl
    exact unnamed (part.mem member)
  unfold userOf
  rw [List.dropWhile_append]
  split
  · next slashes =>
      have part : ((back.dropWhile isSlash).takeWhile (!endsHost ·)).Sublist back :=
        (List.takeWhile_sublist _).trans (List.dropWhile_sublist _)
      have none := cutLast_append [] (unnamedAfter part)
      rw [List.isEmpty_iff.mp slashes,← List.nil_append (List.takeWhile _ (List.dropWhile isSlash back)),none]
      rfl
  · rw [List.takeWhile_append]
    split
    · next whole =>
        rw [cutLast_append _ (unnamedAfter (List.takeWhile_sublist _)),Option.bind_map,
          (List.takeWhile_prefix (!endsHost ·)).eq_of_length whole]
        rfl
    · rfl

theorem strip_front {front : List Char} (some : front ≠ []) (opens : front.dropWhile isPadding = front)
    (ends : front.reverse.dropWhile isPadding = front.reverse) (rest : List Char) :
    ∃ kept padding, rest = kept ++ padding ∧ (∀ c ∈ padding, isPadding c = true) ∧
      strip (front ++ rest) = (front ++ kept).filter (!isLineEnd ·) := by
  refine ⟨(rest.reverse.dropWhile isPadding).reverse,(rest.reverse.takeWhile isPadding).reverse,?_,?_,?_⟩
  · rw [← List.reverse_append,List.takeWhile_append_dropWhile,List.reverse_reverse]
  · intro c member
    exact List.mem_takeWhile_imp (List.mem_reverse.mp member)
  · have inner : (front ++ rest).dropWhile isPadding = front ++ rest := by
      rw [List.dropWhile_append,opens,if_neg (by simpa using some)]
    have outer : (front ++ rest).reverse.dropWhile isPadding = rest.reverse.dropWhile isPadding ++ front.reverse := by
      rw [List.reverse_append,List.dropWhile_append,ends]
      split
      · next none =>
          rw [List.isEmpty_iff.mp none]
          rfl
      · rfl
    rw [strip,inner,outer,List.reverse_append,List.reverse_reverse]

end AccountLink.Url
