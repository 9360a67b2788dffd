import Mathlib.Data.List.TakeWhile
import AccountLink.Url.Basic

namespace AccountLink

open AccountLink.Text

namespace Text

theorem cut_some (p : Char → Bool) (cs : List Char) : cut p cs ≠ [] := by
  cases cs with
  | nil => exact List.cons_ne_nil _ _
  | cons c rest =>
      unfold cut
      split
      · exact List.cons_ne_nil _ _
      · split <;> exact List.cons_ne_nil _ _

theorem cut_append {p : Char → Bool} {mark : Char} (cuts : p mark = true) (front back : List Char) :
    cut p (front ++ mark :: back) = cut p front ++ cut p back := by
  induction front with
  | nil => simp [cut,cuts]
  | cons c front ih =>
      simp only [List.cons_append,cut,ih]
      split
      · rfl
      · cases pieces : cut p front with
        | nil => exact absurd pieces (cut_some p front)
        | cons piece others => rfl

end Text

namespace Url

theorem percentEncode_append (set front back : List Char) :
    percentEncode set (front ++ back) = percentEncode set front ++ percentEncode set back := List.flatMap_append

theorem upperHexDigit_mark (n : Nat) (digit : n < 16) : upperHexDigit n ≠ '?' := by
  have digits : ∀ n < 16, upperHexDigit n ≠ '?' := by decide
  exact digits n digit

theorem percentEncode_unmarked {set : List Char} (marked : set.contains '?' = true) (cs : List Char) :
    '?' ∉ percentEncode set cs := by
  intro member
  obtain ⟨c,_,encoded⟩ := List.mem_flatMap.mp member
  split at encoded
  · obtain ⟨b,_,spelled⟩ := List.mem_flatMap.mp encoded
    have high := upperHexDigit_mark (b.toNat / 16) (by have := b.toNat_lt; omega)
    have low := upperHexDigit_mark (b.toNat % 16) (by omega)
    simp only [percentByte,List.mem_cons,List.not_mem_nil,or_false] at spelled
    rcases spelled with sign | digit | digit
    · exact absurd sign (by decide)
    · exact high digit.symm
    · exact low digit.symm
  · next kept =>
      cases List.mem_singleton.mp encoded
      simp [List.contains_iff_mem.mp marked] at kept

def pass (behind : List (List Char)) (segment : List Char) : List (List Char) :=
  if isDoubleDot segment then leave behind
  else if isDot segment then behind
  else percentEncode pathSet segment :: behind

theorem walk_pass (behind : List (List Char)) (segment : List Char) {rest : List (List Char)} (more : rest ≠ []) :
    walk behind (segment :: rest) = walk (pass behind segment) rest := by
  obtain ⟨next,others,rfl⟩ := List.exists_cons_of_ne_nil more
  simp only [walk,pass]
  split
  · rfl
  · split <;> rfl

-- Dots lead back to what stands in front of them, so what stands behind can be walked afterwards.
theorem walk_append (behind front : List (List Char)) {back : List (List Char)} (more : back ≠ []) :
    walk behind (front ++ back) = walk (front.foldl pass behind) back := by
  induction front generalizing behind with
  | nil => rfl
  | cons segment front ih =>
      rw [List.cons_append,walk_pass behind segment (List.append_ne_nil_of_right_ne_nil front more)]
      exact ih (pass behind segment)

structure Plain (segment : List Char) : Prop where
  undoubled : isDoubleDot segment = false
  undotted : isDot segment = false
  kept : percentEncode pathSet segment = segment

instance : DecidablePred Plain := fun segment =>
  decidable_of_iff (isDoubleDot segment = false ∧ isDot segment = false ∧ percentEncode pathSet segment = segment)
    ⟨fun ⟨undoubled,undotted,kept⟩ => ⟨undoubled,undotted,kept⟩,fun plain => ⟨plain.undoubled,plain.undotted,plain.kept⟩⟩

theorem pass_plain (behind : List (List Char)) {segment : List Char} (plain : Plain segment) :
    pass behind segment = segment :: behind := by
  simp [pass,plain.undoubled,plain.undotted,plain.kept]

theorem walk_plain (behind : List (List Char)) {segments : List (List Char)} (more : segments ≠ [])
    (plain : ∀ segment ∈ segments, Plain segment) : walk behind segments = behind.reverse ++ segments := by
  induction segments generalizing behind with
  | nil => contradiction
  | cons segment rest ih =>
      have first := plain segment List.mem_cons_self
      cases rest with
      | nil => simp [walk,first.undoubled,first.undotted,first.kept]
      | cons next rest =>
          have others : next :: rest ≠ [] := List.cons_ne_nil _ _
          rw [walk_pass behind segment others,pass_plain behind first,
            ih (segment :: behind) others fun s member => plain s (List.mem_cons_of_mem _ member),List.reverse_cons,
            List.append_assoc,List.singleton_append]

def Unmarked (path : List (List Char)) : Prop := ∀ segment ∈ path, '?' ∉ segment

theorem leave_unmarked {behind : List (List Char)} (unmarked : Unmarked behind) : Unmarked (leave behind) := by
  cases behind with
  | nil => exact unmarked
  | cons segment rest =>
      simp only [leave]
      split
      · exact unmarked
      · intro s member
        exact unmarked s (List.mem_cons_of_mem _ member)

theorem cons_unmarked {behind : List (List Char)} (unmarked : Unmarked behind) {segment : List Char}
    (free : '?' ∉ segment) : Unmarked (segment :: behind) := by
  intro s member
  rcases List.mem_cons.mp member with rfl | old
  · exact free
  · exact unmarked s old

theorem pass_unmarked {behind : List (List Char)} (unmarked : Unmarked behind) (segment : List Char) :
    Unmarked (pass behind segment) := by
  unfold pass
  split
  · exact leave_unmarked unmarked
  · split
    · exact unmarked
    · exact cons_unmarked unmarked (percentEncode_unmarked (by decide) segment)

theorem reverse_unmarked {behind : List (List Char)} (unmarked : Unmarked behind) : Unmarked behind.reverse := by
  intro s member
  exact unmarked s (List.mem_reverse.mp member)

-- Where dots lead, nothing comes up that was not there, and segments are encoded.
theorem walk_unmarked {behind : List (List Char)} (segments : List (List Char)) (unmarked : Unmarked behind) :
    Unmarked (walk behind segments) := by
  induction segments generalizing behind with
  | nil => exact reverse_unmarked unmarked
  | cons segment rest ih =>
      cases rest with
      | nil =>
          simp only [walk]
          split
          · exact reverse_unmarked (cons_unmarked (leave_unmarked unmarked) List.not_mem_nil)
          · split
            · exact reverse_unmarked (cons_unmarked unmarked List.not_mem_nil)
            · exact reverse_unmarked (cons_unmarked unmarked (percentEncode_unmarked (by decide) segment))
      | cons next rest =>
          rw [walk_pass behind segment (List.cons_ne_nil _ _)]
          exact ih (pass_unmarked unmarked segment)

theorem parsePath_unmarked (text : List Char) : '?' ∉ Address.pathChars (parsePath text) := by
  intro member
  obtain ⟨segment,reached,marked⟩ := List.mem_flatMap.mp member
  rcases List.mem_cons.mp marked with slash | inside
  · exact absurd slash (by decide)
  · exact walk_unmarked (cut isSlash _) (fun _ none => absurd none List.not_mem_nil) segment reached inside

theorem parsePath_append (front : List Char) :
    ∃ before, ∀ back : List Char, (∀ segment ∈ cut isSlash back, Plain segment) →
      parsePath (front ++ '/' :: back) = before ++ cut isSlash back := by
  cases front with
  | nil =>
      refine ⟨[],?_⟩
      intro back plain
      exact walk_plain [] (cut_some isSlash back) plain
  | cons c rest =>
      refine ⟨((cut isSlash (if isSlash c then rest else c :: rest)).foldl pass []).reverse,?_⟩
      intro back plain
      have inside : parsePath (c :: rest ++ '/' :: back) =
          walk [] (cut isSlash ((if isSlash c then rest else c :: rest) ++ '/' :: back)) := by
        simp only [parsePath,List.cons_append]
        split <;> rfl
      rw [inside,cut_append (by rfl),walk_append _ _ (cut_some isSlash back),walk_plain _ (cut_some isSlash back) plain]

def endsHost (c : Char) : Bool := isSlash c || c = '?' || c = '#'

def behindHost (text : List Char) : List Char := (text.dropWhile isSlash).dropWhile (!endsHost ·)

def endsPath (c : Char) : Bool := c = '?' || c = '#'

theorem mark_cases {mark : Char} (ends : endsPath mark = true) : mark = '?' ∨ mark = '#' := by
  simpa [endsPath] using ends

theorem any_free {p : Char → Bool} {cs : List Char} (none : cs.any p = false) : ∀ c ∈ cs, p c = false := by
  intro c member
  exact Bool.eq_false_iff.mpr (List.any_eq_false.mp none c member)

theorem none_ends {text : List Char} (free : ∀ c ∈ text, endsPath c = false) : ∀ c ∈ text, (!endsPath c) = true := by
  intro c member
  rw [free c member]
  rfl

theorem free_unmarked {text : List Char} (unasked : '?' ∉ text) (uncited : '#' ∉ text) :
    ∀ c ∈ text, endsPath c = false := by
  intro c member
  apply Bool.eq_false_iff.mpr
  intro ends
  rcases mark_cases ends with rfl | rfl
  · exact unasked member
  · exact uncited member

def queryOf (text : List Char) : Option (List Char) :=
  match text.dropWhile (!endsPath ·) with
  | '?' :: text => some (percentEncode querySet (text.takeWhile (· ≠ '#')))
  | _ => none

structure Continues (text : List Char) (a : Address) : Prop where
  path : a.path = parsePath (text.takeWhile (!endsPath ·))
  query : a.query = queryOf text

theorem parse_continues {text : List Char} {a : Address} (parsed : Address.parse text = some a) :
    ∃ secure rest, parseScheme (strip text) = some (secure,rest) ∧ Continues (behindHost rest) a := by
  simp only [Address.parse,Option.bind_eq_bind,Option.bind_eq_some_iff] at parsed
  obtain ⟨⟨secure,rest⟩,scheme,host,_,portNumber,_,made⟩ := parsed
  have marks : (fun c : Char => decide (c ≠ '?' ∧ c ≠ '#')) = (!endsPath ·) := by
    funext c
    simp [endsPath]
  cases made
  refine ⟨secure,rest,scheme,?_,?_⟩
  · simp only [marks]
    rfl
  · simp only [marks]
    rfl

theorem apart_all {mark : Char} {cs : List Char} (free : mark ∉ cs) : ∀ c ∈ cs, decide (c ≠ mark) = true := by
  intro c member
  apply decide_eq_true
  rintro rfl
  exact free member

theorem target_path (a : Address) (unmarked : '?' ∉ Address.pathChars a.path) :
    a.target.takeWhile (· ≠ '?') = Address.pathChars a.path := by
  rw [Address.target,List.takeWhile_append_of_pos (apart_all unmarked)]
  cases a.query <;> simp [Address.marked]

theorem behindHost_append {front : List Char} (hosted : ∃ c ∈ front, isSlash c = false) {back : List Char}
    (rooted : back.head? = some '/') : behindHost (front ++ back) = behindHost front ++ back := by
  obtain ⟨rest,rfl⟩ := List.head?_eq_some_iff.mp rooted
  have something : (front.dropWhile isSlash).isEmpty = false := by
    obtain ⟨c,member,solid⟩ := hosted
    apply Bool.eq_false_iff.mpr
    intro none
    have slash := List.dropWhile_eq_nil_iff.mp (List.isEmpty_iff.mp none) c member
    rw [solid] at slash
    cases slash
  unfold behindHost
  rw [List.dropWhile_append,something,if_neg Bool.false_ne_true,List.dropWhile_append]
  split
  · next none =>
      rw [List.isEmpty_iff.mp none]
      rfl
  · rfl

theorem mem_dropWhile {p : Char → Bool} {c : Char} (kept : p c = false) (cs : List Char) :
    c ∈ cs.dropWhile p ↔ c ∈ cs := by
  constructor
  · exact (List.dropWhile_sublist p).mem
  · intro member
    rw [← @List.takeWhile_append_dropWhile _ p cs] at member
    rcases List.mem_append.mp member with taken | rest
    · have dropped := List.mem_takeWhile_imp taken
      rw [kept] at dropped
      cases dropped
    · exact rest

theorem behindHost_mark {mark : Char} (ends : endsPath mark = true) (text : List Char) :
    mark ∈ behindHost text ↔ mark ∈ text := by
  unfold behindHost
  rw [mem_dropWhile,mem_dropWhile]
  · rcases mark_cases ends with rfl | rfl <;> rfl
  · rcases mark_cases ends with rfl | rfl <;> rfl

structure Ending (text : List Char) : Prop where
  segments : ∃ rest, text = '/' :: rest ∧ (∀ segment ∈ cut isSlash rest, Plain segment) ∧
    Address.pathChars (cut isSlash rest) = text
  unmarked : ∀ c ∈ text, endsPath c = false
  solid : ∀ c ∈ text, isPadding c = false
  kept : percentEncode querySet text = text

theorem solid_unbroken {c : Char} (solid : isPadding c = false) : isLineEnd c = false := by
  have large : 32 < c.toNat := by simpa [isPadding] using solid
  apply Bool.eq_false_iff.mpr
  intro breaks
  have cases : (c = '\t' ∨ c = '\n') ∨ c = '\r' := by simpa [isLineEnd] using breaks
  rcases cases with (rfl | rfl) | rfl <;> exact absurd large (by decide)

theorem strip_ending {first : Char} (solid : isPadding first = false) (rest : List Char) {back : List Char}
    (ending : Ending back) : strip (first :: rest ++ back) = (first :: rest).filter (!isLineEnd ·) ++ back := by
  have unbroken : back.filter (!isLineEnd ·) = back := by
    refine List.filter_eq_self.mpr ?_
    intro c member
    rw [solid_unbroken (ending.solid c member)]
    rfl
  have whole : ((first :: rest ++ back).reverse.dropWhile isPadding).reverse = first :: rest ++ back := by
    rcases List.eq_nil_or_concat back with rfl | ⟨front,last,rfl⟩
    · obtain ⟨_,none,_⟩ := ending.segments
      cases none
    · have solidLast : isPadding last = false := ending.solid last (by simp)
      simp [solidLast]
  have inner : (first :: rest ++ back).dropWhile isPadding = first :: rest ++ back := by
    simp [solid]
  simp only [strip,inner,whole,List.filter_append,unbroken]

section Marks

variable {taken text : List Char} {mark : Char} {a : Address} (free : ∀ c ∈ taken, endsPath c = false)
include free

theorem continues_unmarked (continues : Continues taken a) : a.path = parsePath taken ∧ a.query = none := by
  rw [continues.path,continues.query,queryOf,List.takeWhile_eq_self_iff.mpr (none_ends free),
    List.dropWhile_eq_nil_iff.mpr (none_ends free)]
  exact ⟨rfl,rfl⟩

theorem continues_marked (ends : endsPath mark = true) (continues : Continues (taken ++ mark :: text) a) :
    a.path = parsePath taken ∧
      a.query = if mark = '?' then some (percentEncode querySet (text.takeWhile (· ≠ '#'))) else none := by
  have all := none_ends free
  have stops : ¬(!endsPath mark) = true := by simp [ends]
  rw [continues.path,continues.query,queryOf,List.takeWhile_append_of_pos all,List.dropWhile_append_of_pos all,
    @List.takeWhile_cons_of_neg _ (!endsPath ·) mark text stops,
    @List.dropWhile_cons_of_neg _ (!endsPath ·) mark text stops,List.append_nil]
  refine ⟨rfl,?_⟩
  split
  · next same =>
      cases same
      rfl
  · next other =>
      have unasked : mark ≠ '?' := fun same => other text (congrArg (· :: text) same)
      rw [if_neg unasked]

end Marks

theorem first_mark {front : List Char} (marked : ∃ c ∈ front, endsPath c = true) :
    ∃ taken mark rest, front = taken ++ mark :: rest ∧ (∀ c ∈ taken, endsPath c = false) ∧ endsPath mark = true := by
  obtain ⟨mark,found⟩ := Option.isSome_iff_exists.mp (List.find?_isSome.mpr marked)
  obtain ⟨ends,taken,rest,split,free⟩ := List.find?_eq_some_iff_append.mp found
  refine ⟨taken,mark,rest,split,?_,ends⟩
  intro c member
  simpa using free c member

section Targets

variable {front : List Char}

theorem target_routed (free : ∀ c ∈ front, endsPath c = false) :
    ∃ before, ∀ back a, Ending back → Continues (front ++ back) a →
      Address.pathChars a.path = before ++ back ∧ a.target = before ++ back := by
  obtain ⟨before,paths⟩ := parsePath_append front
  refine ⟨Address.pathChars before,?_⟩
  rintro back a ⟨⟨rest,rfl,plain,spelled⟩,unmarked,_,_⟩ continues
  have none : ∀ c ∈ front ++ '/' :: rest, endsPath c = false := by
    intro c member
    rcases List.mem_append.mp member with here | there
    · exact free c here
    · exact unmarked c there
  obtain ⟨path,query⟩ := continues_unmarked none continues
  have chars : Address.pathChars a.path = Address.pathChars before ++ '/' :: rest := by
    rw [path,paths rest plain,Address.pathChars,List.flatMap_append]
    exact congrArg (Address.pathChars before ++ ·) spelled
  refine ⟨chars,?_⟩
  rw [Address.target,chars,query,Address.marked,List.append_nil]

theorem path_marked (marked : ∃ c ∈ front, endsPath c = true) :
    ∃ path, ∀ back a, Continues (front ++ back) a → Address.pathChars a.path = path := by
  obtain ⟨taken,mark,rest,rfl,free,ends⟩ := first_mark marked
  refine ⟨Address.pathChars (parsePath taken),?_⟩
  intro back a continues
  rw [List.append_assoc,List.cons_append] at continues
  rw [(continues_marked free ends continues).1]

theorem target_asked (asked : '?' ∈ front) (free : '#' ∉ front) :
    ∃ before, ∀ back a, Ending back → Continues (front ++ back) a → a.target = before ++ back := by
  obtain ⟨taken,mark,rest,rfl,unmarked,ends⟩ := first_mark ⟨'?',asked,rfl⟩
  have question : mark = '?' := by
    rcases mark_cases ends with question | number
    · exact question
    · exact absurd (List.mem_append_right _ (number ▸ List.mem_cons_self)) free
  subst question
  refine ⟨Address.pathChars (parsePath taken) ++ '?' :: percentEncode querySet rest,?_⟩
  intro back a ending continues
  rw [List.append_assoc,List.cons_append] at continues
  obtain ⟨path,query⟩ := continues_marked unmarked ends continues
  have whole : (rest ++ back).takeWhile (· ≠ '#') = rest ++ back := by
    refine List.takeWhile_eq_self_iff.mpr (apart_all ?_)
    intro member
    rcases List.mem_append.mp member with here | there
    · exact free (List.mem_append_right _ (List.mem_cons_of_mem _ here))
    · exact absurd (ending.unmarked '#' there) (by decide)
  rw [Address.target,path,query,if_pos rfl,whole,percentEncode_append,ending.kept,Address.marked]
  simp

theorem target_cited (cited : '#' ∈ front) :
    ∃ target, ∀ back a, Continues (front ++ back) a → a.target = target := by
  obtain ⟨taken,mark,rest,rfl,unmarked,ends⟩ := first_mark ⟨'#',cited,rfl⟩
  rcases mark_cases ends with rfl | rfl
  · have inside : '#' ∈ rest := by
      rcases List.mem_append.mp cited with here | there
      · exact absurd (unmarked '#' here) (by decide)
      · exact (List.mem_cons.mp there).resolve_left (by decide)
    obtain ⟨query,more,rfl,free⟩ := List.eq_append_cons_of_mem inside
    refine ⟨Address.pathChars (parsePath taken) ++ '?' :: percentEncode querySet query,?_⟩
    intro back a continues
    rw [List.append_assoc,List.cons_append] at continues
    obtain ⟨path,asked⟩ := continues_marked unmarked ends continues
    rw [if_pos rfl,List.append_assoc,List.takeWhile_append_of_pos (apart_all free)] at asked
    rw [Address.target,path,asked]
    simp [Address.marked]
  · refine ⟨Address.pathChars (parsePath taken),?_⟩
    intro back a continues
    rw [List.append_assoc,List.cons_append] at continues
    obtain ⟨path,query⟩ := continues_marked unmarked ends continues
    rw [if_neg (by decide)] at query
    rw [Address.target,path,query,Address.marked,List.append_nil]

end Targets

end Url

end AccountLink
