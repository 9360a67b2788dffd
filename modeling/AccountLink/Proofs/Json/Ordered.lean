import AccountLink.Proofs.Json.Written

namespace AccountLink.Json

mutual

def Value.ordered : Value → Value
  | .array items => .array (orderedItems items)
  | .object members => .object (orderedMembers [] members)
  | v => v

def orderedItems : List Value → List Value
  | [] => []
  | v :: items => v.ordered :: orderedItems items

def orderedMembers : Members → Members → Members
  | done,[] => done
  | done,(key,v) :: members => orderedMembers (done.put key v.ordered) members

end

-- Values of which nothing is lost but that order. A float is rounded, and a text is read to a limited depth.
inductive Value.Exact : Nat → Value → Prop where
  | null {room} : Exact room .null
  | bool {room b} : Exact room (.bool b)
  | integer {room n} (fits : (Number.integer n).Fits) : Exact room (.number (.integer n))
  | string {room s} : Exact room (.string s)
  | array {room items} (each : ∀ v ∈ items, Exact room v) : Exact (room+1) (.array items)
  | object {room} {members : Members} (each : ∀ m ∈ members, Exact room m.2) : Exact (room+1) (.object members)

theorem orderedItems_map (items : List Value) : orderedItems items = items.map Value.ordered := by
  induction items with
  | nil => rfl
  | cons v items ih => rw [orderedItems,ih,List.map_cons]

theorem orderedMembers_putAll (done members : Members) :
    orderedMembers done members = putAll Value.ordered done members := by
  induction members generalizing done with
  | nil => rfl
  | cons m members ih => exact ih (done.put m.1 m.2.ordered)

theorem Value.Exact.floatless {room : Nat} {v : Value} (exact : v.Exact room) : v.Floatless := by
  induction exact with
  | null => exact .null
  | bool => exact .bool
  | integer => exact .integer
  | string => exact .string
  | array each ih => exact .array ih
  | object each ih => exact .object ih

theorem phrase_ordered {room : Nat} {v : Value} (exact : v.Exact room) : v.phrase.value? room = some v.ordered := by
  induction exact with
  | null | bool =>
      rw [Value.phrase,Phrase.value?]
      rfl
  | integer fits =>
      rw [Value.phrase,Phrase.value?,ofInt_value fits,Option.map_some]
      rfl
  | string =>
      rw [Value.phrase,Phrase.value?,unescaped_spelling,Option.map_some,String.ofList_toList]
      rfl
  | array each ih =>
      rw [Value.phrase,Phrase.value?,itemPhrases_value _ ih,Option.map_some,Value.ordered,orderedItems_map]
  | object each ih =>
      rw [Value.phrase,Phrase.value?,memberPhrases_value _ ih [],Option.map_some,Value.ordered,orderedMembers_putAll]

theorem ofText_document {p : Phrase} {text : List Char} (document : p.Document text) :
    (Value.ofText text).toOption = p.value? roomForValues := by
  cases document with
  | @text before text after blankBefore blankAfter written =>
      have read := readValue_reads roomForValues p text written before after blankBefore (apart_blank blankAfter)
      rw [Value.ofText,toOption_bind,read]
      cases p.value? roomForValues with
      | none => rfl
      | some v => simp [readEnd_blank blankAfter]

theorem ofText_written {layout : Layout} (blank : layout.Blank) {v : Value} (exact : v.Exact roomForValues) :
    Value.ofText (v.write layout 0) = .ok v.ordered := by
  have document := Phrase.Document.text blank_nil blank_nil (write_phrase blank exact.floatless 0)
  rw [List.append_nil,List.nil_append] at document
  rw [← toOption_some,ofText_document document,phrase_ordered exact]

theorem Members.put_perm {key : String} (value : Value) {members : Members} (absent : key ∉ members.map (·.1)) :
    (members.put key value).Perm ((key,value) :: members) := by
  induction members with
  | nil => exact .refl _
  | cons m members ih =>
      obtain ⟨k,v⟩ := m
      rw [List.map_cons,List.mem_cons,not_or] at absent
      obtain ⟨apart,absent⟩ := absent
      rw [put,if_neg apart]
      split
      · exact .refl _
      · exact ((ih absent).cons (k,v)).trans (.swap _ _ _)

theorem putAll_perm (f : Value → Value) (done : Members) {members : Members}
    (distinct : ((done ++ members).map (·.1)).Nodup) :
    (putAll f done members).Perm (done ++ members.map fun m => (m.1,f m.2)) := by
  unfold putAll
  induction members generalizing done with
  | nil => simp
  | cons m members ih =>
      obtain ⟨key,v⟩ := m
      have absent : key ∉ done.map (·.1) := by
        rw [List.map_append,List.map_cons] at distinct
        exact fun member => (List.nodup_append.mp distinct).2.2 key member key (by simp) rfl
      have put := Members.put_perm (f v) absent
      have moved : ((done.put key (f v) ++ members).map (·.1)).Perm ((done ++ (key,v) :: members).map (·.1)) := by
        refine ((put.append_right members).map (·.1)).trans ?_
        simpa using List.perm_middle.symm
      refine (ih (done.put key (f v)) (moved.nodup_iff.mpr distinct)).trans ?_
      refine (put.append_right _).trans ?_
      exact List.perm_middle.symm

theorem perm_keys {α β : Type} {xs ys : List (α × β)} (keys : xs.map (·.1) = ys.map (·.1))
    (distinct : (xs.map (·.1)).Nodup) (perm : xs.Perm ys) : xs = ys := by
  induction xs generalizing ys with
  | nil => exact perm.nil_eq
  | cons x xs ih =>
      cases ys with
      | nil => exact perm.eq_nil
      | cons y ys =>
          simp only [List.map_cons,List.cons.injEq] at keys
          obtain ⟨first,others⟩ := keys
          rw [List.map_cons,List.nodup_cons] at distinct
          have same : x = y := by
            rcases List.mem_cons.mp (perm.mem_iff.mp List.mem_cons_self) with here | there
            · exact here
            · exact absurd (others ▸ List.mem_map_of_mem there) distinct.1
          subst same
          rw [ih others distinct.2 (List.Perm.cons_inv perm)]

theorem ordered_object {members : Members} (distinct : (members.map (·.1)).Nodup) :
    ∃ parsed, (Value.object members).ordered = .object parsed ∧ parsed.Perm (members.map fun m => (m.1,m.2.ordered)) := by
  refine ⟨_,rfl,?_⟩
  rw [orderedMembers_putAll]
  exact putAll_perm Value.ordered [] distinct

theorem ordered_object_inj {xs ys : Members} (keys : xs.map (·.1) = ys.map (·.1)) (distinct : (xs.map (·.1)).Nodup)
    (same : (Value.object xs).ordered = (Value.object ys).ordered) :
    xs.map (fun m => m.2.ordered) = ys.map fun m => m.2.ordered := by
  obtain ⟨parsed,read,perm⟩ := ordered_object distinct
  obtain ⟨others,readOthers,permOthers⟩ := ordered_object (keys ▸ distinct)
  obtain rfl : parsed = others := by simpa [read,readOthers] using same
  have names (members : Members) : (members.map fun m => (m.1,m.2.ordered)).map (·.1) = members.map (·.1) := by
    simp [Function.comp_def]
  have equal := perm_keys (by rwa [names,names]) (by rwa [names]) (perm.symm.trans permOthers)
  simpa [Function.comp_def] using congrArg (List.map (·.2)) equal

end AccountLink.Json
