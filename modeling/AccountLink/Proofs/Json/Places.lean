import AccountLink.Proofs.Json.Known

-- A record's phrase with a place left open, where a field has its value. Whatever is put there goes through the
-- field's form, and all else of the record is the same for any of it.

namespace AccountLink.Json

theorem foldMembers_unnamed {σ : Type} (step : σ → String → Phrase → Option σ) (state : σ)
    {members : List (List Letter × Phrase)} (unreadable : named members = none) :
    foldMembers step state members = none := by
  unfold foldMembers
  induction members generalizing state with
  | nil => contradiction
  | cons m members ih =>
      obtain ⟨key,p⟩ := m
      rw [named_cons] at unreadable
      cases spelt : unescaped key with
      | none => simp [spelt]
      | some cs =>
          have others : named members = none := by simpa [spelt] using unreadable
          cases next : step state (String.ofList cs) p with
          | none => simp [spelt,next]
          | some state => simpa [spelt,next] using ih state others

theorem named_append (front back : List (List Letter × Phrase)) :
    named (front ++ back) = (named front).bind fun entries => (named back).map (entries ++ ·) := by
  simp only [named,List.mapM_append]
  cases front.mapM fun m => (unescaped m.1).map fun cs => (String.ofList cs,m.2) with
  | none => rfl
  | some entries => cases back.mapM fun m => (unescaped m.1).map fun cs => (String.ofList cs,m.2) <;> rfl

namespace Shape

variable {ρ : Type} {shape : Shape ρ} {field : Field ρ} {hole : Phrase → Phrase}

-- A place for the value of a field: behind its name, or in its turn.
inductive Place (shape : Shape ρ) (name : String) : (Phrase → Phrase) → Prop where
  | member {key before after} (spelt : unescaped key = some name.toList) :
      Place shape name fun p => .object (before ++ (key,p) :: after)
  | item {before after} (turn : (shape.fields.map (·.name))[before.length]? = some name) :
      Place shape name fun p => .array (before ++ p :: after)

theorem Orderly.pairwise (orderly : shape.Orderly) : shape.fields.Pairwise Field.Commute := by
  refine (List.pairwise_map.mp orderly.names).imp_of_mem ?_
  intro f g member memberToo apart
  exact orderly.commute f member g memberToo apart

theorem items_set (room : Nat) {others : List (Field ρ)} (commute : ∀ other ∈ others, field.Commute other) {p : Phrase}
    {set : ρ → ρ} (reads : field.form.value? room p = some set) (values : List Phrase) (record : ρ) :
    items? room others (set record) values = (items? room others record values).map set := by
  induction others generalizing values record with
  | nil => cases values <;> rfl
  | cons other others ih =>
      cases values with
      | nil =>
          simp only [items?]
          split <;> rfl
      | cons q values =>
          simp only [items?]
          cases value : other.form.value? room q with
          | none => rfl
          | some change =>
              simp only [Option.bind_some]
              rw [← commute other (by simp) room p q set change reads value record]
              exact ih (fun next member => commute next (List.mem_cons_of_mem other member)) values (change record)

theorem items_place (room : Nat) {fields : List (Field ρ)} (commute : fields.Pairwise Field.Commute)
    {before : List Phrase} (turn : fields[before.length]? = some field) (after : List Phrase) (record : ρ) :
    ∃ rest : Option ρ, ∀ p, items? room fields record (before ++ p :: after) =
      (field.form.value? room p).bind fun set => rest.map set := by
  induction before generalizing fields record with
  | nil =>
      cases fields with
      | nil => contradiction
      | cons first others =>
          obtain rfl : first = field := by simpa using turn
          refine ⟨items? room others record after,?_⟩
          intro p
          rw [List.nil_append,items?]
          cases reads : first.form.value? room p with
          | none => rfl
          | some set => exact items_set room (List.pairwise_cons.mp commute).1 reads after record
  | cons q before ih =>
      cases fields with
      | nil => contradiction
      | cons first others =>
          simp only [List.cons_append,items?]
          cases first.form.value? room q with
          | none => exact ⟨none,fun p => by cases field.form.value? room p <;> rfl⟩
          | some change =>
              exact ih (List.pairwise_cons.mp commute).2 (by simpa using turn) (change record)

theorem members_place (orderly : shape.Orderly) (member : field ∈ shape.fields) (free : field.required = false)
    (room : Nat) {key : List Letter} (spelt : unescaped key = some field.name.toList)
    (before after : List (List Letter × Phrase)) :
    ∃ rest : Option ρ, ∀ p, shape.members? room (before ++ (key,p) :: after) =
      (field.form.value? room p).bind fun set => rest.map set := by
  have unreadable (unnamed : ∀ p, named (before ++ (key,p) :: after) = none) : ∃ rest : Option ρ, ∀ p,
      shape.members? room (before ++ (key,p) :: after) = (field.form.value? room p).bind fun set => rest.map set := by
    refine ⟨none,fun p => ?_⟩
    rw [members?,foldMembers_unnamed _ _ (unnamed p)]
    cases field.form.value? room p <;> rfl
  have entry (p : Phrase) : named ((key,p) :: after) = (named after).map ((field.name,p) :: ·) := by
    rw [named_cons,spelt,Option.bind_some,String.ofList_toList]
  cases front : named before with
  | none => exact unreadable fun p => by rw [named_append,front,Option.bind_none]
  | some xs =>
      cases back : named after with
      | none => exact unreadable fun p => by rw [named_append,entry,front,back]; rfl
      | some ys =>
          have whole (p : Phrase) : named (before ++ (key,p) :: after) = some (xs ++ (field.name,p) :: ys) := by
            rw [named_append,entry,front,back]
            rfl
          have others : named (before ++ after) = some (xs ++ ys) := by
            rw [named_append,front,back]
            rfl
          have told (p : Phrase) (record : ρ) := (members_tells orderly room (whole p) record).trans
            (tells_more orderly member free room p record)
          by_cases absent : ∀ q, (field.name,q) ∉ xs ++ ys
          · refine ⟨shape.members? room (before ++ after),fun p => Option.ext fun record => ?_⟩
            simp only [told,absent,Option.bind_eq_some_iff,Option.map_eq_some_iff,members_tells orderly room others]
            simp
          · refine ⟨none,fun p => ?_⟩
            have nothing : shape.members? room (before ++ (key,p) :: after) = none :=
              Option.eq_none_iff_forall_ne_some.mpr fun record made => absent ((told p record).mp made).1
            rw [nothing]
            cases field.form.value? room p <;> rfl

theorem phrase_place (orderly : shape.Orderly) (member : field ∈ shape.fields) (free : field.required = false)
    (place : shape.Place field.name hole) (room : Nat) :
    ∃ rest : Option ρ, ∀ p, shape.phrase? (room+1) (hole p) = (field.form.value? room p).bind fun set => rest.map set := by
  cases place with
  | @member key before after spelt => exact members_place orderly member free room spelt before after
  | @item before after turn =>
      rw [List.getElem?_map,Option.map_eq_some_iff] at turn
      obtain ⟨other,turn,named⟩ := turn
      obtain rfl := List.inj_on_of_nodup_map orderly.names (List.mem_of_getElem? turn) member named
      exact items_place room orderly.pairwise turn after shape.blank

theorem members_alone (orderly : shape.Orderly) (free : ∀ other ∈ shape.fields, other.required = false)
    (member : field ∈ shape.fields) {key : List Letter} (spelt : unescaped key = some field.name.toList) (room : Nat)
    {p : Phrase} {set : ρ → ρ} (reads : field.form.value? room p = some set) :
    shape.members? room [(key,p)] = some (set shape.blank) := by
  have readable : named [(key,p)] = some ([] ++ (field.name,p) :: []) := by
    rw [named_cons,spelt,Option.bind_some,String.ofList_toList]
    rfl
  have nothing : shape.Tells room ([] ++ []) shape.blank := by
    refine ⟨List.nodup_nil,by simp,fun other member required => ?_,?_⟩
    · rw [free other member] at required
      contradiction
    · simp [assembled]
  refine (members_tells orderly room readable _).mpr ?_
  exact (tells_more orderly member (free field member) room p _).mpr ⟨by simp,set,_,reads,nothing,rfl⟩

theorem decode_alone (orderly : shape.Orderly) (free : ∀ other ∈ shape.fields, other.required = false)
    (member : field ∈ shape.fields) {key : List Letter} (spelt : unescaped key = some field.name.toList)
    {p : Phrase} {set : ρ → ρ} (reads : field.form.value? 126 p = some set) {text : List Char}
    (document : Phrase.Document (.object [(key,p)]) text) : shape.decode text = .ok (set shape.blank) := by
  rw [← toOption_some,decode_document orderly.steady document]
  exact members_alone orderly free member spelt 126 reads

theorem place_optional {α : Type} {name : String} (place : shape.Place name hole) (p : Phrase) (result : Option α) :
    (hole p).optional result = result.map some := by
  cases place <;> rfl

end Shape

end AccountLink.Json
