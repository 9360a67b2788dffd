import AccountLink.Proofs.Json.Records
import Mathlib.Data.List.Nodup

-- The members of an object that a shape knows settle its record: no other member matters, and neither does the
-- order of these.

namespace AccountLink.Json

-- The fields set different parts of a record: it does not matter which of them is set first.
def Field.Commute {ρ : Type} (f g : Field ρ) : Prop :=
  ∀ room p q a b, f.form.value? room p = some a → g.form.value? room q = some b → ∀ record, a (b record) = b (a record)

theorem map_commute {ρ α β : Type} {f g : Field ρ} {first : Form α} {second : Form β} {set : α → ρ → ρ} {set' : β → ρ → ρ}
    (formF : f.form = first.map set) (formG : g.form = second.map set')
    (apart : ∀ a b record, set a (set' b record) = set' b (set a record)) : f.Commute g := by
  intro room p q a b valueF valueG record
  rw [formF,map_value,Option.map_eq_some_iff] at valueF
  rw [formG,map_value,Option.map_eq_some_iff] at valueG
  obtain ⟨x,_,rfl⟩ := valueF
  obtain ⟨y,_,rfl⟩ := valueG
  exact apart x y record

namespace Shape

variable {ρ : Type}

structure Orderly (shape : Shape ρ) : Prop where
  steady : shape.Steady
  names : (shape.fields.map (·.name)).Nodup
  commute : ∀ f ∈ shape.fields, ∀ g ∈ shape.fields, f.name ≠ g.name → f.Commute g

def known (shape : Shape ρ) (entries : Entries) : Entries :=
  entries.filter fun e => (shape.fields.find? (·.name == e.1)).isSome

def change? (shape : Shape ρ) (room : Nat) (e : String × Phrase) : Option (ρ → ρ) :=
  (shape.fields.find? (·.name == e.1)).bind fun field => field.form.value? room e.2

def change (shape : Shape ρ) (room : Nat) (record : ρ) (e : String × Phrase) : ρ :=
  ((shape.change? room e).getD id) record

def assembled (shape : Shape ρ) (room : Nat) (entries : Entries) : ρ :=
  shape.fields.foldl (fun record field =>
    (((entries.lookup field.name).bind (field.form.value? room)).getD id) record) shape.blank

-- What the entries of an object must be for a record to come of them, and which record that is.
structure Tells (shape : Shape ρ) (room : Nat) (entries : Entries) (record : ρ) : Prop where
  once : ((shape.known entries).map (·.1)).Nodup
  decodes : ∀ field ∈ shape.fields, ∀ p, (field.name,p) ∈ entries → (field.form.value? room p).isSome
  present : ∀ field ∈ shape.fields, field.required = true → ∃ p, (field.name,p) ∈ entries
  record : record = shape.assembled room entries

theorem find_field {shape : Shape ρ} (orderly : shape.Orderly) {field : Field ρ} (member : field ∈ shape.fields) :
    shape.fields.find? (·.name == field.name) = some field := by
  cases found : shape.fields.find? (·.name == field.name) with
  | none => simpa using List.find?_eq_none.mp found field member
  | some other =>
      have same : other.name = field.name := by simpa using List.find?_some found
      rw [List.inj_on_of_nodup_map orderly.names (List.mem_of_find?_eq_some found) member same]

theorem change_field {shape : Shape ρ} (orderly : shape.Orderly) {field : Field ρ} (member : field ∈ shape.fields)
    (room : Nat) (p : Phrase) : shape.change? room (field.name,p) = field.form.value? room p := by
  rw [change?,find_field orderly member,Option.bind_some]

theorem known_member {shape : Shape ρ} {entries : Entries} {e : String × Phrase} :
    e ∈ shape.known entries ↔ e ∈ entries ∧ ∃ field ∈ shape.fields, field.name = e.1 := by
  rw [known,List.mem_filter,List.find?_isSome]
  simp

theorem known_field {shape : Shape ρ} {entries : Entries} {field : Field ρ} (member : field ∈ shape.fields)
    (p : Phrase) : (field.name,p) ∈ shape.known entries ↔ (field.name,p) ∈ entries := by
  rw [known_member]
  exact ⟨And.left,fun found => ⟨found,field,member,rfl⟩⟩

theorem take_unknown {shape : Shape ρ} {key : String} (unknown : shape.fields.find? (·.name == key) = none) (room : Nat)
    (progress : Progress ρ) (p : Phrase) : shape.take room progress key p = some progress := by
  rw [take,unknown]

theorem take_known {shape : Shape ρ} {e : String × Phrase} (known : (shape.fields.find? (·.name == e.1)).isSome)
    (room : Nat) (progress : Progress ρ) :
    shape.take room progress e.1 e.2 = if e.1 ∈ progress.seen then none
      else (shape.change? room e).map fun set => ⟨set progress.record,e.1 :: progress.seen⟩ := by
  obtain ⟨field,found⟩ := Option.isSome_iff_exists.mp known
  rw [take,change?,found]
  simp

theorem takes_known (shape : Shape ρ) (room : Nat) (entries : Entries) (progress : Progress ρ) :
    entries.foldlM (fun progress e => shape.take room progress e.1 e.2) progress =
      (shape.known entries).foldlM (fun progress e => shape.take room progress e.1 e.2) progress := by
  induction entries generalizing progress with
  | nil => rfl
  | cons e entries ih =>
      cases found : shape.fields.find? (·.name == e.1) with
      | none =>
          have passed : shape.known (e :: entries) = shape.known entries := by simp [known,found]
          rw [passed,List.foldlM_cons,take_unknown found]
          exact ih progress
      | some field =>
          have kept : shape.known (e :: entries) = e :: shape.known entries := by simp [known,found]
          rw [kept,List.foldlM_cons,List.foldlM_cons]
          cases shape.take room progress e.1 e.2 with
          | none => rfl
          | some progress => exact ih progress

-- By induction on the entries: the names seen before are what later ones are told apart from.
theorem takes_done (shape : Shape ρ) (room : Nat) (entries : Entries)
    (known : ∀ e ∈ entries, (shape.fields.find? (·.name == e.1)).isSome) (progress done : Progress ρ) :
    entries.foldlM (fun progress e => shape.take room progress e.1 e.2) progress = some done ↔
      (entries.map (·.1)).Nodup ∧ (∀ e ∈ entries, e.1 ∉ progress.seen) ∧ (∀ e ∈ entries, (shape.change? room e).isSome) ∧
        done = ⟨entries.foldl (shape.change room) progress.record,(entries.map (·.1)).reverse ++ progress.seen⟩ := by
  induction entries generalizing progress with
  | nil =>
      constructor
      · rintro ⟨⟩
        simp
      · rintro ⟨_,_,_,rfl⟩
        rfl
  | cons e entries ih =>
      have rest := ih fun other member => known other (List.mem_cons_of_mem e member)
      rw [List.foldlM_cons,take_known (known e (by simp))]
      by_cases seen : e.1 ∈ progress.seen
      · simp [seen]
      · cases set : shape.change? room e with
        | none => simp [seen,set]
        | some set' =>
            rw [if_neg seen,Option.map_some]
            refine Iff.trans (rest _) ?_
            simp only [List.map_cons,List.nodup_cons,List.forall_mem_cons,List.foldl_cons,List.reverse_cons,
              List.append_assoc,List.cons_append,List.nil_append,set,seen,not_false_eq_true,Option.isSome_some,true_and,
              change,Option.getD_some]
            simp only [List.mem_cons,not_or]
            constructor
            · rintro ⟨once,fresh,decodes,rfl⟩
              refine ⟨⟨?_,once⟩,fun other member => (fresh other member).2,decodes,rfl⟩
              intro again
              obtain ⟨other,member,same⟩ := List.mem_map.mp again
              exact (fresh other member).1 same
            · rintro ⟨⟨new,once⟩,fresh,decodes,rfl⟩
              refine ⟨once,fun other member => ⟨fun same => new ?_,fresh other member⟩,decodes,rfl⟩
              exact same ▸ List.mem_map_of_mem member

theorem firstMissing_none {shape : Shape ρ} {seen : List String} :
    shape.firstMissing seen = none ↔ ∀ field ∈ shape.fields, field.required = true → field.name ∈ seen := by
  simp [firstMissing]

structure Complete (shape : Shape ρ) (room : Nat) (entries : Entries) : Prop where
  once : ((shape.known entries).map (·.1)).Nodup
  decodes : ∀ e ∈ shape.known entries, (shape.change? room e).isSome
  present : ∀ field ∈ shape.fields, field.required = true → field.name ∈ (shape.known entries).map (·.1)

def made (shape : Shape ρ) (room : Nat) (entries : Entries) : ρ :=
  (shape.known entries).foldl (shape.change room) shape.blank

theorem members_made (shape : Shape ρ) (room : Nat) {members : List (List Letter × Phrase)} {entries : Entries}
    (readable : named members = some entries) (record : ρ) :
    shape.members? room members = some record ↔ shape.Complete room entries ∧ shape.made room entries = record := by
  have all : ∀ e ∈ shape.known entries, (shape.fields.find? (·.name == e.1)).isSome :=
    fun e member => (List.mem_filter.mp member).2
  have done := takes_done shape room (shape.known entries) all ⟨shape.blank,[]⟩
  rw [members?,foldMembers_named _ _ readable,takes_known,Option.bind_eq_some_iff]
  constructor
  · rintro ⟨progress,ran,finished⟩
    obtain ⟨once,-,decodes,rfl⟩ := (done progress).mp ran
    cases missing : shape.firstMissing ((shape.known entries).map (·.1)).reverse with
    | some name => simp [missing] at finished
    | none => exact ⟨⟨once,decodes,by simpa using firstMissing_none.mp missing⟩,
        by simpa [missing,made] using finished⟩
  · rintro ⟨⟨once,decodes,present⟩,rfl⟩
    refine ⟨_,(done _).mpr ⟨once,by simp,decodes,rfl⟩,?_⟩
    have none : shape.firstMissing ((shape.known entries).map (·.1)).reverse = none :=
      firstMissing_none.mpr (by simpa using present)
    simp [none,made]

theorem change_commute {shape : Shape ρ} (orderly : shape.Orderly) (room : Nat) {e other : String × Phrase}
    (apart : e.1 ≠ other.1) (record : ρ) :
    shape.change room (shape.change room record e) other = shape.change room (shape.change room record other) e := by
  simp only [change]
  cases first : shape.change? room e with
  | none => rfl
  | some a =>
      cases second : shape.change? room other with
      | none => rfl
      | some b =>
          obtain ⟨f,foundF,valueF⟩ := Option.bind_eq_some_iff.mp first
          obtain ⟨g,foundG,valueG⟩ := Option.bind_eq_some_iff.mp second
          have nameF : f.name = e.1 := by simpa using List.find?_some foundF
          have nameG : g.name = other.1 := by simpa using List.find?_some foundG
          have commute := orderly.commute f (List.mem_of_find?_eq_some foundF) g (List.mem_of_find?_eq_some foundG)
            (by rw [nameF,nameG]; exact apart)
          exact (commute room e.2 other.2 a b valueF valueG record).symm

theorem changes_perm {shape : Shape ρ} (orderly : shape.Orderly) (room : Nat) {entries others : Entries}
    (once : (entries.map (·.1)).Nodup) (perm : entries.Perm others) (record : ρ) :
    entries.foldl (shape.change room) record = others.foldl (shape.change room) record := by
  refine perm.foldl_eq' (fun e member other memberOther record => ?_) record
  by_cases same : e.1 = other.1
  · rw [List.inj_on_of_nodup_map once member memberOther same]
  · exact change_commute orderly room same record

theorem Complete.perm {shape : Shape ρ} {room : Nat} {entries others : Entries} (complete : shape.Complete room entries)
    (perm : (shape.known entries).Perm (shape.known others)) : shape.Complete room others where
  once := (perm.map (·.1)).nodup_iff.mp complete.once
  decodes e member := complete.decodes e (perm.mem_iff.mpr member)
  present field member required := (perm.map (·.1)).mem_iff.mp (complete.present field member required)

theorem lookup_known {shape : Shape ρ} {entries : Entries} (once : ((shape.known entries).map (·.1)).Nodup)
    {field : Field ρ} (member : field ∈ shape.fields) (p : Phrase) :
    entries.lookup field.name = some p ↔ (field.name,p) ∈ entries := by
  constructor
  · intro found
    obtain ⟨before,after,rfl,_⟩ := List.lookup_eq_some_iff.mp found
    simp
  · intro found
    cases looked : entries.lookup field.name with
    | none => simpa using List.lookup_eq_none_iff.mp looked _ found
    | some q =>
        obtain ⟨before,after,split,_⟩ := List.lookup_eq_some_iff.mp looked
        have foundQ : (field.name,q) ∈ entries := by simp [split]
        have same := List.inj_on_of_nodup_map once ((known_field member p).mpr found) ((known_field member q).mpr foundQ) rfl
        rw [(Prod.mk.inj same).2]

def inPlace (shape : Shape ρ) (entries : Entries) : Entries :=
  shape.fields.filterMap fun field => (entries.lookup field.name).map (field.name,·)

theorem inPlace_perm {shape : Shape ρ} (orderly : shape.Orderly) {entries : Entries}
    (once : ((shape.known entries).map (·.1)).Nodup) : (shape.known entries).Perm (shape.inPlace entries) := by
  have placed : (shape.inPlace entries).Nodup := by
    refine List.Pairwise.filterMap _ (fun f g apart e made other madeOther => ?_) (List.pairwise_map.mp orderly.names)
    obtain ⟨p,_,rfl⟩ := Option.map_eq_some_iff.mp made
    obtain ⟨q,_,rfl⟩ := Option.map_eq_some_iff.mp madeOther
    exact fun same => apart (Prod.mk.inj same).1
  refine (List.perm_ext_iff_of_nodup (List.Nodup.of_map _ once) placed).mpr fun e => ?_
  rw [known_member,inPlace,List.mem_filterMap]
  constructor
  · rintro ⟨found,field,member,named⟩
    obtain ⟨name,p⟩ := e
    obtain rfl : field.name = name := named
    exact ⟨field,member,by rw [(lookup_known once member p).mpr found]; rfl⟩
  · rintro ⟨field,member,made⟩
    obtain ⟨p,looked,rfl⟩ := Option.map_eq_some_iff.mp made
    exact ⟨(lookup_known once member p).mp looked,field,member,rfl⟩

theorem assembled_known {shape : Shape ρ} (orderly : shape.Orderly) (room : Nat) {entries : Entries}
    (once : ((shape.known entries).map (·.1)).Nodup) :
    shape.made room entries = shape.assembled room entries := by
  rw [made,changes_perm orderly room once (inPlace_perm orderly once),inPlace,List.foldl_filterMap,assembled]
  refine List.foldl_ext _ _ _ fun record field member => ?_
  cases entries.lookup field.name with
  | none => rfl
  | some p => simp only [Option.map_some,change,change_field orderly member,Option.bind_some]

theorem tells_made {shape : Shape ρ} (orderly : shape.Orderly) (room : Nat) (entries : Entries) (record : ρ) :
    shape.Tells room entries record ↔ shape.Complete room entries ∧ shape.made room entries = record := by
  constructor
  · rintro ⟨once,decodes,present,rfl⟩
    refine ⟨⟨once,fun e found => ?_,fun field member required => ?_⟩,assembled_known orderly room once⟩
    · obtain ⟨entry,field,member,named⟩ := known_member.mp found
      obtain ⟨name,p⟩ := e
      obtain rfl : field.name = name := named
      rw [change_field orderly member]
      exact decodes field member p entry
    · obtain ⟨p,found⟩ := present field member required
      exact List.mem_map_of_mem ((known_field member p).mpr found)
  · rintro ⟨⟨once,decodes,present⟩,rfl⟩
    refine ⟨once,fun field member p found => ?_,fun field member required => ?_,assembled_known orderly room once⟩
    · rw [← change_field orderly member]
      exact decodes _ ((known_field member p).mpr found)
    · obtain ⟨⟨name,p⟩,found,rfl⟩ := List.mem_map.mp (present field member required)
      exact ⟨p,(known_field member p).mp found⟩

theorem members_tells {shape : Shape ρ} (orderly : shape.Orderly) (room : Nat) {members : List (List Letter × Phrase)}
    {entries : Entries} (readable : named members = some entries) (record : ρ) :
    shape.members? room members = some record ↔ shape.Tells room entries record :=
  (members_made shape room readable record).trans (tells_made orderly room entries record).symm

-- Members that are not known, and the order of those that are, make no difference.
theorem tells_perm {shape : Shape ρ} (orderly : shape.Orderly) (room : Nat) {entries others : Entries}
    (perm : (shape.known entries).Perm (shape.known others)) (record : ρ) :
    shape.Tells room entries record ↔ shape.Tells room others record := by
  rw [tells_made orderly,tells_made orderly]
  constructor
  · rintro ⟨complete,rfl⟩
    exact ⟨complete.perm perm,(changes_perm orderly room complete.once perm _).symm⟩
  · rintro ⟨complete,rfl⟩
    exact ⟨complete.perm perm.symm,(changes_perm orderly room complete.once perm.symm _).symm⟩

def placed (fields : List (Field ρ)) (values : List Phrase) : Entries :=
  List.zipWith (fun field p => (field.name,p)) fields values

theorem placed_names {fields : List (Field ρ)} {values : List Phrase} (short : values.length ≤ fields.length) :
    (placed fields values).map (·.1) = (fields.take values.length).map (·.name) := by
  induction fields generalizing values with
  | nil =>
      obtain rfl := List.eq_nil_of_length_eq_zero (Nat.le_zero.mp short)
      rfl
  | cons field fields ih =>
      cases values with
      | nil => rfl
      | cons p values => exact congrArg (field.name :: ·) (ih (Nat.le_of_succ_le_succ short))

theorem items_placed {shape : Shape ρ} (orderly : shape.Orderly) (room : Nat) {fields : List (Field ρ)}
    (members : ∀ field ∈ fields, field ∈ shape.fields) {values : List Phrase} (short : values.length ≤ fields.length)
    (record result : ρ) :
    items? room fields record values = some result ↔
      (∀ e ∈ placed fields values, (shape.change? room e).isSome) ∧
        (∀ field ∈ fields.drop values.length, field.required = false) ∧
        (placed fields values).foldl (shape.change room) record = result := by
  induction fields generalizing values record with
  | nil =>
      obtain rfl := List.eq_nil_of_length_eq_zero (Nat.le_zero.mp short)
      simp [items?,placed]
  | cons field fields ih =>
      cases values with
      | nil => simp [items?,placed]
      | cons p values =>
          have rest := ih (fun other member => members other (List.mem_cons_of_mem field member))
            (Nat.le_of_succ_le_succ short)
          have changes := change_field orderly (members field (by simp)) room p
          have here : placed (field :: fields) (p :: values) = (field.name,p) :: placed fields values := rfl
          rw [items?,here,List.forall_mem_cons,List.foldl_cons,List.length_cons,List.drop_succ_cons,change,changes]
          cases field.form.value? room p with
          | none => simp
          | some set => simpa using rest (set record)

theorem placed_known {shape : Shape ρ} {values : List Phrase} (short : values.length ≤ shape.fields.length) :
    shape.known (placed shape.fields values) = placed shape.fields values := by
  refine List.filter_eq_self.mpr fun e member => List.find?_isSome.mpr ?_
  have listed : e.1 ∈ (shape.fields.take values.length).map (·.name) := placed_names short ▸ List.mem_map_of_mem member
  obtain ⟨field,taken,named⟩ := List.mem_map.mp listed
  exact ⟨field,List.mem_of_mem_take taken,by simp [named]⟩

theorem placed_present {shape : Shape ρ} (orderly : shape.Orderly) {values : List Phrase}
    (short : values.length ≤ shape.fields.length) :
    (∀ field ∈ shape.fields, field.required = true → field.name ∈ (placed shape.fields values).map (·.1)) ↔
      ∀ field ∈ shape.fields.drop values.length, field.required = false := by
  have names := orderly.names
  rw [← List.take_append_drop values.length shape.fields,List.map_append,List.nodup_append] at names
  rw [placed_names short]
  constructor
  · intro present field left
    refine Bool.eq_false_iff.mpr fun required => ?_
    have again := present field (List.mem_of_mem_drop left) required
    exact names.2.2 field.name again field.name (List.mem_map_of_mem left) rfl
  · intro free field member required
    rw [← List.take_append_drop values.length shape.fields] at member
    rcases List.mem_append.mp member with taken | left
    · exact List.mem_map_of_mem taken
    · rw [free field left] at required
      contradiction

-- A list of values gives the record of the object with a member for each of them, under the name of the field
-- in its place.
theorem tells_placed {shape : Shape ρ} (orderly : shape.Orderly) (room : Nat) {values : List Phrase}
    (short : values.length ≤ shape.fields.length) (record : ρ) :
    items? room shape.fields shape.blank values = some record ↔
      shape.Tells room (placed shape.fields values) record := by
  have once : ((placed shape.fields values).map (·.1)).Nodup := by
    rw [placed_names short]
    exact orderly.names.sublist ((List.take_sublist _ _).map _)
  have all := placed_known short
  refine (items_placed orderly room (fun _ member => member) short shape.blank record).trans ?_
  refine Iff.trans ?_ (tells_made orderly room _ record).symm
  rw [← placed_present orderly short,Shape.made,all]
  constructor
  · rintro ⟨decodes,present,made⟩
    exact ⟨⟨by rwa [all],by rwa [all],by rwa [all]⟩,made⟩
  · rintro ⟨⟨_,decodes,present⟩,made⟩
    rw [all] at decodes present
    exact ⟨decodes,present,made⟩

theorem items_members {shape : Shape ρ} (orderly : shape.Orderly) (room : Nat) {values : List Phrase}
    (short : values.length ≤ shape.fields.length) {members : List (List Letter × Phrase)}
    (readable : named members = some (placed shape.fields values)) :
    items? room shape.fields shape.blank values = shape.members? room members := by
  refine Option.ext fun record => ?_
  rw [tells_placed orderly room short,members_tells orderly room readable]

theorem items_long (room : Nat) {fields : List (Field ρ)} {values : List Phrase} (long : fields.length < values.length)
    (record : ρ) : items? room fields record values = none := by
  induction fields generalizing values record with
  | nil =>
      cases values with
      | nil => contradiction
      | cons p values => rfl
  | cons field fields ih =>
      cases values with
      | nil => contradiction
      | cons p values =>
          rw [items?]
          cases field.form.value? room p with
          | none => rfl
          | some set => exact ih (Nat.lt_of_succ_lt_succ long) (set record)

section More

variable {shape : Shape ρ} {members others : List (List Letter × Phrase)} {before after : Entries} {field : Field ρ}

theorem known_more (orderly : shape.Orderly) (member : field ∈ shape.fields) (p : Phrase) :
    (shape.known (before ++ (field.name,p) :: after)).Perm ((field.name,p) :: shape.known (before ++ after)) := by
  have kept : shape.known ((field.name,p) :: (before ++ after)) = (field.name,p) :: shape.known (before ++ after) := by
    simp [known,find_field orderly member]
  exact kept ▸ List.perm_middle.filter _

theorem known_absent (member : field ∈ shape.fields) {entries : Entries} :
    field.name ∉ (shape.known entries).map (·.1) ↔ ∀ p, (field.name,p) ∉ entries := by
  constructor
  · exact fun absent p found => absent (List.mem_map_of_mem ((known_field member p).mpr found))
  · intro absent again
    obtain ⟨⟨name,p⟩,found,rfl⟩ := List.mem_map.mp again
    exact absent p (known_member.mp found).1

theorem complete_more (orderly : shape.Orderly) (member : field ∈ shape.fields) (free : field.required = false)
    (room : Nat) (p : Phrase) : shape.Complete room (before ++ (field.name,p) :: after) ↔
      (∀ q, (field.name,q) ∉ before ++ after) ∧ (field.form.value? room p).isSome ∧ shape.Complete room (before ++ after) := by
  have perm := @known_more _ _ before after _ orderly member p
  rw [← known_absent member,← change_field orderly member]
  constructor
  · rintro ⟨once,decodes,present⟩
    obtain ⟨new,onceOthers⟩ := List.nodup_cons.mp ((perm.map (·.1)).nodup_iff.mp once)
    refine ⟨new,decodes _ (perm.mem_iff.mpr (by simp)),onceOthers,fun e found => ?_,fun other memberOther required => ?_⟩
    · exact decodes e (perm.mem_iff.mpr (List.mem_cons_of_mem _ found))
    · refine (List.mem_cons.mp ((perm.map (·.1)).mem_iff.mp (present other memberOther required))).resolve_left ?_
      intro same
      obtain rfl := List.inj_on_of_nodup_map orderly.names memberOther member same
      exact absurd required (by simp [free])
  · rintro ⟨new,decodes,once,decodesOthers,present⟩
    refine ⟨(perm.map (·.1)).nodup_iff.mpr (List.nodup_cons.mpr ⟨new,once⟩),fun e found => ?_,
      fun other memberOther required => ?_⟩
    · rcases List.mem_cons.mp (perm.mem_iff.mp found) with rfl | old
      · exact decodes
      · exact decodesOthers e old
    · exact (perm.map (·.1)).mem_iff.mpr (List.mem_cons_of_mem _ (present other memberOther required))

-- A member can be thought to make its change last, wherever it stands.
theorem made_more (orderly : shape.Orderly) (member : field ∈ shape.fields) (room : Nat) {p : Phrase} {set : ρ → ρ}
    (reads : field.form.value? room p = some set) (complete : shape.Complete room (before ++ (field.name,p) :: after)) :
    shape.made room (before ++ (field.name,p) :: after) = set (shape.made room (before ++ after)) := by
  have perm := @known_more _ _ before after _ orderly member p
  have last := perm.trans (List.perm_append_singleton _ _).symm
  rw [made,changes_perm orderly room complete.once last,List.foldl_append,List.foldl_cons,List.foldl_nil]
  rw [change,change_field orderly member,reads,Option.getD_some,made]

theorem tells_more (orderly : shape.Orderly) (member : field ∈ shape.fields) (free : field.required = false)
    (room : Nat) (p : Phrase) (record : ρ) :
    shape.Tells room (before ++ (field.name,p) :: after) record ↔ (∀ q, (field.name,q) ∉ before ++ after) ∧
      ∃ set rest, field.form.value? room p = some set ∧ shape.Tells room (before ++ after) rest ∧ set rest = record := by
  simp only [tells_made orderly]
  constructor
  · rintro ⟨complete,rfl⟩
    obtain ⟨absent,decodes,completeOthers⟩ := (complete_more orderly member free room p).mp complete
    obtain ⟨set,reads⟩ := Option.isSome_iff_exists.mp decodes
    exact ⟨absent,set,_,reads,⟨completeOthers,rfl⟩,(made_more orderly member room reads complete).symm⟩
  · rintro ⟨absent,set,_,reads,⟨completeOthers,rfl⟩,rfl⟩
    have complete := (complete_more orderly member free room p).mpr ⟨absent,by simp [reads],completeOthers⟩
    exact ⟨complete,made_more orderly member room reads complete⟩

def Nullable (shape : Shape ρ) (name : String) : Prop :=
  ∃ field ∈ shape.fields, field.name = name ∧ field.required = false ∧
    ∀ room, ∃ set, field.form.value? room .null = some set ∧ set shape.blank = shape.blank

theorem nullable_of {α : Type} {name : String} {form : Form (Option α)} {set : Option α → ρ → ρ}
    (member : .of name form set ∈ shape.fields) (null : ∀ room, form.value? room .null = some none)
    (neutral : set none shape.blank = shape.blank) : shape.Nullable name :=
  ⟨_,member,rfl,rfl,fun room => ⟨set none,by rw [Field.of,map_value,null room]; rfl,neutral⟩⟩

-- Made first, the change that a null makes is none, since the record is still blank.
theorem made_null (orderly : shape.Orderly) (member : field ∈ shape.fields) (room : Nat) {set : ρ → ρ}
    (reads : field.form.value? room .null = some set) (neutral : set shape.blank = shape.blank)
    (complete : shape.Complete room (before ++ (field.name,.null) :: after)) :
    shape.made room (before ++ (field.name,.null) :: after) = shape.made room (before ++ after) := by
  rw [made,changes_perm orderly room complete.once (known_more orderly member .null),List.foldl_cons]
  rw [change,change_field orderly member,reads,Option.getD_some,neutral,made]

theorem tells_null (orderly : shape.Orderly) (room : Nat) {name : String} (nullable : shape.Nullable name)
    (absent : ∀ p, (name,p) ∉ before ++ after) (record : ρ) :
    shape.Tells room (before ++ (name,.null) :: after) record ↔ shape.Tells room (before ++ after) record := by
  obtain ⟨field,member,rfl,free,null⟩ := nullable
  obtain ⟨set,reads,neutral⟩ := null room
  have more := @complete_more _ _ before after _ orderly member free room .null
  rw [tells_made orderly,tells_made orderly]
  constructor
  · rintro ⟨complete,rfl⟩
    exact ⟨(more.mp complete).2.2,(made_null orderly member room reads neutral complete).symm⟩
  · rintro ⟨completeOthers,rfl⟩
    have complete := more.mpr ⟨absent,by simp [reads],completeOthers⟩
    exact ⟨complete,made_null orderly member room reads neutral complete⟩

end More

end Shape

end AccountLink.Json
