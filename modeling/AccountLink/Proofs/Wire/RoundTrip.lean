import AccountLink.Proofs.Json.Decoded
import AccountLink.Proofs.Json.Written
import AccountLink.Proofs.Wire.Objects

namespace AccountLink.Wire

open AccountLink.Json

def Kind.toValue : (kind : Kind) → kind.Record → Value
  | .login,r => .object [("status",.ofOption .string r.status),("confidios_user",.ofOption .string r.user),
      ("confidios_balance",.ofOption .string r.balance)]
  | .status,r => .object [("status",.ofOption .string r.status)]
  | .admin,r => .object [("status",.ofOption .string r.status),("user_id",.ofOption .string r.userId),
      ("role",.ofOption .string r.role)]
  | .newUser,u => u.toValue
  | .created,r => .object [("status",.ofOption .string r.status),("user",.ofOption id r.user)]
  | .listing,r => .object [("status",.ofOption .string r.status),("files",.array r.files)]
  | .content,c => c.toValue
  | .reading,r => .object [("status",.ofOption .string r.status),("content",.ofOption FileContent.toValue r.content)]

-- A value that its text gives back: it has no floats, and there is room for it.
structure Kept (room : Nat) (v : Value) : Prop where
  fits : v.Fits room
  floatless : v.Floatless

structure Stated (room : Nat) (v : Value) : Prop extends Kept room v where
  some : v ≠ .null

-- Records that are had again from their objects; each bracket around a value takes a level of the room for it.
def Kind.Proper : (kind : Kind) → kind.Record → Prop
  | .created,r => ∀ v, r.user = some v → Stated 126 v
  | .listing,r => ∀ v ∈ r.files, Kept 125 v
  | .content,c => ∀ v, c.data = some v → Stated 126 v
  | .reading,r => ∀ c, r.content = some c → ∀ v, c.data = some v → Stated 125 v
  | _,_ => True

theorem named_written (members : Members) :
    named (memberPhrases members) = some (members.map fun m => (m.1,m.2.phrase)) := by
  induction members with
  | nil => rfl
  | cons m members ih =>
      obtain ⟨key,v⟩ := m
      rw [memberPhrases,named_cons,unescaped_spelling,ih]
      simp

theorem string_floatless (s : Option String) : (Value.ofOption Value.string s).Floatless := by
  cases s with
  | none => exact .null
  | some s => exact .string

theorem stated_floatless {room : Nat} {v : Option Value} (stated : ∀ w, v = some w → Stated room w) :
    (Value.ofOption id v).Floatless := by
  cases v with
  | none => exact .null
  | some v => exact (stated v rfl).floatless

theorem content_floatless {room : Nat} {c : FileContent} (stated : ∀ v, c.data = some v → Stated room v) :
    c.toValue.Floatless := by
  refine .object ?_
  simp only [List.forall_mem_cons]
  exact ⟨string_floatless c.balance,stated_floatless stated,List.forall_mem_nil _⟩

theorem toValue_floatless (kind : Kind) (record : kind.Record) (proper : kind.Proper record) :
    (kind.toValue record).Floatless := by
  have text := string_floatless
  cases kind with
  | content => exact content_floatless proper
  | newUser =>
      refine .object ?_
      simp only [List.forall_mem_cons]
      exact ⟨.string,.string,.string,.string,.string,List.forall_mem_nil _⟩
  | login | admin =>
      refine .object ?_
      simp only [List.forall_mem_cons]
      exact ⟨text _,text _,text _,List.forall_mem_nil _⟩
  | status =>
      refine .object ?_
      simp only [List.forall_mem_cons]
      exact ⟨text _,List.forall_mem_nil _⟩
  | created =>
      refine .object ?_
      simp only [List.forall_mem_cons]
      exact ⟨text _,stated_floatless proper,List.forall_mem_nil _⟩
  | listing =>
      refine .object ?_
      simp only [List.forall_mem_cons]
      exact ⟨text _,.array fun v member => (proper v member).floatless,List.forall_mem_nil _⟩
  | reading =>
      refine .object ?_
      simp only [List.forall_mem_cons]
      refine ⟨text _,?_,List.forall_mem_nil _⟩
      cases content : record.content with
      | none => exact .null
      | some c => exact content_floatless (proper c content)

theorem optional_written {α : Type} {v : Value} (some : v ≠ .null) (floatless : v.Floatless) (result : Option α) :
    v.phrase.optional result = result.map .some := by
  cases v with
  | null => exact absurd rfl some
  | number n => cases n with
    | integer n => rfl
    | float x => cases floatless
  | bool | string | array | object => rfl

theorem string_written (s : String) : (Value.string s).phrase.string? = some s := by
  rw [Value.phrase,Phrase.string?,unescaped_spelling,Option.map_some,String.ofList_toList]

theorem text_written (room : Nat) (s : String) : Form.text.value? room (Value.string s).phrase = some s := by
  rw [Form.text_value,string_written]

theorem optionalText_written (room : Nat) (s : Option String) :
    Form.optionalText.value? room (Value.ofOption Value.string s).phrase = some s := by
  rw [Form.optionalText_value]
  cases s with
  | none => rfl
  | some s => rw [Value.ofOption,optional_written (by simp) .string,string_written,Option.map_some]

theorem amount_written (room : Nat) (s : Option String) :
    Form.amount.value? room (Value.ofOption Value.string s).phrase = some s := by
  cases s with
  | none => exact Form.amount_null room
  | some s => exact Form.amount_string room (unescaped_spelling s)

theorem anything_written {room : Nat} {v : Option Value} (stated : ∀ w, v = some w → Stated room w) :
    Form.anything.value? room (Value.ofOption id v).phrase = some v := by
  rw [Form.anything_value]
  cases v with
  | none => rfl
  | some v =>
      obtain ⟨⟨fits,floatless⟩,some⟩ := stated v rfl
      rw [Value.ofOption,id,optional_written some floatless,phrase_value fits floatless,Option.map_some]

theorem list_written {room : Nat} {items : List Value} (kept : ∀ v ∈ items, Kept room v) :
    Form.list.value? (room+1) (Value.array items).phrase = some items := by
  rw [Form.list_value,Value.phrase,Phrase.items?]
  have values := itemPhrases_value id fun v member => phrase_value (kept v member).fits (kept v member).floatless
  rwa [List.map_id] at values

section Tells

variable {room : Nat}

theorem content_items {c : FileContent} (stated : ∀ v, c.data = some v → Stated room v) :
    Shape.items? room FileContent.shape.fields FileContent.shape.blank
      [(Value.ofOption Value.string c.balance).phrase,(Value.ofOption id c.data).phrase] = some c := by
  simp only [FileContent.shape,Shape.items?,Field.of,map_value,amount_written,anything_written stated]
  rfl

theorem content_written {content : Option FileContent} (stated : ∀ c, content = some c → ∀ v, c.data = some v → Stated 125 v) :
    FileContent.shape.form.value? 126 (Value.ofOption FileContent.toValue content).phrase = some content := by
  cases content with
  | none => exact Shape.form_value Kind.content_steady 126 .null
  | some c =>
      have both : [(Value.ofOption Value.string c.balance).phrase,(Value.ofOption id c.data).phrase].length ≤
          FileContent.shape.fields.length := Nat.le_refl 2
      have tells := (Shape.tells_placed Kind.content.shape_orderly 125 both c).mp (content_items (stated c rfl))
      exact (content_value (named_written _) (some c)).mpr ⟨c,rfl,tells⟩

end Tells

def Kind.phrases (kind : Kind) (record : kind.Record) : List Phrase :=
  match kind.toValue record with
  | .object members => members.map fun m => m.2.phrase
  | _ => []

theorem toValue_object (kind : Kind) (record : kind.Record) : ∃ members, kind.toValue record = .object members ∧
    (members.map fun m => (m.1,m.2.phrase)) = Shape.placed kind.shape.fields (kind.phrases record) := by
  cases kind <;> exact ⟨_,rfl,rfl⟩

theorem phrases_length (kind : Kind) (record : kind.Record) :
    (kind.phrases record).length = kind.shape.fields.length := by
  cases kind <;> rfl

theorem phrases_items (kind : Kind) (record : kind.Record) (proper : kind.Proper record) :
    Shape.items? 126 kind.shape.fields kind.shape.blank (kind.phrases record) = some record := by
  cases kind with
  | content => exact content_items proper
  | newUser =>
      simp only [Kind.phrases,Kind.toValue,NewUser.toValue,List.map_cons,List.map_nil,Kind.shape,NewUser.shape,Shape.items?,
        Field.needed,map_value,text_written]
      rfl
  | login | status | admin =>
      simp only [Kind.phrases,Kind.toValue,List.map_cons,List.map_nil,Kind.shape,LoginReply.shape,StatusReply.shape,
        AdminReply.shape,Shape.items?,Field.of,map_value,optionalText_written,amount_written]
      rfl
  | created =>
      simp only [Kind.phrases,Kind.toValue,List.map_cons,List.map_nil,Kind.shape,CreateReply.shape,Shape.items?,
        Field.of,map_value,optionalText_written,anything_written proper]
      rfl
  | listing =>
      simp only [Kind.phrases,Kind.toValue,List.map_cons,List.map_nil,Kind.shape,ListReply.shape,Shape.items?,
        Field.of,map_value,optionalText_written,list_written proper]
      rfl
  | reading =>
      simp only [Kind.phrases,Kind.toValue,List.map_cons,List.map_nil,Kind.shape,ReadReply.shape,Shape.items?,
        Field.of,map_value,optionalText_written,content_written proper]
      rfl

theorem decode_written (kind : Kind) (record : kind.Record) (proper : kind.Proper record) {layout : Layout}
    (blank : layout.Blank) : kind.shape.decode ((kind.toValue record).write layout 0) = .ok record := by
  have written := write_phrase blank (toValue_floatless kind record proper) 0
  have document := Phrase.Document.text blank_nil blank_nil written
  have tells := (Shape.tells_placed kind.shape_orderly 126 (Nat.le_of_eq (phrases_length kind record)) record).mp
    (phrases_items kind record proper)
  obtain ⟨members,object,entries⟩ := toValue_object kind record
  rw [List.append_nil,List.nil_append] at document
  rw [object,Value.phrase] at document
  rw [object]
  exact (decode_tells kind document ((named_written members).trans (by rw [entries])) record).mpr tells

theorem content_keeps : FileContent.shape.Keeps 126 fun c => ∀ v, c.data = some v → v.Fits 126 ∧ v ≠ .null := by
  simp only [Shape.Keeps,FileContent.shape,List.forall_mem_cons]
  refine ⟨fun text set rest read c kept => ?_,fun text set rest read c _ v data => ?_,List.forall_mem_nil _⟩
  · obtain ⟨s,_,rfl⟩ := map_reads read
    exact kept
  · obtain ⟨result,value,rfl⟩ := map_reads read
    cases data
    exact anything_some value

theorem content_proper {text : List Char} {c : FileContent} (decoded : FileContent.shape.decode text = .ok c)
    (floatless : ∀ v, c.data = some v → v.Floatless) : Kind.content.Proper c := by
  intro v data
  obtain ⟨fits,some⟩ := Shape.decode_keeps content_keeps nofun decoded v data
  exact ⟨⟨fits,floatless v data⟩,some⟩

-- A record is had again from its object in either layout. A content that is decoded from any text, and has
-- no floats, is had again from its object, and then written the same.
theorem records_round_trip :
    (∀ (kind : Kind) (record : kind.Record), kind.Proper record →
      kind.shape.decode (kind.toValue record).compact.toList = .ok record ∧
      kind.shape.decode (kind.toValue record).pretty.toList = .ok record) ∧
    ∀ text c, FileContent.shape.decode text = .ok c → (∀ v, c.data = some v → v.Floatless) →
      Kind.content.Proper c ∧
      (∀ encode ∈ [Value.compact,Value.pretty], FileContent.shape.decode (encode c.toValue).toList = .ok c ∧
        ∀ again, FileContent.shape.decode (encode c.toValue).toList = .ok again → encode again.toValue = encode c.toValue) := by
  have round (kind : Kind) (record : kind.Record) (proper : kind.Proper record) :
      kind.shape.decode (kind.toValue record).compact.toList = .ok record ∧
      kind.shape.decode (kind.toValue record).pretty.toList = .ok record := by
    rw [Value.compact,Value.pretty,String.toList_ofList,String.toList_ofList]
    exact ⟨decode_written kind record proper compact_blank,decode_written kind record proper pretty_blank⟩
  refine ⟨round,fun text c decoded floatless => ?_⟩
  have proper := content_proper decoded floatless
  obtain ⟨compact,pretty⟩ := round .content c proper
  refine ⟨proper,?_⟩
  simp only [List.forall_mem_cons]
  refine ⟨⟨compact,fun again decoded => ?_⟩,⟨pretty,fun again decoded => ?_⟩,List.forall_mem_nil _⟩
  · cases compact.symm.trans decoded
    rfl
  · cases pretty.symm.trans decoded
    rfl

theorem records_round_trip_nested :
    ReadReply.shape.decode (Kind.reading.toValue ⟨some "ok",some ⟨some "5",some (.object [("a",.array [.null])])⟩⟩).pretty.toList =
      .ok ⟨some "ok",some ⟨some "5",some (.object [("a",.array [.null])])⟩⟩ ∧
    FileContent.shape.decode (FileContent.toValue ⟨none,some (.array [.null,.bool true])⟩).pretty.toList =
      .ok ⟨none,some (.array [.null,.bool true])⟩ := by
  obtain ⟨round,again⟩ := records_round_trip
  constructor
  · refine (round .reading _ ?_).2
    rintro c ⟨⟩ v ⟨⟩
    refine ⟨⟨.object (List.pairwise_singleton _ _) ?_,.object ?_⟩,nofun⟩
    · exact List.forall_mem_singleton.mpr (.array (List.forall_mem_singleton.mpr .null))
    · exact List.forall_mem_singleton.mpr (.array (List.forall_mem_singleton.mpr .null))
  · have sent : FileContent.shape.decode "\x7b \"data\" : [null, true] \x7d".toList = .ok ⟨none,some (.array [.null,.bool true])⟩ := by
      cbv
    refine ((again _ _ sent ?_).2 Value.pretty (by simp)).1
    rintro v ⟨⟩
    exact .array (List.forall_mem_cons.mpr ⟨.null,List.forall_mem_singleton.mpr .bool⟩)

end AccountLink.Wire
