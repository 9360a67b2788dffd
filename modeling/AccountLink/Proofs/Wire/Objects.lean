import AccountLink.Proofs.Json.Written
import AccountLink.Proofs.Wire.Kinds

namespace AccountLink.Wire

open AccountLink.Json

-- Entries that say the same: those that are known agree up to their order, or one of them is a null that
-- the others leave out.
inductive Kind.Alike (kind : Kind) : Entries → Entries → Prop where
  | known {entries others} (perm : (kind.shape.known entries).Perm (kind.shape.known others)) : Alike kind entries others
  | null {name before after} (optional : name ∈ kind.optional) (absent : ∀ p, (name,p) ∉ before ++ after) :
      Alike kind (before ++ (name,.null) :: after) (before ++ after)
  | symm {entries others} (alike : Alike kind entries others) : Alike kind others entries
  | trans {entries between others} (first : Alike kind entries between) (second : Alike kind between others) :
      Alike kind entries others

variable {text otherText : List Char} {members others inner otherInner : List (List Letter × Phrase)}
  {entries otherEntries innerEntries before after : Entries}

theorem alike_tells (kind : Kind) (room : Nat) (alike : kind.Alike entries otherEntries) (record : kind.Record) :
    kind.shape.Tells room entries record ↔ kind.shape.Tells room otherEntries record := by
  induction alike with
  | known perm => exact Shape.tells_perm kind.shape_orderly room perm record
  | null optional absent => exact Shape.tells_null kind.shape_orderly room (kind.optional_nullable _ optional) absent record
  | symm alike ih => exact ih.symm
  | trans first second ihFirst ihSecond => exact ihFirst.trans ihSecond

-- One level of nesting goes to the object itself.
theorem decode_tells (kind : Kind) (document : Phrase.Document (.object members) text)
    (readable : named members = some entries) (record : kind.Record) :
    kind.shape.decode text = .ok record ↔ kind.shape.Tells 126 entries record := by
  rw [← toOption_some,Shape.decode_document kind.shape_steady document]
  exact Shape.members_tells kind.shape_orderly 126 readable record

theorem decode_alike (kind : Kind) (document : Phrase.Document (.object members) text)
    (readable : named members = some entries) (otherDocument : Phrase.Document (.object others) otherText)
    (readableOthers : named others = some otherEntries) (alike : kind.Alike entries otherEntries) :
    (kind.shape.decode text).toOption = (kind.shape.decode otherText).toOption := by
  refine Option.ext fun record => ?_
  rw [toOption_some,toOption_some,decode_tells kind document readable,decode_tells kind otherDocument readableOthers]
  exact alike_tells kind 126 alike record

theorem files_null (document : Phrase.Document (.object members) text) (readable : named members = some entries)
    (null : ("files",.null) ∈ entries) (reply : ListReply) : ListReply.shape.decode text ≠ .ok reply := by
  intro decoded
  have told := (decode_tells .listing document readable reply).mp decoded
  have decodes := told.decodes _ (.tail _ (.head _)) .null null
  rw [Field.of,map_value,Form.list_value] at decodes
  contradiction

theorem content_value (readable : named inner = some innerEntries) (content : Option FileContent) :
    FileContent.shape.form.value? 126 (.object inner) = some content ↔
      ∃ c, content = some c ∧ FileContent.shape.Tells 125 innerEntries c := by
  have told := Shape.members_tells Kind.content.shape_orderly 125 readable
  rw [Shape.form_value Kind.content_steady]
  change (FileContent.shape.members? 125 inner).map some = some content ↔ _
  rw [Option.map_eq_some_iff]
  constructor
  · rintro ⟨c,reads,rfl⟩
    exact ⟨c,rfl,(told c).mp reads⟩
  · rintro ⟨c,rfl,said⟩
    exact ⟨c,(told c).mpr said,rfl⟩

theorem decode_content (document : Phrase.Document (.object members) text)
    (readable : named members = some (before ++ ("content",.object inner) :: after))
    (readableInner : named inner = some innerEntries) (reply : ReadReply) :
    ReadReply.shape.decode text = .ok reply ↔ (∀ p, ("content",p) ∉ before ++ after) ∧
      ∃ content rest, FileContent.shape.Tells 125 innerEntries content ∧
        ReadReply.shape.Tells 126 (before ++ after) rest ∧ reply = {rest with content := some content} := by
  refine (decode_tells .reading document readable reply).trans ?_
  refine (Shape.tells_more Kind.reading.shape_orderly (.tail _ (.head _)) rfl 126 (.object inner) reply).trans ?_
  refine and_congr_right fun absent => ?_
  simp only [Field.of,map_value,Option.map_eq_some_iff,content_value readableInner]
  constructor
  · rintro ⟨_,rest,⟨_,⟨content,rfl,said⟩,rfl⟩,others,rfl⟩
    exact ⟨content,rest,said,others,rfl⟩
  · rintro ⟨content,rest,said,others,rfl⟩
    exact ⟨_,rest,⟨_,⟨content,rfl,said⟩,rfl⟩,others,rfl⟩

theorem decode_content_alike (document : Phrase.Document (.object members) text)
    (readable : named members = some (before ++ ("content",.object inner) :: after))
    (readableInner : named inner = some innerEntries) (otherDocument : Phrase.Document (.object others) otherText)
    (readableOthers : named others = some (before ++ ("content",.object otherInner) :: after))
    (readableOtherInner : named otherInner = some otherEntries) (alike : Kind.content.Alike innerEntries otherEntries) :
    (ReadReply.shape.decode text).toOption = (ReadReply.shape.decode otherText).toOption := by
  refine Option.ext fun reply => ?_
  rw [toOption_some,toOption_some,decode_content document readable readableInner,
    decode_content otherDocument readableOthers readableOtherInner]
  have same := alike_tells .content 125 alike
  simp only [show ∀ c, FileContent.shape.Tells 125 innerEntries c ↔ FileContent.shape.Tells 125 otherEntries c from same]

theorem objects_decoded :
    (∀ (kind : Kind) text members entries, Phrase.Document (.object members) text → named members = some entries →
      (∀ record, kind.shape.decode text = .ok record ↔ kind.shape.Tells 126 entries record) ∧
      ∀ otherText others otherEntries, Phrase.Document (.object others) otherText → named others = some otherEntries →
        kind.Alike entries otherEntries → (kind.shape.decode text).toOption = (kind.shape.decode otherText).toOption) ∧
    (∀ text members entries, Phrase.Document (.object members) text → named members = some entries →
      ("files",.null) ∈ entries → ∀ reply, ListReply.shape.decode text ≠ .ok reply) ∧
    (∀ text members before after inner innerEntries, Phrase.Document (.object members) text →
      named members = some (before ++ ("content",.object inner) :: after) → named inner = some innerEntries →
      (∀ reply, ReadReply.shape.decode text = .ok reply ↔ (∀ p, ("content",p) ∉ before ++ after) ∧
        ∃ content rest, FileContent.shape.Tells 125 innerEntries content ∧
          ReadReply.shape.Tells 126 (before ++ after) rest ∧ reply = {rest with content := some content}) ∧
      ∀ otherText others otherInner otherEntries, Phrase.Document (.object others) otherText →
        named others = some (before ++ ("content",.object otherInner) :: after) → named otherInner = some otherEntries →
        Kind.content.Alike innerEntries otherEntries →
        (ReadReply.shape.decode text).toOption = (ReadReply.shape.decode otherText).toOption) := by
  refine ⟨fun kind text members entries document readable => ⟨decode_tells kind document readable,?_⟩,?_,?_⟩
  · exact fun otherText others otherEntries => decode_alike kind document readable
  · exact fun text members entries => files_null
  · exact fun text members before after inner innerEntries document readable readableInner =>
      ⟨decode_content document readable readableInner,
        fun otherText others otherInner otherEntries => decode_content_alike document readable readableInner⟩

theorem nine_digits : Digits ['9','9','9'] := by simp [Digits]

-- A number too large to be read, and half of a pair.
def odd : Phrase :=
  .array [.number ⟨false,['9','9','9'],none,some ⟨'e',[],['9','9','9'],.inl rfl,.inl rfl,nine_digits⟩,nine_digits,nofun,undivided⟩,
    .string [.unit 'd' '8' '0' '0' 0xd800 rfl]]

def oddMembers : List (List Letter × Phrase) :=
  [(spelling "x",odd),(.unit '0' '0' '7' '3' 0x73 rfl :: spelling "tatus",.string (spelling "in")),(spelling "x",.null)]

theorem odd_tells : LoginReply.shape.Tells 126 [("x",odd),("status",.string (spelling "in")),("x",.null)] ⟨some "in",none,none⟩ where
  once := by decide
  decodes := by
    simp [LoginReply.shape,Field.of,map_value]
    decide
  present := by simp [LoginReply.shape,Field.of]
  record := rfl

theorem data_tells : FileContent.shape.Tells 125 [("data",.bool true)] ⟨none,some (.bool true)⟩ where
  once := by decide
  decodes := by
    simp [FileContent.shape,Field.of,map_value]
    decide
  present := by simp [FileContent.shape,Field.of]
  record := rfl

theorem objects_decoded_odd :
    LoginReply.shape.decode (Phrase.object oddMembers).text = .ok ⟨some "in",none,none⟩ ∧
    (LoginReply.shape.decode (Phrase.object oddMembers).text).toOption =
      (LoginReply.shape.decode (Phrase.object [(spelling "status",.string (spelling "in"))]).text).toOption ∧
    (∀ reply, ListReply.shape.decode (Phrase.object [(spelling "files",.null)]).text ≠ .ok reply) ∧
    ReadReply.shape.decode (Phrase.object [(spelling "content",.object [(spelling "data",.bool true)])]).text =
      .ok ⟨none,some ⟨none,some (.bool true)⟩⟩ := by
  obtain ⟨login,listing,reading⟩ := objects_decoded
  obtain ⟨decoded,alike⟩ := login .login _ oddMembers _ (Phrase.text_document _) rfl
  have content := reading _ _ [] [] _ _ (Phrase.text_document (.object [(spelling "content",.object [(spelling "data",.bool true)])])) rfl rfl
  refine ⟨(decoded _).mpr odd_tells,?_,?_,?_⟩
  · exact alike _ _ [("status",.string (spelling "in"))] (Phrase.text_document _) rfl (.known (.refl _))
  · exact listing _ _ [("files",.null)] (Phrase.text_document _) rfl (.head _)
  · refine (content.1 _).mpr ⟨by simp,_,⟨none,none⟩,data_tells,⟨by decide,by simp,?_,rfl⟩,rfl⟩
    simp [ReadReply.shape,Field.of]

end AccountLink.Wire
