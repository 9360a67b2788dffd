import AccountLink.Proofs.Json.Places
import AccountLink.Proofs.Json.Written
import AccountLink.Proofs.Wire.Kinds

namespace AccountLink.Wire

open AccountLink.Json

section Shapes

variable {ρ : Type} {shape : Shape ρ} {items : List Phrase} {members : List (List Letter × Phrase)}

theorem array_object (orderly : shape.Orderly) (short : items.length ≤ shape.fields.length)
    (readable : named members = some (Shape.placed shape.fields items)) (room : Nat) :
    shape.phrase? room (.array items) = shape.phrase? room (.object members) := by
  cases room with
  | zero => rfl
  | succ room => exact Shape.items_members orderly room short readable

theorem array_long (long : shape.fields.length < items.length) (room : Nat) : shape.phrase? room (.array items) = none := by
  cases room with
  | zero => rfl
  | succ room => exact Shape.items_long room long shape.blank

theorem array_lacking (orderly : shape.Orderly) (short : items.length ≤ shape.fields.length)
    {field : Json.Field ρ} (left : field ∈ shape.fields.drop items.length) (required : field.required = true)
    (room : Nat) : shape.phrase? room (.array items) = none := by
  cases room with
  | zero => rfl
  | succ room =>
      refine Option.eq_none_iff_forall_ne_some.mpr fun record made => ?_
      have free := ((Shape.items_placed orderly room (fun _ member => member) short shape.blank record).mp made).2.1
      rw [free field left] at required
      contradiction

end Shapes

section Documents

variable {text otherText : List Char} {items : List Phrase} {members : List (List Letter × Phrase)}

theorem decode_list (kind : Kind) (document : Phrase.Document (.array items) text)
    (short : items.length ≤ kind.shape.fields.length) (otherDocument : Phrase.Document (.object members) otherText)
    (readable : named members = some (Shape.placed kind.shape.fields items)) :
    (kind.shape.decode text).toOption = (kind.shape.decode otherText).toOption := by
  rw [Shape.decode_document kind.shape_steady document,Shape.decode_document kind.shape_steady otherDocument]
  exact array_object kind.shape_orderly short readable roomForValues

theorem decode_long (kind : Kind) (document : Phrase.Document (.array items) text)
    (long : kind.shape.fields.length < items.length) : (kind.shape.decode text).toOption = none := by
  rw [Shape.decode_document kind.shape_steady document]
  exact array_long long roomForValues

theorem decode_users (document : Phrase.Document (.array items) text) (few : items.length < 5) :
    (NewUser.shape.decode text).toOption = none := by
  have orderly : NewUser.shape.Orderly := Kind.newUser.shape_orderly
  have last : .needed "profile_image_url" .text (fun s u => {u with profileImageUrl := s}) ∈
      NewUser.shape.fields.drop items.length := by
    have split : NewUser.shape.fields = NewUser.shape.fields.take 4 ++
        [.needed "profile_image_url" .text fun s u => {u with profileImageUrl := s}] := rfl
    rw [split,List.drop_append_of_le_length (Nat.le_of_lt_succ few)]
    exact List.mem_append_right _ (List.mem_singleton_self _)
  rw [Shape.decode_document orderly.steady document]
  exact array_lacking orderly (Nat.le_of_lt few) last rfl roomForValues

theorem decode_place {hole : Phrase → Phrase} (place : ReadReply.shape.Place "content" hole) {p q : Phrase}
    (same : FileContent.shape.form.value? 126 p = FileContent.shape.form.value? 126 q)
    (document : (hole p).Document text) (otherDocument : (hole q).Document otherText) :
    (ReadReply.shape.decode text).toOption = (ReadReply.shape.decode otherText).toOption := by
  have orderly : ReadReply.shape.Orderly := Kind.reading.shape_orderly
  obtain ⟨rest,placed⟩ := Shape.phrase_place orderly (.tail _ (.head _)) rfl place 126
  rw [Shape.decode_document orderly.steady document,Shape.decode_document orderly.steady otherDocument]
  refine (placed p).trans (Eq.trans ?_ (placed q).symm)
  simp only [Field.of,map_value,same]

theorem decode_place_refused {hole : Phrase → Phrase} (place : ReadReply.shape.Place "content" hole) {p : Phrase}
    (refused : FileContent.shape.form.value? 126 p = none) (document : (hole p).Document text) :
    (ReadReply.shape.decode text).toOption = none := by
  have orderly : ReadReply.shape.Orderly := Kind.reading.shape_orderly
  obtain ⟨rest,placed⟩ := Shape.phrase_place orderly (.tail _ (.head _)) rfl place 126
  rw [Shape.decode_document orderly.steady document]
  refine (placed p).trans ?_
  simp only [Field.of,map_value,refused]
  rfl

theorem content_list (short : items.length ≤ 2)
    (readable : named members = some (Shape.placed FileContent.shape.fields items)) :
    FileContent.shape.form.value? 126 (.array items) = FileContent.shape.form.value? 126 (.object members) := by
  rw [Shape.form_value Kind.content_steady,Shape.form_value Kind.content_steady]
  exact congrArg (Option.map some) (array_object Kind.content.shape_orderly short readable 126)

theorem content_long (long : 2 < items.length) : FileContent.shape.form.value? 126 (.array items) = none := by
  have beyond : FileContent.shape.fields.length < items.length := long
  rw [Shape.form_value Kind.content_steady]
  exact congrArg (Option.map some) (array_long beyond 126)

end Documents

-- For every kind of record and every list of values, whether or not there is room for these: a list of at most as
-- many values as there are fields is decoded to what the object with these values is decoded to, and a longer one
-- to nothing. The same goes for the content inside a reply, however the reply itself is written.
theorem lists_decoded :
    (∀ (kind : Kind) items text, Phrase.Document (.array items) text →
      (items.length ≤ kind.shape.fields.length → ∀ members otherText, Phrase.Document (.object members) otherText →
        named members = some (Shape.placed kind.shape.fields items) →
        (kind.shape.decode text).toOption = (kind.shape.decode otherText).toOption) ∧
      (kind.shape.fields.length < items.length → ∀ record, kind.shape.decode text ≠ .ok record)) ∧
    (∀ items members text otherText, Phrase.Document (.array items) text → Phrase.Document (.object members) otherText →
      named members = some (Shape.placed NewUser.shape.fields items) → items.length < 5 →
      ∀ user, NewUser.shape.decode text ≠ .ok user ∧ NewUser.shape.decode otherText ≠ .ok user) ∧
    (∀ hole, ReadReply.shape.Place "content" hole → ∀ items text, (hole (.array items)).Document text →
      (items.length ≤ 2 → ∀ members otherText, (hole (.object members)).Document otherText →
        named members = some (Shape.placed FileContent.shape.fields items) →
        (ReadReply.shape.decode text).toOption = (ReadReply.shape.decode otherText).toOption) ∧
      (2 < items.length → ∀ reply, ReadReply.shape.decode text ≠ .ok reply)) := by
  have refused {ε α : Type} {x : Except ε α} (none : x.toOption = none) (a : α) : x ≠ .ok a := by
    rintro rfl
    contradiction
  refine ⟨fun kind items text document => ⟨?_,?_⟩,?_,fun hole place items text document => ⟨?_,?_⟩⟩
  · exact fun short members otherText otherDocument readable => decode_list kind document short otherDocument readable
  · exact fun long => refused (decode_long kind document long)
  · intro items members text otherText document otherDocument readable few user
    have none := decode_users document few
    have same := decode_list .newUser document (Nat.le_of_lt few) otherDocument readable
    exact ⟨refused none user,refused (same.symm.trans none) user⟩
  · exact fun short members otherText otherDocument readable =>
      decode_place place (content_list short readable) document otherDocument
  · exact fun long => refused (decode_place_refused place (content_long long) document)

theorem lists_decoded_short :
    LoginReply.shape.decode (Phrase.array [.string (spelling "in"),.null]).text = .ok ⟨some "in",none,none⟩ ∧
    (LoginReply.shape.decode (Phrase.array [.string (spelling "in"),.null]).text).toOption =
      (LoginReply.shape.decode (Phrase.object [(spelling "status",.string (spelling "in")),
        (spelling "confidios_user",.null)]).text).toOption ∧
    (∀ reply, StatusReply.shape.decode (Phrase.array [.null,.null]).text ≠ .ok reply) ∧
    (∀ user, NewUser.shape.decode (Phrase.array [.string (spelling "7")]).text ≠ .ok user) ∧
    (ReadReply.shape.decode (Phrase.array [.null,.array [.string (spelling "5")]]).text).toOption =
      (ReadReply.shape.decode (Phrase.array [.null,.object [(spelling "balance",.string (spelling "5"))]]).text).toOption ∧
    (∀ reply, ReadReply.shape.decode (Phrase.array [.null,.array [.null,.null,.null]]).text ≠ .ok reply) := by
  obtain ⟨lists,users,contents⟩ := lists_decoded
  have place : ReadReply.shape.Place "content" fun p => .array ([.null] ++ p :: []) := .item rfl
  refine ⟨by cbv,?_,?_,?_,?_,?_⟩
  · exact (lists .login _ _ (Phrase.text_document _)).1 (by decide) _ _ (Phrase.text_document _) rfl
  · exact (lists .status _ _ (Phrase.text_document _)).2 (by decide)
  · exact fun user => (users _ [(spelling "user_id",.string (spelling "7"))] _ _ (Phrase.text_document _)
      (Phrase.text_document _) rfl (by decide) user).1
  · exact (contents _ place _ _ (Phrase.text_document _)).1 (by decide) _ _ (Phrase.text_document _) rfl
  · exact (contents _ place _ _ (Phrase.text_document _)).2 (by decide)

end AccountLink.Wire
