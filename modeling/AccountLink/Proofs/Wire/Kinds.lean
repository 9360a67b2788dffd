import AccountLink.Proofs.Json.Known
import AccountLink.Wire.Reply
import AccountLink.Wire.Request

namespace AccountLink.Wire

open AccountLink.Json

inductive Kind where
  | login
  | status
  | admin
  | newUser
  | created
  | listing
  | content
  | reading

namespace Kind

abbrev Record : Kind → Type
  | login => LoginReply
  | status => StatusReply
  | admin => AdminReply
  | newUser => NewUser
  | created => CreateReply
  | listing => ListReply
  | content => FileContent
  | reading => ReadReply

def shape : (kind : Kind) → Shape kind.Record
  | login => LoginReply.shape
  | status => StatusReply.shape
  | admin => AdminReply.shape
  | newUser => NewUser.shape
  | created => CreateReply.shape
  | listing => ListReply.shape
  | content => FileContent.shape
  | reading => ReadReply.shape

-- The fields that may be null. The files of a listing may be left out, but not be null.
def optional : Kind → List String
  | login => ["status","confidios_user","confidios_balance"]
  | status => ["status"]
  | admin => ["status","user_id","role"]
  | newUser => []
  | created => ["status","user"]
  | listing => ["status"]
  | content => ["balance","data"]
  | reading => ["status","content"]

theorem content_steady : FileContent.shape.Steady := by
  simp only [Shape.Steady,FileContent.shape,List.forall_mem_cons]
  exact ⟨map_steady _ ⟨_,Form.amount_means⟩,map_steady _ ⟨_,Form.anything_means⟩,List.forall_mem_nil _⟩

theorem shape_steady (kind : Kind) : kind.shape.Steady := by
  have text : Form.text.Steady := ⟨_,Form.text_means⟩
  have optionalText : Form.optionalText.Steady := ⟨_,Form.optionalText_means⟩
  have anything : Form.anything.Steady := ⟨_,Form.anything_means⟩
  have list : Form.list.Steady := ⟨_,Form.list_means⟩
  have amount : Form.amount.Steady := ⟨_,Form.amount_means⟩
  have content : FileContent.shape.form.Steady := ⟨_,Shape.form_means content_steady⟩
  cases kind <;> simp only [Shape.Steady,shape,LoginReply.shape,StatusReply.shape,AdminReply.shape,NewUser.shape,
    CreateReply.shape,ListReply.shape,FileContent.shape,ReadReply.shape,List.forall_mem_cons] <;>
    simp [Field.of,Field.needed,map_steady,text,optionalText,anything,list,amount]
  exact map_steady _ content

theorem shape_orderly (kind : Kind) : kind.shape.Orderly where
  steady := kind.shape_steady
  names := by cases kind <;> decide
  commute := by
    cases kind <;> simp only [shape,LoginReply.shape,StatusReply.shape,AdminReply.shape,NewUser.shape,
      CreateReply.shape,ListReply.shape,FileContent.shape,ReadReply.shape,List.forall_mem_cons]
    all_goals and_intros
    all_goals first
      | exact List.forall_mem_nil _
      | exact fun apart => absurd rfl apart
      | exact fun _ => map_commute rfl rfl fun _ _ _ => rfl

theorem optional_nullable (kind : Kind) (name : String) (optional : name ∈ kind.optional) : kind.shape.Nullable name := by
  have text (room : Nat) : Form.optionalText.value? room .null = some none := Form.optionalText_value room .null
  have anything (room : Nat) : Form.anything.value? room .null = some none := Form.anything_value room .null
  have amount (room : Nat) : Form.amount.value? room .null = some none := Form.amount_null room
  have content (room : Nat) : FileContent.shape.form.value? room .null = some none :=
    Shape.form_value content_steady room .null
  revert name
  cases kind with
  | newUser => exact List.forall_mem_nil _
  | status | listing => exact List.forall_mem_singleton.mpr (Shape.nullable_of (.head _) text rfl)
  | login =>
      simp only [Kind.optional,List.forall_mem_cons]
      exact ⟨Shape.nullable_of (.head _) text rfl,Shape.nullable_of (.tail _ (.head _)) text rfl,
        Shape.nullable_of (.tail _ (.tail _ (.head _))) amount rfl,List.forall_mem_nil _⟩
  | admin =>
      simp only [Kind.optional,List.forall_mem_cons]
      exact ⟨Shape.nullable_of (.head _) text rfl,Shape.nullable_of (.tail _ (.head _)) text rfl,
        Shape.nullable_of (.tail _ (.tail _ (.head _))) text rfl,List.forall_mem_nil _⟩
  | created =>
      simp only [Kind.optional,List.forall_mem_cons]
      exact ⟨Shape.nullable_of (.head _) text rfl,Shape.nullable_of (.tail _ (.head _)) anything rfl,List.forall_mem_nil _⟩
  | content =>
      simp only [Kind.optional,List.forall_mem_cons]
      exact ⟨Shape.nullable_of (.head _) amount rfl,Shape.nullable_of (.tail _ (.head _)) anything rfl,List.forall_mem_nil _⟩
  | reading =>
      simp only [Kind.optional,List.forall_mem_cons]
      exact ⟨Shape.nullable_of (.head _) text rfl,Shape.nullable_of (.tail _ (.head _)) content rfl,List.forall_mem_nil _⟩

end Kind

end AccountLink.Wire
