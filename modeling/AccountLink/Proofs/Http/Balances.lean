import AccountLink.Proofs.Http.Scripted
import AccountLink.Proofs.Wire.Amounts

namespace AccountLink

open AccountLink.Json AccountLink.Http AccountLink.Wire

def Gives {ρ : Type} (r : Response) (shape : Shape ρ) (record : ρ) : Prop :=
  ¬CutShort r ∧ Succeeded r ∧ shape.decode r.text = .ok record

theorem outcome_gives {ρ : Type} (r : Response) (shape : Shape ρ) (record : ρ) :
    r.outcome shape = .ok record ↔ Gives r shape record := by
  rw [Gives,← cutShort_exact,← succeeded_exact,Response.outcome]
  cases r.isCutShort <;> cases r.isSuccess <;> cases shape.decode r.text <;> simp

theorem outcome_never {ρ : Type} {r : Response} {shape : Shape ρ} {cause : LinkError}
    (failed : r.outcome shape = .error cause) (record : ρ) : ¬Gives r shape record := by
  rw [← outcome_gives,failed]
  nofun

def Account.balance? (a : Account) : Option String := a.status.present?.bind (·.balance)

-- What a whole amount at its place in a record comes to: all else of the record is read as it is beside no amount.
structure Counts (kind : Kind) (hole : Phrase → Phrase) (n : Int) (text : List Char) : Prop where
  beside : ∀ bare, (hole .null).Document bare →
    (kind.shape.decode text).toOption = (kind.shape.decode bare).toOption.map (kind.withAmount (some (toString n)))
  alike : ∀ p, WholeAmount n p → ∀ same, (hole p).Document same →
    (kind.shape.decode text).toOption = (kind.shape.decode same).toOption
  kept : ∀ record, kind.shape.decode text = .ok record → kind.amount record = some (toString n)

theorem whole_counts (n : Int) (least : Number.least ≤ n) (bound : n < Number.bound) (kind : Kind)
    (hole : Phrase → Phrase) (place : kind.AmountPlace hole) (p : Phrase) (whole : WholeAmount n p) (text : List Char)
    (document : (hole p).Document text) : Counts kind hole n text where
  beside _ := decode_amount place ⟨least,bound⟩ whole document
  alike q wholeToo same sameDocument := by
    have bare := Phrase.text_document (hole .null)
    exact (decode_amount place ⟨least,bound⟩ whole document bare).trans
      (decode_amount place ⟨least,bound⟩ wholeToo sameDocument bare).symm
  kept _ := decoded_amount place ⟨least,bound⟩ whole document

structure CountsAlone (n : Int) (p : Phrase) (key : List Letter) (text : List Char) : Prop where
  login : unescaped key = some "confidios_balance".toList → Phrase.Document (.object [(key,p)]) text →
    LoginReply.shape.decode text = .ok ⟨none,none,some (toString n)⟩
  content : unescaped key = some "balance".toList → Phrase.Document (.object [(key,p)]) text →
    FileContent.shape.decode text = .ok ⟨some (toString n),none⟩
  reading : ∀ outer, unescaped outer = some "content".toList → unescaped key = some "balance".toList →
    Phrase.Document (.object [(outer,.object [(key,p)])]) text →
    ReadReply.shape.decode text = .ok ⟨none,some ⟨some (toString n),none⟩⟩

theorem whole_alone (n : Int) (least : Number.least ≤ n) (bound : n < Number.bound) (p : Phrase)
    (whole : WholeAmount n p) (key : List Letter) (text : List Char) : CountsAlone n p key text where
  login := login_alone ⟨least,bound⟩ whole
  content := content_alone ⟨least,bound⟩ whole
  reading _ := reading_alone ⟨least,bound⟩ whole

section Answered

variable {s : Session} {base : String} {network : Network} {on : String} {caller : Caller} {before : Account}
  {post : Post} {arrived : List Post} {r : Response} {hole : Phrase → Phrase} {p : Phrase}

theorem callOver_answered (call : Call) (there : s.accounts.snapshot? on = some before)
    (sent : Sent base (call.request caller) post) (goes : Goes network post arrived (.reply r)) :
    ∃ later delivery, s.callOver base network on caller call = some (later,delivery) ∧
      delivery.answer = .result (call.completeWith fun shape => r.outcome shape).result ∧
      later.accounts.snapshot? on = some ((call.completeWith fun shape => r.outcome shape).account before) := by
  obtain ⟨cell,found,bound,held,rfl⟩ := (Shelf.snapshot_there s.accounts on before).mp there
  have replied {ρ : Type} (shape : Shape ρ) : reply base network (call.request caller) shape = r.outcome shape := by
    simp only [reply,sent_made base _ post sent,(course_exact _ _ _ _).mp goes]
    rfl
  have made := s.callOver_bound base network on caller call cell bound
  simp only [replied] at made
  refine ⟨_,_,made,rfl,?_⟩
  rw [s.settle_snapshot on cell _ found bound held,account_edits]

theorem login_answered (there : s.accounts.snapshot? on = some before)
    (sent : Sent base (Call.login.request caller) post) (goes : Goes network post arrived (.reply r)) :
    ∃ later delivery after, s.callOver base network on caller .login = some (later,delivery) ∧
      later.accounts.snapshot? on = some after ∧
      ((∃ record, Gives r LoginReply.shape record ∧ delivery.answer = .result (.flag true) ∧
          after.balance? = record.balance) ∨
        (∀ record, ¬Gives r LoginReply.shape record) ∧ delivery.answer = .result (.flag false) ∧
          after = before.withPatch .loggedOut) := by
  obtain ⟨later,delivery,made,answer,account⟩ := callOver_answered .login there sent goes
  refine ⟨later,delivery,_,made,account,?_⟩
  rw [answer,Call.completeWith]
  cases outcome : r.outcome LoginReply.shape with
  | ok record => exact .inl ⟨record,(outcome_gives r _ record).mp outcome,rfl,rfl⟩
  | error cause => exact .inr ⟨outcome_never outcome,rfl,rfl⟩

theorem fetchFile_answered {path : String} (there : s.accounts.snapshot? on = some before)
    (sent : Sent base ((Call.fetchFile path).request caller) post) (goes : Goes network post arrived (.reply r)) :
    ∃ later delivery after, s.callOver base network on caller (.fetchFile path) = some (later,delivery) ∧
      later.accounts.snapshot? on = some after ∧
      ((∃ record, Gives r ReadReply.shape record ∧
          delivery.answer = .result (.content (Completion.contentOf record)) ∧
          ∀ amount, (Completion.contentOf record).balance = some amount → after.balance? = some amount) ∨
        (∀ record, ¬Gives r ReadReply.shape record) ∧
          (∃ cause, delivery.answer = .result (.failed ⟨.fetchFile,cause⟩)) ∧ after = before) := by
  obtain ⟨later,delivery,made,answer,account⟩ := callOver_answered (.fetchFile path) there sent goes
  refine ⟨later,delivery,_,made,account,?_⟩
  rw [answer,Call.completeWith]
  cases outcome : r.outcome ReadReply.shape with
  | ok record =>
      refine .inl ⟨record,(outcome_gives r _ record).mp outcome,rfl,fun amount found => ?_⟩
      rw [account_edits,edits_fetched path record amount found]
      rfl
  | error cause => exact .inr ⟨outcome_never outcome,⟨cause,rfl⟩,rfl⟩

theorem content_billed {record : ReadReply} {amount : String} (said : Kind.amount .reading record = some amount) :
    (Completion.contentOf record).balance = some amount := by
  obtain ⟨content,found,billed⟩ := Option.bind_eq_some_iff.mp said
  rw [Completion.contentOf,found]
  exact billed

structure LoginKeeps (r : Response) (p : Phrase) (answer : Answer) (before after : Account) : Prop where
  whole : ∀ n, Number.least ≤ n → n < Number.bound → WholeAmount n p →
    (answer = .result (.flag true) ↔ ∃ record, Gives r LoginReply.shape record) ∧
    (answer = .result (.flag true) → after.balance? = some (toString n))
  amountless : Amountless p → answer = .result (.flag false) ∧ after = before.withPatch .loggedOut

theorem login_keeps (there : s.accounts.snapshot? on = some before) (sent : Sent base (Call.login.request caller) post)
    (goes : Goes network post arrived (.reply r)) (place : Kind.login.AmountPlace hole)
    (document : (hole p).Document r.text) :
    ∃ later delivery after, s.callOver base network on caller .login = some (later,delivery) ∧
      later.accounts.snapshot? on = some after ∧ LoginKeeps r p delivery.answer before after := by
  obtain ⟨later,delivery,after,made,account,settled⟩ := login_answered there sent goes
  refine ⟨later,delivery,after,made,account,⟨fun n least bound whole => ?_,fun amountless => ?_⟩⟩
  · rcases settled with ⟨record,given,answer,kept⟩ | ⟨never,answer,_⟩
    · have stated := decoded_amount place ⟨least,bound⟩ whole document given.2.2
      exact ⟨⟨fun _ => ⟨record,given⟩,fun _ => answer⟩,fun _ => kept.trans stated⟩
    · rw [answer]
      exact ⟨⟨nofun,fun ⟨record,given⟩ => absurd given (never record)⟩,nofun⟩
  · rcases settled with ⟨record,given,_⟩ | ⟨_,failed⟩
    · exact absurd given.2.2 (decode_amountless place amountless document record)
    · exact failed

structure FetchKeeps (r : Response) (p : Phrase) (answer : Answer) (before after : Account) : Prop where
  whole : ∀ n, Number.least ≤ n → n < Number.bound → WholeAmount n p →
    ((∃ content, answer = .result (.content content)) ↔ ∃ record, Gives r ReadReply.shape record) ∧
    ∀ content, answer = .result (.content content) →
      content.balance = some (toString n) ∧ after.balance? = some (toString n)
  amountless : Amountless p → (∃ cause, answer = .result (.failed ⟨.fetchFile,cause⟩)) ∧ after = before

theorem fetchFile_keeps {path : String} (there : s.accounts.snapshot? on = some before)
    (sent : Sent base ((Call.fetchFile path).request caller) post) (goes : Goes network post arrived (.reply r))
    (place : Kind.reading.AmountPlace hole) (document : (hole p).Document r.text) :
    ∃ later delivery after, s.callOver base network on caller (.fetchFile path) = some (later,delivery) ∧
      later.accounts.snapshot? on = some after ∧ FetchKeeps r p delivery.answer before after := by
  obtain ⟨later,delivery,after,made,account,settled⟩ := fetchFile_answered there sent goes
  refine ⟨later,delivery,after,made,account,⟨fun n least bound whole => ?_,fun amountless => ?_⟩⟩
  · rcases settled with ⟨record,given,answer,kept⟩ | ⟨never,⟨cause,answer⟩,_⟩
    · have billed := content_billed (decoded_amount place ⟨least,bound⟩ whole document given.2.2)
      refine ⟨⟨fun _ => ⟨record,given⟩,fun _ => ⟨_,answer⟩⟩,fun content same => ?_⟩
      rw [answer] at same
      cases same
      exact ⟨billed,kept _ billed⟩
    · rw [answer]
      exact ⟨⟨nofun,fun ⟨record,given⟩ => absurd given (never record)⟩,nofun⟩
  · rcases settled with ⟨record,given,_⟩ | ⟨_,failed⟩
    · exact absurd given.2.2 (decode_amountless place amountless document record)
    · exact failed

end Answered

-- A whole number from -2^63 up to 2^64 is as good as the string of its digits, in each record that states an amount,
-- and these digits are what the account holds afterwards. Truth values, lists and objects are no amounts: where one
-- of them stands for the amount, nothing is decoded, whatever else is there.
theorem amounts_kept :
    (∀ n, Number.least ≤ n → n < Number.bound → ∀ (kind : Kind) hole, kind.AmountPlace hole → ∀ p, WholeAmount n p →
      ∀ text, (hole p).Document text → Counts kind hole n text) ∧
    (∀ n, Number.least ≤ n → n < Number.bound → ∀ p, WholeAmount n p → ∀ key text, CountsAlone n p key text) ∧
    (∀ (kind : Kind) hole, kind.AmountPlace hole → ∀ p, Amountless p → ∀ text, (hole p).Document text →
      ∀ record, kind.shape.decode text ≠ .ok record) ∧
    (∀ (s : Session) base network on caller before post arrived r hole p, s.accounts.snapshot? on = some before →
      Sent base (Call.login.request caller) post → Goes network post arrived (.reply r) →
      Kind.login.AmountPlace hole → (hole p).Document r.text →
      ∃ later delivery after, s.callOver base network on caller .login = some (later,delivery) ∧
        later.accounts.snapshot? on = some after ∧ LoginKeeps r p delivery.answer before after) ∧
    ∀ (s : Session) base network on caller before path post arrived r hole p, s.accounts.snapshot? on = some before →
      Sent base ((Call.fetchFile path).request caller) post → Goes network post arrived (.reply r) →
      Kind.reading.AmountPlace hole → (hole p).Document r.text →
      ∃ later delivery after, s.callOver base network on caller (.fetchFile path) = some (later,delivery) ∧
        later.accounts.snapshot? on = some after ∧ FetchKeeps r p delivery.answer before after := by
  refine ⟨whole_counts,whole_alone,?_,?_,?_⟩
  · exact fun kind hole place p amountless text => decode_amountless place amountless
  · exact fun s base network on caller before post arrived r hole p there => login_keeps there
  · exact fun s base network on caller before path post arrived r hole p there => fetchFile_keeps there

-- The least of the whole amounts in the reply to a login, and a truth value in a content that is written as a list.
def owing (p : Phrase) : Phrase := .object [(spelling "confidios_balance",p)]

def priced (p : Phrase) : Phrase := .array [.null,.array [p]]

def told (p : Phrase) : Response := granted (Text.encode p.text)

def telling (p : Phrase) : Network := .ofExchanges [.answered (told p)]

theorem told_goes (p : Phrase) (post : Post) : Goes (telling p) post [post] (.reply (told p)) :=
  goes_settled rfl (Succeeded.settled ⟨Nat.le_refl 200,Nat.le_add_right 200 99⟩)

theorem owing_place : Kind.login.AmountPlace owing := by
  have place : LoginReply.shape.Place "confidios_balance" fun p => .object ([] ++ (spelling "confidios_balance",p) :: []) :=
    .member rfl
  exact .login place

theorem priced_place : Kind.reading.AmountPlace priced := by
  have place : ReadReply.shape.Place "content" fun p => .array ([.null] ++ p :: []) := .item rfl
  have inner : FileContent.shape.Place "balance" fun p => .array ([] ++ p :: []) := .item rfl
  exact .reading place inner

theorem amounts_kept_least :
    LoginReply.shape.decode (owing (.number (.ofInt Number.least))).text = .ok ⟨none,none,some "-9223372036854775808"⟩ ∧
    (LoginReply.shape.decode (owing (.number (.ofInt Number.least))).text).toOption =
      (LoginReply.shape.decode (owing (.string (spelling "-9223372036854775808"))).text).toOption ∧
    (∃ later delivery after, (Session.start .listener).callOver "http://a" (telling (owing (.number (.ofInt Number.least))))
        "main" ⟨"tok","bob@example.com"⟩ .login = some (later,delivery) ∧ later.accounts.snapshot? "main" = some after ∧
      delivery.answer = .result (.flag true) ∧ after.balance? = some "-9223372036854775808") ∧
    ∃ later delivery, (Session.start .listener).callOver "http://a" (telling (priced (.bool true))) "main"
        ⟨"tok","bob@example.com"⟩ (.fetchFile "/a") = some (later,delivery) ∧
      later.accounts.snapshot? "main" = some .initial := by
  obtain ⟨numbers,alone,_,login,fetchFile⟩ := amounts_kept
  have sent (call : Call) (made : (Post.ofRequest "http://a" (call.request ⟨"tok","bob@example.com"⟩)).toOption.isSome) :
      ∃ post, Sent "http://a" (call.request ⟨"tok","bob@example.com"⟩) post := by
    obtain ⟨post,made⟩ := toOption_isSome made
    exact ⟨post,made_sent made⟩
  have number : WholeAmount Number.least (.number (.ofInt Number.least)) := .number (by decide +kernel)
  have string : WholeAmount Number.least (.string (spelling "-9223372036854775808")) := .string (by decide +kernel)
  refine ⟨(alone _ (by decide) (by decide) _ number _ _).login rfl (Phrase.text_document _),?_,?_,?_⟩
  · exact (numbers _ (by decide) (by decide) .login _ owing_place _ number _ (Phrase.text_document _)).alike _ string _
      (Phrase.text_document _)
  · obtain ⟨post,sent⟩ := sent .login (by decide +kernel)
    have text : (told (owing (.number (.ofInt Number.least)))).text = (owing (.number (.ofInt Number.least))).text := by
      decide +kernel
    obtain ⟨later,delivery,after,made,account,kept⟩ := login (Session.start .listener) "http://a"
      (telling (owing (.number (.ofInt Number.least)))) "main" _ .initial post _ _ owing _ rfl sent (told_goes _ post)
      owing_place (text ▸ Phrase.text_document _)
    obtain ⟨exact,kept⟩ := kept.whole _ (by decide) (by decide) number
    have given : Gives (told (owing (.number (.ofInt Number.least)))) LoginReply.shape
        ⟨none,none,some "-9223372036854775808"⟩ := by
      rw [← outcome_gives]
      decide +kernel
    have done := exact.mpr ⟨_,given⟩
    exact ⟨later,delivery,after,made,account,done,kept done⟩
  · obtain ⟨post,sent⟩ := sent (.fetchFile "/a") (by decide +kernel)
    have text : (told (priced (.bool true))).text = (priced (.bool true)).text := by decide +kernel
    obtain ⟨later,delivery,after,made,account,kept⟩ := fetchFile (Session.start .listener) "http://a"
      (telling (priced (.bool true))) "main" _ .initial "/a" post _ _ priced _ rfl sent (told_goes _ post) priced_place
      (text ▸ Phrase.text_document _)
    rw [(kept.amountless .bool).2] at account
    exact ⟨later,delivery,made,account⟩

end AccountLink
