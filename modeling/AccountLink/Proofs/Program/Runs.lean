import AccountLink.Proofs.Http.Scripted
import AccountLink.Proofs.Program.Output
import AccountLink.Proofs.Wire.Kinds

namespace AccountLink.Program

open AccountLink.Text AccountLink.Json AccountLink.Http AccountLink.Wire

-- What the environment says of the base URL; it is looked at even if an option says something else.
def variableUrl (env : Environment) : String := (env Settings.baseUrlVariable).text?.getD Settings.defaultBaseUrl

inductive Refused (env : Environment) (line : CommandLine) : String → Prop where
  | environment (refused : Settings.normalize (variableUrl env).toList = none) : Refused env line (variableUrl env)
  | option {normal given} (accepted : Settings.normalize (variableUrl env).toList = some normal)
      (stated : line.baseUrl = some given) (refused : Settings.normalize given.toList = none) : Refused env line given

inductive Based (env : Environment) (line : CommandLine) : String → Prop where
  | environment {normal} (accepted : Settings.normalize (variableUrl env).toList = some normal)
      (unstated : line.baseUrl = none) : Based env line (String.ofList normal)
  | option {other normal given} (accepted : Settings.normalize (variableUrl env).toList = some other)
      (stated : line.baseUrl = some given) (normalized : Settings.normalize given.toList = some normal) :
      Based env line (String.ofList normal)

def refusal (raw : String) : LinkError := .configuration ("base URL must be http(s): '" ++ raw ++ "'")

section Settings

variable {env : Environment} {line : CommandLine}

theorem refused_or_based (env : Environment) (line : CommandLine) :
    (∃ raw, Refused env line raw) ∨ ∃ base, Based env line base := by
  cases accepted : Settings.normalize (variableUrl env).toList with
  | none => exact .inl ⟨_,.environment accepted⟩
  | some other =>
      cases stated : line.baseUrl with
      | none => exact .inr ⟨_,.environment accepted stated⟩
      | some given =>
          cases normalized : Settings.normalize given.toList with
          | none => exact .inl ⟨given,.option accepted stated normalized⟩
          | some normal => exact .inr ⟨_,.option accepted stated normalized⟩

theorem settings_refused {raw : String} (refused : Refused env line raw) : settings env line = .error (refusal raw) := by
  cases refused with
  | environment refused =>
      rw [settings,Settings.ofEnvironment,← variableUrl,Settings.checkBaseUrl,refused]
      rfl
  | option accepted stated refused =>
      rw [settings,Settings.ofEnvironment,← variableUrl,Settings.checkBaseUrl,accepted,stated]
      simp only [Settings.ofBaseUrl,Settings.checkBaseUrl,refused]
      rfl

theorem settings_based {base : String} (based : Based env line base) :
    ∃ s, settings env line = .ok s ∧ s.baseUrl = base := by
  cases based with
  | environment accepted unstated =>
      rw [settings,Settings.ofEnvironment,← variableUrl,Settings.checkBaseUrl,accepted,unstated]
      exact ⟨_,rfl,rfl⟩
  | option accepted stated normalized =>
      rw [settings,Settings.ofEnvironment,← variableUrl,Settings.checkBaseUrl,accepted,stated]
      simp only [Settings.ofBaseUrl,Settings.checkBaseUrl,normalized]
      exact ⟨_,rfl,rfl⟩

end Settings

def answerKind : Call → Kind
  | .login => .login
  | .logout => .status
  | .adminLogin => .admin
  | .createUser _ => .created
  | .listFiles _ => .listing
  | .fetchFile _ => .reading

def payload : (kind : Kind) → kind.Record → Option Value
  | .created,reply => some (.ofOption id reply.user)
  | .listing,reply => some (.array reply.files)
  | .reading,reply => some (Completion.contentOf reply).toValue
  | _,_ => none

-- The post for a request, or the last one of those that it is sent on to, is answered, in full and with success, and
-- the answer can be read.
def Answers (base : String) (network : Network) (request : Request) {ρ : Type} (shape : Shape ρ) (record : ρ) : Prop :=
  ∃ first arrived r, Sent base request first ∧ Goes network first arrived (.reply r) ∧ ¬CutShort r ∧ Succeeded r ∧
    shape.decode r.text = .ok record

theorem answers_reply (base : String) (network : Network) (request : Request) {ρ : Type} (shape : Shape ρ) (record : ρ) :
    Answers base network request shape record ↔ reply base network request shape = .ok record := by
  rw [← reply_exact]
  constructor
  · rintro ⟨first,arrived,r,sent,goes,whole,succeeded,fits⟩
    exact .sent sent goes (.decoded whole succeeded fits)
  · intro replied
    cases replied with
    | sent sent goes comes =>
        cases comes with
        | decoded whole succeeded fits => exact ⟨_,_,_,sent,goes,whole,succeeded,fits⟩

section Completions

variable {call : Call} {replies : {ρ : Type} → Shape ρ → Outcome ρ}

theorem completeWith_ok {record : (answerKind call).Record} (replied : replies (answerKind call).shape = .ok record) :
    failureOf (call.completeWith replies).result = none ∧
      outcomeOf (call.completeWith replies).result = payload (answerKind call) record := by
  cases call <;> simp only [answerKind,Kind.shape] at replied <;> simp only [Call.completeWith,replied] <;>
    exact ⟨rfl,rfl⟩

theorem completeWith_error {cause : LinkError} (replied : replies (answerKind call).shape = .error cause) :
    (failureOf (call.completeWith replies).result).isSome ∧ outcomeOf (call.completeWith replies).result = none := by
  cases call <;> simp only [answerKind,Kind.shape] at replied <;> simp only [Call.completeWith,replied] <;>
    exact ⟨rfl,rfl⟩

end Completions

def Unaddressed (line : CommandLine) : Prop := line.call = .login ∧ trim line.caller.email.toList = []

theorem lacksEmail_exact (line : CommandLine) : lacksEmail line = true ↔ Unaddressed line := by
  simp [lacksEmail,Unaddressed]

def Item.account? : Item → Option Account
  | .account a => some a
  | _ => none

theorem ofCall_arrived (before : List Item) (account : Account) (failure : Option Failure) (arrived : List Post) :
    (Run.ofCall before account failure arrived).arrived = arrived := by
  cases failure <;> rfl

theorem ofCall_account (events : List Event) (values : List Value) (account : Account) (failure : Option Failure)
    (arrived : List Post) :
    (Run.ofCall (events.map .event ++ values.map .outcome) account failure arrived).items.filterMap Item.account? = [account] := by
  cases failure <;> simp [Run.ofCall,List.filterMap_append,List.filterMap_map,Function.comp_def,Item.account?]

section Runs

variable (base : String) (network : Network) (line : CommandLine)

def Calls (delivery : Delivery) (account : Account) : Prop :=
  ∃ later, (Session.start .log).callOver base network "main" line.caller line.call = some (later,delivery) ∧
    later.accounts.snapshot? "main" = some account

theorem attempt_calls : ∃ delivery, Calls base network line delivery
      ((attempt base network line.caller line.call).completion.account .initial) ∧
    delivery.arrived = (attempt base network line.caller line.call).arrived ∧
    delivery.trace.events = (attempt base network line.caller line.call).completion.events .log := by
  refine ⟨_,⟨_,(Session.start .log).callOver_bound base network "main" line.caller line.call 0 rfl,?_⟩,rfl,?_⟩
  · rw [Session.settle_snapshot _ "main" 0 _ ⟨.initial,0⟩ rfl rfl,attempt_completion,account_edits]
  · rw [attempt_completion]
    rfl

variable {base : String} {network : Network} {line : CommandLine}

theorem attempt_done {record : (answerKind line.call).Record}
    (answers : Answers base network (line.call.request line.caller) (answerKind line.call).shape record) :
    Run.ofAttempt (attempt base network line.caller line.call) =
      ⟨0,(((attempt base network line.caller line.call).completion.events .log).filter isShown).map .event ++
        (payload (answerKind line.call) record).toList.map .outcome ++
        [.account ((attempt base network line.caller line.call).completion.account .initial)],
        (attempt base network line.caller line.call).arrived⟩ := by
  have replied := (answers_reply base network _ _ record).mp answers
  obtain ⟨fine,outcome⟩ := @completeWith_ok line.call
    (fun shape => reply base network (line.call.request line.caller) shape) record replied
  rw [← attempt_completion] at fine outcome
  rw [Run.ofAttempt,fine,outcome]
  rfl

theorem attempt_failed
    (unanswered : ∀ record, ¬Answers base network (line.call.request line.caller) (answerKind line.call).shape record) :
    ∃ failure, Run.ofAttempt (attempt base network line.caller line.call) =
      ⟨1,(((attempt base network line.caller line.call).completion.events .log).filter isShown).map .event ++
        [.account ((attempt base network line.caller line.call).completion.account .initial),.event (failureEvent failure)],
        (attempt base network line.caller line.call).arrived⟩ := by
  cases replied : reply base network (line.call.request line.caller) (answerKind line.call).shape with
  | ok record => exact absurd ((answers_reply base network _ _ record).mpr replied) (unanswered record)
  | error cause =>
      obtain ⟨failed,outcome⟩ := @completeWith_error line.call
        (fun shape => reply base network (line.call.request line.caller) shape) cause replied
      rw [← attempt_completion] at failed outcome
      obtain ⟨failure,failed⟩ := Option.isSome_iff_exists.mp failed
      refine ⟨failure,?_⟩
      rw [Run.ofAttempt,failed,outcome]
      simp only [Option.toList_none,List.map_nil,List.append_nil]
      rfl

end Runs

theorem run_refused {env : Environment} {words : List String} {line : CommandLine} (network : Network)
    (accepted : CommandLine.read env words = .ok line) {raw : String} (refused : Refused env line raw) :
    run env words network = ⟨1,[.event (failureEvent (.link (refusal raw)))],[]⟩ := by
  rw [run,accepted]
  simp only [Run.ofCommandLine,settings_refused refused]

theorem run_based {env : Environment} {words : List String} {line : CommandLine} (network : Network)
    (accepted : CommandLine.read env words = .ok line) {base : String} (based : Based env line base) :
    run env words network = if lacksEmail line then .ofCall [] .initial (some .noEmail) []
      else .ofAttempt (attempt base network line.caller line.call) := by
  obtain ⟨s,made,rfl⟩ := settings_based based
  rw [run,accepted]
  simp only [Run.ofCommandLine,made]
  rfl

-- Every accepted command line: it stops at a base URL that is refused, or at a login without an address;
-- otherwise its call is made once, and the run is a success if the call is. A call makes one post, and ten more at
-- most where answers send it on.
theorem run_accepted (env : Environment) (words : List String) (network : Network) (line : CommandLine)
    (accepted : CommandLine.read env words = .ok line) :
    ((∃ raw, Refused env line raw) ∨ ∃ base, Based env line base) ∧
    (∀ raw, Refused env line raw → run env words network = ⟨1,[.event (failureEvent (.link (refusal raw)))],[]⟩) ∧
    (∀ base, Based env line base → Unaddressed line →
      run env words network = ⟨1,[.account .initial,.event (failureEvent .noEmail)],[]⟩) ∧
    ∀ base, Based env line base → ¬Unaddressed line → ∃ delivery account, Calls base network line delivery account ∧
      Reaches base network (line.call.request line.caller) delivery.arrived ∧
      (run env words network).arrived = delivery.arrived ∧ delivery.arrived.length ≤ 11 ∧
      (Stays base network (line.call.request line.caller) → delivery.arrived.length ≤ 1) ∧
      (run env words network).items.filterMap Item.account? = [account] ∧
      (∀ record, Answers base network (line.call.request line.caller) (answerKind line.call).shape record →
        (run env words network).exitCode = 0 ∧ ∃ above,
          (run env words network).items = above ++ [.account account] ∧
          above = (delivery.trace.events.filter isShown).map .event ++ (payload (answerKind line.call) record).toList.map .outcome ∧
          lines (run env words network).output.toList = lines (written above) ++ lines account.toValue.pretty.toList) ∧
      ((∀ record, ¬Answers base network (line.call.request line.caller) (answerKind line.call).shape record) →
        (run env words network).exitCode = 1 ∧ ∃ failure, (run env words network).items =
          (delivery.trace.events.filter isShown).map .event ++ [.account account,.event (failureEvent failure)]) := by
  refine ⟨refused_or_based env line,fun raw => run_refused network accepted,fun base based unaddressed => ?_,
    fun base based addressed => ?_⟩
  · rw [run_based network accepted based,if_pos ((lacksEmail_exact line).mpr unaddressed)]
    rfl
  · obtain ⟨delivery,calls,arrived,events⟩ := attempt_calls base network line
    have made := run_based network accepted based
    rw [if_neg (mt (lacksEmail_exact line).mp addressed)] at made
    have reaches := (attempt_arrived base network _ _ _).mpr arrived.symm
    refine ⟨delivery,_,calls,reaches,?_,reaches.bounded.1,reaches.bounded.2,?_,fun record answers => ?_,fun unanswered => ?_⟩
    · rw [made,Run.ofAttempt,ofCall_arrived,arrived]
    · rw [made,Run.ofAttempt,ofCall_account]
    · rw [made,output_written,attempt_done answers,events]
      exact ⟨rfl,_,rfl,rfl,lines_account _ _⟩
    · obtain ⟨failure,failed⟩ := attempt_failed unanswered
      rw [made,failed,events]
      exact ⟨rfl,failure,rfl⟩

def leaving : List String := ["--base-url","http://a","--token","tok","logout"]

def left : CommandLine := ⟨some "http://a",⟨"tok",""⟩,.logout⟩

def only (url : Variable) : Environment := fun name => if name = Settings.baseUrlVariable then url else .unset

theorem leaving_accepted (url : Variable) : CommandLine.read (only url) leaving = .ok left := by
  have email : only url emailVariable = .unset := by rfl
  have token : only url tokenVariable = .unset := by rfl
  simp only [CommandLine.read,email,token]
  decide +kernel

theorem left_based : Based (only .unset) left (String.ofList "http://a".toList) := by
  have normal : Settings.normalize (variableUrl (only .unset)).toList = some Settings.defaultBaseUrl.toList := by decide +kernel
  have given : Settings.normalize "http://a".toList = some "http://a".toList := by decide +kernel
  exact .option normal rfl given

theorem left_refused : Refused (only (.text "ftp://b")) left "ftp://b" := .environment (by decide +kernel)

theorem left_answered : Answers (String.ofList "http://a".toList) goodbye ⟨"tok",.logout⟩ StatusReply.shape ⟨some "bye"⟩ := by
  rw [answers_reply]
  decide +kernel

theorem run_accepted_goodbye :
    (run (only .unset) leaving goodbye).exitCode = 0 ∧
    run (only (.text "ftp://b")) leaving goodbye = ⟨1,[.event (failureEvent (.link (refusal "ftp://b")))],[]⟩ := by
  obtain ⟨_,_,_,calls⟩ := run_accepted (only .unset) leaving goodbye _ (leaving_accepted .unset)
  obtain ⟨_,refused,_⟩ := run_accepted (only (.text "ftp://b")) leaving goodbye _ (leaving_accepted (.text "ftp://b"))
  have addressed : ¬Unaddressed left := by simp [Unaddressed,left]
  obtain ⟨_,_,_,_,_,_,_,_,success,_⟩ := calls _ left_based addressed
  exact ⟨(success _ left_answered).1,refused _ left_refused⟩

-- A run whose post is sent on makes another one, and it is the answer to that one that counts.
theorem run_roundabout : (run (only .unset) leaving roundabout).arrived.length = 2 ∧
    (run (only .unset) leaving roundabout).exitCode = 0 := by
  rw [run,leaving_accepted]
  decide +kernel

end AccountLink.Program
