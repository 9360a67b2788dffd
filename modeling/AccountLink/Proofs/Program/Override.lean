import AccountLink.Proofs.Program.Runs

namespace AccountLink.Program

open AccountLink.Http AccountLink.Wire

def Alike (env other : Environment) : Prop := ∀ name, name ≠ Settings.baseUrlVariable → env name = other name

-- The variable gives a base URL or leaves it to the default; bytes that are no text do the latter.
def Usable (env : Environment) : Prop := ∃ normal, Settings.normalize (variableUrl env).toList = some normal

section Lines

variable {env other : Environment} {line : CommandLine}

theorem read_alike (alike : Alike env other) (words : List String) :
    CommandLine.read other words = CommandLine.read env words := by
  have token : env tokenVariable = other tokenVariable := alike _ (by decide)
  have email : env emailVariable = other emailVariable := alike _ (by decide)
  simp only [CommandLine.read,token,email]

theorem refused_unusable (unusable : ¬Usable env) : Refused env line (variableUrl env) := by
  refine .environment ?_
  cases found : Settings.normalize (variableUrl env).toList with
  | none => rfl
  | some normal => exact absurd ⟨normal,found⟩ unusable

theorem refused_usable (usable : Usable env) (raw : String) :
    Refused env line raw ↔ line.baseUrl = some raw ∧ Settings.normalize raw.toList = none := by
  obtain ⟨normal,accepted⟩ := usable
  constructor
  · intro refused
    cases refused with
    | environment refused => rw [accepted] at refused; cases refused
    | option _ stated refused => exact ⟨stated,refused⟩
  · exact fun ⟨stated,refused⟩ => .option accepted stated refused

theorem based_unrefused {base : String} (based : Based env line base) (raw : String) : ¬Refused env line raw := by
  intro refused
  obtain ⟨_,made,_⟩ := settings_based based
  rw [settings_refused refused] at made
  cases made

theorem based_stated {url base : String} (stated : line.baseUrl = some url) (based : Based env line base) :
    ∃ normal, Settings.normalize url.toList = some normal ∧ base = String.ofList normal := by
  cases based with
  | environment _ unstated => rw [stated] at unstated; cases unstated
  | option _ given normalized =>
      rw [stated] at given
      cases given
      exact ⟨_,normalized,rfl⟩

end Lines

theorem refusal_message (raw : String) :
    (Failure.link (refusal raw)).message = "config parse failed: " ++ ("base URL must be http(s): '" ++ raw ++ "'") := rfl

theorem refusal_inj {raw given : String} (same : failureEvent (.link (refusal raw)) = failureEvent (.link (refusal given))) :
    raw = given := by
  simp only [failureEvent,Event.mk.injEq,true_and,List.cons.injEq,Prod.mk.injEq,and_true,refusal_message] at same
  have quoted := (String.append_left_inj _).mp ((String.append_right_inj _).mp same)
  exact (String.append_right_inj _).mp quoted

section Runs

variable {env other : Environment} {words : List String} {line : CommandLine} {network : Network}

theorem run_shows {base : String} (network : Network) (accepted : CommandLine.read env words = .ok line) (based : Based env line base) :
    ∃ account, (run env words network).items.filterMap Item.account? = [account] := by
  rw [run_based network accepted based]
  split
  · exact ⟨.initial,rfl⟩
  · exact ⟨_,ofCall_account _ _ _ _ _⟩

theorem same_refused {raw : String} (accepted : CommandLine.read env words = .ok line)
    (read : CommandLine.read other words = .ok line) (same : run env words network = run other words network)
    (refused : Refused env line raw) : Refused other line raw := by
  have stops := run_refused network accepted refused
  rcases refused_or_based other line with ⟨given,elsewhere⟩ | ⟨base,based⟩
  · rw [same,run_refused network read elsewhere] at stops
    simp only [Run.mk.injEq,List.cons.injEq,Item.event.injEq,true_and,and_true] at stops
    rwa [← refusal_inj stops]
  · obtain ⟨account,shows⟩ := run_shows network read based
    rw [← same,stops] at shows
    cases shows

theorem refused_same {url : String} (accepted : CommandLine.read env words = .ok line)
    (read : CommandLine.read other words = .ok line) (stated : line.baseUrl = some url)
    (alike : ∀ raw, Refused env line raw ↔ Refused other line raw) : run env words network = run other words network := by
  rcases refused_or_based env line with ⟨raw,refused⟩ | ⟨base,based⟩
  · rw [run_refused network accepted refused,run_refused network read ((alike raw).mp refused)]
  · rcases refused_or_based other line with ⟨raw,refused⟩ | ⟨given,elsewhere⟩
    · exact absurd ((alike raw).mpr refused) (based_unrefused based raw)
    · obtain ⟨normal,normalized,rfl⟩ := based_stated stated based
      obtain ⟨_,again,rfl⟩ := based_stated stated elsewhere
      cases normalized.symm.trans again
      rw [run_based network accepted based,run_based network read elsewhere]

end Runs

-- A variable that can be used, or that is not set, has no effect beside the option. One that cannot be used ends
-- the run: two runs are the same exactly if the same is refused in both.
theorem run_overridden (env other : Environment) (words : List String) (network : Network) (alike : Alike env other)
    (overridden : ∀ line, CommandLine.read env words = .ok line → ∃ url, line.baseUrl = some url) :
    CommandLine.read other words = CommandLine.read env words ∧
    (∀ stop, CommandLine.read env words = .error stop → run env words network = run other words network) ∧
    (Usable env → Usable other → run env words network = run other words network) ∧
    ∀ line, CommandLine.read env words = .ok line →
      (¬Usable env → run env words network = ⟨1,[.event (failureEvent (.link (refusal (variableUrl env))))],[]⟩) ∧
      (run env words network = run other words network ↔ ∀ raw, Refused env line raw ↔ Refused other line raw) := by
  have read := read_alike alike words
  have stopped : ∀ stop, CommandLine.read env words = .error stop → run env words network = run other words network := by
    intro stop misread
    rw [run,run,read,misread]
  refine ⟨read,stopped,fun usable elsewhere => ?_,fun line accepted =>
    ⟨fun unusable => run_refused network accepted (refused_unusable unusable),fun same raw => ?_,fun refused => ?_⟩⟩
  · cases made : CommandLine.read env words with
    | error stop => exact stopped stop made
    | ok line =>
        obtain ⟨url,stated⟩ := overridden line made
        refine refused_same made (read.trans made) stated fun raw => ?_
        rw [refused_usable usable,refused_usable elsewhere]
  · exact ⟨same_refused accepted (read.trans accepted) same,same_refused (read.trans accepted) accepted same.symm⟩
  · obtain ⟨url,stated⟩ := overridden line accepted
    exact refused_same accepted (read.trans accepted) stated refused

theorem only_alike (url elsewhere : Variable) : Alike (only url) (only elsewhere) := by
  intro name differs
  simp [only,differs]

theorem leaving_stated (url : Variable) (line : CommandLine) (accepted : CommandLine.read (only url) leaving = .ok line) :
    ∃ given, line.baseUrl = some given := by
  rw [leaving_accepted] at accepted
  cases accepted
  exact ⟨_,rfl⟩

theorem run_overridden_leaving :
    run (only .bytes) leaving goodbye = run (only (.text "https://b/")) leaving goodbye ∧
    run (only (.text "ftp://b")) leaving goodbye = ⟨1,[.event (failureEvent (.link (refusal "ftp://b")))],[]⟩ := by
  obtain ⟨_,_,same,_⟩ := run_overridden _ _ leaving goodbye (only_alike .bytes (.text "https://b/")) (leaving_stated _)
  obtain ⟨_,_,_,ends⟩ := run_overridden _ _ leaving goodbye (only_alike (.text "ftp://b") .unset) (leaving_stated _)
  have default : Settings.normalize (variableUrl (only .bytes)).toList = some Settings.defaultBaseUrl.toList := by decide +kernel
  have given : Settings.normalize (variableUrl (only (.text "https://b/"))).toList = some "https://b".toList := by decide +kernel
  have unusable : ¬Usable (only (.text "ftp://b")) := fun usable =>
    absurd ((refused_usable usable _).mp left_refused).1 (by decide +kernel)
  exact ⟨same ⟨_,default⟩ ⟨_,given⟩,(ends _ (leaving_accepted _)).1 unusable⟩

theorem option_hindered :
    ¬∀ (env other : Environment) (words : List String) (network : Network), Alike env other →
      (∀ line, CommandLine.read env words = .ok line → ∃ url, line.baseUrl = some url) →
      (run env words network).exitCode = (run other words network).exitCode ∧
      (run env words network).output = (run other words network).output ∧
      (run env words network).arrived = (run other words network).arrived := by
  intro overrides
  have same := (overrides _ _ leaving goodbye (only_alike .unset (.text "ftp://b")) (leaving_stated _)).1
  have lacking : lacksEmail left = false := by rfl
  rw [run_based goodbye (leaving_accepted _) left_based,lacking,if_neg Bool.false_ne_true,
    @attempt_done _ goodbye left ⟨some "bye"⟩ left_answered,run_refused goodbye (leaving_accepted _) left_refused] at same
  cases same

end AccountLink.Program
