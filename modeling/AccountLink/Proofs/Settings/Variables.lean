import Mathlib.Data.Nat.Digits.Defs
import Mathlib.Logic.Function.Basic
import AccountLink.Proofs.Text.Blank
import AccountLink.Settings

namespace AccountLink

open AccountLink.Text

def decimalValue (digits : List Char) : Nat := Nat.ofDigits 10 (digits.reverse.map fun d => d.toNat - '0'.toNat)

-- Texts that state a number of seconds, which has 64 bits and is not zero.
inductive Seconds : List Char → Nat → Prop where
  | stated {front sign digits back n} (before : White front) (signed : sign = [] ∨ sign = ['+']) (filled : digits ≠ [])
      (decimal : ∀ d ∈ digits, d.isDigit = true) (value : decimalValue digits = n) (positive : 1 ≤ n)
      (bounded : n < 2^64) (after : White back) : Seconds (front ++ (sign ++ digits) ++ back) n

theorem decimalValue_cons (d : Char) (digits : List Char) :
    decimalValue (d :: digits) = 10^digits.length*(d.toNat - '0'.toNat)+decimalValue digits := by
  unfold decimalValue
  rw [List.reverse_cons,List.map_append,Nat.ofDigits_append,List.length_map,List.length_reverse,List.map_singleton,
    Nat.ofDigits_singleton,Nat.add_comm]

theorem ofDigitChars_value (digits : List Char) : Nat.ofDigitChars 10 digits 0 = decimalValue digits := by
  induction digits with
  | nil => rfl
  | cons d digits ih =>
      rw [Nat.ofDigitChars_cons,Nat.ofDigitChars_eq_ofDigitChars_zero,ih,decimalValue_cons,Nat.mul_zero,Nat.zero_add]

theorem digit_solid {d : Char} (decimal : d.isDigit = true) : isBlank d = false := by
  have bounds : 48 ≤ d.toNat ∧ d.toNat ≤ 57 := Char.isDigit_iff_toNat.mp decimal
  simp only [isBlank,blankRanges,Ranges.holds,List.any_cons,List.any_nil,Bool.or_eq_false_iff,Bool.and_eq_false_iff,
    decide_eq_false_iff_not,Nat.not_le,and_true]
  omega

theorem digits_trimmed {sign digits : List Char} (signed : sign = [] ∨ sign = ['+'])
    (decimal : ∀ d ∈ digits, d.isDigit = true) : Trimmed (sign ++ digits) := by
  have solid : ∀ c ∈ sign ++ digits, isBlank c = false := by
    intro c member
    rcases List.mem_append.mp member with inSign | inDigits
    · rcases signed with rfl | rfl
      · cases inSign
      · rw [List.mem_singleton.mp inSign]
        decide
    · exact digit_solid (decimal c inDigits)
  exact ⟨fun c first => solid c (List.mem_of_head? first),fun c last => solid c (List.mem_of_getLast? last)⟩

def unsigned (text : List Char) : List Char :=
  match text with
  | '+' :: rest => rest
  | other => other

theorem unsigned_exact {text digits : List Char} (decimal : ∀ d ∈ digits, d.isDigit = true) :
    unsigned text = digits ↔ ∃ sign, (sign = [] ∨ sign = ['+']) ∧ text = sign ++ digits := by
  unfold unsigned
  constructor
  · intro left
    split at left
    · exact ⟨['+'],.inr rfl,by rw [left]; rfl⟩
    · exact ⟨[],.inl rfl,left⟩
  · intro ⟨sign,signed,stands⟩
    rcases signed with rfl | rfl
    · split
      · next rest =>
          rw [List.nil_append] at stands
          rw [← stands] at decimal
          exact absurd (decimal '+' List.mem_cons_self) (by decide)
      · exact stands
    · rw [stands]
      rfl

theorem parseSeconds_unsigned (raw : List Char) (n : Nat) : Settings.parseSeconds raw = some n ↔
    ∃ digits, unsigned (trim raw) = digits ∧ digits ≠ [] ∧ (∀ d ∈ digits, d.isDigit = true) ∧
      decimalValue digits = n ∧ 1 ≤ n ∧ n < 2^64 := by
  have parsed : Settings.parseSeconds raw = if (unsigned (trim raw)).isEmpty || !(unsigned (trim raw)).all Char.isDigit
      then none else if 0 < Nat.ofDigitChars 10 (unsigned (trim raw)) 0 ∧ Nat.ofDigitChars 10 (unsigned (trim raw)) 0 < 2^64
        then some (Nat.ofDigitChars 10 (unsigned (trim raw)) 0) else none := rfl
  have digital (digits : List Char) : (digits.isEmpty || !digits.all Char.isDigit) = false ↔
      digits ≠ [] ∧ ∀ d ∈ digits, d.isDigit = true := by simp
  rw [parsed,ofDigitChars_value]
  constructor
  · intro found
    split at found
    · cases found
    next stated =>
      obtain ⟨filled,decimal⟩ := (digital _).mp (Bool.eq_false_of_not_eq_true stated)
      split at found
      · next within =>
          cases found
          exact ⟨_,rfl,filled,decimal,rfl,within⟩
      · cases found
  · intro ⟨digits,left,filled,decimal,value,within⟩
    rw [left,(digital digits).mpr ⟨filled,decimal⟩,value,if_neg Bool.false_ne_true]
    exact if_pos within

theorem parseSeconds_exact (raw : List Char) (n : Nat) : Settings.parseSeconds raw = some n ↔ Seconds raw n := by
  rw [parseSeconds_unsigned]
  constructor
  · intro ⟨digits,left,filled,decimal,value,positive,bounded⟩
    obtain ⟨sign,signed,stands⟩ := (unsigned_exact decimal).mp left
    obtain ⟨_,front,back,before,after,rfl⟩ := (trim_exact _ _).mp stands
    exact .stated before signed filled decimal value positive bounded after
  · intro seconds
    cases seconds with
    | @stated front sign digits back _ before signed filled decimal value positive bounded after =>
        have trimmed := (trim_exact _ _).mpr ⟨digits_trimmed signed decimal,front,back,before,after,rfl⟩
        exact ⟨digits,(unsigned_exact decimal).mpr ⟨sign,signed,trimmed⟩,filled,decimal,value,positive,bounded⟩

example : Settings.parseSeconds "+00018446744073709551615 ".toList = some 18446744073709551615 := by decide +kernel
example : Settings.parseSeconds "18446744073709551616".toList = none := by decide +kernel

-- What a variable says of a time limit, and what of the base URL. Bytes that are no text say as much as no value.
inductive Limits : Variable → Nat → Prop where
  | text {s : String} {n} (seconds : Seconds s.toList n) : Limits (.text s) n

inductive Locates : Variable → String → Prop where
  | unset : Locates .unset Settings.defaultBaseUrl
  | bytes : Locates .bytes Settings.defaultBaseUrl
  | text {raw settings} (accepted : Settings.ofBaseUrl raw = .ok settings) : Locates (.text raw) settings.baseUrl

theorem secondsOf_exact (v : Variable) (n : Nat) : Settings.secondsOf v = some n ↔ Limits v n := by
  cases v with
  | unset => exact ⟨nofun,nofun⟩
  | bytes => exact ⟨nofun,nofun⟩
  | text s =>
      refine (parseSeconds_exact s.toList n).trans ⟨.text,?_⟩
      intro limits
      cases limits with
      | text seconds => exact seconds

theorem seconds_exact (v : Variable) (seconds : Option Nat) :
    seconds = Settings.secondsOf v ↔ ∀ n, seconds = some n ↔ Limits v n := by
  constructor
  · intro same n
    rw [same,secondsOf_exact]
  · intro limited
    exact Option.ext fun n => (limited n).trans (secondsOf_exact v n).symm

theorem map_error {ε α β : Type} {x : Except ε α} {f : α → β} {e : ε} : x.map f = .error e ↔ x = .error e := by
  cases x <;> simp [Except.map]

theorem map_ok {ε α β : Type} {x : Except ε α} {f : α → β} {b : β} : x.map f = .ok b ↔ ∃ a, x = .ok a ∧ f a = b := by
  cases x <;> simp [Except.map]

theorem ofBaseUrl_checked (raw : String) : Settings.ofBaseUrl raw = (Settings.checkBaseUrl raw).map (⟨·,none,none⟩) := by
  rw [Settings.ofBaseUrl]
  cases Settings.checkBaseUrl raw <;> rfl

def located (v : Variable) : String := v.text?.getD Settings.defaultBaseUrl

theorem located_default : Settings.checkBaseUrl Settings.defaultBaseUrl = .ok Settings.defaultBaseUrl := by
  decide +kernel

theorem located_error (v : Variable) (e : LinkError) :
    Settings.checkBaseUrl (located v) = .error e ↔ ∃ raw, v = .text raw ∧ Settings.ofBaseUrl raw = .error e := by
  simp only [ofBaseUrl_checked,map_error]
  constructor
  · intro refused
    cases v with
    | unset => cases located_default.symm.trans refused
    | bytes => cases located_default.symm.trans refused
    | text raw => exact ⟨raw,rfl,refused⟩
  · intro ⟨_,same,refused⟩
    cases same
    exact refused

theorem located_ok (v : Variable) (url : String) : Settings.checkBaseUrl (located v) = .ok url ↔ Locates v url := by
  constructor
  · intro found
    cases v with
    | unset =>
        cases located_default.symm.trans found
        exact .unset
    | bytes =>
        cases located_default.symm.trans found
        exact .bytes
    | text raw =>
        have accepted := (ofBaseUrl_checked raw).trans (map_ok.mpr ⟨url,found,rfl⟩)
        exact .text accepted
  · intro locates
    cases locates with
    | unset => exact located_default
    | bytes => exact located_default
    | text accepted =>
        rw [ofBaseUrl_checked,map_ok] at accepted
        obtain ⟨_,found,rfl⟩ := accepted
        exact found

theorem ofEnvironment_parts (env : Environment) : Settings.ofEnvironment env =
    (Settings.checkBaseUrl (located (env Settings.baseUrlVariable))).map fun url =>
      ⟨url,Settings.secondsOf (env Settings.requestVariable),Settings.secondsOf (env Settings.connectVariable)⟩ := by
  rw [Settings.ofEnvironment,located]
  cases Settings.checkBaseUrl ((env Settings.baseUrlVariable).text?.getD Settings.defaultBaseUrl) <;> rfl

-- For every environment. Only a base URL can be wrong, and what one variable says is the same beside all others.
theorem ofEnvironment_read (env : Environment) :
    (∀ e, Settings.ofEnvironment env = .error e ↔
      ∃ raw, env Settings.baseUrlVariable = .text raw ∧ Settings.ofBaseUrl raw = .error e) ∧
    (∀ settings, Settings.ofEnvironment env = .ok settings ↔
      Locates (env Settings.baseUrlVariable) settings.baseUrl ∧
      (∀ n, settings.requestSeconds = some n ↔ Limits (env Settings.requestVariable) n) ∧
      ∀ n, settings.connectSeconds = some n ↔ Limits (env Settings.connectVariable) n) ∧
    (∀ value, (Settings.ofEnvironment (Function.update env Settings.requestVariable value)).map
      ({· with requestSeconds := none}) = (Settings.ofEnvironment env).map ({· with requestSeconds := none})) ∧
    ∀ value, (Settings.ofEnvironment (Function.update env Settings.connectVariable value)).map
      ({· with connectSeconds := none}) = (Settings.ofEnvironment env).map ({· with connectSeconds := none}) := by
  have requestApart : Settings.baseUrlVariable ≠ Settings.requestVariable := by decide
  have connectApart : Settings.baseUrlVariable ≠ Settings.connectVariable := by decide
  have secondsApart : Settings.requestVariable ≠ Settings.connectVariable := by decide
  simp only [ofEnvironment_parts]
  refine ⟨?_,?_,?_,?_⟩
  · intro e
    rw [map_error,located_error]
  · intro settings
    rw [map_ok,← located_ok,← seconds_exact,← seconds_exact]
    constructor
    · intro ⟨url,found,made⟩
      cases made
      exact ⟨found,rfl,rfl⟩
    · intro ⟨found,request,connect⟩
      exact ⟨settings.baseUrl,found,by rw [← request,← connect]⟩
  · intro value
    rw [Function.update_of_ne requestApart,Function.update_of_ne secondsApart.symm]
    cases Settings.checkBaseUrl (located (env Settings.baseUrlVariable)) <;> rfl
  · intro value
    rw [Function.update_of_ne connectApart,Function.update_of_ne secondsApart]
    cases Settings.checkBaseUrl (located (env Settings.baseUrlVariable)) <;> rfl

end AccountLink
