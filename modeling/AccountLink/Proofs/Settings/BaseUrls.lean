import Mathlib.Data.List.Basic
import AccountLink.Proofs.Text.Blank
import AccountLink.Settings

namespace AccountLink

open AccountLink.Text

theorem normalize_exact (raw url : List Char) : Settings.normalize raw = some url ↔
    (∃ scheme ∈ Settings.schemes, scheme <+: url) ∧ (∀ c ∈ url.getLast?, c ≠ '/') ∧
      ∃ slashes, (∀ c ∈ slashes, c = '/') ∧ trim raw = url ++ slashes := by
  have bare : trimRight (· = '/') (trim raw) = url ↔ (∀ c ∈ url.getLast?, c ≠ '/') ∧
      ∃ slashes, (∀ c ∈ slashes, c = '/') ∧ trim raw = url ++ slashes := by
    simp only [trimRight_exact,decide_eq_true_eq,decide_eq_false_iff_not]
  rw [← bare,Settings.normalize]
  constructor
  · intro kept
    split at kept
    · next starts =>
        cases kept
        obtain ⟨scheme,known,start⟩ := List.any_eq_true.mp starts
        exact ⟨⟨scheme,known,List.isPrefixOf_iff_prefix.mp start⟩,rfl⟩
    · cases kept
  · intro ⟨⟨scheme,known,start⟩,left⟩
    have starts : Settings.schemes.any (·.isPrefixOf url) = true :=
      List.any_eq_true.mpr ⟨scheme,known,List.isPrefixOf_iff_prefix.mpr start⟩
    rw [left,if_pos starts]

theorem ofBaseUrl_exact (raw : String) (settings : Settings) : Settings.ofBaseUrl raw = .ok settings ↔
    ∃ url, Settings.normalize raw.toList = some url ∧ settings = ⟨String.ofList url,none,none⟩ := by
  unfold Settings.ofBaseUrl Settings.checkBaseUrl
  cases Settings.normalize raw.toList with
  | none => exact ⟨nofun,nofun⟩
  | some url =>
      constructor
      · intro kept
        cases kept
        exact ⟨url,rfl,rfl⟩
      · intro ⟨_,found,same⟩
        cases found
        rw [same]
        rfl

theorem scheme_cases {scheme : List Char} (known : scheme ∈ Settings.schemes) :
    scheme = "http://".toList ∨ scheme = "https://".toList := by
  simpa [Settings.schemes] using known

section Normal

variable {raw url : List Char} (kept : Settings.normalize raw = some url)
include kept

theorem normal_scheme : ∃ scheme ∈ Settings.schemes, ∃ c rest, url = scheme ++ c :: rest := by
  obtain ⟨⟨scheme,known,rest,rfl⟩,unslashed,_⟩ := (normalize_exact _ _).mp kept
  refine ⟨scheme,known,?_⟩
  cases rest with
  | cons c rest => exact ⟨c,rest,rfl⟩
  | nil =>
      -- A scheme ends with a slash, and a base URL does not.
      have slash : ∀ scheme ∈ Settings.schemes, '/' ∈ (scheme ++ []).getLast? := by decide +kernel
      exact absurd rfl (unslashed '/' (slash scheme known))

theorem normal_opens : ∀ c ∈ url.head?, isBlank c = false := by
  obtain ⟨scheme,known,c,rest,rfl⟩ := normal_scheme kept
  intro c opens
  rcases scheme_cases known with rfl | rfl
  · cases opens
    decide
  · cases opens
    decide

theorem normal_some : url ≠ [] := by
  obtain ⟨scheme,_,c,rest,rfl⟩ := normal_scheme kept
  simp

theorem normal_again : Settings.normalize url = some url ↔ ∀ c ∈ url.getLast?, isBlank c = false := by
  obtain ⟨schemed,unslashed,_⟩ := (normalize_exact _ _).mp kept
  constructor
  · intro again
    obtain ⟨_,_,slashes,_,left⟩ := (normalize_exact _ _).mp again
    obtain ⟨trimmed,front,back,_,_,whole⟩ := (trim_exact _ _).mp left
    have lengths := congrArg List.length whole
    simp only [List.length_append] at lengths
    have none : slashes = [] := List.eq_nil_of_length_eq_zero (by omega)
    rw [none,List.append_nil] at trimmed
    exact trimmed.ends
  · intro ends
    exact (normalize_exact _ _).mpr ⟨schemed,unslashed,[],nofun,by rw [List.append_nil,trim_trimmed ⟨normal_opens kept,ends⟩]⟩

end Normal

theorem ofBaseUrl_scheme {raw : String} {settings : Settings} (accepted : Settings.ofBaseUrl raw = .ok settings) :
    ∃ scheme ∈ Settings.schemes, ∃ rest, settings.baseUrl.toList = scheme ++ rest := by
  obtain ⟨url,kept,rfl⟩ := (ofBaseUrl_exact raw settings).mp accepted
  obtain ⟨scheme,known,c,rest,split⟩ := normal_scheme kept
  exact ⟨scheme,known,c :: rest,by rw [String.toList_ofList,split]⟩

inductive Gapped : List Char → Prop where
  | gap {front blank slashes back} (space : isBlank blank = true) (some : slashes ≠ [])
      (only : ∀ c ∈ slashes, c = '/') (after : White back) : Gapped (front ++ blank :: slashes ++ back)

theorem slashes_solid {slashes : List Char} (some : slashes ≠ []) (only : ∀ c ∈ slashes, c = '/') (front : List Char) :
    ∀ c ∈ (front ++ slashes).getLast?, isBlank c = false := by
  intro c last
  rw [List.getLast?_append_of_ne_nil _ some] at last
  rw [only c (List.mem_of_getLast? last)]
  decide

theorem space_unslashed {blank : Char} (space : isBlank blank = true) (front : List Char) :
    ∀ c ∈ (front ++ [blank]).getLast?, decide (c = '/') = false := by
  intro c last
  rw [List.getLast?_concat] at last
  cases last
  apply decide_eq_false
  intro slash
  rw [slash] at space
  cases space

section Gaps

variable {raw url : List Char} (kept : Settings.normalize raw = some url)
include kept

-- There are two ways to read the text, by its gap and by the base URL in it. In both, what stands in front of the
-- white space at the end is the same, and so is what stands in front of the slashes there.
theorem gapped_spaced (gapped : Gapped raw) : ∃ c ∈ url.getLast?, isBlank c = true := by
  obtain ⟨_,unslashed,more,others,left⟩ := (normalize_exact _ _).mp kept
  obtain ⟨trimmed,before,behind,_,following,whole⟩ := (trim_exact _ _).mp left
  have filled := normal_some kept
  cases gapped with
  | @gap front blank slashes back space some only after =>
      have solid : ∀ c ∈ (before ++ (url ++ more)).getLast?, isBlank c = false := by
        intro c last
        rw [List.getLast?_append_of_ne_nil _ (List.append_ne_nil_of_left_ne_nil filled _)] at last
        exact trimmed.ends c last
      have bare : ∀ c ∈ (before ++ url).getLast?, decide (c = '/') = false := by
        intro c last
        rw [List.getLast?_append_of_ne_nil _ filled] at last
        exact decide_eq_false (unslashed c last)
      rw [List.append_cons] at whole
      have same := trimRight_unique (slashes_solid some only (front ++ [blank])) after solid following whole
      rw [← List.append_assoc] at same
      have cut : front ++ [blank] = before ++ url :=
        trimRight_unique (space_unslashed space front) (by simpa using only) bare (by simpa using others) same
      refine ⟨blank,?_,space⟩
      rw [← List.getLast?_append_of_ne_nil before filled,← cut]
      exact List.getLast?_concat

theorem spaced_gapped (spaced : ∃ c ∈ url.getLast?, isBlank c = true) : Gapped raw := by
  obtain ⟨_,_,more,others,left⟩ := (normalize_exact _ _).mp kept
  obtain ⟨trimmed,before,behind,_,following,whole⟩ := (trim_exact _ _).mp left
  obtain ⟨c,last,space⟩ := spaced
  obtain ⟨front,rfl⟩ := List.getLast?_eq_some_iff.mp last
  have some : more ≠ [] := by
    intro none
    rw [none,List.append_nil] at trimmed
    rw [trimmed.ends c last] at space
    cases space
  have gap : Gapped ((before ++ front) ++ c :: more ++ behind) := .gap space some others following
  rw [whole]
  simpa using gap

theorem gapped_exact : Gapped raw ↔ ∃ c ∈ url.getLast?, isBlank c = true := ⟨gapped_spaced kept,spaced_gapped kept⟩

end Gaps

-- For every text that is taken for a base URL. White space is taken away before slashes are and not after, so a
-- text with white space in front of the slashes at its end, and no other, leaves some at the end of the base URL,
-- which is then no normal form.
theorem ofBaseUrl_normal (raw : String) (settings : Settings) (accepted : Settings.ofBaseUrl raw = .ok settings) :
    (∃ scheme ∈ ["http://","https://"], ∃ c rest, settings.baseUrl.toList = scheme.toList ++ c :: rest) ∧
    (∀ c ∈ settings.baseUrl.toList.getLast?, c ≠ '/') ∧
    (∀ c ∈ settings.baseUrl.toList.head?, isBlank c = false) ∧
    ((∃ c ∈ settings.baseUrl.toList.getLast?, isBlank c = true) ↔ Gapped raw.toList) ∧
    (Settings.ofBaseUrl settings.baseUrl = .ok settings ↔ ¬Gapped raw.toList) := by
  obtain ⟨url,kept,rfl⟩ := (ofBaseUrl_exact raw settings).mp accepted
  rw [ofBaseUrl_exact,String.toList_ofList,gapped_exact kept]
  refine ⟨?_,((normalize_exact _ _).mp kept).2.1,normal_opens kept,Iff.rfl,?_⟩
  · obtain ⟨scheme,known,c,rest,split⟩ := normal_scheme kept
    obtain ⟨name,named,rfl⟩ := List.mem_map.mp (show scheme ∈ ["http://","https://"].map String.toList from known)
    exact ⟨name,named,c,rest,split⟩
  · have unspaced : (¬∃ c ∈ url.getLast?, isBlank c = true) ↔ Settings.normalize url = some url := by
      rw [normal_again kept]
      simp
    rw [unspaced]
    constructor
    · intro ⟨again,found,same⟩
      rw [Settings.mk.injEq,String.ofList_inj] at same
      rw [found,same.1]
    · exact fun again => ⟨url,again,rfl⟩

theorem ofBaseUrl_normal_gapped : Settings.ofBaseUrl "https://b/ " ≠ .ok ⟨"https://b/ ",none,none⟩ ∧
    Settings.ofBaseUrl "http://a/b" = .ok ⟨"http://a/b",none,none⟩ := by
  have gapped : Gapped (" https://b/".toList ++ ' ' :: ['/','/'] ++ [' ']) :=
    .gap (by decide) (by simp) (by simp) fun c member => by rw [List.mem_singleton.mp member]; decide
  have accepted : Settings.ofBaseUrl " https://b/ // " = .ok ⟨"https://b/ ",none,none⟩ := by decide +kernel
  have other : Settings.ofBaseUrl " http://a/b// " = .ok ⟨"http://a/b",none,none⟩ := by decide +kernel
  obtain ⟨_,_,_,_,settled⟩ := ofBaseUrl_normal _ _ accepted
  obtain ⟨_,_,_,spaced,otherSettled⟩ := ofBaseUrl_normal _ _ other
  have ends : "http://a/b".toList.getLast? = some 'b' := by decide +kernel
  refine ⟨fun again => settled.mp again gapped,otherSettled.mpr (mt spaced.mpr ?_)⟩
  intro ⟨c,last,space⟩
  cases Option.some.inj (ends.symm.trans last)
  cases space

theorem gapped_unsettled :
    (¬∀ raw settings, Settings.ofBaseUrl raw = .ok settings →
      ∀ c ∈ settings.baseUrl.toList.getLast?, isBlank c = false) ∧
    (¬∀ raw settings, Settings.ofBaseUrl raw = .ok settings → Settings.ofBaseUrl settings.baseUrl = .ok settings) ∧
    ¬∀ raw settings, Settings.ofBaseUrl raw = .ok settings → ∃ again, Settings.ofBaseUrl settings.baseUrl = .ok again := by
  have accepted : Settings.ofBaseUrl "http://x /" = .ok ⟨"http://x ",none,none⟩ := by decide +kernel
  have another : Settings.ofBaseUrl "http://x " = .ok ⟨"http://x",none,none⟩ := by decide +kernel
  have bare : Settings.ofBaseUrl "http:// /" = .ok ⟨"http:// ",none,none⟩ := by decide +kernel
  refine ⟨fun trimmed => ?_,fun settled => ?_,fun kept => ?_⟩
  · exact absurd (trimmed _ _ accepted ' ' (by decide +kernel)) (by decide)
  · have same := settled _ _ accepted
    rw [another] at same
    exact absurd same (by decide +kernel)
  · obtain ⟨again,found⟩ := kept _ _ bare
    have refused : Settings.normalize "http:// ".toList = none := by decide +kernel
    obtain ⟨url,normal,_⟩ := (ofBaseUrl_exact _ _).mp found
    rw [refused] at normal
    cases normal

end AccountLink
