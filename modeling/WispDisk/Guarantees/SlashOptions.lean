import Mathlib.Data.List.Forall2
import Mathlib.Data.List.TakeWhile
import WispDisk.Cli.Args

/-! The slash spelling of the options: what `normalize_windows_args` makes of an argument is stated
by the forms an argument can have, apart from the way the code splits it. -/
namespace WispDisk.Cli
set_option autoImplicit false

/-! ## The forms -/

/-- The names after a slash, with the options they stand for. -/
def slashNames : List (String × String) :=
  [("list", "list"), ("json", "json"), ("id", "id"), ("adapter", "adapter"), ("add", "add"),
    ("del", "del"), ("force", "force"), ("hdd", "hdd"), ("rem", "rem"), ("letter", "letter"),
    ("size", "size"), ("fs", "fs"), ("log", "log"), ("help", "help"), ("?", "help"),
    ("version", "version")]

/-- A name in any mixture of cases. -/
def SlashName (name : List Char) (option : String) : Prop :=
  (String.ofList (name.map toAsciiLowercase), option) ∈ slashNames

/-- The old name of `--log=debug`, in any mixture of cases. -/
def TimingsName (name : List Char) : Prop :=
  String.ofList (name.map toAsciiLowercase) = "timings"

/-- What may follow a name: nothing, or a colon and a value. -/
def OptionTail (tail : List Char) : Prop := tail = [] ∨ ∃ value, tail = ':' :: value

/-- An argument and its spelling for the parser. -/
inductive Spelled : OsString → OsString → Prop
  | flag {name : List Char} {option : String} (h : SlashName name option) :
      Spelled (.unicode ('/' :: name)) (.unicode ('-' :: '-' :: option.toList))
  | valued {name value : List Char} {option : String} (h : SlashName name option) :
      Spelled (.unicode ('/' :: (name ++ ':' :: value)))
        (.unicode ('-' :: '-' :: (option.toList ++ '=' :: value)))
  | timings {name tail : List Char} (h : TimingsName name) (htail : OptionTail tail) :
      Spelled (.unicode ('/' :: (name ++ tail))) (.unicode "--log=debug".toList)
  | kept {argument : OsString}
      (h : ∀ name tail, argument = .unicode ('/' :: (name ++ tail)) → OptionTail tail →
        ¬ TimingsName name ∧ ∀ option, ¬ SlashName name option) :
      Spelled argument argument

/-! ## Names -/

theorem canonicalOption_iff (name option : String) :
    canonicalOption name = some option ↔ (name, option) ∈ slashNames := by
  constructor
  · intro h
    unfold canonicalOption at h
    split at h
    all_goals
      cases h
      try decide
  · intro h
    have hall : ∀ entry ∈ slashNames, canonicalOption entry.1 = some entry.2 := by
      decide +kernel
    exact hall _ h

theorem canonicalOption_none {name : List Char} (h : ∀ option, ¬ SlashName name option) :
    canonicalOption (String.ofList (name.map toAsciiLowercase)) = none := by
  rw [Option.eq_none_iff_forall_ne_some]
  intro option hoption
  exact h option ((canonicalOption_iff _ _).mp hoption)

/-- Lowering the case keeps a colon. -/
theorem not_colon {name : List Char}
    (h : ':' ∉ (String.ofList (name.map toAsciiLowercase)).toList) : ':' ∉ name := by
  intro hcolon
  apply h
  rw [String.toList_ofList]
  have hmem : toAsciiLowercase ':' ∈ name.map toAsciiLowercase := List.mem_map_of_mem hcolon
  exact hmem

theorem SlashName.not_colon {name : List Char} {option : String} (h : SlashName name option) :
    ':' ∉ name := by
  have hall : ∀ entry ∈ slashNames, ':' ∉ entry.1.toList := by decide +kernel
  exact Cli.not_colon (hall _ h)

theorem TimingsName.not_colon {name : List Char} (h : TimingsName name) : ':' ∉ name := by
  apply Cli.not_colon
  rw [h]
  decide

theorem SlashName.not_timings {name : List Char} {option : String} (h : SlashName name option) :
    ¬ TimingsName name := by
  intro htimings
  have hall : ∀ entry ∈ slashNames, entry.1 ≠ "timings" := by decide +kernel
  exact hall _ h htimings

/-! ## Splitting -/

theorem beforeColon {name : List Char} (h : ':' ∉ name) : ∀ c ∈ name, (c != ':') = true := by
  intro c hc
  rw [bne_iff_ne]
  rintro rfl
  exact h hc

theorem splitOption_flag {name : List Char} (h : ':' ∉ name) :
    splitOption name = (name, none) := by
  unfold splitOption
  rw [List.dropWhile_eq_nil_iff.mpr (beforeColon h)]

theorem splitOption_valued {name value : List Char} (h : ':' ∉ name) :
    splitOption (name ++ ':' :: value) = (name, some value) := by
  have htake : (name ++ ':' :: value).takeWhile (· != ':') = name := by
    rw [List.takeWhile_append_of_pos (beforeColon h)]
    simp
  have hdrop : (name ++ ':' :: value).dropWhile (· != ':') = ':' :: value := by
    rw [List.dropWhile_append_of_pos (beforeColon h)]
    simp
  unfold splitOption
  rw [htake, hdrop]

/-- A slash option is a name with a tail, and it is split between them. -/
theorem splitOption_cases (slashOption : List Char) :
    (':' ∉ slashOption ∧ splitOption slashOption = (slashOption, none)) ∨
      ∃ name value, slashOption = name ++ ':' :: value ∧ ':' ∉ name ∧
        splitOption slashOption = (name, some value) := by
  by_cases h : ':' ∈ slashOption
  · obtain ⟨name, value, rfl, hname⟩ := List.eq_append_cons_of_mem h
    exact Or.inr ⟨name, value, rfl, hname, splitOption_valued hname⟩
  · exact Or.inl ⟨h, splitOption_flag h⟩

/-! ## One argument -/

theorem normalizeOne_timings {slashOption name : List Char} {value : Option (List Char)}
    (hsplit : splitOption slashOption = (name, value)) (h : TimingsName name) :
    normalizeOne (.unicode ('/' :: slashOption)) = .unicode "--log=debug".toList := by
  unfold TimingsName at h
  unfold normalizeOne
  simp only [hsplit]
  rw [if_pos h]

theorem normalizeOne_named {slashOption name : List Char} {value : Option (List Char)}
    {option : String} (hsplit : splitOption slashOption = (name, value))
    (h : SlashName name option) :
    normalizeOne (.unicode ('/' :: slashOption)) =
      .unicode ('-' :: '-' :: (option.toList ++ (value.map ('=' :: ·)).getD [])) := by
  have htimings := h.not_timings
  unfold TimingsName at htimings
  unfold normalizeOne
  simp only [hsplit]
  rw [if_neg htimings, (canonicalOption_iff _ _).mpr h]
  cases value with
  | none => simp
  | some value => simp

theorem normalizeOne_unnamed {slashOption name : List Char} {value : Option (List Char)}
    (hsplit : splitOption slashOption = (name, value)) (htimings : ¬ TimingsName name)
    (h : ∀ option, ¬ SlashName name option) :
    normalizeOne (.unicode ('/' :: slashOption)) = .unicode ('/' :: slashOption) := by
  unfold TimingsName at htimings
  unfold normalizeOne
  simp only [hsplit]
  rw [if_neg htimings, canonicalOption_none h]

theorem Spelled.normalizes {argument spelled : OsString} (h : Spelled argument spelled) :
    normalizeOne argument = spelled := by
  cases h with
  | flag h =>
    rw [normalizeOne_named (splitOption_flag h.not_colon) h]
    simp
  | valued h =>
    rw [normalizeOne_named (splitOption_valued h.not_colon) h]
    simp
  | @timings name tail h htail =>
    rcases htail with rfl | ⟨value, rfl⟩
    · rw [List.append_nil]
      exact normalizeOne_timings (splitOption_flag h.not_colon) h
    · exact normalizeOne_timings (splitOption_valued h.not_colon) h
  | kept h =>
    unfold normalizeOne
    split
    · rename_i slashOption
      rcases splitOption_cases slashOption with ⟨_, hsplit⟩ | ⟨name, value, rfl, _, hsplit⟩
      · obtain ⟨htimings, hnamed⟩ := h slashOption [] (by rw [List.append_nil]) (Or.inl rfl)
        exact normalizeOne_unnamed hsplit htimings hnamed
      · obtain ⟨htimings, hnamed⟩ := h name (':' :: value) rfl (Or.inr ⟨value, rfl⟩)
        exact normalizeOne_unnamed hsplit htimings hnamed
    · rfl

/-- Every argument has one of the forms. -/
theorem spelled_some (argument : OsString) : ∃ spelled, Spelled argument spelled := by
  by_cases h : ∀ name tail, argument = .unicode ('/' :: (name ++ tail)) → OptionTail tail →
      ¬ TimingsName name ∧ ∀ option, ¬ SlashName name option
  · exact ⟨argument, .kept h⟩
  · push Not at h
    obtain ⟨name, tail, rfl, htail, hnamed⟩ := h
    by_cases htimings : TimingsName name
    · exact ⟨_, .timings htimings htail⟩
    · obtain ⟨option, hoption⟩ := hnamed htimings
      rcases htail with rfl | ⟨value, rfl⟩
      · rw [List.append_nil]
        exact ⟨_, .flag hoption⟩
      · exact ⟨_, .valued hoption⟩

theorem normalizeOne_iff (argument spelled : OsString) :
    normalizeOne argument = spelled ↔ Spelled argument spelled := by
  constructor
  · rintro rfl
    obtain ⟨spelled, h⟩ := spelled_some argument
    rwa [h.normalizes]
  · exact Spelled.normalizes

/-- What has its spelling keeps it. -/
theorem Spelled.idempotent {argument spelled : OsString} (h : Spelled argument spelled) :
    normalizeOne spelled = spelled := by
  cases h with
  | flag h => rfl
  | valued h => rfl
  | timings h htail => rfl
  | kept h => exact (Spelled.kept h).normalizes

/-! ## All arguments -/

/-- The normalized arguments are, one by one, the arguments in their spelling: a known option after a
slash, in any mixture of cases, becomes the long option with its value untouched, and everything
else is left as it is. Normalizing again changes nothing. -/
theorem normalizeWindowsArgs_spells (arguments normalized : List OsString) :
    (normalizeWindowsArgs arguments = normalized ↔
        List.Forall₂ Spelled arguments normalized) ∧
      normalizeWindowsArgs (normalizeWindowsArgs arguments) = normalizeWindowsArgs arguments := by
  constructor
  · unfold normalizeWindowsArgs
    rw [← List.forall₂_eq_eq_eq, List.forall₂_map_left_iff]
    simp only [normalizeOne_iff]
  · unfold normalizeWindowsArgs
    rw [List.map_map]
    apply List.map_congr_left
    intro argument _
    exact ((normalizeOne_iff argument _).mp rfl).idempotent

end WispDisk.Cli
