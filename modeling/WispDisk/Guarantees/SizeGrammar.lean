import Mathlib.Data.List.TakeWhile
import Mathlib.Data.Nat.Digits.Lemmas
import WispDisk.Cli.Args

/-! The grammar of sizes: `ByteSize::from_str` accepts a text exactly when it is, between blanks, a
run of digits and underscores with a known unit whose exact product fits 64 bits, and `into_command`
adds the limits of a disk. -/
namespace WispDisk.Cli
set_option autoImplicit false

/-! ## The grammar -/

/-- The units, with their multipliers. -/
def sizeUnits : List (List Char × ℕ) :=
  [([], 1), (['B'], 1), (['K', 'B'], 1000), (['K', 'i', 'B'], 1024), (['M', 'B'], 1000 ^ 2),
    (['M', 'i', 'B'], 1024 ^ 2), (['G', 'B'], 1000 ^ 3), (['G', 'i', 'B'], 1024 ^ 3),
    (['T', 'B'], 1000 ^ 4), (['T', 'i', 'B'], 1024 ^ 4)]

/-- A unit in any mixture of cases. -/
def SizeUnit (suffix : List Char) (multiplier : ℕ) : Prop :=
  ∃ name, (name, multiplier) ∈ sizeUnits ∧
    suffix.map toAsciiUppercase = name.map toAsciiUppercase

def digitValue (c : Char) : ℕ := c.toNat - 48

/-- The decimal value of a number without its underscores. -/
def decimalValue (number : List Char) : ℕ :=
  Nat.ofDigits 10 ((number.filter (· != '_')).reverse.map digitValue)

def inNumber (c : Char) : Bool := isAsciiDigit c || c == '_'

/-- A text that denotes a size. -/
def SizeLiteral (text : List Char) (value : ℕ) : Prop :=
  ∃ before number suffix after multiplier,
    text = before ++ number ++ suffix ++ after ∧
    (∀ c ∈ before, isWhitespace c = true) ∧ (∀ c ∈ after, isWhitespace c = true) ∧
    (∀ c ∈ number, inNumber c = true) ∧ (∃ c ∈ number, isAsciiDigit c = true) ∧
    SizeUnit suffix multiplier ∧ value = decimalValue number * multiplier ∧ value < 2 ^ 64

/-- The sizes of a disk that is formatted with a file system. -/
def DiskSize (fileSystem : FileSystem) (size : ℕ) : Prop :=
  512 ∣ size ∧ (if fileSystem = .fat32 then 64 else 16) * 2 ^ 20 ≤ size ∧ size ≤ 256 * 2 ^ 20

/-- Exactly one media flag is given, and it is this one. -/
def MediaFlags (hdd removable : Bool) (media : MediaKind) : Prop :=
  hdd = decide (media = .fixed) ∧ removable = decide (media = .removable)

/-! ## Characters -/

theorem isWhitespace_iff (c : Char) : isWhitespace c = true ↔
    (9 ≤ c.toNat ∧ c.toNat ≤ 13) ∨ c.toNat = 32 ∨ c.toNat = 0x85 ∨ c.toNat = 0xA0 ∨
      c.toNat = 0x1680 ∨ (0x2000 ≤ c.toNat ∧ c.toNat ≤ 0x200A) ∨ c.toNat = 0x2028 ∨
      c.toNat = 0x2029 ∨ c.toNat = 0x202F ∨ c.toNat = 0x205F ∨ c.toNat = 0x3000 := by
  simp only [isWhitespace, Bool.or_eq_true, Bool.and_eq_true, decide_eq_true_eq, beq_iff_eq,
    or_assoc]

theorem isAsciiDigit_iff (c : Char) :
    isAsciiDigit c = true ↔ 48 ≤ c.toNat ∧ c.toNat ≤ 57 := by
  simp only [isAsciiDigit, Bool.and_eq_true, decide_eq_true_eq]

theorem inNumber_toNat {c : Char} (h : inNumber c = true) :
    (48 ≤ c.toNat ∧ c.toNat ≤ 57) ∨ c.toNat = 95 := by
  rw [inNumber, Bool.or_eq_true, isAsciiDigit_iff, beq_iff_eq] at h
  rcases h with h | h
  · exact Or.inl h
  · rw [h]
    exact Or.inr rfl

theorem isAsciiAlphabetic_toNat {c : Char} (h : isAsciiAlphabetic c = true) :
    (65 ≤ c.toNat ∧ c.toNat ≤ 90) ∨ (97 ≤ c.toNat ∧ c.toNat ≤ 122) := by
  simpa only [isAsciiAlphabetic, isAsciiUppercase, isAsciiLowercase, Bool.or_eq_true,
    Bool.and_eq_true, decide_eq_true_eq] using h

theorem inNumber_not_whitespace {c : Char} (h : inNumber c = true) : isWhitespace c = false := by
  rw [Bool.eq_false_iff]
  intro hblank
  have hnumber := inNumber_toNat h
  rw [isWhitespace_iff] at hblank
  omega

theorem alphabetic_not_whitespace {c : Char} (h : isAsciiAlphabetic c = true) :
    isWhitespace c = false := by
  rw [Bool.eq_false_iff]
  intro hblank
  have hletter := isAsciiAlphabetic_toNat h
  rw [isWhitespace_iff] at hblank
  omega

theorem alphabetic_not_inNumber {c : Char} (h : isAsciiAlphabetic c = true) :
    inNumber c = false := by
  rw [Bool.eq_false_iff]
  intro hnumber
  have hletter := isAsciiAlphabetic_toNat h
  have hvalue := inNumber_toNat hnumber
  omega

/-- What becomes an upper-case letter is a letter. -/
theorem alphabetic_of_uppercase {c : Char} (h : isAsciiUppercase (toAsciiUppercase c) = true) :
    isAsciiAlphabetic c = true := by
  rw [isAsciiAlphabetic]
  by_cases hlower : isAsciiLowercase c = true
  · rw [hlower, Bool.or_true]
  · rw [toAsciiUppercase, if_neg hlower] at h
    rw [h, Bool.true_or]

/-! ## Units -/

theorem sizeUnits_uppercase : ∀ unit ∈ sizeUnits, ∀ c ∈ unit.1,
    isAsciiUppercase (toAsciiUppercase c) = true := by
  have hall : (sizeUnits.all fun unit => unit.1.all fun c =>
      isAsciiUppercase (toAsciiUppercase c)) = true := by decide
  intro unit hunit
  exact List.all_eq_true.mp (List.all_eq_true.mp hall unit hunit)

theorem SizeUnit.alphabetic {suffix : List Char} {multiplier : ℕ} (h : SizeUnit suffix multiplier) :
    ∀ c ∈ suffix, isAsciiAlphabetic c = true := by
  obtain ⟨name, hname, hsame⟩ := h
  intro c hc
  have hmem : toAsciiUppercase c ∈ name.map toAsciiUppercase :=
    hsame ▸ List.mem_map_of_mem hc
  obtain ⟨d, hd, hupper⟩ := List.mem_map.mp hmem
  apply alphabetic_of_uppercase
  rw [← hupper]
  exact sizeUnits_uppercase _ hname d hd

theorem multiplier_iff (suffix : List Char) (multiplier : ℕ) :
    ByteSize.multiplier suffix = some multiplier ↔ SizeUnit suffix multiplier := by
  constructor
  · intro h
    unfold ByteSize.multiplier at h
    have hchars {text : String} (htext : String.ofList (suffix.map toAsciiUppercase) = text) :
        suffix.map toAsciiUppercase = text.toList := by
      rw [← htext, String.toList_ofList]
    split at h
    · rename_i htext
      cases h
      exact ⟨[], by decide, hchars htext⟩
    · rename_i htext
      cases h
      exact ⟨['B'], by decide, hchars htext⟩
    · rename_i htext
      cases h
      exact ⟨['K', 'B'], by decide, hchars htext⟩
    · rename_i htext
      cases h
      exact ⟨['K', 'i', 'B'], by decide, hchars htext⟩
    · rename_i htext
      cases h
      exact ⟨['M', 'B'], by decide, hchars htext⟩
    · rename_i htext
      cases h
      exact ⟨['M', 'i', 'B'], by decide, hchars htext⟩
    · rename_i htext
      cases h
      exact ⟨['G', 'B'], by decide, hchars htext⟩
    · rename_i htext
      cases h
      exact ⟨['G', 'i', 'B'], by decide, hchars htext⟩
    · rename_i htext
      cases h
      exact ⟨['T', 'B'], by decide, hchars htext⟩
    · rename_i htext
      cases h
      exact ⟨['T', 'i', 'B'], by decide, hchars htext⟩
    · cases h
  · rintro ⟨name, hname, hsame⟩
    have hnamed : ∀ unit ∈ sizeUnits, ByteSize.multiplier unit.1 = some unit.2 := by
      decide +kernel
    have hmultiplier := hnamed _ hname
    unfold ByteSize.multiplier at hmultiplier ⊢
    rw [hsame]
    exact hmultiplier

/-! ## Numbers -/

theorem foldl_digits (digits : List Char) (n : ℕ) :
    digits.foldl (fun n c => 10 * n + (c.toNat - 48)) n =
      n * 10 ^ digits.length + Nat.ofDigits 10 (digits.reverse.map digitValue) := by
  induction digits generalizing n with
  | nil => simp only [List.foldl_nil, List.length_nil, pow_zero, Nat.mul_one, List.reverse_nil,
      List.map_nil, Nat.ofDigits_nil, Nat.add_zero]
  | cons c digits ih =>
    have hvalue : c.toNat - 48 = digitValue c := rfl
    rw [List.foldl_cons, ih, List.reverse_cons, List.map_append, List.map_singleton,
      Nat.ofDigits_append, Nat.ofDigits_singleton, List.length_map, List.length_reverse,
      List.length_cons, pow_succ, hvalue]
    ring

theorem parseDigits_eq (digits : List Char) :
    ByteSize.parseDigits digits =
      if Nat.ofDigits 10 (digits.reverse.map digitValue) < 2 ^ 64 then
        some (Nat.ofDigits 10 (digits.reverse.map digitValue))
      else none := by
  unfold ByteSize.parseDigits
  rw [foldl_digits, Nat.zero_mul, Nat.zero_add]

/-- A run of digits and underscores is a number when a digit is in it. -/
theorem digits_nonempty_iff {number : List Char} (h : ∀ c ∈ number, inNumber c = true) :
    (number.filter (· != '_')).isEmpty = false ↔ ∃ c ∈ number, isAsciiDigit c = true := by
  rw [Bool.eq_false_iff, ne_eq, List.isEmpty_iff, List.filter_eq_nil_iff]
  constructor
  · intro hsome
    by_contra hnone
    apply hsome
    intro c hc hdigit
    have hnumber := h c hc
    rw [inNumber, Bool.or_eq_true] at hnumber
    rcases hnumber with hnumber | hnumber
    · exact hnone ⟨c, hc, hnumber⟩
    · rw [bne, hnumber] at hdigit
      cases hdigit
  · rintro ⟨c, hc, hdigit⟩ hnone
    apply hnone c hc
    rw [bne_iff_ne]
    rintro rfl
    cases hdigit

/-! ## Blanks -/

/-- Trimming removes blanks alone. -/
theorem trim_split (text : List Char) :
    ∃ before after, text = before ++ trim text ++ after ∧
      (∀ c ∈ before, isWhitespace c = true) ∧ ∀ c ∈ after, isWhitespace c = true := by
  refine ⟨text.takeWhile isWhitespace,
    ((text.dropWhile isWhitespace).reverse.takeWhile isWhitespace).reverse, ?_, ?_, ?_⟩
  · have hend : trim text ++
        ((text.dropWhile isWhitespace).reverse.takeWhile isWhitespace).reverse =
          text.dropWhile isWhitespace := by
      rw [trim, trimEnd, ← List.reverse_append, List.takeWhile_append_dropWhile,
        List.reverse_reverse]
    rw [List.append_assoc, hend, List.takeWhile_append_dropWhile]
  · exact fun c hc => List.mem_takeWhile_imp hc
  · exact fun c hc => List.mem_takeWhile_imp (List.mem_reverse.mp hc)

theorem dropWhile_append {p : Char → Bool} {blank core : List Char}
    (hblank : ∀ c ∈ blank, p c = true) (hcore : ∀ c ∈ core.head?, p c = false) :
    (blank ++ core).dropWhile p = core := by
  rw [List.dropWhile_append_of_pos hblank]
  cases core with
  | nil => rfl
  | cons c core =>
    rw [List.dropWhile_cons, hcore c rfl]
    rfl

theorem takeWhile_append {p : Char → Bool} {run rest : List Char}
    (hrun : ∀ c ∈ run, p c = true) (hrest : ∀ c ∈ rest.head?, p c = false) :
    (run ++ rest).takeWhile p = run := by
  rw [List.takeWhile_append_of_pos hrun]
  cases rest with
  | nil => rw [List.takeWhile_nil, List.append_nil]
  | cons c rest =>
    rw [List.takeWhile_cons, hrest c rfl]
    exact List.append_nil run

/-- Trimming leaves a text without blanks. -/
theorem trim_blanks {before core after : List Char}
    (hbefore : ∀ c ∈ before, isWhitespace c = true) (hafter : ∀ c ∈ after, isWhitespace c = true)
    (hcore : ∀ c ∈ core, isWhitespace c = false) (hne : core ≠ []) :
    trim (before ++ core ++ after) = core := by
  have hhead : ∀ c ∈ (core ++ after).head?, isWhitespace c = false := by
    intro c hc
    cases core with
    | nil => exact absurd rfl hne
    | cons d core =>
      cases hc
      exact hcore c List.mem_cons_self
  have hlast : ∀ c ∈ core.reverse.head?, isWhitespace c = false := by
    intro c hc
    exact hcore c (List.mem_reverse.mp (List.mem_of_mem_head? hc))
  have hblank : ∀ c ∈ after.reverse, isWhitespace c = true :=
    fun c hc => hafter c (List.mem_reverse.mp hc)
  rw [trim, List.append_assoc, dropWhile_append hbefore hhead, trimEnd, List.reverse_append,
    dropWhile_append hblank hlast, List.reverse_reverse]

/-! ## Acceptance -/

/-- What `from_str` returns, when it returns a size. -/
theorem fromStr_ok_iff (text : List Char) (size : ByteSize) :
    ByteSize.fromStr text = .ok size ↔
      ((trim text).takeWhile inNumber |>.filter (· != '_')).isEmpty = false ∧
      ∃ amount multiplier,
        ByteSize.parseDigits ((trim text).takeWhile inNumber |>.filter (· != '_')) = some amount ∧
        ByteSize.multiplier ((trim text).dropWhile inNumber) = some multiplier ∧
        amount * multiplier < 2 ^ 64 ∧ size = { bytes := UInt64.ofNat (amount * multiplier) } := by
  have hnumber : (fun c => isAsciiDigit c || c == '_') = inNumber := rfl
  unfold ByteSize.fromStr
  simp only [hnumber]
  cases hempty : ((trim text).takeWhile inNumber |>.filter (· != '_')).isEmpty with
  | true => simp only [if_true, reduceCtorEq, false_and]
  | false =>
    simp only [Bool.false_eq_true, if_false, true_and]
    cases hamount : ByteSize.parseDigits
        ((trim text).takeWhile inNumber |>.filter (· != '_')) with
    | none => simp only [reduceCtorEq, false_and, exists_const]
    | some amount =>
      cases hmultiplier : ByteSize.multiplier ((trim text).dropWhile inNumber) with
      | none => simp only [reduceCtorEq, false_and, and_false, exists_const]
      | some multiplier =>
        simp only
        constructor
        · intro h
          split at h
          · rename_i hfits
            exact ⟨amount, multiplier, rfl, rfl, hfits, (Except.ok.inj h).symm⟩
          · cases h
        · rintro ⟨_, _, ⟨⟩, ⟨⟩, hfits, rfl⟩
          rw [if_pos hfits]

theorem fromStr_literal {text : List Char} {size : ByteSize}
    (h : ByteSize.fromStr text = .ok size) : SizeLiteral text size.bytes.toNat := by
  obtain ⟨hdigit, amount, multiplier, hamount, hmultiplier, hfits, rfl⟩ :=
    (fromStr_ok_iff text size).mp h
  obtain ⟨before, after, hsplit, hbefore, hafter⟩ := trim_split text
  have hnumber : ∀ c ∈ (trim text).takeWhile inNumber, inNumber c = true :=
    fun c hc => List.mem_takeWhile_imp hc
  have hvalue : amount = decimalValue ((trim text).takeWhile inNumber) := by
    rw [parseDigits_eq] at hamount
    split at hamount
    · exact (Option.some.inj hamount).symm
    · cases hamount
  refine ⟨before, (trim text).takeWhile inNumber, (trim text).dropWhile inNumber, after,
    multiplier, ?_, hbefore, hafter, hnumber, (digits_nonempty_iff hnumber).mp hdigit,
    (multiplier_iff _ _).mp hmultiplier, ?_, ?_⟩
  · rw [List.append_assoc before, List.takeWhile_append_dropWhile]
    exact hsplit
  · rw [UInt64.toNat_ofNat', Nat.mod_eq_of_lt hfits, hvalue]
  · exact UInt64.toNat_lt _

theorem literal_fromStr {text : List Char} {value : ℕ} (h : SizeLiteral text value) :
    ByteSize.fromStr text = .ok { bytes := UInt64.ofNat value } := by
  obtain ⟨before, number, suffix, after, multiplier, rfl, hbefore, hafter, hnumber, hdigit, hunit,
    rfl, hfits⟩ := h
  obtain ⟨c, hc, _⟩ := hdigit
  have hblanks : ∀ c ∈ number ++ suffix, isWhitespace c = false := by
    intro c hc
    rcases List.mem_append.mp hc with hc | hc
    · exact inNumber_not_whitespace (hnumber c hc)
    · exact alphabetic_not_whitespace (hunit.alphabetic c hc)
  have htrim : trim (before ++ number ++ suffix ++ after) = number ++ suffix := by
    rw [List.append_assoc before number suffix]
    exact trim_blanks hbefore hafter hblanks
      (List.ne_nil_of_mem (List.mem_append_left suffix hc))
  have hhead : ∀ c ∈ suffix.head?, inNumber c = false :=
    fun c hc => alphabetic_not_inNumber (hunit.alphabetic c (List.mem_of_mem_head? hc))
  have htake : (number ++ suffix).takeWhile inNumber = number := takeWhile_append hnumber hhead
  have hdrop : (number ++ suffix).dropWhile inNumber = suffix := dropWhile_append hnumber hhead
  have hpositive : 1 ≤ multiplier := by
    obtain ⟨name, hname, _⟩ := hunit
    have hunits : ∀ unit ∈ sizeUnits, 1 ≤ unit.2 := by decide
    exact hunits _ hname
  have hamount : decimalValue number < 2 ^ 64 :=
    lt_of_le_of_lt (Nat.le_mul_of_pos_right _ hpositive) hfits
  rw [fromStr_ok_iff, htrim, htake, hdrop]
  refine ⟨(digits_nonempty_iff hnumber).mpr ⟨c, hc, by assumption⟩, decimalValue number, multiplier,
    ?_, (multiplier_iff _ _).mpr hunit, hfits, rfl⟩
  rw [parseDigits_eq]
  exact if_pos hamount

theorem fromStr_iff (text : List Char) (size : ByteSize) :
    ByteSize.fromStr text = .ok size ↔ SizeLiteral text size.bytes.toNat := by
  constructor
  · exact fromStr_literal
  · intro h
    rw [literal_fromStr h, UInt64.ofNat_toNat]

/-! ## The limits of a disk -/

theorem diskSize_iff (fileSystem : FileSystem) (size : ULONGLONG) :
    DiskSize fileSystem size.toNat ↔
      ¬ (fileSystem = .fat32 ∧ size < minFat32DiskSize) ∧ ¬ size < minDiskSize ∧
        ¬ maxDiskSize < size ∧ size % argumentSectorSize = 0 := by
  have hfat32 : minFat32DiskSize.toNat = 64 * 2 ^ 20 := rfl
  have hminimum : minDiskSize.toNat = 16 * 2 ^ 20 := rfl
  have hmaximum : maxDiskSize.toNat = 256 * 2 ^ 20 := rfl
  have hsector : argumentSectorSize.toNat = 512 := rfl
  have hzero : (0 : ULONGLONG).toNat = 0 := rfl
  rw [DiskSize, UInt64.lt_iff_toNat_lt, UInt64.lt_iff_toNat_lt, UInt64.lt_iff_toNat_lt,
    ← UInt64.toNat_inj, UInt64.toNat_mod, hfat32, hminimum, hmaximum, hsector, hzero,
    Nat.dvd_iff_mod_eq_zero]
  by_cases hformat : fileSystem = .fat32
  · rw [if_pos hformat]
    simp only [hformat, true_and]
    omega
  · rw [if_neg hformat]
    simp only [hformat, false_and, not_false_eq_true, true_and]
    omega

namespace CommandLine

variable {cli : CommandLine} {letter : DriveLetter} {media : MediaKind} {sizeBytes : ULONGLONG}
  {fileSystem : FileSystem}

theorem deleteCommand_not_add :
    cli.deleteCommand ≠ .ok (.add letter media sizeBytes fileSystem) := by
  intro h
  unfold deleteCommand at h
  split at h
  · cases h
  split at h
  · cases h
  split at h
  · cases h
  cases hletter : cli.letter <;> cases hid : cli.id <;> cases hadapter : cli.adapter <;>
    rw [hletter, hid, hadapter] at h
  case none.some.some =>
    change (if _ then _ else _) = _ at h
    split at h <;> cases h
  all_goals cases h

theorem intoCommand_add_iff :
    cli.intoCommand = .ok (.add letter media sizeBytes fileSystem) ↔
      (cli.force = true → cli.delete = true) ∧ cli.list = false ∧ cli.json = false ∧
        cli.id = none ∧ cli.adapter = none ∧ cli.add = true ∧
        cli.addCommand = .ok (.add letter media sizeBytes fileSystem) := by
  unfold intoCommand
  constructor
  · intro h
    split at h
    · cases h
    rename_i hforce
    split at h
    · split at h <;> cases h
    rename_i hlist
    split at h
    · cases h
    rename_i hoptions
    split at h
    · rename_i hadd
      simp only [hadd, true_and, not_or, Bool.not_eq_true, Option.isSome_eq_false_iff,
        Option.isNone_iff_eq_none] at hoptions
      refine ⟨fun hgiven => ?_, Bool.eq_false_iff.mpr hlist, hoptions.1, hoptions.2.1,
        hoptions.2.2, hadd, h⟩
      by_contra hdelete
      rw [Bool.not_eq_true] at hdelete
      exact hforce ⟨hgiven, by rw [hdelete, Bool.not_false]⟩
    · exact absurd h deleteCommand_not_add
  · rintro ⟨hforce, hlist, hjson, hid, hadapter, hadd, hcommand⟩
    have hno : ¬ (cli.force = true ∧ (!cli.delete) = true) := by
      rintro ⟨hgiven, hdelete⟩
      rw [hforce hgiven] at hdelete
      cases hdelete
    rw [if_neg hno, hlist, hjson, hid, hadapter, hadd]
    exact hcommand

theorem addCommand_ok_iff :
    cli.addCommand = .ok (.add letter media sizeBytes fileSystem) ↔
      cli.letter = some letter ∧ MediaFlags cli.hdd cli.removable media ∧
        cli.size = some { bytes := sizeBytes } ∧ cli.fileSystem.getD .ntfs = fileSystem ∧
        DiskSize fileSystem sizeBytes.toNat := by
  unfold addCommand MediaFlags
  cases hletter : cli.letter with
  | none => simp only [reduceCtorEq, false_and]
  | some given =>
    cases hsize : cli.size with
    | none => cases cli.hdd <;> cases cli.removable <;>
        simp only [reduceCtorEq, false_and, and_false]
    | some size =>
      have hlimits := diskSize_iff (cli.fileSystem.getD .ntfs) size.bytes
      cases hhdd : cli.hdd <;> cases hremovable : cli.removable
      case false.false | true.true =>
        cases media <;>
          simp only [reduceCtorEq, false_and, and_false, decide_true, decide_false]
      all_goals
        simp only
        constructor
        · intro h
          split at h
          · cases h
          rename_i hfat32
          split at h
          · cases h
          rename_i hminimum
          split at h
          · cases h
          rename_i hmaximum
          split at h
          · cases h
          rename_i haligned
          cases h
          exact ⟨rfl, ⟨rfl, rfl⟩, rfl, rfl,
            hlimits.mpr ⟨hfat32, hminimum, hmaximum, not_not.mp haligned⟩⟩
        · rintro ⟨⟨⟩, ⟨hfixed, hflag⟩, ⟨⟩, rfl, hdisk⟩
          obtain ⟨hfat32, hminimum, hmaximum, haligned⟩ := hlimits.mp hdisk
          rw [if_neg hfat32, if_neg hminimum, if_neg hmaximum, if_neg (not_not.mpr haligned)]
          cases media
          · first | rfl | cases hfixed
          · first | rfl | cases hflag

end CommandLine

theorem parse_ok_iff (arguments : Arguments) (cli : CommandLine) :
    arguments.parse = .ok cli ↔
      [arguments.add, arguments.delete, arguments.list].count true = 1 ∧
        ¬ (arguments.hdd = true ∧ arguments.removable = true) ∧
        optionValue DriveLetter.fromStr arguments.letter = .ok cli.letter ∧
        optionValue ByteSize.fromStr arguments.size = .ok cli.size ∧
        optionValue FileSystem.fromStr arguments.fileSystem = .ok cli.fileSystem ∧
        cli = { add := arguments.add, delete := arguments.delete, force := arguments.force,
                list := arguments.list, json := arguments.json, id := arguments.id,
                adapter := arguments.adapter, hdd := arguments.hdd,
                removable := arguments.removable, letter := cli.letter, size := cli.size,
                fileSystem := cli.fileSystem } := by
  simp only [Arguments.parse, bind, Except.bind, pure, Except.pure, throw, throwThe,
    MonadExceptOf.throw]
  constructor
  · intro h
    split at h
    · cases h
    rename_i hcount
    split at h
    · cases h
    rename_i hmedia
    cases hletter : optionValue DriveLetter.fromStr arguments.letter with
    | error error =>
      rw [hletter] at h
      cases h
    | ok letter =>
      cases hsize : optionValue ByteSize.fromStr arguments.size with
      | error error =>
        rw [hletter, hsize] at h
        cases h
      | ok size =>
        cases hsystem : optionValue FileSystem.fromStr arguments.fileSystem with
        | error error =>
          rw [hletter, hsize, hsystem] at h
          cases h
        | ok fileSystem =>
          rw [hletter, hsize, hsystem] at h
          cases h
          exact ⟨not_not.mp hcount, hmedia, rfl, rfl, rfl, rfl⟩
  · rintro ⟨hcount, hmedia, hletter, hsize, hsystem, hcli⟩
    rw [if_neg (not_not.mpr hcount), if_neg hmedia, hletter, hsize, hsystem]
    exact congrArg Except.ok hcli.symm

theorem optionValue_some_iff {α : Type} (fromStr : List Char → Except String α)
    (given : Option (List Char)) (value : α) :
    optionValue fromStr given = .ok (some value) ↔
      ∃ text, given = some text ∧ fromStr text = .ok value := by
  cases given with
  | none => simp only [optionValue, Except.ok.injEq, reduceCtorEq, false_and, exists_const]
  | some text =>
    cases hread : fromStr text <;>
      simp only [optionValue, hread, Except.map, reduceCtorEq, Except.ok.injEq, Option.some.injEq,
        exists_eq_left']

/-! ## Every size -/

/-- The options of a well-formed `Add`, but for its size: a letter, one media flag, a file system
or none, and no option of another command. -/
structure Adds (arguments : Arguments) (letter : DriveLetter) (media : MediaKind)
    (fileSystem : FileSystem) : Prop where
  add : arguments.add = true
  delete : arguments.delete = false
  list : arguments.list = false
  force : arguments.force = false
  json : arguments.json = false
  id : arguments.id = none
  adapter : arguments.adapter = none
  letter : ∃ text, arguments.letter = some text ∧ DriveLetter.fromStr text = .ok letter
  media : MediaFlags arguments.hdd arguments.removable media
  fileSystem : (arguments.fileSystem = none ∧ fileSystem = .ntfs) ∨
    ∃ text, arguments.fileSystem = some text ∧ FileSystem.fromStr text = .ok fileSystem

/-- The command line is read and becomes this `Add` command. -/
def AddAccepted (arguments : Arguments) (letter : DriveLetter) (media : MediaKind)
    (sizeBytes : ULONGLONG) (fileSystem : FileSystem) : Prop :=
  ∃ cli, arguments.parse = .ok cli ∧ cli.intoCommand = .ok (.add letter media sizeBytes fileSystem)

theorem mediaFlags_not_both {hdd removable : Bool} {media : MediaKind}
    (h : MediaFlags hdd removable media) : ¬ (hdd = true ∧ removable = true) := by
  obtain ⟨hhdd, hremovable⟩ := h
  rw [hhdd, hremovable, decide_eq_true_eq, decide_eq_true_eq]
  rintro ⟨rfl, hmedia⟩
  cases hmedia

theorem fileSystem_getD_iff (given : Option (List Char)) (fileSystem : FileSystem) :
    (∃ value, optionValue FileSystem.fromStr given = .ok value ∧ value.getD .ntfs = fileSystem) ↔
      (given = none ∧ fileSystem = .ntfs) ∨
        ∃ text, given = some text ∧ FileSystem.fromStr text = .ok fileSystem := by
  cases given with
  | none =>
    simp only [optionValue, Except.ok.injEq, exists_eq_left', Option.getD_none, true_and,
      reduceCtorEq, false_and, exists_const, or_false]
    exact eq_comm
  | some text =>
    cases hread : FileSystem.fromStr text <;>
      simp only [optionValue, hread, Except.map, reduceCtorEq, false_and, exists_const,
        Except.ok.injEq, exists_eq_left', Option.getD_some, Option.some.injEq, false_or]

/-- Exactly the sizes of a disk are accepted, whatever the letter, the media and the file system. -/
theorem addAccepted_iff (arguments : Arguments) (letter : DriveLetter) (media : MediaKind)
    (sizeBytes : ULONGLONG) (fileSystem : FileSystem) :
    AddAccepted arguments letter media sizeBytes fileSystem ↔
      Adds arguments letter media fileSystem ∧
        (∃ text, arguments.size = some text ∧ SizeLiteral text sizeBytes.toNat) ∧
        DiskSize fileSystem sizeBytes.toNat := by
  constructor
  · rintro ⟨cli, hparse, hcommand⟩
    obtain ⟨hcount, _, hletter, hsize, hsystem, hcli⟩ := (parse_ok_iff _ _).mp hparse
    obtain ⟨hforce, hlist, hjson, hid, hadapter, hadd, hcommand⟩ :=
      CommandLine.intoCommand_add_iff.mp hcommand
    obtain ⟨hgiven, hmedia, hbytes, hdefault, hdisk⟩ := CommandLine.addCommand_ok_iff.mp hcommand
    rw [hgiven, optionValue_some_iff] at hletter
    rw [hbytes, optionValue_some_iff] at hsize
    obtain ⟨text, htext, hread⟩ := hsize
    rw [hcli] at hforce hlist hjson hid hadapter hadd hmedia
    simp only at hforce hlist hjson hid hadapter hadd hmedia
    have hdelete : arguments.delete = false := by
      rw [hadd, hlist] at hcount
      cases hdelete : arguments.delete with
      | false => rfl
      | true =>
        rw [hdelete] at hcount
        cases hcount
    have hunforced : arguments.force = false := by
      rw [Bool.eq_false_iff]
      intro hgiven
      rw [hforce hgiven] at hdelete
      cases hdelete
    exact ⟨⟨hadd, hdelete, hlist, hunforced, hjson, hid, hadapter, hletter, hmedia,
      (fileSystem_getD_iff _ _).mp ⟨_, hsystem, hdefault⟩⟩, ⟨text, htext, fromStr_literal hread⟩,
      hdisk⟩
  · rintro ⟨hadds, ⟨text, htext, hliteral⟩, hdisk⟩
    obtain ⟨value, hsystem, hdefault⟩ := (fileSystem_getD_iff _ _).mpr hadds.fileSystem
    have hletter := (optionValue_some_iff _ _ _).mpr hadds.letter
    have hsize := (optionValue_some_iff ByteSize.fromStr _ _).mpr
      ⟨text, htext, (fromStr_iff text { bytes := sizeBytes }).mpr hliteral⟩
    refine ⟨{ add := arguments.add, delete := arguments.delete, force := arguments.force,
              list := arguments.list, json := arguments.json, id := arguments.id,
              adapter := arguments.adapter, hdd := arguments.hdd,
              removable := arguments.removable, letter := some letter,
              size := some { bytes := sizeBytes }, fileSystem := value },
      (parse_ok_iff _ _).mpr ⟨?_, mediaFlags_not_both hadds.media, hletter, hsize, hsystem, rfl⟩,
      CommandLine.intoCommand_add_iff.mpr ⟨?_, hadds.list, hadds.json, hadds.id, hadds.adapter,
        hadds.add, CommandLine.addCommand_ok_iff.mpr ⟨rfl, hadds.media, rfl, hdefault, hdisk⟩⟩⟩
    · rw [hadds.add, hadds.delete, hadds.list]
      decide
    · intro hforce
      change arguments.force = true at hforce
      rw [hadds.force] at hforce
      cases hforce

theorem Adds.with_size {arguments : Arguments} {letter : DriveLetter} {media : MediaKind}
    {fileSystem : FileSystem} (h : Adds arguments letter media fileSystem) (text : List Char) :
    Adds { arguments with size := some text } letter media fileSystem :=
  ⟨h.add, h.delete, h.list, h.force, h.json, h.id, h.adapter, h.letter, h.media, h.fileSystem⟩

def decimalDigits (n : ℕ) : List Char := (Nat.digits 10 n).reverse.map fun d => Char.ofNat (48 + d)

theorem digitChar_toNat {d : ℕ} (h : d < 10) : (Char.ofNat (48 + d)).toNat = 48 + d := by
  have hvalid : (48 + d).isValidChar := Or.inl (by omega)
  rw [Char.ofNat, dif_pos hvalid]
  rfl

theorem decimalDigits_digits (n : ℕ) : ∀ c ∈ decimalDigits n, isAsciiDigit c = true := by
  intro c hc
  obtain ⟨d, hd, rfl⟩ := List.mem_map.mp hc
  have hlt : d < 10 := Nat.digits_lt_base (by omega) (List.mem_reverse.mp hd)
  rw [isAsciiDigit_iff, digitChar_toNat hlt]
  omega

theorem decimalDigits_value (n : ℕ) : decimalValue (decimalDigits n) = n := by
  have hfilter : (decimalDigits n).filter (· != '_') = decimalDigits n := by
    rw [List.filter_eq_self]
    intro c hc
    have hdigit := decimalDigits_digits n c hc
    rw [bne_iff_ne]
    rintro rfl
    cases hdigit
  have hvalues : (decimalDigits n).reverse.map digitValue = Nat.digits 10 n := by
    rw [decimalDigits, ← List.map_reverse, List.reverse_reverse, List.map_map]
    have hsame : ∀ d ∈ Nat.digits 10 n, (digitValue ∘ fun d => Char.ofNat (48 + d)) d = d := by
      intro d hd
      rw [Function.comp_apply, digitValue, digitChar_toNat (Nat.digits_lt_base (by omega) hd),
        Nat.add_sub_cancel_left]
    exact (List.map_congr_left hsame).trans (List.map_id _)
  rw [decimalValue, hfilter, hvalues, Nat.ofDigits_digits]

theorem decimalDigits_literal {n : ℕ} (hpositive : n ≠ 0) (hfits : n < 2 ^ 64) :
    SizeLiteral (decimalDigits n) n := by
  have hne : decimalDigits n ≠ [] := by
    rw [decimalDigits, ne_eq, List.map_eq_nil_iff, List.reverse_eq_nil_iff,
      Nat.digits_eq_nil_iff_eq_zero]
    exact hpositive
  refine ⟨[], decimalDigits n, [], [], 1, ?_, ?_, ?_, ?_, ?_, ⟨[], by decide, rfl⟩, ?_, hfits⟩
  · rw [List.nil_append, List.append_nil, List.append_nil]
  · exact fun c hc => absurd hc List.not_mem_nil
  · exact fun c hc => absurd hc List.not_mem_nil
  · intro c hc
    rw [inNumber, decimalDigits_digits n c hc, Bool.true_or]
  · obtain ⟨c, hc⟩ := List.exists_mem_of_ne_nil _ hne
    exact ⟨c, hc, decimalDigits_digits n c hc⟩
  · rw [decimalDigits_value, Nat.mul_one]

theorem DiskSize.bounds {fileSystem : FileSystem} {n : ℕ} (h : DiskSize fileSystem n) :
    n ≠ 0 ∧ n < 2 ^ 64 := by
  obtain ⟨_, hminimum, hmaximum⟩ := h
  split at hminimum <;> omega

/-! ## The parser -/

/-- `ByteSize::from_str` is exactly the grammar of sizes; an `Add` command comes of exactly the
command lines with a letter, one media flag, a file system or none (which is NTFS), and a text that
denotes a disk size of that file system; and for all such options the sizes that some text gets
accepted are exactly the disk sizes. -/
theorem byteSize_grammar :
    (∀ text size, ByteSize.fromStr text = .ok size ↔ SizeLiteral text size.bytes.toNat) ∧
    (∀ arguments letter media sizeBytes fileSystem,
      AddAccepted arguments letter media sizeBytes fileSystem ↔
        Adds arguments letter media fileSystem ∧
          (∃ text, arguments.size = some text ∧ SizeLiteral text sizeBytes.toNat) ∧
          DiskSize fileSystem sizeBytes.toNat) ∧
    (∀ arguments letter media fileSystem n, Adds arguments letter media fileSystem →
      (DiskSize fileSystem n ↔ ∃ text sizeBytes,
        AddAccepted { arguments with size := some text } letter media sizeBytes fileSystem ∧
          sizeBytes.toNat = n)) := by
  refine ⟨fromStr_iff, addAccepted_iff, fun arguments letter media fileSystem n hadds => ?_⟩
  constructor
  · intro h
    have hn : (UInt64.ofNat n).toNat = n := by
      rw [UInt64.toNat_ofNat', Nat.mod_eq_of_lt h.bounds.2]
    have hliteral := decimalDigits_literal h.bounds.1 h.bounds.2
    rw [← hn] at hliteral h
    exact ⟨_, _, (addAccepted_iff _ _ _ _ _).mpr ⟨hadds.with_size _, ⟨_, rfl, hliteral⟩, h⟩, hn⟩
  · rintro ⟨text, sizeBytes, haccepted, rfl⟩
    exact ((addAccepted_iff _ _ _ _ _).mp haccepted).2.2

example : Adds { add := true, removable := true, letter := some ['r', ':'] }
    { letter := 'R', upper := by decide } .removable .ntfs :=
  ⟨rfl, rfl, rfl, rfl, rfl, rfl, rfl, ⟨_, rfl, by decide +kernel⟩, ⟨rfl, rfl⟩, Or.inl ⟨rfl, rfl⟩⟩

example : ByteSize.fromStr [' ', '1', '_', '6', 'm', 'I', 'b'] = .ok { bytes := 16777216 } := by
  decide +kernel

end WispDisk.Cli
