import WispDisk.Cli.Enumeration

/-! What the CLI makes of the buffers that Windows fills: a list of strings read back from its MULTI_SZ
form, a volume enumeration that yields every name once and ends for good, and mount points that are
read whole or not at all while they change. -/
namespace WispDisk.Cli
open Procedures
set_option autoImplicit false

/-! ## MULTI_SZ -/

/-- A string that a MULTI_SZ can hold. -/
def IsEntry (entry : WideString) : Prop := entry ≠ [] ∧ 0 ∉ entry

/-- The entries with their terminators. -/
def terminated (entries : List WideString) : List UInt16 :=
  entries.flatMap fun entry => entry ++ [0]

/-- A MULTI_SZ ends with an empty entry. -/
def encodeMultisz (entries : List WideString) : List UInt16 := terminated entries ++ [0]

theorem splitOn_zero_cons (buffer : List UInt16) :
    (0 :: buffer).splitOn 0 = [] :: buffer.splitOn 0 := by
  rw [List.splitOn, List.splitOnP_cons_eq_if_modifyHead, if_pos (by decide), List.splitOn]

theorem splitOn_unit_cons {unit : UInt16} (h : unit ≠ 0) (buffer : List UInt16) :
    (unit :: buffer).splitOn 0 = (buffer.splitOn 0).modifyHead (List.cons unit) := by
  rw [List.splitOn, List.splitOnP_cons_eq_if_modifyHead, if_neg (by simpa using h), List.splitOn]

theorem splitOn_exists (buffer : List UInt16) :
    ∃ first pieces, buffer.splitOn 0 = first :: pieces := by
  cases hpieces : buffer.splitOn 0 with
  | nil => exact absurd hpieces (List.splitOnP_ne_nil _ _)
  | cons first pieces => exact ⟨first, pieces, rfl⟩

theorem splitOn_append_cons (entry : WideString) (h : 0 ∉ entry) (rest : List UInt16) :
    (entry ++ 0 :: rest).splitOn 0 = entry :: rest.splitOn 0 := by
  induction entry with
  | nil => exact splitOn_zero_cons rest
  | cons unit entry ih =>
    have hunit : unit ≠ 0 := fun heq => h (heq ▸ List.mem_cons_self)
    have hrest : 0 ∉ entry := fun hmem => h (List.mem_cons_of_mem _ hmem)
    rw [List.cons_append, splitOn_unit_cons hunit, ih hrest]
    rfl

theorem multiszEntries_append (entry : WideString) (h : IsEntry entry) (rest : List UInt16) :
    multiszEntries (entry ++ 0 :: rest) = entry :: multiszEntries rest := by
  rw [multiszEntries, splitOn_append_cons entry h.2, List.takeWhile_cons_of_pos]
  · rfl
  · simpa using h.1

/-- Whatever follows in the buffer, the entries of a MULTI_SZ are read back. -/
theorem multiszEntries_encode (entries : List WideString) (h : ∀ entry ∈ entries, IsEntry entry)
    (rest : List UInt16) : multiszEntries (encodeMultisz entries ++ rest) = entries := by
  induction entries with
  | nil =>
    have hfirst : multiszEntries (0 :: rest) = [] := by
      rw [multiszEntries, splitOn_zero_cons]
      rfl
    exact hfirst
  | cons entry entries ih =>
    have hsplit : encodeMultisz (entry :: entries) ++ rest =
        entry ++ 0 :: (encodeMultisz entries ++ rest) := by
      simp [encodeMultisz, terminated]
    rw [hsplit, multiszEntries_append entry (h entry List.mem_cons_self),
      ih fun e he => h e (List.mem_cons_of_mem _ he)]

theorem splitOn_units (buffer : List UInt16) : ∀ piece ∈ buffer.splitOn 0, 0 ∉ piece := by
  induction buffer with
  | nil =>
    intro piece hpiece
    rw [List.mem_singleton.mp hpiece]
    exact List.not_mem_nil
  | cons unit buffer ih =>
    by_cases hunit : unit = 0
    · rw [hunit, splitOn_zero_cons]
      intro piece hpiece
      rcases List.mem_cons.mp hpiece with rfl | hpiece
      · exact List.not_mem_nil
      · exact ih piece hpiece
    · obtain ⟨first, pieces, hpieces⟩ := splitOn_exists buffer
      rw [splitOn_unit_cons hunit, hpieces]
      rw [hpieces] at ih
      intro piece hpiece
      rcases List.mem_cons.mp hpiece with rfl | hpiece
      · intro hmem
        rcases List.mem_cons.mp hmem with heq | hmem
        · exact hunit heq.symm
        · exact ih first List.mem_cons_self hmem
      · exact ih piece (List.mem_cons_of_mem _ hpiece)

/-- The pieces of a buffer with their terminators are the buffer with one more. -/
theorem terminated_splitOn (buffer : List UInt16) :
    terminated (buffer.splitOn 0) = buffer ++ [0] := by
  induction buffer with
  | nil => rfl
  | cons unit buffer ih =>
    by_cases hunit : unit = 0
    · rw [hunit, splitOn_zero_cons]
      exact congrArg (List.cons 0) ih
    · obtain ⟨first, pieces, hpieces⟩ := splitOn_exists buffer
      rw [hpieces] at ih
      rw [splitOn_unit_cons hunit, hpieces]
      exact congrArg (List.cons unit) ih

/-- The entries of any buffer are strings that a MULTI_SZ can hold, and the buffer begins with them. -/
theorem multiszEntries_sound (buffer : List UInt16) :
    (∀ entry ∈ multiszEntries buffer, IsEntry entry) ∧
      terminated (multiszEntries buffer) <+: buffer ++ [0] := by
  constructor
  · intro entry hentry
    refine ⟨fun hempty => ?_, splitOn_units buffer entry ((List.takeWhile_prefix _).subset hentry)⟩
    have htrue := List.mem_takeWhile_imp hentry
    rw [hempty] at htrue
    cases htrue
  · rw [← terminated_splitOn buffer]
    have hpieces := List.takeWhile_append_dropWhile (p := fun entry : WideString => !entry.isEmpty)
      (l := buffer.splitOn 0)
    refine ⟨terminated ((buffer.splitOn 0).dropWhile fun entry => !entry.isEmpty), ?_⟩
    rw [multiszEntries, terminated, terminated, ← List.flatMap_append, hpieces]
    rfl

/-- A MULTI_SZ is read back from the front of any buffer, and what is read of any buffer is such a
list. -/
theorem multisz_roundTrip (entries : List WideString) (buffer : List UInt16)
    (h : ∀ entry ∈ entries, IsEntry entry) :
    multiszEntries (encodeMultisz entries ++ buffer) = entries ∧
      (∀ entry ∈ multiszEntries buffer, IsEntry entry) ∧
      terminated (multiszEntries buffer) <+: buffer ++ [0] :=
  ⟨multiszEntries_encode entries h buffer, multiszEntries_sound buffer⟩

/-- A MULTI_SZ of two entries in a longer buffer. -/
theorem multisz_roundTrip_two :
    multiszEntries (encodeMultisz [[65], [66, 67]] ++ [68, 0, 7]) = [[65], [66, 67]] ∧
      (∀ entry ∈ multiszEntries [68, 0, 7], IsEntry entry) ∧
      terminated (multiszEntries [68, 0, 7]) <+: [68, 0, 7, 0] :=
  multisz_roundTrip [[65], [66, 67]] [68, 0, 7] fun entry hentry => by
    rcases List.mem_pair.mp hentry with rfl | rfl
    · exact ⟨by decide, by decide⟩
    · exact ⟨by decide, by decide⟩

/-! ## Mount points that change -/

/-- What Windows answers when the mount points of the volume are `paths`. -/
structure Serves (paths : List WideString) (length : ULONG) (answer : PathNames) : Prop where
  required : answer.required.toNat = (encodeMultisz paths).length
  fits : (encodeMultisz paths).length ≤ length.toNat →
    answer.succeeded = true ∧ ∃ rest, answer.units = encodeMultisz paths ++ rest
  grows : length.toNat < (encodeMultisz paths).length →
    answer.succeeded = false ∧ answer.lastError = errorMoreData

/-- The mount points at each of the calls. -/
def Served (paths : ℕ → List WideString) (t : List (Event fun _ : ULONG => PathNames)) : Prop :=
  ∀ i e, t[i]? = some e → (∀ entry ∈ paths i, IsEntry entry) ∧ Serves (paths i) e.call e.answer

/-- However the mount points change between the calls, `volume_paths` returns them as they are at its
last call, all of them, after at most three calls; it fails only when they have grown before each of
its reads. -/
theorem volumePaths_whole (paths : ℕ → List WideString)
    (t : List (Event fun _ : ULONG => PathNames)) (result : Except Error (List WideString))
    (hrun : Runs volumePaths t result) (hserved : Served paths t) :
    (t.length = 2 ∧ result = .ok (paths 1)) ∨ (t.length = 3 ∧ result = .ok (paths 2)) ∨
      (t.length = 3 ∧ (∃ error, result = .error error) ∧
        (encodeMultisz (paths 0)).length < (encodeMultisz (paths 1)).length ∧
        (encodeMultisz (paths 1)).length < (encodeMultisz (paths 2)).length) := by
  obtain ⟨probe, t₁, rfl, hafterProbe⟩ := Runs.call_iff.mp hrun
  have hprobe : Serves (paths 0) 0 probe := (hserved 0 _ rfl).2
  have hsome : probe.required ≠ 0 := by
    intro hzero
    have hlength := hprobe.required
    rw [hzero, encodeMultisz, List.length_append, List.length_singleton] at hlength
    have h : (0 : ULONG).toNat = 0 := rfl
    omega
  rw [if_neg hsome] at hafterProbe
  obtain ⟨read, t₂, rfl, hafterRead⟩ := Runs.call_iff.mp hafterProbe
  have hread : Serves (paths 1) probe.required read := (hserved 1 _ rfl).2
  by_cases hfits : (encodeMultisz (paths 1)).length ≤ (encodeMultisz (paths 0)).length
  · obtain ⟨hsucceeded, rest, hunits⟩ := hread.fits (hprobe.required ▸ hfits)
    rw [if_pos hsucceeded] at hafterRead
    obtain ⟨rfl, rfl⟩ := Runs.done_iff.mp hafterRead
    rw [hunits, multiszEntries_encode _ (hserved 1 _ rfl).1]
    exact Or.inl ⟨rfl, rfl⟩
  · have hgrown := not_le.mp hfits
    obtain ⟨hfailed, hcode⟩ := hread.grows (hprobe.required.symm ▸ hgrown)
    rw [if_neg (hfailed ▸ Bool.false_ne_true), if_neg (not_not.mpr hcode)] at hafterRead
    obtain ⟨reread, t₃, rfl, hafterReread⟩ := Runs.call_iff.mp hafterRead
    have hreread : Serves (paths 2) read.required reread := (hserved 2 _ rfl).2
    by_cases hfits : (encodeMultisz (paths 2)).length ≤ (encodeMultisz (paths 1)).length
    · obtain ⟨hsucceeded, rest, hunits⟩ := hreread.fits (hread.required ▸ hfits)
      rw [if_pos hsucceeded] at hafterReread
      obtain ⟨rfl, rfl⟩ := Runs.done_iff.mp hafterReread
      rw [hunits, multiszEntries_encode _ (hserved 2 _ rfl).1]
      exact Or.inr (Or.inl ⟨rfl, rfl⟩)
    · have hagain := not_le.mp hfits
      obtain ⟨hfailed, _⟩ := hreread.grows (hread.required.symm ▸ hagain)
      rw [if_neg (hfailed ▸ Bool.false_ne_true)] at hafterReread
      obtain ⟨rfl, rfl⟩ := Runs.done_iff.mp hafterReread
      exact Or.inr (Or.inr ⟨rfl, ⟨_, rfl⟩, hgrown, hagain⟩)

/-- A mount point is added between the first two calls. -/
def growingPaths : ℕ → List WideString
  | 0 => []
  | _ => [[82, 58, 92]]

def growingRun : List (Event fun _ : ULONG => PathNames) :=
  [⟨0, ⟨false, 234, 1, []⟩⟩, ⟨1, ⟨false, 234, 5, [0]⟩⟩, ⟨5, ⟨true, 0, 5, [82, 58, 92, 0, 0]⟩⟩]

theorem growing_served : Served growingPaths growingRun := by
  intro i e he
  have hentry : ∀ entry ∈ [([82, 58, 92] : WideString)], IsEntry entry := by
    intro entry hmem
    rw [List.mem_singleton.mp hmem]
    exact ⟨by decide, by decide⟩
  match i with
  | 0 =>
    cases he
    exact ⟨(fun entry hmem => absurd hmem List.not_mem_nil), rfl,
      (fun h => absurd h (by decide)), fun _ => ⟨rfl, rfl⟩⟩
  | 1 =>
    cases he
    exact ⟨hentry, rfl, (fun h => absurd h (by decide)), fun _ => ⟨rfl, rfl⟩⟩
  | 2 =>
    cases he
    exact ⟨hentry, rfl, (fun _ => ⟨rfl, [], rfl⟩), fun h => absurd h (by decide)⟩
  | i + 3 => cases he

theorem growing_whole :
    (growingRun.length = 2 ∧ (.ok [[82, 58, 92]] : Except Error (List WideString)) = .ok (growingPaths 1)) ∨
      (growingRun.length = 3 ∧
        (.ok [[82, 58, 92]] : Except Error (List WideString)) = .ok (growingPaths 2)) ∨
      (growingRun.length = 3 ∧
        (∃ error, (.ok [[82, 58, 92]] : Except Error (List WideString)) = .error error) ∧
        (encodeMultisz (growingPaths 0)).length < (encodeMultisz (growingPaths 1)).length ∧
        (encodeMultisz (growingPaths 1)).length < (encodeMultisz (growingPaths 2)).length) :=
  volumePaths_whole growingPaths growingRun _ (Runs.of_replay (by rfl)) growing_served

/-! ## Volume enumeration -/

namespace VolumeFinder

/-- The items after the first, by what `FindNextVolumeW` answers. -/
def following : List NextVolume → List (Except Error WideString)
  | [] => []
  | .error code :: _ =>
    if code = errorNoMoreFiles then [] else [.error (.os "enumerate next volume" code)]
  | .ok buffer :: answers =>
    match wideFromBuffer buffer with
    | none => [.error (.message "unterminated volume name")]
    | some name => .ok name :: following answers

/-- The items of a whole enumeration: the names in order, up to its end or its first error. -/
def enumeration (buffer : List UInt16) (answers : List NextVolume) :
    List (Except Error WideString) :=
  match wideFromBuffer buffer with
  | none => [.error (.message "unterminated volume name")]
  | some name => .ok name :: following answers

/-- A list of items, then nothing more. -/
def forever {α : Type} (items : List α) (asks : ℕ) : List (Option α) :=
  (items.map some ++ List.replicate asks none).take asks

theorem forever_nil {α : Type} (asks : ℕ) :
    forever ([] : List α) asks = List.replicate asks none := by
  rw [forever, List.map_nil, List.nil_append, List.take_replicate, Nat.min_self]

theorem forever_cons {α : Type} (a : α) (as : List α) (asks : ℕ) :
    forever (a :: as) (asks + 1) = some a :: forever as asks := by
  rw [forever, List.map_cons, List.cons_append, List.take_succ_cons, forever]
  congr 1
  rw [List.replicate_succ', ← List.append_assoc, List.take_append_of_le_length]
  rw [List.length_append, List.length_replicate]
  exact Nat.le_add_left _ _

theorem next_finished {finder : VolumeFinder} (h : finder.finished = true) (answer : NextVolume) :
    finder.next answer = (none, finder) := by rw [next, if_pos h]

theorem items_finished (asks : ℕ) (finder : VolumeFinder) (h : finder.finished = true)
    (answers : List NextVolume) : items asks finder answers = List.replicate asks none := by
  induction asks generalizing answers with
  | zero => rfl
  | succ asks ih =>
    rw [items, next_finished h, List.replicate_succ]
    exact congrArg (List.cons none) (ih _)

theorem next_running {finder : VolumeFinder} (hfirst : finder.first = false)
    (hfinished : finder.finished = false) (answer : NextVolume) :
    finder.next answer = finder.advance answer := by
  rw [next, hfinished, hfirst]
  rfl

theorem items_following (asks : ℕ) (finder : VolumeFinder) (hfirst : finder.first = false)
    (hfinished : finder.finished = false) (answers : List NextVolume) :
    items asks finder answers = forever (following answers) asks := by
  induction asks generalizing finder answers with
  | zero => rfl
  | succ asks ih =>
    have hadvances : finder.advances = true := by
      rw [advances, hfirst, hfinished]
      rfl
    rw [items, if_pos hadvances, next_running hfirst hfinished]
    cases answers with
    | nil =>
      have hlast : items asks { finder with name := [], finished := true } [] =
          List.replicate asks none := items_finished asks _ rfl []
      rw [following, forever_nil, List.replicate_succ]
      exact congrArg (List.cons none) hlast
    | cons answer answers =>
      cases answer with
      | error code =>
        by_cases hcode : code = errorNoMoreFiles
        · simp only [upcoming, advance, List.headD_cons, List.tail_cons, following, if_pos hcode]
          rw [items_finished asks _ rfl, forever_nil, List.replicate_succ]
        · simp only [upcoming, advance, List.headD_cons, List.tail_cons, following, if_neg hcode]
          rw [items_finished asks _ rfl, forever_cons, forever_nil]
      | ok buffer =>
        simp only [upcoming, advance, List.headD_cons, List.tail_cons, following, yieldName]
        cases wideFromBuffer buffer with
        | none =>
          simp only
          rw [items_finished asks _ rfl, forever_cons, forever_nil]
        | some name =>
          simp only
          rw [ih { finder with name := buffer } hfirst hfinished answers, forever_cons]

theorem items_enumeration (buffer : List UInt16) (answers : List NextVolume) (asks : ℕ) :
    items asks (new buffer) answers = forever (enumeration buffer answers) asks := by
  cases asks with
  | zero => rfl
  | succ asks =>
    have hadvances : ¬ (new buffer).advances = true := Bool.false_ne_true
    rw [items, if_neg hadvances]
    simp only [next, new, yieldName, enumeration]
    cases wideFromBuffer buffer with
    | none =>
      simp only [Bool.false_eq_true, if_false, if_true]
      rw [forever_cons, forever_nil]
      exact congrArg _ (items_finished asks _ rfl answers)
    | some name =>
      simp only [Bool.false_eq_true, if_false, if_true]
      rw [forever_cons]
      exact congrArg _ (items_following asks _ rfl rfl answers)

theorem wideFromBuffer_terminated (name : WideString) (h : 0 ∉ name) (rest : List UInt16) :
    wideFromBuffer (name ++ 0 :: rest) = some name := by
  rw [wideFromBuffer, if_pos (List.mem_append_right _ List.mem_cons_self)]
  congr 1
  rw [List.takeWhile_append_of_pos]
  · simp
  · intro unit hunit
    exact bne_iff_ne.mpr fun heq => h (heq ▸ hunit)

/-- What Windows answers when it enumerates names, whatever it leaves behind them in the buffer, and
then ends with a code. -/
def enumerating (rest : WideString → List UInt16) (names : List WideString) (code : ULONG) :
    List NextVolume :=
  names.map (fun name => .ok (name ++ 0 :: rest name)) ++ [.error code]

theorem following_enumerating (rest : WideString → List UInt16) (names : List WideString)
    (code : ULONG) (h : ∀ name ∈ names, 0 ∉ name) :
    following (enumerating rest names code) = names.map .ok ++
      if code = errorNoMoreFiles then [] else [.error (.os "enumerate next volume" code)] := by
  induction names with
  | nil => rfl
  | cons name names ih =>
    have ih := ih fun n hn => h n (List.mem_cons_of_mem _ hn)
    have hname := wideFromBuffer_terminated name (h name List.mem_cons_self) (rest name)
    rw [enumerating] at ih ⊢
    rw [List.map_cons, List.cons_append, following]
    simp only [hname]
    rw [ih]
    rfl

/-- Asked any number of times, the iterator yields the volume names that Windows enumerates, each once
and in order, then the error that ended the enumeration, if any, and nothing ever after. -/
theorem items_enumerate (rest : WideString → List UInt16) (name : WideString)
    (names : List WideString) (code : ULONG) (asks : ℕ) (h : ∀ n ∈ name :: names, 0 ∉ n) :
    items asks (new (name ++ 0 :: rest name)) (enumerating rest names code) =
      forever ((name :: names).map .ok ++
        if code = errorNoMoreFiles then [] else [.error (.os "enumerate next volume" code)]) asks := by
  have hname := wideFromBuffer_terminated name (h name List.mem_cons_self) (rest name)
  rw [items_enumeration, enumeration]
  simp only [hname]
  rw [following_enumerating rest names code fun n hn => h n (List.mem_cons_of_mem _ hn)]
  rfl

/-- Two volumes, after which the enumeration fails. -/
theorem items_enumerate_two :
    items 5 (new ([86, 92] ++ 0 :: [])) (enumerating (fun _ => []) [[87, 92]] 5) =
      forever (([86, 92] :: [[87, 92]]).map .ok ++
        if (5 : ULONG) = errorNoMoreFiles then []
        else [.error (.os "enumerate next volume" 5)]) 5 :=
  items_enumerate (fun _ => []) [86, 92] [[87, 92]] 5 5 fun n hn => by
    rcases List.mem_pair.mp hn with rfl | rfl
    · decide
    · decide

end VolumeFinder

end WispDisk.Cli
