import WispDisk.Cli.Install

/-! Installing the driver leaves no device behind that it could not bind: the root device that a run
registers is removed again exactly when binding the driver fails, a device that was there is never
removed, and the error is the one of the bind. -/
namespace WispDisk.Cli
open Procedures Procedure
set_option autoImplicit false

/-! ## Calls -/

/-- The calls that register, bind or remove. -/
def SetupCall.Installs : SetupCall → Prop
  | .registerDevice _ => True
  | .bindDriver _ _ => True
  | .removeDevice _ => True
  | _ => False

/-- A call that does none of it. -/
def Prepares : Call ⊕ SetupCall → Prop
  | .inl _ => True
  | .inr c => ¬ c.Installs

/-- A call that writes out or stages the package. -/
def Packs : Call ⊕ SetupCall → Prop
  | .inr (.createDirectories _) => True
  | .inr (.writeFile _ _) => True
  | .inr (.canonicalize _) => True
  | .inr (.stagePackage _) => True
  | _ => False

theorem Packs.prepares {c : Call ⊕ SetupCall} (h : Packs c) : Prepares c := by
  cases c with
  | inl c => trivial
  | inr c =>
    intro hinstalls
    cases c <;> first | exact hinstalls.elim | exact h.elim

/-- A call that reads which devices are present. -/
def Examines : Call ⊕ SetupCall → Prop
  | .inr .getAdapterDevices => True
  | .inr (.enumDeviceInfo _ _) => True
  | .inr (.getHardwareId _ _) => True
  | _ => False

theorem Examines.prepares {c : Call ⊕ SetupCall} (h : Examines c) : Prepares c := by
  cases c with
  | inl c => trivial
  | inr c =>
    intro hinstalls
    cases c <;> first | exact hinstalls.elim | exact h.elim

/-- A run has registered the device of a set. -/
def Registered (set : Handle) (t : SetupTrace) : Prop :=
  (⟨.inr (.registerDevice set), .ok ()⟩ : SetupEvent) ∈ t

/-- One of the present devices has the hardware ID. -/
def FoundDevice (t : SetupTrace) : Prop :=
  ∃ set index buffer required,
    (⟨.inr (.getHardwareId set index), .ok (buffer, required)⟩ : SetupEvent) ∈ t ∧
    (multiszEntries (hardwareIdUnits buffer required)).any
      (fun value => sameIgnoringCase value rootHardwareId) = true

/-! ## The package -/

/-- A package file has been written and is not empty. -/
def Written (path : String) (contents : List UCHAR) (t : SetupTrace) : Prop :=
  contents ≠ [] ∧ (⟨.inr (.writeFile path contents), .ok ()⟩ : SetupEvent) ∈ t

/-- All files of the package have been written. -/
def Extracted (payload : DriverPayload) (directory : String) (t : SetupTrace) : Prop :=
  Written (directory ++ "\\WispDisk.sys") payload.driverSys t ∧
    Written (directory ++ "\\WispDisk.inf") payload.driverInf t ∧
    Written (directory ++ "\\WispDisk.cat") payload.driverCat t

theorem Written.append {path : String} {contents : List UCHAR} {t : SetupTrace}
    (h : Written path contents t) (u v : SetupTrace) : Written path contents (u ++ (t ++ v)) :=
  ⟨h.1, List.mem_append_right u (List.mem_append_left v h.2)⟩

theorem writePackageFile_runs {path : String} {contents : List UCHAR} {t : SetupTrace}
    (hrun : Runs (writePackageFile path contents) t (.ok ())) : Written path contents t := by
  unfold writePackageFile at hrun
  by_cases hempty : contents = []
  · rw [if_pos hempty] at hrun
    exact absurd (Runs.done_iff.mp hrun).2 fun h => by cases h
  · rw [if_neg hempty] at hrun
    obtain ⟨answer, rfl, hresult⟩ := Runs.call_done_iff.mp hrun
    cases answer with
    | error code => cases hresult
    | ok _ => exact ⟨hempty, List.mem_cons_self⟩

theorem writePackageFile_packs (path : String) (contents : List UCHAR) :
    (writePackageFile path contents).Only Packs := by
  unfold writePackageFile
  split
  · exact only_done _
  · exact only_call trivial fun _ => only_done _

theorem extractEmbedded_packs (payload : DriverPayload) (programData : Option String) :
    (extractEmbedded payload programData).Only Packs := by
  refine only_tryBind (only_call trivial fun _ => only_done _) fun _ => ?_
  refine only_tryBind (writePackageFile_packs _ _) fun _ => ?_
  refine only_tryBind (writePackageFile_packs _ _) fun _ => ?_
  refine only_tryBind (writePackageFile_packs _ _) fun _ => ?_
  exact only_call trivial fun _ => only_done _

theorem extractEmbedded_runs {payload : DriverPayload} {programData : Option String}
    {t : SetupTrace} {inf : String}
    (hrun : Runs (extractEmbedded payload programData) t (.ok inf)) :
    Extracted payload (packageDirectory programData) t := by
  rcases Runs.tryBind_iff.mp hrun with ⟨_, _, h⟩ | ⟨_, t₁, u₁, _, hrest₁, rfl⟩
  · cases h
  rcases Runs.tryBind_iff.mp hrest₁ with ⟨_, _, h⟩ | ⟨_, t₂, u₂, hsys, hrest₂, rfl⟩
  · cases h
  rcases Runs.tryBind_iff.mp hrest₂ with ⟨_, _, h⟩ | ⟨_, t₃, u₃, hinf, hrest₃, rfl⟩
  · cases h
  rcases Runs.tryBind_iff.mp hrest₃ with ⟨_, _, h⟩ | ⟨_, t₄, u₄, hcat, _, rfl⟩
  · cases h
  refine ⟨(writePackageFile_runs hsys).append t₁ _, ?_, ?_⟩
  · have h := (writePackageFile_runs hinf).append (t₁ ++ t₂) (t₄ ++ u₄)
    rwa [List.append_assoc] at h
  · have h := (writePackageFile_runs hcat).append (t₁ ++ (t₂ ++ t₃)) u₄
    rwa [List.append_assoc, List.append_assoc] at h

/-! ## The device -/

theorem deviceHasHardwareId_runs {set : Handle} {index : ℕ} {t : SetupTrace}
    (hrun : Runs (deviceHasHardwareId set index rootHardwareId) t (.ok true)) : FoundDevice t := by
  obtain ⟨answer, rest, rfl, hrest⟩ := Runs.call_iff.mp hrun
  cases answer with
  | error code =>
    simp only at hrest
    split at hrest
    · exact absurd (Runs.done_iff.mp hrest).2 fun h => by cases h
    · exact absurd (Runs.done_iff.mp hrest).2 fun h => by cases h
  | ok answer =>
    obtain ⟨buffer, required⟩ := answer
    obtain ⟨rfl, hfound⟩ := Runs.done_iff.mp hrest
    exact ⟨set, index, buffer, required, List.mem_cons_self, (Except.ok.inj hfound).symm⟩

theorem FoundDevice.append {t : SetupTrace} (h : FoundDevice t) (u v : SetupTrace) :
    FoundDevice (u ++ (t ++ v)) := by
  obtain ⟨set, index, buffer, required, hmem, hany⟩ := h
  exact ⟨set, index, buffer, required, List.mem_append_right u (List.mem_append_left v hmem), hany⟩

/-- What was read of a device that does not have the ID. -/
theorem deviceHasHardwareId_missing {set : Handle} {index : ℕ} {t : SetupTrace}
    (hrun : Runs (deviceHasHardwareId set index rootHardwareId) t (.ok false)) :
    ¬ FoundDevice t := by
  rintro ⟨set', index', buffer, required, hmem, hany⟩
  obtain ⟨answer, rest, rfl, hrest⟩ := Runs.call_iff.mp hrun
  cases answer with
  | error code =>
    simp only at hrest
    split at hrest
    · obtain ⟨rfl, _⟩ := Runs.done_iff.mp hrest
      simp at hmem
    · exact absurd (Runs.done_iff.mp hrest).2 fun h => by cases h
  | ok answer =>
    obtain ⟨rfl, hfound⟩ := Runs.done_iff.mp hrest
    cases List.mem_singleton.mp hmem
    have hnone := (Except.ok.inj hfound).symm
    simp only at hnone
    rw [hnone] at hany
    cases hany

theorem foundDevice_append {t u : SetupTrace} :
    FoundDevice (t ++ u) ↔ FoundDevice t ∨ FoundDevice u := by
  constructor
  · rintro ⟨set, index, buffer, required, hmem, hany⟩
    rcases List.mem_append.mp hmem with hmem | hmem
    · exact Or.inl ⟨set, index, buffer, required, hmem, hany⟩
    · exact Or.inr ⟨set, index, buffer, required, hmem, hany⟩
  · rintro (h | h)
    · exact h.append [] u
    · have h := h.append t []
      rwa [List.append_nil] at h

/-- A device is found just when one was read that has the ID. -/
theorem existsFrom_runs {set : Handle} {indices : List ℕ} {t : SetupTrace} {found : Bool}
    (hrun : Runs (existsFrom set indices) t (.ok found)) : found = true ↔ FoundDevice t := by
  induction indices generalizing t with
  | nil =>
    obtain ⟨rfl, hfound⟩ := Runs.done_iff.mp hrun
    cases hfound
    refine ⟨(fun h => by cases h), fun h => ?_⟩
    obtain ⟨_, _, _, _, hmem, _⟩ := h
    exact absurd hmem List.not_mem_nil
  | cons index indices ih =>
    obtain ⟨answer, rest, rfl, hrest⟩ := Runs.call_iff.mp hrun
    cases answer with
    | error code => exact absurd (Runs.done_iff.mp hrest).2 fun h => by cases h
    | ok _ =>
      have hskip : ∀ u, FoundDevice ((⟨.inr (.enumDeviceInfo set index), .ok ()⟩ : SetupEvent) :: u) ↔
          FoundDevice u := by
        intro u
        rw [← List.singleton_append, foundDevice_append]
        refine ⟨fun h => h.resolve_left fun h => ?_, Or.inr⟩
        obtain ⟨_, _, _, _, hmem, _⟩ := h
        cases List.mem_singleton.mp hmem
      rcases Runs.tryBind_iff.mp hrest with ⟨_, _, h⟩ | ⟨has, t₁, t₂, hread, hnext, rfl⟩
      · cases h
      rw [hskip, foundDevice_append]
      cases has with
      | true =>
        obtain ⟨rfl, hfound⟩ := Runs.done_iff.mp hnext
        cases hfound
        exact ⟨fun _ => Or.inl (deviceHasHardwareId_runs hread), fun _ => rfl⟩
      | false =>
        rw [ih hnext]
        exact ⟨Or.inr, fun h => h.resolve_left (deviceHasHardwareId_missing hread)⟩

theorem foundDevice_cons {e : SetupEvent} {t : SetupTrace}
    (he : ∀ set index, e.call ≠ .inr (.getHardwareId set index)) :
    FoundDevice (e :: t) ↔ FoundDevice t := by
  rw [← List.singleton_append, foundDevice_append]
  refine ⟨fun h => h.resolve_left fun h => ?_, Or.inr⟩
  obtain ⟨set, index, _, _, hmem, _⟩ := h
  exact he set index (congrArg Event.call (List.mem_singleton.mp hmem)).symm

theorem deviceExists_runs {t : SetupTrace} {found : Bool} (hrun : Runs deviceExists t (.ok found)) :
    found = true ↔ FoundDevice t := by
  obtain ⟨answer, rest, rfl, hrest⟩ := Runs.call_iff.mp hrun
  cases answer with
  | error code => exact absurd (Runs.done_iff.mp hrest).2 fun h => by cases h
  | ok answer =>
    rw [foundDevice_cons fun _ _ h => by cases h]
    exact existsFrom_runs hrest

theorem deviceExists_examines : deviceExists.Only Examines := by
  refine only_call trivial fun answer => ?_
  cases answer with
  | error code => exact only_done _
  | ok answer =>
    obtain ⟨set, count⟩ := answer
    have hloop : ∀ indices, (existsFrom set indices).Only Examines := by
      intro indices
      induction indices with
      | nil => exact only_done _
      | cons index indices ih =>
        refine only_call trivial fun answer => ?_
        cases answer with
        | error code => exact only_done _
        | ok _ =>
          refine only_tryBind (only_call trivial fun answer => ?_) fun found => ?_
          · cases answer with
            | error code =>
              simp only
              split
              · exact only_done _
              · exact only_done _
            | ok units => exact only_done _
          · cases found with
            | true => exact only_done _
            | false => exact ih
    exact hloop _

theorem packs_unfound {t : SetupTrace} (h : ∀ e ∈ t, Packs e.call) : ¬ FoundDevice t := by
  rintro ⟨_, _, _, _, hmem, _⟩
  exact h _ hmem

theorem prepares_unregistered {t : SetupTrace} (h : ∀ e ∈ t, Prepares e.call) (set : Handle) :
    ¬ Registered set t := fun hmem => h _ hmem trivial

/-- No device has been bound or removed. -/
def Unbound (t : SetupTrace) : Prop :=
  ∀ e ∈ t, (∀ id inf, e.call ≠ .inr (.bindDriver id inf)) ∧ ∀ set, e.call ≠ .inr (.removeDevice set)

theorem prepares_unbound {t : SetupTrace} (h : ∀ e ∈ t, Prepares e.call) : Unbound t := by
  intro e he
  have hprepares := h e he
  refine ⟨fun id inf heq => ?_, fun set heq => ?_⟩
  · rw [heq] at hprepares
    exact hprepares trivial
  · rw [heq] at hprepares
    exact hprepares trivial

theorem Unbound.append {t u : SetupTrace} (ht : Unbound t) (hu : Unbound u) : Unbound (t ++ u) := by
  intro e he
  rcases List.mem_append.mp he with he | he
  · exact ht e he
  · exact hu e he

theorem registered_append {t u : SetupTrace} {set : Handle} :
    Registered set (t ++ u) ↔ Registered set t ∨ Registered set u := List.mem_append

/-- Creating the device registers it, or nothing. -/
theorem create_runs {t : SetupTrace} {result : Except Error (Option CreatedDevice)}
    (hrun : Runs CreatedDevice.create t result) : Unbound t ∧ ¬ FoundDevice t ∧
      ((∃ error, result = .error error) ∧ (∀ set, ¬ Registered set t) ∨
        ∃ device, result = .ok (some device) ∧ ∀ set, Registered set t ↔ set = device.set) := by
  rcases Runs.tryBind_iff.mp hrun with ⟨error, hlist, rfl⟩ | ⟨set, t₁, u₁, hlist, hrest₁, rfl⟩
  · obtain ⟨answer, rfl, _⟩ := Runs.call_done_iff.mp hlist
    simp [Unbound, FoundDevice, Registered]
  obtain ⟨_, rfl, _⟩ := Runs.call_done_iff.mp hlist
  rcases Runs.tryBind_iff.mp hrest₁ with ⟨error, hinfo, rfl⟩ | ⟨_, t₂, u₂, hinfo, hrest₂, rfl⟩
  · obtain ⟨answer, rfl, _⟩ := Runs.call_done_iff.mp hinfo
    simp [Unbound, FoundDevice, Registered]
  obtain ⟨_, rfl, _⟩ := Runs.call_done_iff.mp hinfo
  rcases Runs.tryBind_iff.mp hrest₂ with ⟨error, hid, rfl⟩ | ⟨_, t₃, u₃, hid, hrest₃, rfl⟩
  · obtain ⟨answer, rfl, _⟩ := Runs.call_done_iff.mp hid
    simp [Unbound, FoundDevice, Registered]
  obtain ⟨_, rfl, _⟩ := Runs.call_done_iff.mp hid
  rcases Runs.tryBind_iff.mp hrest₃ with ⟨error, hregister, rfl⟩ | ⟨_, t₄, u₄, hregister, hdone, rfl⟩
  · obtain ⟨answer, rfl, hanswer⟩ := Runs.call_done_iff.mp hregister
    cases answer with
    | error code => simp [Unbound, FoundDevice, Registered]
    | ok _ => cases hanswer
  obtain ⟨answer, rfl, hanswer⟩ := Runs.call_done_iff.mp hregister
  obtain ⟨rfl, rfl⟩ := Runs.done_iff.mp hdone
  cases answer with
  | error code => cases hanswer
  | ok _ => simp [Unbound, FoundDevice, Registered]

/-- What `create_if_missing` has found, and whether it has registered the device. -/
structure Provided (device : Option CreatedDevice) (t : SetupTrace) : Prop where
  found : device = none ↔ FoundDevice t
  registered : ∀ set, Registered set t ↔ device = some ⟨set⟩

theorem createIfMissing_runs {t : SetupTrace} {result : Except Error (Option CreatedDevice)}
    (hrun : Runs CreatedDevice.createIfMissing t result) : Unbound t ∧
      ((∃ error, result = .error error) ∧ (∀ set, ¬ Registered set t) ∨
        ∃ device, result = .ok device ∧ Provided device t) := by
  rcases Runs.tryBind_iff.mp hrun with ⟨error, hexists, rfl⟩ | ⟨found, t₁, t₂, hexists, hrest, rfl⟩
  · have hprepares := hexists.only (only_imp deviceExists_examines fun _ => Examines.prepares)
    exact ⟨prepares_unbound hprepares, Or.inl ⟨⟨error, rfl⟩, prepares_unregistered hprepares⟩⟩
  have hprepares := hexists.only (only_imp deviceExists_examines fun _ => Examines.prepares)
  have hunregistered := prepares_unregistered hprepares
  cases found with
  | true =>
    obtain ⟨rfl, rfl⟩ := Runs.done_iff.mp hrest
    rw [List.append_nil]
    refine ⟨prepares_unbound hprepares, Or.inr ⟨none, rfl, ?_, fun set => ?_⟩⟩
    · exact ⟨fun _ => (deviceExists_runs hexists).mp rfl, fun _ => rfl⟩
    · exact ⟨fun h => absurd h (hunregistered set), fun h => by cases h⟩
  | false =>
    obtain ⟨hunbound, hmissing, hcreated⟩ := create_runs hrest
    refine ⟨(prepares_unbound hprepares).append hunbound, hcreated.imp (fun h => ⟨h.1, ?_⟩) ?_⟩
    · intro set hregistered
      exact (registered_append.mp hregistered).elim (hunregistered set) (h.2 set)
    · rintro ⟨device, rfl, hdevice⟩
      refine ⟨some device, rfl, ?_, fun set => ?_⟩
      · refine ⟨(fun h => by cases h), fun hfound => ?_⟩
        rcases foundDevice_append.mp hfound with hfound | hfound
        · exact absurd ((deviceExists_runs hexists).mpr hfound) Bool.false_ne_true
        · exact absurd hfound hmissing
      · rw [registered_append, or_iff_right (hunregistered set), hdevice]
        constructor
        · rintro rfl
          rfl
        · intro h
          cases h
          rfl

/-! ## Whole runs -/

def bindError (code : ULONG) : Error := .os "bind and start WispDisk driver" code

/-- The error of a failed bind, by what removing the new device answered. -/
def unboundError (code : ULONG) : Except ULONG Unit → Error
  | .ok () => bindError code
  | .error removal =>
    recoveryFailed (bindError code) "removing the newly created root device also failed"
      (.os "remove newly created WispDisk root device" removal)

/-- The package is written and staged, and there is a root device, new or not. -/
structure Readied (payload : DriverPayload) (programData : Option String)
    (device : Option CreatedDevice) (t : SetupTrace) : Prop where
  extracted : Extracted payload (packageDirectory programData) t
  staged : ∃ inf reboot, (⟨.inr (.stagePackage inf), .ok reboot⟩ : SetupEvent) ∈ t
  provided : Provided device t
  unbound : Unbound t

/-- What follows a failed bind: a device that the run registered is removed, and no other; the error
keeps the code of the bind. -/
def BindFailed (device : Option CreatedDevice) (code : ULONG) (t : SetupTrace)
    (result : Except Error Unit) : Prop :=
  (∃ error, result = .error error ∧ error.osCode? = some code) ∧
    ((device = none ∧ t = [] ∧ result = .error (bindError code)) ∨
      ∃ created answer, device = some created ∧
        t = [⟨.inr (.removeDevice created.set), answer⟩] ∧
        result = .error (unboundError code answer))

/-- How an installation ends: before the bind, with nothing registered; or with the bind, which is the
last call unless it fails on a device of this run. -/
def InstallEnds (payload : DriverPayload) (programData : Option String) (t : SetupTrace)
    (result : Except Error Unit) : Prop :=
  ((∃ error, result = .error error) ∧ (∀ set, ¬ Registered set t) ∧ Unbound t) ∨
  ∃ device before inf, Readied payload programData device before ∧
    ((∃ reboot, t = before ++ [⟨.inr (.bindDriver rootHardwareId inf), .ok reboot⟩] ∧
        (result = .ok () ↔ reboot = false)) ∨
      ∃ code after, t = before ++ ⟨.inr (.bindDriver rootHardwareId inf), .error code⟩ :: after ∧
        BindFailed device code after result)

theorem rollbackBind_runs {device : Option CreatedDevice} {code : ULONG} {t : SetupTrace}
    {result : Except Error Unit} (hrun : Runs (rollbackBind device (bindError code)) t result) :
    BindFailed device code t result := by
  cases device with
  | none =>
    obtain ⟨rfl, rfl⟩ := Runs.done_iff.mp hrun
    exact ⟨⟨_, rfl, rfl⟩, Or.inl ⟨rfl, rfl, rfl⟩⟩
  | some created =>
    obtain ⟨removed, t₁, t₂, hremove, hrest, rfl⟩ := Runs.bind_iff.mp hrun
    obtain ⟨answer, rfl, hanswer⟩ := Runs.call_done_iff.mp hremove
    subst hanswer
    cases answer with
    | error removal =>
      obtain ⟨rfl, rfl⟩ := Runs.done_iff.mp hrest
      exact ⟨⟨_, rfl, rfl⟩, Or.inr ⟨created, .error removal, rfl, rfl, rfl⟩⟩
    | ok _ =>
      obtain ⟨rfl, rfl⟩ := Runs.done_iff.mp hrest
      exact ⟨⟨_, rfl, rfl⟩, Or.inr ⟨created, .ok (), rfl, rfl, rfl⟩⟩

/-- The package, once staged, and the device make the driver ready to be bound. -/
theorem staged_readied {payload : DriverPayload} {programData : Option String} {inf : String}
    {reboot : Bool} {device : Option CreatedDevice} {t u : SetupTrace}
    (hextracted : Extracted payload (packageDirectory programData) t)
    (hpacked : ∀ e ∈ t ++ [⟨.inr (.stagePackage inf), .ok reboot⟩], Packs e.call)
    (hunbound : Unbound u) (hprovided : Provided device u) :
    Readied payload programData device
      (t ++ [⟨.inr (.stagePackage inf), .ok reboot⟩] ++ u) := by
  have hstaged : ∀ e ∈ t ++ [⟨.inr (.stagePackage inf), .ok reboot⟩], Prepares e.call :=
    fun e he => (hpacked e he).prepares
  have hlater : ∀ path contents, Written path contents t →
      Written path contents (t ++ [⟨.inr (.stagePackage inf), .ok reboot⟩] ++ u) := by
    intro path contents hwritten
    exact ⟨hwritten.1, List.mem_append_left _ (List.mem_append_left _ hwritten.2)⟩
  obtain ⟨hsys, hinf, hcat⟩ := hextracted
  refine ⟨⟨hlater _ _ hsys, hlater _ _ hinf, hlater _ _ hcat⟩, ⟨inf, reboot, ?_⟩,
    ⟨?_, fun set => ?_⟩, (prepares_unbound hstaged).append hunbound⟩
  · exact List.mem_append_left _ (List.mem_append_right _ List.mem_cons_self)
  · rw [hprovided.found, foundDevice_append]
    exact ⟨Or.inr, fun hfound => hfound.resolve_left (packs_unfound hpacked)⟩
  · rw [registered_append, or_iff_right (prepares_unregistered hstaged set), hprovided.registered]

/-- However its calls come out, an installation that registers the root device and cannot bind the
driver removes that device, as its last call; it removes no other device, and binds only after the
package is written and staged. -/
theorem installEmbeddedDriver_ends (payload : DriverPayload) (programData : Option String)
    (t : SetupTrace) (result : Except Error Unit)
    (h : Runs (installEmbeddedDriver payload programData) t result) :
    InstallEnds payload programData t result := by
  have hextract := extractEmbedded_packs payload programData
  rcases Runs.tryBind_iff.mp h with ⟨error, hextracting, rfl⟩ | ⟨inf, t₁, u₁, hextracting, hrest₁, rfl⟩
  · have hprepares : ∀ e ∈ t, Prepares e.call := fun e he => (hextracting.only hextract e he).prepares
    exact Or.inl ⟨⟨error, rfl⟩, prepares_unregistered hprepares, prepares_unbound hprepares⟩
  have hpacks := hextracting.only hextract
  have hextracted := extractEmbedded_runs hextracting
  rcases Runs.tryBind_iff.mp hrest₁ with ⟨error, hstage, rfl⟩ | ⟨reboot, t₂, u₂, hstage, hrest₂, rfl⟩
  · have hall : ∀ e ∈ t₁ ++ u₁, Prepares e.call := by
      obtain ⟨answer, rfl, _⟩ := Runs.call_done_iff.mp hstage
      intro e he
      rcases List.mem_append.mp he with he | he
      · exact (hpacks e he).prepares
      · cases List.mem_singleton.mp he
        exact id
    exact Or.inl ⟨⟨error, rfl⟩, prepares_unregistered hall, prepares_unbound hall⟩
  obtain ⟨answer, rfl, hanswer⟩ := Runs.call_done_iff.mp hstage
  cases answer with
  | error code => cases hanswer
  | ok staged =>
  have hpacked : ∀ e ∈ t₁ ++ [⟨.inr (.stagePackage inf), .ok staged⟩], Packs e.call := by
    intro e he
    rcases List.mem_append.mp he with he | he
    · exact hpacks e he
    · cases List.mem_singleton.mp he
      trivial
  have hstaged : ∀ e ∈ t₁ ++ [⟨.inr (.stagePackage inf), .ok staged⟩], Prepares e.call :=
    fun e he => (hpacked e he).prepares
  have hunregistered := prepares_unregistered hstaged
  rcases Runs.tryBind_iff.mp hrest₂ with ⟨error, hdevice, rfl⟩ | ⟨device, t₃, u₃, hdevice, hbind, rfl⟩
  · obtain ⟨hunbound, houtcome⟩ := createIfMissing_runs hdevice
    rw [← List.append_assoc]
    refine Or.inl ⟨⟨error, rfl⟩, fun set hregistered => ?_, (prepares_unbound hstaged).append hunbound⟩
    rcases houtcome with ⟨_, hnone⟩ | ⟨_, hok, _⟩
    · exact (registered_append.mp hregistered).elim (hunregistered set) (hnone set)
    · cases hok
  · obtain ⟨hunbound, houtcome⟩ := createIfMissing_runs hdevice
    rcases houtcome with ⟨⟨_, herror⟩, _⟩ | ⟨device', hok, hprovided⟩
    · cases herror
    cases hok
    have hreadied := staged_readied hextracted hpacked hunbound hprovided
    obtain ⟨answer, u₄, rfl, hbound⟩ := Runs.call_iff.mp hbind
    refine Or.inr ⟨device, _, inf, hreadied, ?_⟩
    rw [← List.append_assoc, ← List.append_assoc]
    cases answer with
    | error code => exact Or.inr ⟨code, u₄, rfl, rollbackBind_runs hbound⟩
    | ok required =>
      refine Or.inl ⟨required, ?_⟩
      cases required with
      | false =>
        obtain ⟨rfl, rfl⟩ := Runs.done_iff.mp hbound
        exact ⟨rfl, fun _ => rfl, fun _ => rfl⟩
      | true =>
        obtain ⟨rfl, rfl⟩ := Runs.done_iff.mp hbound
        exact ⟨rfl, (fun h => by cases h), fun h => by cases h⟩

/-- There is no device, and the driver cannot be bound to the one that is registered. -/
def unboundRun : SetupTrace :=
  [⟨.inr (.createDirectories "D:\\WispDisk\\Driver\\0.3.0"), .ok ()⟩,
    ⟨.inr (.writeFile "D:\\WispDisk\\Driver\\0.3.0\\WispDisk.sys" [1]), .ok ()⟩,
    ⟨.inr (.writeFile "D:\\WispDisk\\Driver\\0.3.0\\WispDisk.inf" [2]), .ok ()⟩,
    ⟨.inr (.writeFile "D:\\WispDisk\\Driver\\0.3.0\\WispDisk.cat" [3]), .ok ()⟩,
    ⟨.inr (.canonicalize "D:\\WispDisk\\Driver\\0.3.0\\WispDisk.inf"), .ok "inf"⟩,
    ⟨.inr (.stagePackage "inf"), .ok false⟩, ⟨.inr .getAdapterDevices, .ok ((1 : ℕ), (0 : ℕ))⟩,
    ⟨.inr .createDeviceInfoList, .ok (2 : ℕ)⟩, ⟨.inr (.createDeviceInfo 2), .ok ()⟩,
    ⟨.inr (.setHardwareId 2 (rootHardwareId ++ [0, 0])), .ok ()⟩,
    ⟨.inr (.registerDevice 2), .ok ()⟩, ⟨.inr (.bindDriver rootHardwareId "inf"), .error 5⟩,
    ⟨.inr (.removeDevice 2), .error 6⟩]

set_option maxRecDepth 2000 in
theorem unbound_runs : Runs (installEmbeddedDriver ⟨[1], [2], [3]⟩ (some "D:")) unboundRun
    (.error (unboundError 5 (.error 6))) := Runs.of_replay (by rfl)

theorem unbound_ends : InstallEnds ⟨[1], [2], [3]⟩ (some "D:") unboundRun
    (.error (unboundError 5 (.error 6))) := installEmbeddedDriver_ends _ _ _ _ unbound_runs

end WispDisk.Cli
