import WispDisk.Guarantees.IdentityChecks

/-! The deletion of an allocation: once the volumes are known to be the target's, every dismount,
every removal of a mount point and the request to the driver hit the target. -/
namespace WispDisk.Cli
open Procedures World
set_option autoImplicit false

variable {α β : Type} {target : Disk} {K : World → (c : Call) → Answer c → Prop}
variable {others : World → World → Prop} {P Q : World → Prop}

/-! ## The preparation and what follows it -/

theorem Ensures.act {c : Call} {next : Answer c → Windows α} {Q : α → World → Prop}
    (hP : Stable others P)
    (hcall : ∀ w answer w', P w → w.Answers c answer w' → Good target w ⟨c, answer⟩ ∧ P w')
    (hnext : ∀ answer, Ensures target K others P (next answer) Q) :
    Ensures target K others P (.call c next) Q :=
  Triple.call (R := fun _ => P) hP (fun w answer w' hw ha => hcall w answer w' hw ha.1) hnext

/-- The calls of a restoration. -/
def Call.Restores : Call → Prop
  | .unlockVolume _ => True
  | .setMountPoint _ _ _ => True
  | _ => False

theorem restores_good {c : Call} (hc : c.Restores) (w : World) (answer : Answer c) :
    Good target w ⟨c, answer⟩ := by
  intro disk hhit
  cases c with
  | dismountVolume handle => exact hc.elim
  | deleteMountPoint volume point => exact hc.elim
  | deleteById adapter adapterInstance id => exact hc.elim
  | _ => exact hhit.elim

theorem restoreRemovedMount_restores (index : ℕ) (point : WideString) (volume : Volume) :
    (volume.restoreRemovedMount index point).Only Call.Restores := by
  unfold Volume.restoreRemovedMount
  refine Procedure.only_call trivial fun answer => ?_
  split
  · refine Procedure.only_bind (Procedure.only_call trivial fun answer => ?_) fun r =>
      Procedure.only_done _
    split
    · exact Procedure.only_done _
    · exact Procedure.only_done _
  · exact Procedure.only_done _

theorem restoreMountsFrom_restores (points : List WideString) (index : ℕ) (volume : Volume)
    (failure : Option Error) :
    (Volume.restoreMountsFrom index points volume failure).Only Call.Restores := by
  induction points generalizing index volume failure with
  | nil =>
    cases failure with
    | none => exact Procedure.only_done _
    | some error => exact Procedure.only_done _
  | cons point points ih =>
    refine Procedure.only_bind (restoreRemovedMount_restores index point volume) fun r => ?_
    obtain ⟨result, volume⟩ := r
    cases result with
    | error error => exact ih _ _ _
    | ok done => exact ih _ _ _

theorem restoreFrom_restores (volumes : List Volume) (failure : Option Error) :
    (DiskDeletion.restoreFrom volumes failure).Only Call.Restores := by
  induction volumes generalizing failure with
  | nil =>
    cases failure with
    | none => exact Procedure.only_done _
    | some error => exact Procedure.only_done _
  | cons volume volumes ih =>
    refine Procedure.only_bind (restoreMountsFrom_restores _ _ _ _) fun r => ?_
    obtain ⟨result, volume⟩ := r
    exact Procedure.only_bind (ih _) fun r => Procedure.only_done _

/-- A restoration hits no disk. -/
theorem restore_ensures (deletion : DiskDeletion) :
    Ensures target K others (fun _ => True) deletion.restore fun _ _ => True :=
  Triple.only (Procedure.only_bind (restoreFrom_restores _ _) fun _ => Procedure.only_done _)
    (fun _ _ _ h => h) fun w _ answer _ hc _ _ => ⟨restores_good hc w answer, trivial⟩

/-- The handle and the mount points of a volume are among those given. -/
def Volume.Within (handles : List Handle) (points : List WideString) (volume : Volume) : Prop :=
  volume.handle ∈ handles ∧ ∀ point ∈ volume.mountPoints, point ∈ points

variable {handles : List Handle} {points : List WideString}

theorem Ready.removed {w : World} (h : Ready target handles points w) (point : WideString) :
    Ready target handles points { w with mounts := Function.update w.mounts point none } := by
  have hupdate : ∀ p d, Function.update w.mounts point none p = some d → w.mounts p = some d := by
    intro p d hd
    by_cases heq : p = point
    · rw [heq, Function.update_self] at hd
      cases hd
    · rwa [Function.update_of_ne heq] at hd
  obtain ⟨hsound, hcreated, hhandle, hpoint⟩ := h
  exact ⟨⟨hsound.known, hsound.located, hsound.issued, hsound.numbers,
    fun p d hd => hsound.mounts p d (hupdate p d hd)⟩, hcreated, hhandle,
    fun p hp => ⟨(hpoint p hp).read, (hpoint p hp).mounted,
      fun d hd => (hpoint p hp).leads d (hupdate p d hd)⟩⟩

section
variable (hsteady : ∀ w w', others w w' → Steady target w w')
include hsteady

theorem lock_ensures (force : Bool) {volume : Volume} (h : volume.Within handles points) :
    Ensures target K others (Ready target handles points) (volume.lock force) fun r w =>
      Ready target handles points w ∧ r.2.Within handles points := by
  have hstable := (kept_ready hsteady handles points).stable
  refine Ensures.act hstable (fun w answer w' hw ha => ⟨fun disk hhit => hhit.elim, ?_⟩)
    fun answer => ?_
  · cases answer with
    | error code =>
      cases ha
      exact hw
    | ok done =>
      cases ha
      exact hw
  · cases answer with
    | error code =>
      cases force with
      | false => exact Triple.done hstable fun w hw => ⟨hw, h⟩
      | true => exact Triple.done hstable fun w hw => ⟨hw, h⟩
    | ok done => exact Triple.done hstable fun w hw => ⟨hw, h⟩

theorem dismount_ensures {volume : Volume} (h : volume.Within handles points) :
    Ensures target K others (Ready target handles points) volume.dismount fun _ =>
      Ready target handles points := by
  have hstable := (kept_ready hsteady handles points).stable
  refine Ensures.act hstable (fun w answer w' hw ha => ⟨fun disk hhit => ?_, ?_⟩)
    fun answer => Triple.done hstable fun w hw => hw
  · have hhit : w.handles volume.handle = some (.volume disk) := hhit
    rw [hw.handle volume.handle h.1] at hhit
    cases hhit
    rfl
  · cases answer with
    | error code =>
      cases ha
      exact hw
    | ok done =>
      cases ha.1
      exact hw

theorem removeMountsFrom_ensures (remaining : List WideString)
    (hremaining : ∀ point ∈ remaining, point ∈ points) {volume : Volume}
    (h : volume.Within handles points) :
    Ensures target K others (Ready target handles points)
      (Volume.removeMountsFrom remaining volume) fun r w =>
      Ready target handles points w ∧ r.2.Within handles points := by
  have hstable := (kept_ready hsteady handles points).stable
  induction remaining generalizing volume with
  | nil => exact Triple.done hstable fun w hw => ⟨hw, h⟩
  | cons point remaining ih =>
    refine Ensures.act hstable (fun w answer w' hw ha => ⟨fun disk hhit => ?_, ?_⟩)
      fun answer => ?_
    · exact (hw.point point (hremaining point List.mem_cons_self)).leads disk hhit
    · cases answer with
      | error code =>
        cases ha
        exact hw
      | ok done =>
        cases ha.2
        exact hw.removed point
    · cases answer with
      | error code => exact Triple.done hstable fun w hw => ⟨hw, h⟩
      | ok done => exact ih (fun p hp => hremaining p (List.mem_cons_of_mem _ hp)) h

theorem eachVolume_ensures {method : Volume → Updates Volume}
    (hmethod : ∀ volume : Volume, volume.Within handles points →
      Ensures target K others (Ready target handles points) (method volume) fun r w =>
        Ready target handles points w ∧ r.2.Within handles points) (volumes : List Volume)
    (hvolumes : ∀ volume ∈ volumes, volume.Within handles points) :
    Ensures target K others (Ready target handles points) (eachVolume method volumes) fun r w =>
      Ready target handles points w ∧ ∀ volume ∈ r.2, volume.Within handles points := by
  have hstable := (kept_ready hsteady handles points).stable
  induction volumes with
  | nil => exact Triple.done hstable fun w hw => ⟨hw, fun _ h => absurd h List.not_mem_nil⟩
  | cons volume volumes ih =>
    have hrest : ∀ v ∈ volumes, v.Within handles points :=
      fun v hv => hvolumes v (List.mem_cons_of_mem _ hv)
    have hcons : ∀ {v : Volume} {vs : List Volume}, v.Within handles points →
        (∀ u ∈ vs, u.Within handles points) → ∀ u ∈ v :: vs, u.Within handles points := by
      intro v vs hv hvs u hu
      cases List.mem_cons.mp hu with
      | inl heq => exact heq ▸ hv
      | inr hu => exact hvs u hu
    refine Triple.bind (hmethod volume (hvolumes volume List.mem_cons_self)) fun r => ?_
    refine Triple.fact fun hvolume => ?_
    obtain ⟨result, volume⟩ := r
    cases result with
    | error error => exact Triple.done hstable fun w hw => ⟨hw, hcons hvolume hrest⟩
    | ok done =>
      refine Triple.bind (ih hrest) fun r => Triple.fact fun hvolumes' => ?_
      obtain ⟨result, volumes'⟩ := r
      exact Triple.done hstable fun w hw => ⟨hw, hcons hvolume hvolumes'⟩

theorem update_ensures {p : Updates (List Volume)}
    (h : Ensures target K others (Ready target handles points) p fun r w =>
      Ready target handles points w ∧ ∀ volume ∈ r.2, volume.Within handles points) :
    Ensures target K others (Ready target handles points) (DiskDeletion.update p) fun r w =>
      Ready target handles points w ∧ ∀ volume ∈ r.2.volumes, volume.Within handles points := by
  have hstable := (kept_ready hsteady handles points).stable
  refine Triple.bind h fun r => Triple.fact fun hvolumes => ?_
  obtain ⟨result, volumes⟩ := r
  exact Triple.done hstable fun w hw => ⟨hw, hvolumes⟩

/-- Every dismount and every removal of a preparation hits the target. -/
theorem prepare_ensures (force : Bool) {deletion : DiskDeletion}
    (h : ∀ volume ∈ deletion.volumes, volume.Within handles points) :
    Ensures target K others (Ready target handles points) (deletion.prepare force) fun _ =>
      Ready target handles points := by
  have hkept := kept_ready hsteady handles points
  have hlock := update_ensures hsteady (eachVolume_ensures (K := K) hsteady
    (fun volume hv => lock_ensures hsteady force hv) deletion.volumes h)
  refine Triple.bind hlock fun r => Triple.fact fun hlocked => ?_
  obtain ⟨result, deletion⟩ := r
  cases result with
  | error error => exact Triple.done hkept.stable fun w hw => hw
  | ok done =>
    have hdismount : Ensures target K others (Ready target handles points) deletion.dismount
        fun _ => Ready target handles points := by
      refine (Ensures.tryFold (I := fun _ _ => True) hkept (fun _ => Kept.pure True)
        deletion.volumes (fun _ volume hvolume => ?_) ()).weaken (fun w hw => ⟨hw, trivial⟩)
        fun r w hr => hr.1
      exact (dismount_ensures hsteady (hlocked volume hvolume)).weaken (fun w hw => hw.1)
        fun r w hr => ⟨hr, fun _ _ => trivial⟩
    refine Triple.bind hdismount fun r => ?_
    cases r with
    | error error => exact Triple.done hkept.stable fun w hw => hw
    | ok done =>
      exact (update_ensures hsteady (eachVolume_ensures (K := K) hsteady (fun volume hv =>
        removeMountsFrom_ensures hsteady volume.mountPoints hv.2 hv) deletion.volumes
          hlocked)).weaken (fun _ h => h) fun r w hr => hr.1

end

/-! ## Adapters -/

/-- The handle of an open adapter names the adapter at its port. -/
def Attached (adapter : OpenAdapter) (w : World) : Prop :=
  w.handles adapter.handle = some (.adapter adapter.portNumber)

/-- An inventory shows allocations that are online then. -/
theorem state_ensures {adapter : OpenAdapter} {F : StateResponse → World → Prop}
    (hP : Kept others P) (hF : ∀ state, Kept others (F state))
    (h : ∀ w state, P w → (∀ entry ∈ listedDisks state,
      listedLocation adapter.portNumber entry ∈ w.read.addresses) →
      w.Lists adapter.portNumber state → F state w)
    (hattached : ∀ w, P w → Attached adapter w) :
    Ensures target K others P adapter.state (Gives P F) := by
  have hlist : Ensures target K others P (ask (.sendListState adapter.handle)) (Gives P F) := by
    refine Ensures.ask (F := fun (answer : Except Error StateResponse) w =>
      ∀ state, answer = .ok state → F state w) hP trivial
      (fun w answer w' hw hw' ha _ state heq => ?_) fun answer => ?_
    · subst heq
      obtain ⟨port, hport, hlists, rfl⟩ := ha
      have hhandle := hattached w hw
      unfold Attached at hhandle
      rw [hhandle] at hport
      cases hport
      refine h _ state hw' (fun entry hentry => ?_) hlists
      exact List.mem_append_left _ (List.mem_map.mpr ⟨entry, hentry, rfl⟩)
    · exact Ensures.done (hP.and (Kept.all fun state => (hF state).given)) fun w hw => hw
  refine Ensures.tryBind hP hF hlist fun state => ?_
  have hboth := hP.and (hF state)
  split
  · exact (Ensures.bail hboth _).weaken (fun _ h => h) fun r w hr => ⟨hr.1.1, hr.2⟩
  · refine Ensures.done hboth fun w hw => ⟨hw.1, fun state' heq => ?_⟩
    cases heq
    exact hw.2

/-- `?` in a procedure of which only its calls matter. -/
theorem tryBind_ensures {p : Fallible α} {f : α → Fallible β} {F : α → World → Prop}
    (hP : Kept others P) (hF : ∀ a, Kept others (F a))
    (hp : Ensures target K others P p (Gives P F))
    (hf : ∀ a, Ensures target K others (fun w => P w ∧ F a w) (f a) fun _ _ => True) :
    Ensures target K others P (p.tryBind f) fun _ _ => True :=
  Triple.tryBind hp (fun _ => (hP.gives hF _).stable) (fun _ _ _ => trivial)
    fun a => (hf a).weaken (fun _ hw => ⟨hw.1, hw.2 a rfl⟩) fun _ _ h => h

theorem bail_ensures (hP : Kept others P) (text : String) :
    Ensures target K others P (bail text : Fallible α) fun _ _ => True :=
  Ensures.done hP fun _ _ => trivial

section
variable (hsteady : ∀ w w', others w w' → Steady target w w')
include hsteady

theorem kept_attached (adapter : OpenAdapter) : Kept others (Attached adapter) :=
  kept_handle hsteady adapter.handle (.adapter adapter.portNumber)

theorem adapterAt_ensures (hP : Kept others P) (port : ℕ) :
    Ensures target K others P (adapterAt port) fun found w =>
      P w ∧ ∀ adapter, found = some adapter → Attached adapter w := by
  have hnone : ∀ {P' : World → Prop}, Kept others P' → (∀ w, P' w → P w) →
      Ensures target K others P' (.done none) fun found w =>
        P w ∧ ∀ adapter, found = some adapter → Attached adapter w :=
    fun hP' h => Ensures.done hP' fun w hw => ⟨h w hw, fun _ heq => by cases heq⟩
  refine Ensures.ask (F := fun (answer : Except ULONG Handle) w => ∀ handle, answer = .ok handle →
    Attached { handle := handle, portNumber := UInt8.ofNat port } w) hP trivial
    (fun w answer w' hw hw' ha _ handle heq => ?_) fun answer => ?_
  · subst heq
    obtain ⟨_, object, ⟨_, rfl⟩, rfl⟩ := ha
    exact Function.update_self _ _ _
  · have hkept := hP.and (Kept.all fun handle : Handle => (kept_attached hsteady
      { handle := handle, portNumber := UInt8.ofNat port }).given (T := answer = .ok handle))
    cases answer with
    | error code => exact hnone hkept fun w hw => hw.1
    | ok handle =>
      refine Triple.bind (Ensures.inquires (queryVersion_inquires _) hkept) fun r => ?_
      cases r with
      | error error => exact hnone hkept fun w hw => hw.1
      | ok response =>
        refine Ensures.done hkept fun w hw => ⟨hw.1, fun adapter heq => ?_⟩
        cases heq
        exact hw.2 handle rfl

/-- The loop rule over the adapters. -/
theorem forAdapters_ensures {body : β → OpenAdapter → Fallible β} {I : β → World → Prop}
    (hP : Kept others P) (hI : ∀ b, Kept others (I b))
    (hbody : ∀ b adapter, Ensures target K others
      (fun w => (P w ∧ I b w) ∧ Attached adapter w) (body b adapter) (Gives P I)) (b : β) :
    Ensures target K others (fun w => P w ∧ I b w) (forAdapters b body) (Gives P I) := by
  refine Ensures.tryFold hP hI (List.range scsiPortLimit) (fun b port _ => ?_) b
  have hboth := hP.and (hI b)
  refine Triple.bind (adapterAt_ensures hsteady hboth port) fun found => ?_
  cases found with
  | none =>
    refine Ensures.done (hboth.and (Kept.all fun adapter =>
      (kept_attached hsteady adapter).given)) fun w hw => ⟨hw.1.1, fun b' heq => ?_⟩
    cases heq
    exact hw.1.2
  | some adapter =>
    exact (hbody b adapter).weaken (fun w hw => ⟨hw.1, hw.2 adapter rfl⟩) fun _ _ h => h

/-! ## Deleting an allocation -/

variable {adapterInstance : ULONGLONG} {id : ULONG}

theorem deletePrepared_ensures (htarget : target.allocation = some (adapterInstance, id))
    (adapter : OpenAdapter) (force : Bool) (number : ULONG) (location : ScsiLocation)
    (deletion : DiskDeletion) :
    Ensures target K others
      (Ready target (deletion.volumes.map Volume.handle)
        (deletion.volumes.flatMap Volume.mountPoints))
      (deletePrepared adapter adapterInstance id force number location deletion)
      fun _ _ => True := by
  have hready := kept_ready hsteady (deletion.volumes.map Volume.handle)
    (deletion.volumes.flatMap Volume.mountPoints)
  have htrue : Kept others fun _ => True := Kept.pure True
  have hwithin : ∀ volume ∈ deletion.volumes, volume.Within
      (deletion.volumes.map Volume.handle) (deletion.volumes.flatMap Volume.mountPoints) :=
    fun volume hvolume => ⟨List.mem_map_of_mem hvolume,
      fun point hpoint => List.mem_flatMap.mpr ⟨volume, hvolume, hpoint⟩⟩
  refine Triple.bind (prepare_ensures hsteady force hwithin) fun r => ?_
  obtain ⟨result, prepared⟩ := r
  cases result with
  | error error =>
    refine (Triple.bind (restore_ensures prepared) fun r => ?_).weaken (fun _ _ => trivial)
      fun _ _ h => h
    exact Triple.done htrue.stable fun _ h => h
  | ok done =>
    refine Triple.call (R := fun _ _ => True) hready.stable
      (fun w answer w' hw _ => ⟨fun disk hhit => ?_, trivial⟩) fun answer => ?_
    · obtain ⟨hmem, hallocation⟩ := hhit
      refine hw.sound.issued disk (hw.sound.known disk hmem) target hw.created ?_
        (hallocation.trans htarget.symm)
      rw [hallocation]
      exact fun hnone => by cases hnone
    · cases answer with
      | error error =>
        refine Triple.bind (Ensures.inquires (stillOnline_inquires _ _ _ _) htrue) fun online => ?_
        cases online with
        | false => exact Triple.done htrue.stable fun _ h => h
        | true =>
          exact Triple.bind (restore_ensures prepared) fun r =>
            Triple.done htrue.stable fun _ h => h
      | ok deleted =>
        exact Ensures.inquires (withContext_inquires (waitForPhysicalDiskAbsent_inquires _ _)) htrue

/-- From its inventory on, the deletion of an allocation hits the target alone. -/
theorem deleteAllocation_ensures (hclear : ∀ w c answer, K w c answer → Clear target w c answer)
    (htarget : target.allocation = some (adapterInstance, id)) (adapter : OpenAdapter)
    (force : Bool) :
    Ensures target K others (fun w => Named target w ∧ Attached adapter w)
      (deleteAllocation adapter adapterInstance id force) fun _ _ => True := by
  have hnamed := (kept_named hsteady).and (kept_attached hsteady adapter)
  have hheld := kept_held hsteady
  have hshown : ∀ state : StateResponse, Kept others fun w =>
      ∀ entry, entry ∈ listedDisks state → state.adapterInstance = adapterInstance →
        entry.disk.deviceId = id → Held target w ∧ diskLocation adapter entry = target.location :=
    fun state => Kept.all fun entry => ((hheld.and (Kept.pure _)).given.given).given
  refine tryBind_ensures hnamed hshown (state_ensures hnamed hshown ?_ fun w hw => hw.2)
    fun state => ?_
  · intro w state hw hread hlists entry hentry hinstance hid
    have hmem := hlists.2 entry hentry
    rw [hinstance, hid] at hmem
    have heq := hw.1.2 _ (hw.1.1.known _ hmem) htarget.symm
    have hpresent : target ∈ w.disks := heq ▸ hmem
    have hlocation : diskLocation adapter entry = target.location := congrArg Disk.location heq
    exact ⟨⟨hw.1.1, hw.1.1.known target hpresent, hlocation ▸ hread entry hentry,
      fun d hd hsame => hw.1.1.located d hd target hpresent hsame⟩, hlocation⟩
  · have hkept := hnamed.and (hshown state)
    by_cases hinstance : state.adapterInstance ≠ adapterInstance
    · rw [if_pos hinstance]
      exact bail_ensures hkept _
    rw [if_neg hinstance]
    cases hfound : (listedDisks state).find? fun entry => entry.disk.deviceId == id with
    | none => exact bail_ensures hkept _
    | some entry =>
      simp only
      by_cases hstopping : entry.state ≠ 1
      · rw [if_pos hstopping]
        exact bail_ensures hkept _
      rw [if_neg hstopping]
      have hid : entry.disk.deviceId = id := by
        have hmatches := List.find?_some hfound
        exact beq_iff_eq.mp hmatches
      have hentry := List.mem_of_find?_eq_some hfound
      refine (Triple.fact (P := Held target) fun hlocation => ?_).weaken
        (fun w hw => hw.2 entry hentry (not_not.mp hinstance) hid) fun _ _ h => h
      rw [hlocation]
      refine tryBind_ensures hheld (kept_found hsteady)
        (waitForPhysicalDisk_ensures hsteady hclear) fun number => ?_
      refine (tryBind_ensures (kept_found hsteady number) (fun _ => kept_ready hsteady _ _)
        (openDisk_ensures hsteady number) fun deletion => ?_).weaken (fun w hw => hw.2)
          fun _ _ h => h
      exact (deletePrepared_ensures hsteady htarget adapter force number target.location
        deletion).weaken (fun w hw => hw.2) fun _ _ h => h

/-- A deletion by identity hits the target alone. -/
theorem deleteByIdentity_ensures (hclear : ∀ w c answer, K w c answer → Clear target w c answer)
    (htarget : target.allocation = some (adapterInstance, id)) (force : Bool) :
    Ensures target K others (Named target) (deleteByIdentity adapterInstance id force)
      fun _ _ => True := by
  have hnamed := kept_named hsteady
  have hmatched : ∀ matched : Option OpenAdapter, Kept others fun w =>
      ∀ adapter, matched = some adapter → Attached adapter w :=
    fun matched => Kept.all fun adapter => (kept_attached hsteady adapter).given
  refine tryBind_ensures hnamed hmatched ((forAdapters_ensures hsteady hnamed hmatched
    (fun matched adapter => ?_) none).weaken (fun w hw => ⟨hw, fun _ heq => by cases heq⟩)
      fun _ _ h => h) fun found => ?_
  · have hkept := (hnamed.and (hmatched matched)).and (kept_attached hsteady adapter)
    refine (Ensures.tryBind (G := fun matched w => ∀ adapter, matched = some adapter →
      Attached adapter w) hkept (fun _ => Kept.pure True)
      (Ensures.passes (requireRecovery_inquires adapter) hkept) fun _ => ?_).weaken (fun _ h => h)
        fun r w hr => ⟨hr.1.1.1, hr.2⟩
    refine (Ensures.tryBind (G := fun matched w => ∀ adapter, matched = some adapter →
      Attached adapter w) hkept (fun _ => Kept.pure True)
        (Ensures.passes (state_inquires adapter) hkept) fun state => ?_).weaken
        (fun w hw => hw.1) fun _ _ h => h
    have hkept' := hkept.and (Kept.pure True)
    split
    · refine Ensures.done hkept' fun w hw => ⟨hw.1, fun matched' heq => ?_⟩
      cases heq
      exact hw.1.1.2
    split
    · exact (Ensures.bail hkept' _).weaken (fun _ h => h) fun r w hr => ⟨hr.1.1, hr.2⟩
    · refine Ensures.done hkept' fun w hw => ⟨hw.1, fun matched' heq => ?_⟩
      cases heq
      intro adapter' heq
      cases heq
      exact hw.1.2
  · cases found with
    | none => exact bail_ensures (hnamed.and (hmatched none)) _
    | some adapter =>
      exact (deleteAllocation_ensures hsteady hclear htarget adapter force).weaken
        (fun w hw => ⟨hw.1, hw.2 adapter rfl⟩) fun _ _ h => h

end

end WispDisk.Cli
