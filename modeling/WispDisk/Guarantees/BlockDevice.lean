import WispDisk.Guarantees.Schedules
import WispDisk.Lifecycle.Contents

/-! The driver as a block device. A history of created disks and successful WRITEs determines what
every sector holds, and READ returns it, on every run of creates, deletes and SCSI commands; a
command takes effect in the step that dispatches it. -/
namespace WispDisk
open Layout SectorStore Transition
set_option autoImplicit false

namespace Adapter

/-! ## The history of a run -/

/-- The WRITE of a command that succeeds. -/
def writeEvent (c : ScsiCommand) : Option DiskEvent :=
  match Scsi.decode c.srb, c.srb.dataBuffer with
  | some e, some buffer =>
    if e.isWrite then some (.wrote c.view.deviceId e.lba e.blocks (sectorAt buffer)) else none
  | _, _ => none

/-- The disks that a step commits and the WRITE that it carries out. -/
def diskEvents (a : Adapter) (action : Action) (b : Adapter) : List DiskEvent :=
  ((b.history.commits.drop a.history.commits.length).map fun commit => .created commit.deviceId) ++
  match action with
  | .command i =>
    match a.commands[i]?, b.commands[i]? with
    | some c, some c' =>
      if c.status = none ∧ c'.status = some srbStatusSuccess then (writeEvent c).toList else []
    | _, _ => []
  | _ => []

abbrev DiskSystem := system.logged diskEvents

/-! ## Sectors and the history -/

/-- Every sector of a LUN holds what the last event touching it left. -/
def Mirrored (luns : Fin kMaximumDiskCount → Lun) (contents : Allocation → Bytes)
    (log : List DiskEvent) : Prop :=
  ∀ l x, (luns l).state ≠ .empty → (luns l).backingStore = some x →
    ∀ block, block < (luns l).sizeBytes.toNat / 512 →
      Latest log (luns l).deviceId block (sectorAt (contents x) block)

namespace Mirrored

variable {luns luns' : Fin kMaximumDiskCount → Lun} {contents : Allocation → Bytes}
  {log : List DiskEvent}

theorem keeps (h : Mirrored luns contents log)
    (hluns : ∀ l, (hl : (luns' l).state ≠ .empty) → KeepsDisk (luns l) (luns' l) hl) :
    Mirrored luns' contents log := by
  intro l x hstate hbacking block hblock
  have hkeep := hluns l hstate
  rw [hkeep.size] at hblock
  rw [hkeep.deviceId]
  exact h l x hkeep.state (hkeep.backing x hbacking) block hblock

/-- Memory outside the LUNs is written. -/
theorem elsewhere (h : Mirrored luns contents log) {x : Allocation} (m : Bytes)
    (hx : ∀ l, (luns l).backingStore ≠ some x) :
    Mirrored luns (Function.update contents x m) log := by
  intro l y hstate hbacking block hblock
  have hne : y ≠ x := fun heq => hx l (heq ▸ hbacking)
  rw [Function.update_of_ne hne]
  exact h l y hstate hbacking block hblock

/-- A new disk is all zero. -/
theorem created (h : Mirrored luns contents log) {l : Fin kMaximumDiskCount} {lun : Lun}
    {x : Allocation} (hbacking : lun.backingStore = some x)
    (hzero : ∀ i, i < lun.sizeBytes.toNat → contents x i = 0)
    (hnew : ∀ m, (luns m).state ≠ .empty → (luns m).deviceId ≠ lun.deviceId) :
    Mirrored (Function.update luns l lun) contents (log ++ [.created lun.deviceId]) := by
  intro m y hstate hbacking' block hblock
  rcases eq_or_ne m l with rfl | hne
  · rw [Function.update_self] at hbacking' hblock ⊢
    rw [Option.some.inj (hbacking'.symm.trans hbacking)]
    have hsector : sectorAt (contents x) block = 0 := by
      funext j
      have hj := j.isLt
      exact hzero _ (by omega)
    rw [hsector]
    exact Latest.last (e := .created lun.deviceId) rfl
  · rw [Function.update_of_ne hne] at hstate hbacking' hblock ⊢
    refine (h m y hstate hbacking' block hblock).append fun e he => ?_
    rw [List.mem_singleton] at he
    subst he
    exact fun htouches => hnew m hstate htouches.symm

/-- A run of sectors of one disk is written. -/
theorem wrote (h : Mirrored luns contents log) {l : Fin kMaximumDiskCount} {x : Allocation}
    (hbacking : (luns l).backingStore = some x)
    (howner : ∀ m, (luns m).backingStore = some x → m = l)
    (hdistinct : ∀ m, (luns m).state ≠ .empty → (luns m).deviceId = (luns l).deviceId → m = l)
    (lba blocks : ℕ) (buffer : Bytes) :
    Mirrored luns (Function.update contents x
        (Scsi.copyMemory (contents x) (lba * 512) buffer 0 (blocks * 512)))
      (log ++ [.wrote (luns l).deviceId lba blocks (sectorAt buffer)]) := by
  intro m y hstate hbacking' block hblock
  have hold := h m y hstate hbacking' block hblock
  rcases eq_or_ne m l with rfl | hne
  · have hyx : y = x := Option.some.inj (hbacking'.symm.trans hbacking)
    subst hyx
    rw [Function.update_self, Scsi.sectorAt_written]
    split
    · rename_i hinside
      exact Latest.last (e := .wrote _ lba blocks (sectorAt buffer)) ⟨rfl, hinside⟩
    · rename_i houtside
      refine hold.append fun e he => ?_
      rw [List.mem_singleton] at he
      subst he
      exact fun htouches => houtside htouches.2
  · have hyx : y ≠ x := fun heq => hne (howner m (heq ▸ hbacking'))
    rw [Function.update_of_ne hyx]
    refine hold.append fun e he => ?_
    rw [List.mem_singleton] at he
    subst he
    exact fun htouches => hne (hdistinct m hstate htouches.1.symm)

end Mirrored

structure Stored (a : Adapter) (log : List DiskEvent) : Prop where
  mirrored : Mirrored a.extension.luns a.pool.contents log
  zeroed : ∀ s ∈ a.submissions, ∀ work l x, s.phase = .commit work l x →
    zeroedFor work (a.pool.contents x)

/-! ## The effect of a command -/

/-- What the data phase of a command does to its disk. -/
theorem dispatch_backing (view : LunView) (backing : Bytes) (srb : ScsiRequestBlock) :
    (∃ e buffer, Scsi.Granted view srb e ∧ srb.dataBuffer = some buffer ∧ e.isWrite = true ∧
      Scsi.dispatchScsiCommand view backing srb =
        (srbStatusSuccess, Scsi.moved backing buffer srb e)) ∨
    (Scsi.dispatchScsiCommand view backing srb).2.2 = backing ∧
      ((Scsi.dispatchScsiCommand view backing srb).1 = srbStatusSuccess →
        ∀ e, Scsi.decode srb = some e → e.isWrite = true → e.blocks = 0) := by
  by_cases hop : srb.cdb 0 ∈ Scsi.readWriteOperations
  · rw [Scsi.dispatch_readWrite hop]
    have hspec := Scsi.handleReadWrite_spec view backing srb
    generalize Scsi.handleReadWrite view backing srb = result at hspec ⊢
    cases hspec with
    | moved e buffer hgranted hbuffer =>
      cases hwrite : e.isWrite with
      | true => exact Or.inl ⟨e, buffer, hgranted, hbuffer, hwrite, rfl⟩
      | false =>
        refine Or.inr ⟨by simp [Scsi.moved, hwrite], fun _ e' he' hwrite' => ?_⟩
        rw [← Option.some.inj (hgranted.decoded.symm.trans he'), hwrite] at hwrite'
        cases hwrite'
    | empty e hdecoded hblocks =>
      refine Or.inr ⟨rfl, fun _ e' he' _ => ?_⟩
      rw [← Option.some.inj (hdecoded.symm.trans he'), hblocks]
    | refused senseKey additionalSenseCode _ =>
      exact Or.inr ⟨rfl, fun hstatus => absurd hstatus (Scsi.setSense_spec srb _ _).1⟩
  · exact Or.inr ⟨Scsi.dispatch_other hop, fun _ e he => absurd (Scsi.decode_some he) hop⟩

theorem advanceCommand_dispatched {a : Adapter} {i : ℕ} {c : ScsiCommand}
    (hstatus : c.status = none) (result : UCHAR × ScsiRequestBlock × Bytes)
    (hresult : Scsi.dispatchScsiCommand c.view (a.pool.contents c.view.backingStore) c.srb = result) :
    a.advanceCommand i c = { a with
      pool := { a.pool with
        contents := Function.update a.pool.contents c.view.backingStore result.2.2 }
      commands := a.commands.set i { c with srb := result.2.1, status := some result.1 } } := by
  unfold advanceCommand
  simp only [hstatus, hresult]

theorem diskEvents_dispatched {a : Adapter} {i : ℕ} {c : ScsiCommand}
    (hc : a.commands[i]? = some c) (hstatus : c.status = none) {status : UCHAR}
    {srb : ScsiRequestBlock} {b : Adapter} (hcommits : b.history.commits = a.history.commits)
    (hcommands : b.commands = a.commands.set i { c with srb := srb, status := some status }) :
    diskEvents a (.command i) b =
      if status = srbStatusSuccess then (writeEvent c).toList else [] := by
  have hlt : i < a.commands.length := (List.getElem?_eq_some_iff.mp hc).1
  have hc' : b.commands[i]? = some { c with srb := srb, status := some status } := by
    rw [hcommands, List.getElem?_set_self hlt]
  unfold diskEvents
  rw [hcommits, List.drop_length, List.map_nil, List.nil_append]
  simp only [hc, hc', hstatus, true_and, Option.some.injEq]

theorem diskEvents_other {a b : Adapter} {action : Action}
    (hcommits : b.history.commits = a.history.commits)
    (hdispatch : ∀ i c, action = .command i → a.commands[i]? = some c → c.status ≠ none) :
    diskEvents a action b = [] := by
  unfold diskEvents
  rw [hcommits, List.drop_length, List.map_nil, List.nil_append]
  cases action with
  | command i =>
    simp only
    split
    · rename_i c c' hc hc'
      rw [if_neg fun h => hdispatch i c rfl hc h.1]
    · rfl
  | _ => rfl

/-! ## Steps and runs -/

theorem luns_kept {a b : Adapter} {action : Action} (hr : Reachable system noRestartDuringTeardown a)
    (hallowed : noRestartDuringTeardown a action) (hs : step a action = some b)
    (hcommits : b.history.commits = a.history.commits) (l : Fin kMaximumDiskCount)
    (hl : (b.extension.luns l).state ≠ .empty) :
    KeepsDisk (a.extension.luns l) (b.extension.luns l) hl := by
  have hsimulated := reachable_simulated restart_beforeTeardown hr
  have hunique := (Records.reachable hsimulated.2).unique
  have hstep := (step_simulates hsimulated.1.1 hsimulated.1.2 hunique
    (fun heq => restart_beforeTeardown a (heq ▸ hallowed)) hs).2
  rcases (Relation.reflGen_iff _ _ _).mp hstep with heq | hmove
  · have hluns : b.extension.luns = a.extension.luns := congrArg Machine.luns heq
    rw [hluns] at hl
    simp only [hluns]
    exact KeepsDisk.refl _ hl
  · cases hmove.disks with
    | kept _ hluns => exact hluns l hl
    | committed command work m allocation _ _ hcommits' _ =>
      have hsame : b.machine.commits = a.machine.commits := hcommits
      have hlength := congrArg List.length (hsame.symm.trans hcommits')
      rw [List.length_append, List.length_singleton] at hlength
      omega

theorem held_committing {a : Adapter} {s : Submission} (hsubmissions : a.submissions = [s])
    {work : Work} {l : Fin kMaximumDiskCount} {x : Allocation}
    (hstage : s.phase.stage = .commit work l x) : x ∈ a.machine.held := by
  refine List.mem_append_left _ ?_
  rw [machine_active hsubmissions]
  change x ∈ s.phase.stage.held
  rw [hstage]
  exact List.mem_singleton_self x

theorem Mirrored.untouched {luns : Fin kMaximumDiskCount → Lun} {contents : Allocation → Bytes}
    {log more : List DiskEvent} (h : Mirrored luns contents log)
    (hmore : ∀ e ∈ more, ∀ d block, ¬e.touches d block) : Mirrored luns contents (log ++ more) :=
  fun l x hstate hbacking block hblock =>
    (h l x hstate hbacking block hblock).append fun e he => hmore e he _ _

theorem Stored.dispatched {a : Adapter} {log : List DiskEvent} (h : a.Stored log)
    (hr : Reachable system noRestartDuringTeardown a) {i : ℕ} {c : ScsiCommand}
    (hc : a.commands[i]? = some c) (hstatus : c.status = none) :
    (a.advanceCommand i c).Stored (log ++ diskEvents a (.command i) (a.advanceCommand i c)) := by
  have hmachine := reachable_beforeTeardown hr
  have hledger := Machine.Ledger.reachable hmachine
  have hpin : Pins c.view (a.extension.luns c.lun) :=
    (Leased.reachable hmachine).pinned c.lease (List.mem_map_of_mem (List.mem_of_getElem? hc))
  generalize hresult :
    Scsi.dispatchScsiCommand c.view (a.pool.contents c.view.backingStore) c.srb = result
  have heq := advanceCommand_dispatched (i := i) hstatus result hresult
  have hevents : diskEvents a (.command i) (a.advanceCommand i c) =
      if result.1 = srbStatusSuccess then (writeEvent c).toList else [] :=
    diskEvents_dispatched hc hstatus (by rw [heq]) (by rw [heq])
  have hzeroed : ∀ m, ∀ s ∈ a.submissions, ∀ work l x, s.phase = .commit work l x →
      zeroedFor work (Function.update a.pool.contents c.view.backingStore m x) := by
    intro m s hs work l x hphase
    have hone := (Gate.reachable hr).only (List.getElem?_of_mem hs).choose_spec
    have hheld : x ∈ a.machine.held := held_committing hone.2 (by rw [hphase]; rfl)
    have hne : x ≠ c.view.backingStore := fun he =>
      hledger.held_unowned hheld (he ▸ hpin.backing)
    rw [Function.update_of_ne hne]
    exact h.zeroed s hs work l x hphase
  rcases dispatch_backing c.view (a.pool.contents c.view.backingStore) c.srb with
    ⟨e, buffer, hgranted, hbuffer, hwrite, hmoved⟩ | ⟨hkept, hnone⟩
  · rw [hresult] at hmoved
    have hevent : writeEvent c =
        some (.wrote c.view.deviceId e.lba e.blocks (sectorAt buffer)) := by
      unfold writeEvent
      rw [hgranted.decoded, hbuffer]
      simp only [hwrite, if_true]
    rw [hevents, heq, hmoved, if_pos rfl, hevent]
    refine ⟨?_, hzeroed _⟩
    have hwrote := h.mirrored.wrote hpin.backing
      (fun m hm => hledger.owner_unique hm hpin.backing)
      (fun m hm hdevice => (Accounting.reachable hmachine).distinct m c.lun hm hdevice)
      e.lba e.blocks buffer
    rw [hpin.deviceId] at hwrote
    simp only [Scsi.moved, hwrite, if_true]
    exact hwrote
  · rw [hresult] at hkept hnone
    rw [hevents, heq, hkept]
    refine ⟨?_, hzeroed _⟩
    simp only [Function.update_eq_self]
    refine h.mirrored.untouched fun event hevent d block htouches => ?_
    split at hevent
    · rename_i hsuccess
      have hwritten : writeEvent c = some event := Option.mem_toList.mp hevent
      unfold writeEvent at hwritten
      split at hwritten
      · rename_i e buffer hdecoded hbuffer
        split at hwritten
        · rename_i hwrite
          have hblocks := hnone hsuccess e hdecoded hwrite
          cases hwritten
          obtain ⟨_, hlower, hupper⟩ := htouches
          omega
        · cases hwritten
      · cases hwritten
    · cases hevent

theorem Stored.step {a b : Adapter} {log : List DiskEvent} {action : Action} (h : a.Stored log)
    (hr : Reachable system noRestartDuringTeardown a) (hallowed : noRestartDuringTeardown a action)
    (hs : step a action = some b) : b.Stored (log ++ diskEvents a action b) := by
  have hgate : a.Gate := Gate.reachable hr
  cases step_memory hgate hs with
  | dispatched i c haction hc hstatus hb =>
    subst haction hb
    exact h.dispatched hr hc hstatus
  | submitted s b' next haction hsubmissions hb hmemory =>
    subst hb
    cases hmemory with
    | zeroed work l x m hphase hnext hzeroed hcontents hextension hcommits =>
      have hledger := Machine.Ledger.reachable (reachable_beforeTeardown hr)
      have hheld : x ∈ a.machine.held := held_committing hsubmissions (by rw [hphase]; rfl)
      have hevents : diskEvents a action { b' with submissions := next.toList } = [] :=
        diskEvents_other hcommits fun i _ heq => absurd heq (haction i)
      rw [hevents, List.append_nil]
      refine ⟨?_, fun s' hs' work' l' x' hphase' => ?_⟩
      · simp only [hextension, hcontents]
        exact h.mirrored.elsewhere m fun l => hledger.held_unowned hheld
      · rw [hnext] at hs'
        have hs' := List.mem_singleton.mp hs'
        subst hs'
        cases hphase'
        simp only [hcontents, Function.update_self]
        exact hzeroed
    | committed work l x deviceId hphase hcommit hcommits hcontents hnext =>
      obtain ⟨_, _, hzero, hdevice, hext⟩ := LunStore.commitNewLun_ok hcommit
      have haccounting := Accounting.reachable (reachable_beforeTeardown hr)
      have hevents : diskEvents a action { b' with submissions := next.toList } =
          [.created a.extension.nextDeviceId] := by
        unfold diskEvents
        simp only [hcommits, List.drop_left, List.map_cons, List.map_nil, hdevice]
        cases action with
        | command i => exact absurd rfl (haction i)
        | _ => rfl
      rw [hevents]
      refine ⟨?_, fun s' hs' work' l' x' hphase' => ?_⟩
      · simp only [hext, hcontents]
        have hs : s ∈ a.submissions := by rw [hsubmissions]; exact List.mem_singleton_self s
        refine h.mirrored.created rfl (h.zeroed s hs work l x hphase) fun m hm heq => ?_
        have hcommitted := haccounting.committed m hm
        rw [show (a.machine.disks.luns m).deviceId = a.extension.nextDeviceId from heq] at hcommitted
        exact haccounting.next_uncommitted hzero hcommitted
      · exact absurd hphase' (hnext s' work' l' x' (Option.mem_toList.mp hs'))
    | kept hcontents hcommits hnext =>
      have hevents : diskEvents a action { b' with submissions := next.toList } = [] :=
        diskEvents_other hcommits fun i _ heq => absurd heq (haction i)
      rw [hevents, List.append_nil]
      refine ⟨?_, fun s' hs' work' l' x' hphase' => ?_⟩
      · have hluns := luns_kept hr hallowed hs hcommits
        simp only [hcontents]
        exact h.mirrored.keeps hluns
      · exact absurd hphase' (hnext s' work' l' x' (Option.mem_toList.mp hs'))
  | kept hdispatch hcontents hcommits hzeroed =>
    rw [diskEvents_other hcommits hdispatch, List.append_nil]
    refine ⟨?_, fun s hs' work l x hphase => ?_⟩
    · rw [hcontents]
      exact h.mirrored.keeps (luns_kept hr hallowed hs hcommits)
    · rw [hcontents]
      exact h.zeroed s (hzeroed s hs' work l x hphase) work l x hphase

theorem Stored.reachable {s : Adapter × List DiskEvent}
    (h : Reachable DiskSystem (Contract.logged _ noRestartDuringTeardown) s) :
    s.1.Stored s.2 := by
  induction h with
  | initial h =>
    obtain ⟨⟨adapterInstance, dbg, contents, hinitial⟩, hlog⟩ := h
    rw [hinitial, hlog]
    exact ⟨fun l x hstate => absurd rfl hstate, fun _ hs => absurd hs List.not_mem_nil⟩
  | step hr ha hs ih =>
    obtain ⟨hstep, hlog⟩ := System.logged_step hs
    rw [hlog]
    exact ih.step hr.unlogged ha hstep

/-! ## The block device -/

/-- What the data phase of a READ or WRITE that holds a lease does: `b` is the adapter after it,
`status` and `srb` are the command's afterwards. -/
structure CommandEffect (a : Adapter) (log : List DiskEvent) (c : ScsiCommand) (b : Adapter)
    (status : UCHAR) (srb : ScsiRequestBlock) : Prop where
  decoded : status = srbStatusSuccess → ∃ e, Scsi.decode c.srb = some e
  /-- A READ gets what the last event for each sector left. -/
  read : ∀ e, Scsi.decode c.srb = some e → e.isWrite = false → status = srbStatusSuccess →
    ∀ k, k < e.blocks → ∃ buffer, srb.dataBuffer = some buffer ∧
      ∀ value, Latest log c.view.deviceId (e.lba + k) value ↔ value = sectorAt buffer k
  readKeeps : ∀ e, Scsi.decode c.srb = some e → e.isWrite = false →
    b.pool.contents = a.pool.contents
  /-- A WRITE changes the sectors it addresses of the disk it addresses. -/
  write : ∀ e, Scsi.decode c.srb = some e → e.isWrite = true → status = srbStatusSuccess →
    ∀ l x, (a.extension.luns l).backingStore = some x → ∀ block,
      if l = c.lun ∧ e.lba ≤ block ∧ block < e.lba + e.blocks then
        ∃ buffer, c.srb.dataBuffer = some buffer ∧
          sectorAt (b.pool.contents x) block = sectorAt buffer (block - e.lba)
      else sectorAt (b.pool.contents x) block = sectorAt (a.pool.contents x) block
  writeKeeps : ∀ e, Scsi.decode c.srb = some e → e.isWrite = true →
    srb.dataBuffer = c.srb.dataBuffer
  refused : status ≠ srbStatusSuccess →
    b.pool.contents = a.pool.contents ∧ srb.dataBuffer = c.srb.dataBuffer

/-- A READ or WRITE that `HwStartIo` does not give a lease. -/
def NotLeased (a b : Adapter) (srb : ScsiRequestBlock) : Prop :=
  b.pool = a.pool ∧ b.history = a.history ∧ ∃ r, b.returned = a.returned ++ [r] ∧
    r.status ≠ srbStatusSuccess ∧ r.srb.dataBuffer = srb.dataBuffer

/-- `log` is the history of the run that has led to `a`. -/
structure BlockDevice (a : Adapter) (log : List DiskEvent) : Prop where
  stored : Mirrored a.extension.luns a.pool.contents log
  /-- A lease is on the disk whose device ID its view has. -/
  addressed : ∀ c ∈ a.commands, Pins c.view (a.extension.luns c.lun)
  started : ∀ srb now, srb.function = srbFunctionExecuteScsi →
    srb.cdb 0 ∈ Scsi.readWriteOperations → NotLeased a (a.startIo srb now) srb ∨
      ∃ c, c.srb = srb ∧ c.status = none ∧ (a.startIo srb now).commands = a.commands ++ [c] ∧
        (a.startIo srb now).pool = a.pool
  command : ∀ i c, a.commands[i]? = some c → c.status = none →
    c.srb.cdb 0 ∈ Scsi.readWriteOperations → ∃ status srb,
      (a.advanceCommand i c).commands =
        a.commands.set i { c with srb := srb, status := some status } ∧
      CommandEffect a log c (a.advanceCommand i c) status srb
  forms : ∀ view backing srb cdb cdbLength,
    Scsi.decode (Scsi.withCdb srb cdb cdbLength) = Scsi.decode srb →
      Scsi.handleReadWrite view backing (Scsi.withCdb srb cdb cdbLength) =
        ((Scsi.handleReadWrite view backing srb).1,
          Scsi.withCdb (Scsi.handleReadWrite view backing srb).2.1 cdb cdbLength,
          (Scsi.handleReadWrite view backing srb).2.2)

theorem startIo_readWrite (a : Adapter) (srb : ScsiRequestBlock) (now : LONGLONG)
    (hfunction : srb.function = srbFunctionExecuteScsi)
    (hop : srb.cdb 0 ∈ Scsi.readWriteOperations) : NotLeased a (a.startIo srb now) srb ∨
      ∃ c, c.srb = srb ∧ c.status = none ∧ (a.startIo srb now).commands = a.commands ++ [c] ∧
        (a.startIo srb now).pool = a.pool := by
  have hcontrol : srb.function ≠ srbFunctionIoControl := by rw [hfunction]; decide
  have hreport : srb.cdb 0 ≠ Scsi.scsiopReportLuns := fun heq => by
    rw [heq] at hop
    exact absurd hop (by decide)
  unfold startIo
  simp only
  rw [if_neg hcontrol, if_pos hfunction]
  unfold startExecuteScsi
  split
  · have hsense := Scsi.setSense_spec srb Scsi.scsiSenseIllegalRequest Scsi.scsiAdsenseInvalidCdb
    exact Or.inl ⟨rfl, rfl, _, rfl, hsense.1, hsense.2.2⟩
  · split
    · exact Or.inl ⟨rfl, rfl, _, rfl, by simp only; decide, rfl⟩
    · exact Or.inr ⟨_, rfl, rfl, rfl, rfl⟩

theorem command_effect {a : Adapter} {log : List DiskEvent} (h : a.Stored log)
    (hr : Reachable system noRestartDuringTeardown a) {i : ℕ} {c : ScsiCommand}
    (hc : a.commands[i]? = some c) (hstatus : c.status = none)
    (hop : c.srb.cdb 0 ∈ Scsi.readWriteOperations) : ∃ status srb,
      (a.advanceCommand i c).commands =
        a.commands.set i { c with srb := srb, status := some status } ∧
      CommandEffect a log c (a.advanceCommand i c) status srb := by
  have hmachine := reachable_beforeTeardown hr
  have hledger := Machine.Ledger.reachable hmachine
  have hpin : Pins c.view (a.extension.luns c.lun) :=
    (Leased.reachable hmachine).pinned c.lease (List.mem_map_of_mem (List.mem_of_getElem? hc))
  have hspec := Scsi.handleReadWrite_spec c.view (a.pool.contents c.view.backingStore) c.srb
  rw [← Scsi.dispatch_readWrite hop] at hspec
  generalize hresult :
    Scsi.dispatchScsiCommand c.view (a.pool.contents c.view.backingStore) c.srb = result at hspec
  rw [advanceCommand_dispatched (i := i) hstatus result hresult]
  refine ⟨result.1, result.2.1, rfl, ?_⟩
  cases hspec with
  | moved e buffer hgranted hbuffer =>
    have hunique : ∀ e', Scsi.decode c.srb = some e' → e' = e := fun e' he' =>
      Option.some.inj (he'.symm.trans hgranted.decoded)
    refine ⟨fun _ => ⟨e, hgranted.decoded⟩, fun e' he' hread _ k hk => ?_, fun e' he' hread => ?_,
      fun e' he' hwrite _ l x hx block => ?_, fun e' he' hwrite => ?_,
      fun hne => absurd rfl hne⟩ <;> cases hunique e' he'
    · simp only [Scsi.moved, hread, Bool.false_eq_true, if_false]
      refine ⟨_, rfl, fun value => ?_⟩
      have hinside := hgranted.inDisk
      have hlatest := h.mirrored c.lun c.view.backingStore hpin.state hpin.backing (e.lba + k)
        (by rw [hpin.size]; omega)
      rw [hpin.deviceId, ← Scsi.sectorAt_read _ buffer e.lba hk] at hlatest
      exact ⟨fun hvalue => hvalue.unique hlatest, fun heq => heq ▸ hlatest⟩
    · simp only [Scsi.moved, hread, Bool.false_eq_true, if_false, Function.update_eq_self]
    · simp only [Scsi.moved, hwrite, if_true]
      by_cases hx' : x = c.view.backingStore
      · subst hx'
        have hl : l = c.lun := hledger.owner_unique hx hpin.backing
        subst hl
        rw [Function.update_self, Scsi.sectorAt_written]
        simp only [true_and]
        split
        · exact ⟨buffer, hbuffer, rfl⟩
        · rfl
      · have hl : l ≠ c.lun := fun heq => hx' (Option.some.inj (hx.symm.trans (heq ▸ hpin.backing)))
        rw [if_neg fun hall => hl hall.1, Function.update_of_ne hx']
    · simp only [Scsi.moved, hwrite, if_true]
  | empty e hdecoded hblocks =>
    have hunique : ∀ e', Scsi.decode c.srb = some e' → e' = e := fun e' he' =>
      Option.some.inj (he'.symm.trans hdecoded)
    simp only [Function.update_eq_self]
    refine ⟨fun _ => ⟨e, hdecoded⟩, fun e' he' _ _ k hk => ?_, fun _ _ _ => rfl,
      fun e' he' _ _ l x _ block => ?_, fun _ _ _ => rfl, fun hne => absurd rfl hne⟩
    · rw [hunique e' he', hblocks] at hk
      exact absurd hk (Nat.not_lt_zero k)
    · rw [hunique e' he', hblocks, if_neg (by omega)]
  | refused senseKey additionalSenseCode _ =>
    have hsense := Scsi.setSense_spec c.srb senseKey additionalSenseCode
    simp only [Function.update_eq_self]
    exact ⟨fun hsuccess => absurd hsuccess hsense.1,
      fun _ _ _ hsuccess => absurd hsuccess hsense.1, fun _ _ _ => rfl,
      fun _ _ _ hsuccess => absurd hsuccess hsense.1, fun _ _ _ => hsense.2.2,
      fun _ => ⟨rfl, hsense.2.2⟩⟩

/-- The driver refines the store of sectors on every run in which StorPort makes no initialize or
restart callback during teardown. -/
theorem block_device (a : Adapter) (log : List DiskEvent)
    (h : Reachable DiskSystem (Contract.logged _ noRestartDuringTeardown) (a, log)) :
    BlockDevice a log := by
  have hr : Reachable system noRestartDuringTeardown a := h.unlogged
  have hstored : a.Stored log := Stored.reachable h
  exact ⟨hstored.mirrored, fun c hc => (Leased.reachable (reachable_beforeTeardown hr)).pinned c.lease
    (List.mem_map_of_mem hc), startIo_readWrite a,
    fun i c hc hstatus hop => command_effect hstored hr hc hstatus hop,
    Scsi.handleReadWrite_withCdb⟩

/-- WRITE(6) of block 0 of LUN 0. -/
def writeFirstSrb : ScsiRequestBlock where
  function := srbFunctionExecuteScsi
  cdbLength := 6
  dataTransferLength := 512
  dataBuffer := some fun i => UInt8.ofNat i
  cdb := overwrite (fun _ => 0) 0 [Scsi.scsiopWrite6, 0, 0, 0, 1]

/-- A new disk with a WRITE that holds its lease. -/
theorem block_device_created : ∃ log,
    BlockDevice (fresh.after (createDisk 1048576 82 ++ [.startIo writeFirstSrb 0])) log := by
  have hreachable : Reachable system noRestartDuringTeardown
      (fresh.after (createDisk 1048576 82 ++ [.startIo writeFirstSrb 0])) :=
    reachable_after_kept (by decide +kernel) (by decide +kernel)
  obtain ⟨log, hlog⟩ := hreachable.logged diskEvents
  exact ⟨log, block_device _ log hlog⟩

end Adapter

end WispDisk
