import WispDisk.Foundations.Identifiers
import WispDisk.Lifecycle.Machine
import WispDisk.Lifecycle.SlotSearch

/-! The operation table over a run. `Records` ties the table to the commands that were accepted and
executed and to the mutation in flight: a record is pending only for the mutation in flight, whose
command it holds, and nothing is accepted or executed twice. No assumption on restarts is needed. -/
namespace WispDisk
open Identifiers ManagementController
set_option autoImplicit false

/-- The operation table with what has happened to its operations. -/
structure OperationLog where
  adapterInstance : ULONGLONG
  nextOperationId : ULONGLONG
  operations : Fin kMaximumOperationCount → OperationRecord
  reservations : List ULONGLONG
  accepted : List MutationCommand
  executions : List Execution

def Machine.log (c : Machine) : OperationLog where
  adapterInstance := c.adapterInstance
  nextOperationId := c.nextOperationId
  operations := c.operations
  reservations := c.reservations
  accepted := c.accepted
  executions := c.executions

def Stage.work? : Stage → Option Work
  | .select work | .allocate work _ | .commit work _ _ | .free work _ _ | .mark work
  | .drain work _ | .publish work _ _ => some work
  | .bound | .finishing => none

def Stage.isOpen : Stage → Bool
  | .finishing => false
  | _ => true

def MutationCommand.operationId (command : MutationCommand) : ULONGLONG :=
  command.identity.operationId

/-- Record `i` is pending for a command. -/
structure PendingFor (g : OperationLog) (command : MutationCommand)
    (i : Fin kMaximumOperationCount) : Prop where
  id : (g.operations i).id = command.operationId
  state : (g.operations i).state = .pending
  mutation : (g.operations i).mutation = command.mutation
  create : (g.operations i).create = command.create
  delete : (g.operations i).delete = command.remove

/-- What holds of a mutation in flight at a stage. -/
structure InFlight (g : OperationLog) (command : MutationCommand) (stage : Stage) : Prop where
  valid : command.validated
  legacyWork : command.isReserved = false → ∀ work, stage.work? = some work →
    work = command.legacyWork
  accepted : command.isReserved = true → command ∈ g.accepted
  sameInstance : command.isReserved = true → command.identity.adapterInstance = g.adapterInstance
  pending : command.isReserved = true → stage.isOpen = true → ∃ i, PendingFor g command i ∧
    ∀ work, stage.work? = some work → ∃ correlation, work = .reserved (g.operations i) correlation
  unexecuted : command.isReserved = true → stage = .bound →
    command.operationId ∉ g.executions.map Execution.operationId

/-- What holds of the operation table alone. -/
structure OperationTable (g : OperationLog) : Prop where
  issued : Issued UInt64.toNat g.nextOperationId g.reservations
  unique : ∀ i j, (g.operations i).id ≠ 0 → (g.operations i).id = (g.operations j).id → i = j
  known : ∀ i, (g.operations i).id ≠ 0 → (g.operations i).id ∈ g.reservations
  blank : ∀ i, (g.operations i).id = 0 → (g.operations i).state = .unset
  kind : ∀ i, (g.operations i).id ≠ 0 → (g.operations i).mutation = wispDiskControlCreateDisk ∨
    (g.operations i).mutation = wispDiskControlDeleteDisk
  unaccepted : ∀ i, (g.operations i).state = .reserved →
    (g.operations i).id ∉ g.accepted.map MutationCommand.operationId
  bound : ∀ i, (g.operations i).id ≠ 0 → (g.operations i).state ≠ .reserved →
    ∃ command ∈ g.accepted, command.operationId = (g.operations i).id ∧
      command.mutation = (g.operations i).mutation ∧ command.create = (g.operations i).create ∧
      command.remove = (g.operations i).delete
  acceptedKnown : ∀ command ∈ g.accepted, command.operationId ∈ g.reservations
  acceptedOnce : (g.accepted.map MutationCommand.operationId).Nodup
  executedOnce : (g.executions.map Execution.operationId).Nodup
  executed : ∀ e ∈ g.executions, ∃ command ∈ g.accepted, e.operationId = command.operationId ∧
    e.mutation = command.mutation ∧ e.create = command.create ∧ e.delete = command.remove

structure Records (g : OperationLog) (task : Option Task) : Prop extends OperationTable g where
  pending : ∀ i, (g.operations i).state = .pending → ∃ command stage,
    task = some ⟨command, stage⟩ ∧ command.isReserved = true ∧ stage.isOpen = true ∧
      command.operationId = (g.operations i).id
  inFlight : ∀ command stage, task = some ⟨command, stage⟩ → InFlight g command stage

/-- How a record may change in place once its command is bound: it keeps its command and neither
becomes pending nor reserved again. -/
structure Settled (r r' : OperationRecord) : Prop where
  id : r'.id = r.id
  mutation : r'.mutation = r.mutation
  create : r'.create = r.create
  delete : r'.delete = r.delete
  before : r.state ≠ .unset ∧ r.state ≠ .reserved
  after : r'.state ≠ .unset ∧ r'.state ≠ .reserved ∧ r'.state ≠ .pending

namespace OperationTable

variable {g : OperationLog}

theorem init (adapterInstance : ULONGLONG) :
    OperationTable { adapterInstance := adapterInstance : Machine }.log where
  issued := Issued.empty _
  unique := fun i _ h => absurd rfl h
  known := fun i h => absurd rfl h
  blank := fun i _ => rfl
  kind := fun i h => absurd rfl h
  unaccepted := fun i h => by cases h
  bound := fun i h => absurd rfl h
  acceptedKnown := fun _ h => by cases h
  acceptedOnce := List.nodup_nil
  executedOnce := List.nodup_nil
  executed := fun _ h => by cases h

/-! ## Consequences -/

theorem executed_accepted (h : OperationTable g) {x : ULONGLONG}
    (hx : x ∈ g.executions.map Execution.operationId) :
    x ∈ g.accepted.map MutationCommand.operationId := by
  obtain ⟨e, he, rfl⟩ := List.mem_map.mp hx
  obtain ⟨command, hcommand, hid, _⟩ := h.executed e he
  exact List.mem_map.mpr ⟨command, hcommand, hid.symm⟩

theorem accepted_known (h : OperationTable g) {x : ULONGLONG}
    (hx : x ∈ g.accepted.map MutationCommand.operationId) : x ∈ g.reservations := by
  obtain ⟨command, hcommand, rfl⟩ := List.mem_map.mp hx
  exact h.acceptedKnown command hcommand

theorem next_unknown (h : OperationTable g) (hnext : g.nextOperationId ≠ 0) :
    g.nextOperationId ∉ g.reservations :=
  h.issued.fresh fun heq => hnext (UInt64.toNat.inj heq)

theorem id_ne_zero (h : OperationTable g) {i : Fin kMaximumOperationCount}
    (hstate : (g.operations i).state ≠ .unset) : (g.operations i).id ≠ 0 :=
  fun heq => hstate (h.blank i heq)

/-! ## Preservation -/

/-- A reservation takes over the slot of an evicted record. -/
theorem reserve (h : OperationTable g) (hnext : g.nextOperationId ≠ 0)
    (i : Fin kMaximumOperationCount) {mutation : ULONG}
    (hmutation : mutation = wispDiskControlCreateDisk ∨ mutation = wispDiskControlDeleteDisk) :
    OperationTable { g with
      operations := Function.update g.operations i (reservedRecord g.nextOperationId mutation)
      nextOperationId := g.nextOperationId + 1
      reservations := g.reservations ++ [g.nextOperationId] } where
  issued := h.issued.issue (fun heq => hnext (UInt64.toNat.inj heq)) (toNat_succ_uint64 _)
  unique := by
    have hfresh : ∀ k, (g.operations k).id ≠ g.nextOperationId := fun k heq =>
      h.next_unknown hnext (heq ▸ h.known k (heq ▸ hnext))
    intro j k hj hjk
    rcases eq_or_ne j i with rfl | hji
    · rcases eq_or_ne k j with rfl | hkj
      · rfl
      · simp only [Function.update_self, Function.update_of_ne hkj] at hjk
        exact absurd hjk.symm (hfresh k)
    · rcases eq_or_ne k i with rfl | hki
      · simp only [Function.update_self, Function.update_of_ne hji] at hjk
        exact absurd hjk (hfresh j)
      · simp only [Function.update_of_ne hji, Function.update_of_ne hki] at hj hjk
        exact h.unique j k hj hjk
  known := by
    rw [Function.forall_update_iff g.operations fun _ r =>
      r.id ≠ 0 → r.id ∈ g.reservations ++ [g.nextOperationId]]
    exact ⟨fun _ => List.mem_append_right _ List.mem_cons_self,
      fun j _ hj => List.mem_append_left _ (h.known j hj)⟩
  blank := by
    rw [Function.forall_update_iff g.operations fun _ r => r.id = 0 → r.state = .unset]
    exact ⟨fun hzero => absurd hzero hnext, fun j _ => h.blank j⟩
  kind := by
    rw [Function.forall_update_iff g.operations fun _ r => r.id ≠ 0 →
      r.mutation = wispDiskControlCreateDisk ∨ r.mutation = wispDiskControlDeleteDisk]
    exact ⟨fun _ => hmutation, fun j _ => h.kind j⟩
  unaccepted := by
    rw [Function.forall_update_iff g.operations fun _ r => r.state = .reserved →
      r.id ∉ g.accepted.map MutationCommand.operationId]
    exact ⟨fun _ hmem => h.next_unknown hnext (h.accepted_known hmem), fun j _ => h.unaccepted j⟩
  bound := by
    rw [Function.forall_update_iff g.operations fun _ r => r.id ≠ 0 → r.state ≠ .reserved →
      ∃ command ∈ g.accepted, command.operationId = r.id ∧ command.mutation = r.mutation ∧
        command.create = r.create ∧ command.remove = r.delete]
    exact ⟨fun _ hstate => absurd rfl hstate, fun j _ => h.bound j⟩
  acceptedKnown := fun command hcommand =>
    List.mem_append_left _ (h.acceptedKnown command hcommand)
  acceptedOnce := h.acceptedOnce
  executedOnce := h.executedOnce
  executed := h.executed

/-- Identities and mutations are all that the shape of the table depends on. -/
theorem unique_of_ids (h : OperationTable g)
    {operations : Fin kMaximumOperationCount → OperationRecord}
    (hid : ∀ i, (operations i).id = (g.operations i).id) (i j : Fin kMaximumOperationCount)
    (hi : (operations i).id ≠ 0) (hij : (operations i).id = (operations j).id) : i = j := by
  rw [hid] at hi hij
  rw [hid] at hij
  exact h.unique i j hi hij

/-- A reserved record is bound to a command. -/
theorem bind (h : OperationTable g) (command : MutationCommand) (i : Fin kMaximumOperationCount)
    (hid : (g.operations i).id = command.operationId) (hzero : (g.operations i).id ≠ 0)
    (hmutation : (g.operations i).mutation = command.mutation)
    (hstate : (g.operations i).state = .reserved) :
    OperationTable { g with
      operations := Function.update g.operations i (boundRecord (g.operations i) command)
      accepted := g.accepted ++ [command] } where
  issued := h.issued
  unique := h.unique_of_ids fun j => by
    rcases eq_or_ne j i with rfl | hj
    · simp only [Function.update_self]
      rfl
    · simp only [Function.update_of_ne hj]
  known := by
    rw [Function.forall_update_iff g.operations fun _ r => r.id ≠ 0 → r.id ∈ g.reservations]
    exact ⟨h.known i, fun j _ => h.known j⟩
  blank := by
    rw [Function.forall_update_iff g.operations fun _ r => r.id = 0 → r.state = .unset]
    exact ⟨fun heq => absurd heq hzero, fun j _ => h.blank j⟩
  kind := by
    rw [Function.forall_update_iff g.operations fun _ r => r.id ≠ 0 →
      r.mutation = wispDiskControlCreateDisk ∨ r.mutation = wispDiskControlDeleteDisk]
    exact ⟨h.kind i, fun j _ => h.kind j⟩
  unaccepted := by
    rw [Function.forall_update_iff g.operations fun _ r => r.state = .reserved →
      r.id ∉ (g.accepted ++ [command]).map MutationCommand.operationId]
    refine ⟨nofun, fun j hj hreserved hmem => ?_⟩
    rw [List.map_append, List.mem_append] at hmem
    rcases hmem with hmem | hmem
    · exact h.unaccepted j hreserved hmem
    · rw [List.map_singleton, List.mem_singleton, ← hid] at hmem
      exact hj (h.unique j i (hmem ▸ hzero) hmem)
  bound := by
    rw [Function.forall_update_iff g.operations fun _ r => r.id ≠ 0 → r.state ≠ .reserved →
      ∃ c ∈ g.accepted ++ [command], c.operationId = r.id ∧ c.mutation = r.mutation ∧
        c.create = r.create ∧ c.remove = r.delete]
    refine ⟨fun _ _ => ⟨command, List.mem_append_right _ List.mem_cons_self, hid.symm,
      hmutation.symm, rfl, rfl⟩, fun j _ hj hne => ?_⟩
    obtain ⟨c, hc, hrest⟩ := h.bound j hj hne
    exact ⟨c, List.mem_append_left _ hc, hrest⟩
  acceptedKnown := by
    intro c hc
    rcases List.mem_append.mp hc with hc | hc
    · exact h.acceptedKnown c hc
    · rw [List.mem_singleton] at hc
      subst hc
      rw [← hid]
      exact h.known i hzero
  acceptedOnce := by
    have hnew : command.operationId ∉ g.accepted.map MutationCommand.operationId :=
      hid ▸ h.unaccepted i hstate
    rw [List.map_append, List.map_singleton]
    exact h.acceptedOnce.append (List.nodup_singleton _) (List.disjoint_singleton.mpr hnew)
  executedOnce := h.executedOnce
  executed := by
    intro e he
    obtain ⟨c, hc, hrest⟩ := h.executed e he
    exact ⟨c, List.mem_append_left _ hc, hrest⟩

/-- Records settle in place. -/
theorem settle (h : OperationTable g)
    {operations : Fin kMaximumOperationCount → OperationRecord}
    (hsettle : ∀ i, operations i = g.operations i ∨ Settled (g.operations i) (operations i)) :
    OperationTable { g with operations := operations } where
  issued := h.issued
  unique := h.unique_of_ids fun i => (hsettle i).elim (congrArg OperationRecord.id) Settled.id
  known := by
    intro i hi
    rcases hsettle i with heq | hs
    · simp only [heq] at hi ⊢
      exact h.known i hi
    · simp only [hs.id] at hi ⊢
      exact h.known i hi
  blank := by
    intro i hi
    rcases hsettle i with heq | hs
    · simp only [heq] at hi ⊢
      exact h.blank i hi
    · simp only [hs.id] at hi
      exact absurd (h.blank i hi) hs.before.1
  kind := by
    intro i hi
    rcases hsettle i with heq | hs
    · simp only [heq] at hi ⊢
      exact h.kind i hi
    · simp only [hs.id, hs.mutation] at hi ⊢
      exact h.kind i hi
  unaccepted := by
    intro i hi
    rcases hsettle i with heq | hs
    · simp only [heq] at hi ⊢
      exact h.unaccepted i hi
    · exact absurd hi hs.after.2.1
  bound := by
    intro i hi hstate
    rcases hsettle i with heq | hs
    · simp only [heq] at hi hstate ⊢
      exact h.bound i hi hstate
    · simp only [hs.id, hs.mutation, hs.create, hs.delete] at hi ⊢
      exact h.bound i hi hs.before.2
  acceptedKnown := h.acceptedKnown
  acceptedOnce := h.acceptedOnce
  executedOnce := h.executedOnce
  executed := h.executed

/-- The execution of an accepted command that has not been executed. -/
theorem execute (h : OperationTable g) {command : MutationCommand} {i : Fin kMaximumOperationCount}
    (hcommand : command ∈ g.accepted) (hpending : PendingFor g command i)
    (hnew : command.operationId ∉ g.executions.map Execution.operationId) :
    OperationTable { g with
      executions := g.executions ++ [Execution.ofRecord (g.operations i)] } :=
  { h with
    executedOnce := by
      rw [List.map_append, List.map_singleton]
      refine h.executedOnce.append (List.nodup_singleton _) (List.disjoint_singleton.mpr ?_)
      have hid : (g.operations i).id = command.operationId := hpending.id
      simpa only [Execution.ofRecord, hid] using hnew
    executed := by
      intro e he
      rcases List.mem_append.mp he with he | he
      · exact h.executed e he
      · rw [List.mem_singleton] at he
        subst he
        exact ⟨command, hcommand, hpending.id, hpending.mutation, hpending.create,
          hpending.delete⟩ }

end OperationTable

namespace Records

variable {g : OperationLog} {task : Option Task}

theorem init (adapterInstance : ULONGLONG) :
    Records { adapterInstance := adapterInstance : Machine }.log none where
  toOperationTable := OperationTable.init adapterInstance
  pending := fun i h => by cases h
  inFlight := fun _ _ h => by cases h

/-! ## Consequences -/

/-- At most one record is pending. -/
theorem pending_unique (h : Records g task) {i j : Fin kMaximumOperationCount}
    (hi : (g.operations i).state = .pending) (hj : (g.operations j).state = .pending) : i = j := by
  obtain ⟨command, stage, htask, _, _, hid⟩ := h.pending i hi
  obtain ⟨command', stage', htask', _, _, hid'⟩ := h.pending j hj
  rw [htask] at htask'
  cases htask'
  refine h.unique i j (h.id_ne_zero ?_) (hid.symm.trans hid')
  rw [hi]
  decide

theorem settled_of_none (h : Records g none) (i : Fin kMaximumOperationCount) :
    (g.operations i).state ≠ .pending := fun hi => by
  obtain ⟨_, _, htask, _⟩ := h.pending i hi
  cases htask

theorem settled_of_finishing {command : MutationCommand} (h : Records g (some ⟨command, .finishing⟩))
    (i : Fin kMaximumOperationCount) : (g.operations i).state ≠ .pending := fun hi => by
  obtain ⟨_, _, htask, _, hopen, _⟩ := h.pending i hi
  cases htask
  cases hopen

theorem settled_of_legacy {command : MutationCommand} {stage : Stage}
    (h : Records g (some ⟨command, stage⟩)) (hkind : command.isReserved = false)
    (i : Fin kMaximumOperationCount) : (g.operations i).state ≠ .pending := fun hi => by
  obtain ⟨_, _, htask, hreserved, _⟩ := h.pending i hi
  cases htask
  rw [hkind] at hreserved
  cases hreserved

/-- The pending record of the mutation in flight is the only record with its identity. -/
theorem slot_eq {command : MutationCommand} {stage : Stage} (h : Records g (some ⟨command, stage⟩))
    {i k : Fin kMaximumOperationCount} (hpending : PendingFor g command k)
    (hid : (g.operations i).id = command.operationId) : i = k := by
  refine (h.unique k i (h.id_ne_zero ?_) (hpending.id.trans hid.symm)).symm
  rw [hpending.state]
  decide

/-! ## Preservation -/

theorem reserve (h : Records g task) (hnext : g.nextOperationId ≠ 0)
    {i : Fin kMaximumOperationCount} {mutation : ULONG}
    (hmutation : mutation = wispDiskControlCreateDisk ∨ mutation = wispDiskControlDeleteDisk)
    (hevictable : (g.operations i).state ≠ .pending) :
    Records { g with
      operations := Function.update g.operations i (reservedRecord g.nextOperationId mutation)
      nextOperationId := g.nextOperationId + 1
      reservations := g.reservations ++ [g.nextOperationId] } task where
  toOperationTable := h.toOperationTable.reserve hnext i hmutation
  pending := by
    rw [Function.forall_update_iff g.operations fun _ r => r.state = .pending → ∃ command stage,
      task = some ⟨command, stage⟩ ∧ command.isReserved = true ∧ stage.isOpen = true ∧
        command.operationId = r.id]
    exact ⟨nofun, fun j _ => h.pending j⟩
  inFlight := by
    intro command stage htask
    have hf := h.inFlight command stage htask
    refine { hf with pending := fun hk ho => ?_ }
    obtain ⟨k, hk, hsnapshot⟩ := hf.pending hk ho
    have hki : k ≠ i := fun heq => hevictable (heq ▸ hk.state)
    refine ⟨k, ?_, ?_⟩
    · constructor <;> simp only [Function.update_of_ne hki]
      exacts [hk.id, hk.state, hk.mutation, hk.create, hk.delete]
    · simp only [Function.update_of_ne hki]
      exact hsnapshot

theorem admitLegacy (h : Records g none) {command : MutationCommand}
    (hkind : command.isReserved = false) (hvalid : command.validated) :
    Records g (some ⟨command, .bound⟩) where
  toOperationTable := h.toOperationTable
  pending := fun i hi => absurd hi (h.settled_of_none i)
  inFlight := by
    intro command' stage htask
    cases htask
    refine ⟨hvalid, nofun, fun hk => ?_, fun hk => ?_, fun hk => ?_,
      fun hk => ?_⟩ <;> rw [hkind] at hk <;> cases hk

theorem admitReserved (h : Records g none) {command : MutationCommand}
    {i : Fin kMaximumOperationCount} (hkind : command.isReserved = true)
    (hvalid : command.validated)
    (hinstance : command.identity.adapterInstance = g.adapterInstance)
    (hid : (g.operations i).id = command.operationId) (hzero : (g.operations i).id ≠ 0)
    (hmutation : (g.operations i).mutation = command.mutation)
    (hstate : (g.operations i).state = .reserved) :
    Records { g with
      operations := Function.update g.operations i (boundRecord (g.operations i) command)
      accepted := g.accepted ++ [command] } (some ⟨command, .bound⟩) where
  toOperationTable := h.toOperationTable.bind command i hid hzero hmutation hstate
  pending := by
    rw [Function.forall_update_iff g.operations fun _ r => r.state = .pending → ∃ c stage,
      some ⟨command, .bound⟩ = some (⟨c, stage⟩ : Task) ∧ c.isReserved = true ∧
        stage.isOpen = true ∧ c.operationId = r.id]
    exact ⟨fun _ => ⟨command, .bound, rfl, hkind, rfl, hid.symm⟩,
      fun j _ hj => absurd hj (h.settled_of_none j)⟩
  inFlight := by
    intro command' stage htask
    cases htask
    refine ⟨hvalid, fun hk => ?_, fun _ => List.mem_append_right _ List.mem_cons_self,
      fun _ => hinstance, fun _ _ => ⟨i, ?_, nofun⟩, fun _ _ hmem => ?_⟩
    · rw [hkind] at hk
      cases hk
    · constructor <;> simp only [Function.update_self]
      exacts [hid, rfl, hmutation, rfl, rfl]
    · exact h.unaccepted i hstate (hid ▸ h.executed_accepted hmem)

/-- The task changes its stage without changing its work. -/
theorem advance {command : MutationCommand} {stage stage' : Stage}
    (h : Records g (some ⟨command, stage⟩)) (hopen : stage.isOpen = true)
    (hbound : stage' ≠ .bound) (hopen' : stage'.isOpen = true)
    (hwork : ∀ work, stage'.work? = some work → stage.work? = some work) :
    Records g (some ⟨command, stage'⟩) where
  toOperationTable := h.toOperationTable
  pending := by
    intro i hi
    obtain ⟨command', stage'', htask, hkind, _, hid⟩ := h.pending i hi
    cases htask
    exact ⟨command, stage', rfl, hkind, hopen', hid⟩
  inFlight := by
    intro command' stage'' htask
    cases htask
    have hf := h.inFlight command stage rfl
    refine ⟨hf.valid, fun hk w hw => hf.legacyWork hk w (hwork w hw), hf.accepted,
      hf.sameInstance, fun hk _ => ?_, fun _ heq => absurd heq hbound⟩
    obtain ⟨i, hi, hsnapshot⟩ := hf.pending hk hopen
    exact ⟨i, hi, fun w hw => hsnapshot w (hwork w hw)⟩

/-- The worker starts a legacy command. -/
theorem startLegacy {command : MutationCommand} {stage : Stage}
    (h : Records g (some ⟨command, .bound⟩)) (hkind : command.isReserved = false)
    (hwork : ∀ work, stage.work? = some work → work = command.legacyWork) :
    Records g (some ⟨command, stage⟩) where
  toOperationTable := h.toOperationTable
  pending := fun i hi => absurd hi (h.settled_of_legacy hkind i)
  inFlight := by
    intro command' stage' htask
    cases htask
    have hf := h.inFlight command .bound rfl
    refine ⟨hf.valid, fun _ => hwork, hf.accepted, hf.sameInstance, fun hk => ?_, fun hk => ?_⟩ <;>
      rw [hkind] at hk <;> cases hk

/-- The worker starts a reserved command from the snapshot of its record. -/
theorem startReserved {command : MutationCommand} {stage : Stage} {i : Fin kMaximumOperationCount}
    {correlation : ULONGLONG} (h : Records g (some ⟨command, .bound⟩))
    (hkind : command.isReserved = true) (hid : (g.operations i).id = command.operationId)
    (hopen : stage.isOpen = true) (hbound : stage ≠ .bound)
    (hwork : ∀ work, stage.work? = some work → work = .reserved (g.operations i) correlation) :
    Records { g with executions := g.executions ++ [Execution.ofRecord (g.operations i)] }
      (some ⟨command, stage⟩) := by
  have hf := h.inFlight command .bound rfl
  obtain ⟨k, hk, _⟩ := hf.pending hkind rfl
  have hik : i = k := h.slot_eq hk hid
  subst hik
  refine { h.toOperationTable.execute (hf.accepted hkind) hk (hf.unexecuted hkind rfl) with
    pending := fun j hj => ?_
    inFlight := fun command' stage' htask => ?_ }
  · obtain ⟨command', stage', htask, hk', _, hid'⟩ := h.pending j hj
    cases htask
    exact ⟨command, stage, rfl, hk', hopen, hid'⟩
  · cases htask
    refine ⟨hf.valid, fun hk' => ?_, hf.accepted, hf.sameInstance, fun _ _ => ⟨i, ?_, fun w hw =>
      ⟨correlation, hwork w hw⟩⟩, fun _ heq => absurd heq hbound⟩
    · rw [hkind] at hk'
      cases hk'
    · exact ⟨hk.id, hk.state, hk.mutation, hk.create, hk.delete⟩

/-- The records settle so that none is pending: the task ends or only has to answer. -/
theorem settle {command : MutationCommand} {stage : Stage} {task' : Option Task}
    (h : Records g (some ⟨command, stage⟩))
    {operations : Fin kMaximumOperationCount → OperationRecord}
    (hsettle : ∀ i, operations i = g.operations i ∨ Settled (g.operations i) (operations i))
    (hpending : ∀ i, (operations i).state ≠ .pending)
    (htask : task' = none ∨ task' = some ⟨command, .finishing⟩) :
    Records { g with operations := operations } task' where
  toOperationTable := h.toOperationTable.settle hsettle
  pending := fun i hi => absurd hi (hpending i)
  inFlight := by
    intro command' stage' heq
    rcases htask with htask | htask
    · rw [htask] at heq
      cases heq
    · rw [htask] at heq
      cases heq
      have hf := h.inFlight command stage rfl
      exact ⟨hf.valid, nofun, hf.accepted, hf.sameInstance, nofun, nofun⟩

/-- Records other than the pending one settle while the task goes on. -/
theorem settleOthers (h : Records g task)
    {operations : Fin kMaximumOperationCount → OperationRecord}
    (hsettle : ∀ i, operations i = g.operations i ∨
      (g.operations i).state ≠ .pending ∧ Settled (g.operations i) (operations i)) :
    Records { g with operations := operations } task where
  toOperationTable := h.toOperationTable.settle fun i => (hsettle i).imp_right And.right
  pending := by
    intro i hi
    rcases hsettle i with heq | ⟨_, hs⟩
    · simp only [heq] at hi ⊢
      exact h.pending i hi
    · exact absurd hi hs.after.2.2
  inFlight := by
    intro command stage htask
    have hf := h.inFlight command stage htask
    refine { hf with pending := fun hk ho => ?_ }
    obtain ⟨k, hk, hsnapshot⟩ := hf.pending hk ho
    have heq : operations k = g.operations k :=
      (hsettle k).resolve_right fun hne => hne.1 hk.state
    refine ⟨k, ?_, ?_⟩
    · constructor <;> simp only [heq]
      exacts [hk.id, hk.state, hk.mutation, hk.create, hk.delete]
    · simp only [heq]
      exact hsnapshot

/-- `FailOperationLocked` settles the pending record of the mutation in flight. -/
theorem fail {command : MutationCommand} {stage : Stage} {task' : Option Task}
    (h : Records g (some ⟨command, stage⟩)) (hopen : stage.isOpen = true)
    {operations : Fin kMaximumOperationCount → OperationRecord}
    (hfail : Failing g.operations command operations)
    (htask : task' = none ∨ task' = some ⟨command, .finishing⟩) :
    Records { g with operations := operations } task' := by
  cases hfail with
  | legacy hkind => exact h.settle (fun i => Or.inl rfl) (h.settled_of_legacy hkind) htask
  | missing hkind hnone =>
    obtain ⟨k, hk, _⟩ := (h.inFlight command stage rfl).pending hkind hopen
    have hzero : (g.operations k).id ≠ 0 := h.id_ne_zero (by rw [hk.state]; decide)
    rcases hnone with heq | hnone
    · exact absurd (hk.id.trans heq) hzero
    · exact absurd hk.id (hnone k)
  | failed hkind i hid hzero status hstatus =>
    obtain ⟨k, hk, _⟩ := (h.inFlight command stage rfl).pending hkind hopen
    have hik : i = k := h.slot_eq hk hid
    subst hik
    refine h.settle (fun j => ?_) (fun j => ?_) htask
    · rcases eq_or_ne j i with rfl | hj
      · rw [Function.update_self]
        refine Or.inr ⟨rfl, rfl, rfl, rfl, ?_, ?_⟩
        · rw [hk.state]
          decide
        · exact ⟨nofun, nofun, nofun⟩
      · rw [Function.update_of_ne hj]
        exact Or.inl rfl
    · rcases eq_or_ne j i with rfl | hj
      · rw [Function.update_self]
        exact nofun
      · rw [Function.update_of_ne hj]
        exact fun hp => hj (h.pending_unique hp hk.state)

theorem resolvedRecord_settled {record : OperationRecord} (hstate : record.state = .pending)
    (status : NTSTATUS) (created : Option (ULONG × UCHAR)) :
    Settled record (resolvedRecord record status created) where
  id := resolvedRecord_id record status created
  mutation := resolvedRecord_mutation record status created
  create := resolvedRecord_create record status created
  delete := resolvedRecord_delete record status created
  before := by
    rw [hstate]
    decide
  after := by
    rw [resolvedRecord_state]
    split <;> decide

/-- Publishing the result of the mutation in flight. -/
theorem publish {command : MutationCommand} {stage : Stage} {snapshot : OperationRecord}
    {correlation : ULONGLONG} (h : Records g (some ⟨command, stage⟩))
    (hwork : stage.work? = some (.reserved snapshot correlation))
    {i : Fin kMaximumOperationCount} (hid : (g.operations i).id = snapshot.id)
    (hzero : (g.operations i).id ≠ 0) (status : NTSTATUS) (created : Option (ULONG × UCHAR)) :
    snapshot = g.operations i ∧ Records { g with
      operations := Function.update g.operations i (resolvedRecord snapshot status created) }
      (some ⟨command, .finishing⟩) := by
  have hf := h.inFlight command stage rfl
  cases hkind : command.isReserved with
  | false =>
    have hlegacy := hf.legacyWork hkind _ hwork
    unfold MutationCommand.legacyWork at hlegacy
    split at hlegacy <;> cases hlegacy
  | true =>
    have hopen : stage.isOpen = true := by
      cases stage <;> first | rfl | cases hwork
    obtain ⟨k, hk, hsnapshot⟩ := hf.pending hkind hopen
    obtain ⟨_, heq⟩ := hsnapshot _ hwork
    cases heq
    have hik : i = k := h.unique i k hzero hid
    subst hik
    have hsettled := resolvedRecord_settled hk.state status created
    refine ⟨rfl, h.settle (fun j => ?_) (fun j => ?_) (Or.inr rfl)⟩
    · rcases eq_or_ne j i with rfl | hj
      · rw [Function.update_self]
        exact Or.inr hsettled
      · rw [Function.update_of_ne hj]
        exact Or.inl rfl
    · rcases eq_or_ne j i with rfl | hj
      · rw [Function.update_self]
        exact hsettled.after.2.2
      · rw [Function.update_of_ne hj]
        exact fun hp => hj (h.pending_unique hp hk.state)

/-- `MarkCreatesDeletedLocked` leaves the pending record alone. -/
theorem markDeleted (h : Records g task) (deviceId : ULONG) :
    Records { g with
      operations := fun i => ManagementController.markDeleted deviceId (g.operations i) } task := by
  refine h.settleOthers fun i => ?_
  unfold ManagementController.markDeleted
  split
  · rename_i hmatch
    refine Or.inr ⟨?_, rfl, rfl, rfl, rfl, ?_, nofun, nofun, nofun⟩ <;> rw [hmatch.2.2] <;> decide
  · exact Or.inl rfl

theorem start_isOpen (work : Work) :
    (Stage.start work).isOpen = true ∧ Stage.start work ≠ .bound ∧
      (Stage.start work).work? = some work := by
  unfold Stage.start
  split <;> exact ⟨rfl, nofun, rfl⟩

/-- The worker cannot miss the pending record it is bound to. -/
theorem not_missing {command : MutationCommand} {stage : Stage}
    (h : Records g (some ⟨command, stage⟩)) (hkind : command.isReserved = true)
    (hopen : stage.isOpen = true)
    (hnone : command.identity.adapterInstance = g.adapterInstance → ∀ i,
      (g.operations i).id = command.operationId → (g.operations i).id ≠ 0 →
        (g.operations i).state ≠ .pending) : False := by
  have hf := h.inFlight command stage rfl
  obtain ⟨k, hk, _⟩ := hf.pending hkind hopen
  have hzero : (g.operations k).id ≠ 0 := h.id_ne_zero (by rw [hk.state]; decide)
  exact hnone (hf.sameInstance hkind) k hk.id hzero hk.state

/-- The result of a reserved mutation always finds its record. -/
theorem not_unanswered {command : MutationCommand} {stage : Stage} {work : Work}
    (h : Records g (some ⟨command, stage⟩)) (hopen : stage.isOpen = true)
    (hwork : stage.work? = some work)
    (hrecord : ∀ snapshot correlation, work = .reserved snapshot correlation →
      snapshot.id = 0 ∨ ∀ i, (g.operations i).id ≠ snapshot.id) : command.isReserved = false := by
  by_contra hkind
  rw [Bool.not_eq_false] at hkind
  obtain ⟨k, hk, hsnapshot⟩ := (h.inFlight command stage rfl).pending hkind hopen
  obtain ⟨correlation, heq⟩ := hsnapshot work hwork
  have hzero : (g.operations k).id ≠ 0 := h.id_ne_zero (by rw [hk.state]; decide)
  rcases hrecord _ _ heq with hzero' | hnone
  · exact hzero hzero'
  · exact hnone k rfl

end Records

theorem Machine.DrainStep.log {c c' : Machine} {d : Drain} {next : DrainStage}
    (h : DrainStep c d c' next) : c'.log = c.log ∧ c'.task = c.task := by
  cases h <;> exact ⟨rfl, rfl⟩

/-- Every step keeps the records in order. -/
theorem Records.step {restartable : Machine → Prop} {c c' : Machine}
    (h : Records c.log c.task) (hs : c.Step restartable c') : Records c'.log c'.task := by
  cases hs with
  | reserved i mutation hmutation hopen hnext hslot =>
    refine h.reserve hnext hmutation fun hpending => ?_
    rcases selectSlot_evicts hslot with hzero | ⟨_, hfree, _⟩
    · exact h.id_ne_zero (by rw [hpending]; decide) hzero
    · exact nomatch hfree.symm.trans (pinned_of_pending hpending)
  | admittedLegacy command hopen hidle hkind hvalid =>
    rw [hidle] at h
    exact h.admitLegacy hkind hvalid
  | admittedReserved command i hopen hidle hkind hvalid hinstance hid hzero hmutation hstate =>
    rw [hidle] at h
    exact h.admitReserved hkind hvalid hinstance hid hzero hmutation hstate
  | queueFailed command htask operations hfail =>
    rw [htask] at h
    exact h.fail rfl hfail (Or.inl rfl)
  | rejected command htask hkind operations hfail =>
    rw [htask] at h
    exact h.fail rfl hfail (Or.inr rfl)
  | startedLegacy command htask hkind =>
    rw [htask] at h
    refine h.startLegacy hkind fun work hwork => ?_
    rw [(start_isOpen _).2.2] at hwork
    exact (Option.some.inj hwork).symm
  | missing command htask hkind hnone =>
    rw [htask] at h
    exact (h.not_missing hkind rfl hnone).elim
  | startedReserved command i correlation htask hkind hid hzero hstate =>
    rw [htask] at h
    obtain ⟨hopen, hbound, hwork⟩ := start_isOpen (.reserved (c.operations i) correlation)
    exact h.startReserved hkind hid hopen hbound fun work heq =>
      (Option.some.inj (hwork.symm.trans heq)).symm
  | notSelected command work status htask hstatus =>
    rw [htask] at h
    exact h.advance rfl nofun rfl fun _ hw => hw
  | selected command work l htask hquota hempty =>
    rw [htask] at h
    exact h.advance rfl nofun rfl fun _ hw => hw
  | notAllocated command work l htask =>
    rw [htask] at h
    exact h.advance rfl nofun rfl fun _ hw => hw
  | allocated command work l htask =>
    rw [htask] at h
    exact h.advance rfl nofun rfl fun _ hw => hw
  | notCommitted command work l allocation status htask hstatus =>
    rw [htask] at h
    exact h.advance rfl nofun rfl fun _ hw => hw
  | committed command work l allocation htask hopen hempty hnext =>
    rw [htask] at h
    exact h.advance rfl nofun rfl fun _ hw => hw
  | freed command work allocation status htask =>
    rw [htask] at h
    exact h.advance rfl nofun rfl fun _ hw => hw
  | notMarked command work htask hnone =>
    rw [htask] at h
    exact h.advance rfl nofun rfl fun _ hw => hw
  | marked command work l htask honline htarget =>
    rw [htask] at h
    exact h.advance rfl nofun rfl fun _ hw => hw
  | workerDrained command work l stage next c' htask hdrain =>
    rw [htask, ← hdrain.log.1] at h
    exact h.advance rfl nofun rfl fun _ hw => hw
  | workerFinalized command work l htask =>
    rw [htask] at h
    exact (h.markDeleted work.target).advance rfl nofun rfl fun _ hw => hw
  | answered command work status created htask hrecord =>
    rw [htask] at h
    have hkind := h.not_unanswered rfl rfl hrecord
    exact h.settle (fun i => Or.inl rfl) (h.settled_of_legacy hkind) (Or.inr rfl)
  | published command snapshot correlation status created i htask hid hzero =>
    rw [htask] at h
    exact (h.publish rfl hid hzero status created).2
  | ended command htask =>
    rw [htask] at h
    exact h.settle (fun i => Or.inl rfl) h.settled_of_finishing (Or.inl rfl)
  | acquired | released | stopped | restarted | entered | admissionClosed | idle | idleLeft
  | markedAll | selectedStopping | noneStopping | targetRead | removedRead | workerReleased
  | invalidated => exact h
  | teardownDrained l stage next c' hclosing hdrain =>
    rw [← hdrain.log.1, ← hdrain.log.2] at h
    exact h
  | teardownFinalized l deviceId hclosing => exact h.markDeleted deviceId

theorem Records.reachable {restartable : Machine → Prop} {c : Machine}
    (h : c.Reachable restartable) : Records c.log c.task := by
  obtain ⟨adapterInstance, hrun⟩ := h
  induction hrun with
  | refl => exact Records.init adapterInstance
  | tail _ hs ih => exact ih.step hs

end WispDisk
