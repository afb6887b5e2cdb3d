import WispDisk.Lifecycle.Removal
import WispDisk.Lifecycle.Simulation

/-! Progress of the submission in flight. Every step it takes brings it closer to
`EndManagementLocked`, and it can take one unless it waits for a live lease; leases are given back
by SCSI commands that never wait. So the adapter's own threads always bring the gate back to idle,
whatever StorPort has called before. -/
namespace WispDisk
open Transition
set_option autoImplicit false

/-! ## Bounded work -/

/-- A bound on the steps left to a submission. -/
def Phase.remaining : Phase → ℕ
  | .prepared => 20
  | .queued => 19
  | .takeFault => 18
  | .snapshotPending => 17
  | .selectLun _ | .markStopping _ => 16
  | .allocate .. | .waitForLunIo .. => 15
  | .zeroMemory .. | .detach .. => 14
  | .commit .. | .freePool .. => 13
  | .finalize .. => 12
  | .freeAllocation .. => 8
  | .publish .. => 7
  | .rejectOperation => 6
  | .respond => 5
  | .traceResponse _ => 4
  | .complete _ => 3
  | .notifyBus _ => 2
  | .queueFailed | .endManagement => 1

theorem Phase.remaining_start (work : Work) : work.start.remaining = 16 := by
  unfold Work.start
  split <;> rfl

namespace Adapter

theorem beginWork_remaining (a : Adapter) (s : Submission) :
    (a.beginWork s).2.phase.remaining < 18 := by
  have hif : ∀ (b : Bool) (work : Work) (status : NTSTATUS),
      (if b = true then work.start else Phase.publish work status none).remaining < 18 := by
    intro b work status
    split
    · rw [Phase.remaining_start]
      omega
    · exact (by decide : 7 < 18)
  unfold beginWork
  simp only
  split
  · simp only
    split
    · exact (by decide : 6 < 18)
    · exact (by decide : 17 < 18)
  split
  · exact hif _ _ _
  split
  · exact hif _ _ _
  · exact (by decide : 5 < 18)

/-- Every step brings the submission closer to its end. -/
theorem advance_remaining {a a' : Adapter} {s s' : Submission} {granted : Bool} {now : LONGLONG}
    (h : advance a s granted now = some (a', some s')) :
    s'.phase.remaining < s.phase.remaining := by
  cases hphase : s.phase with
  | prepared =>
    unfold advance at h
    simp only [hphase] at h
    cases h
    simp only
    split <;> simp only [Phase.remaining] <;> omega
  | takeFault =>
    unfold advance at h
    simp only [hphase] at h
    cases h
    exact beginWork_remaining a s
  | queued | selectLun | allocate | commit | markStopping =>
    unfold advance at h
    simp only [hphase] at h
    split at h <;>
    · cases h
      simp only [Phase.remaining]
      omega
  | snapshotPending =>
    unfold advance at h
    simp only [hphase] at h
    split at h
    · cases h
      simp only [Phase.remaining]
      omega
    · cases h
      simp only [Phase.remaining_start]
      exact (by decide : 16 < 17)
  | waitForLunIo =>
    unfold advance at h
    simp only [hphase] at h
    split at h
    · cases h
      simp only [Phase.remaining]
      omega
    · cases h
  | publish work status created =>
    unfold advance publish at h
    simp only [hphase] at h
    cases work <;>
    · cases h
      simp only [Phase.remaining]
      omega
  | complete m =>
    unfold advance at h
    simp only [hphase] at h
    cases h
    simp only
    split <;> simp only [Phase.remaining] <;> omega
  | queueFailed | endManagement =>
    unfold advance at h
    simp only [hphase] at h
    cases h
  | rejectOperation | zeroMemory | freeAllocation | detach | freePool | finalize | respond
  | traceResponse | notifyBus =>
    unfold advance at h
    simp only [hphase] at h
    cases h
    simp only [Phase.remaining]
    omega

/-- A submission that cannot step waits for a LUN's event. -/
theorem advance_blocked {a : Adapter} {s : Submission} {granted : Bool} {now : LONGLONG}
    (h : advance a s granted now = none) : ∃ work l, s.phase = .waitForLunIo work l ∧
      (a.extension.luns l).noActiveRequestsEvent = false := by
  unfold advance at h
  cases hphase : s.phase with
  | waitForLunIo work l =>
    simp only [hphase] at h
    split at h
    · cases h
    · rename_i hevent
      exact ⟨work, l, rfl, Bool.eq_false_iff.mpr hevent⟩
  | queued | snapshotPending | selectLun | allocate | commit | markStopping =>
    simp only [hphase] at h
    split at h <;> cases h
  | prepared | queueFailed | takeFault | rejectOperation | zeroMemory | freeAllocation | detach
  | freePool | finalize | publish | respond | traceResponse | complete | notifyBus
  | endManagement =>
    simp only [hphase] at h
    cases h

/-- A LUN whose event is not signalled has a live lease. -/
theorem exists_command {C : Contract Adapter Action} {a : Adapter} (h : Reachable system C a)
    {l : Fin kMaximumDiskCount} (hevent : (a.extension.luns l).noActiveRequestsEvent = false) :
    ∃ c ∈ a.commands, c.lun = l := by
  have hcounters := Counters.reachable (reachable_anywhere h)
  have hactive : (a.extension.luns l).activeRequests ≠ 0 := by
    have hdecide := hcounters.event l
    change (a.extension.luns l).noActiveRequestsEvent = _ at hdecide
    rw [hevent] at hdecide
    exact of_decide_eq_false hdecide.symm
  have hcount : 0 < leaseCount a.machine.leases l := by
    have hatMost := hcounters.atMost l
    have hpositive : (a.extension.luns l).activeRequests.toNat ≠ 0 := fun hzero =>
      hactive (UInt32.toNat.inj hzero)
    change (a.extension.luns l).activeRequests.toNat ≤ _ at hatMost
    omega
  obtain ⟨lease, hmem, hlun⟩ := List.countP_pos_iff.mp hcount
  obtain ⟨c, hc, rfl⟩ := List.mem_map.mp hmem
  exact ⟨c, hc, of_decide_eq_true hlun⟩

/-! ## The adapter's own threads -/

/-- The adapter's own threads run on and StorPort calls nothing new. -/
def ownThreads : Contract Adapter Action := fun _ action =>
  (∃ i granted now, action = .submission i granted now) ∨ ∃ i, action = .command i

/-- The steps left to the SCSI commands that hold leases. -/
def commandSteps (commands : List ScsiCommand) : ℕ :=
  (commands.map fun c => if c.status = none then 2 else 1).sum

theorem commandSteps_advance {a : Adapter} {i : ℕ} {c : ScsiCommand} (hc : a.commands[i]? = some c) :
    commandSteps (a.advanceCommand i c).commands < commandSteps a.commands := by
  obtain ⟨hi, heq⟩ := List.getElem?_eq_some_iff.mp hc
  have hsum : commandSteps a.commands =
      commandSteps (a.commands.take i) +
        ((if c.status = none then 2 else 1) + commandSteps (a.commands.drop (i + 1))) := by
    have hsplit : a.commands = a.commands.take i ++ c :: a.commands.drop (i + 1) := by
      rw [← heq, List.getElem_cons_drop, List.take_append_drop]
    conv_lhs => rw [hsplit]
    simp [commandSteps]
  unfold advanceCommand
  split
  · rename_i hstatus
    simp only [List.set_eq_take_append_cons_drop, hi, if_true]
    rw [hsum, hstatus]
    simp [commandSteps]
  · rename_i status hstatus
    simp only [giveBack, List.eraseIdx_eq_take_drop_succ]
    rw [hsum, hstatus]
    simp [commandSteps]

theorem advanceCommand_submissions (a : Adapter) (i : ℕ) (c : ScsiCommand) :
    (a.advanceCommand i c).submissions = a.submissions ∧
      (a.advanceCommand i c).history = a.history := by
  unfold advanceCommand
  split <;> exact ⟨rfl, rfl⟩

/-- The own threads finish the submission in flight. -/
theorem submission_ends {a : Adapter} {s : Submission} (h : Reachable system anyAction a)
    (hs : a.submissions = [s]) : ∃ b, Steps system ownThreads a b ∧ b.submissions = [] ∧
      b.history.admitted = a.history.admitted := by
  induction hn : s.phase.remaining + commandSteps a.commands using Nat.strong_induction_on
    generalizing a s with
  | h n ih =>
    subst hn
    have hget : a.submissions[0]? = some s := by rw [hs]; rfl
    cases hadvance : a.advance s true 0 with
    | some result =>
      obtain ⟨b, next⟩ := result
      have hadvanced := advance_advanced hadvance
      have hstep : system.step a (.submission 0 true 0) =
          some { b with submissions := next.toList } := by
        simp only [system, step, hget, hadvance]
        cases next <;> simp only [hadvanced.submissions, hs] <;> rfl
      have hown : ownThreads a (.submission 0 true 0) := Or.inl ⟨0, true, 0, rfl⟩
      have hpath := Steps.single hown hstep
      cases next with
      | none => exact ⟨_, hpath, rfl, hadvanced.admitted⟩
      | some s' =>
        have hless := advance_remaining hadvance
        have hcommands := hadvanced.commands
        obtain ⟨d, hrest, hnone, hsame⟩ := ih
          (s'.phase.remaining + commandSteps b.commands) (by rw [hcommands]; omega)
          (h.step trivial hstep) rfl rfl
        exact ⟨d, hpath.trans hrest, hnone, hsame.trans hadvanced.admitted⟩
    | none =>
      obtain ⟨work, l, _, hevent⟩ := advance_blocked hadvance
      obtain ⟨c, hc, _⟩ := exists_command h hevent
      obtain ⟨i, hi⟩ := List.mem_iff_getElem?.mp hc
      have hstep : system.step a (.command i) = some (a.advanceCommand i c) := by
        simp only [system, step, hi]
      obtain ⟨hsubmissions, hhistory⟩ := advanceCommand_submissions a i c
      have hless := commandSteps_advance hi
      obtain ⟨d, hrest, hnone, hsame⟩ := ih
        (s.phase.remaining + commandSteps (a.advanceCommand i c).commands) (by omega)
        (h.step trivial hstep) (hsubmissions.trans hs) rfl
      have hown : ownThreads a (.command i) := Or.inr ⟨i, rfl⟩
      exact ⟨d, (Steps.single hown hstep).trans hrest, hnone, hsame.trans (by rw [hhistory])⟩

end Adapter

end WispDisk
