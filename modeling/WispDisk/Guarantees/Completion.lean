import WispDisk.Guarantees.Schedules
import WispDisk.Lifecycle.Statuses

/-! Every SRB that StorPort passes in is completed exactly once: by `StartIo`, or, once its work
item is queued, by the worker. -/
namespace WispDisk
open Counting Transition
set_option autoImplicit false

namespace Adapter

/-! ## The driver's threads -/

/-- The threads inside the driver run on, and StorPort passes nothing new in. -/
def driverThreads : Contract Adapter Action := fun a action =>
  ownThreads a action ∨ ∃ i, action = .completeRequest i

/-- A bound on what the driver's threads can still do. -/
def driverWork (a : Adapter) : ℕ :=
  2 * (a.submissions.map fun s => s.phase.remaining).sum + 2 * commandSteps a.commands +
    a.returned.length

theorem returned_advance {a b : Adapter} {s : Submission} {next : Option Submission}
    {granted : Bool} {now : LONGLONG} (h : a.advance s granted now = some (b, next)) :
    2 * (next.toList.map fun s => s.phase.remaining).sum + b.returned.length <
      2 * s.phase.remaining + a.returned.length := by
  cases next with
  | some s' =>
    have hless := advance_remaining h
    have hreturned : b.returned = a.returned := by
      cases advance_srb h with
      | refused _ _ _ _ hnext => cases hnext
      | queued _ _ _ hreturned | notQueued _ _ _ hreturned | working _ _ _ _ hreturned
      | completed _ _ _ _ _ hreturned | ended _ _ hreturned => exact hreturned
    rw [hreturned]
    simp only [Option.toList, List.map_singleton, List.sum_singleton]
    omega
  | none =>
    cases advance_srb h with
    | refused r hphase _ _ _ hreturned =>
      have hremaining : s.phase.remaining = 1 := by rw [hphase]; rfl
      rw [hreturned, hremaining, List.length_append, List.length_singleton]
      simp only [Option.toList, List.map_nil, List.sum_nil]
      omega
    | ended hphase _ hreturned =>
      have hremaining : s.phase.remaining = 1 := by rw [hphase]; rfl
      rw [hreturned, hremaining]
      simp only [Option.toList, List.map_nil, List.sum_nil]
      omega
    | queued _ _ hnext | notQueued _ _ hnext | working _ _ hnext | completed _ _ _ hnext =>
      cases hnext

theorem advanceCommand_returned (a : Adapter) (i : ℕ) (c : ScsiCommand) :
    (a.advanceCommand i c).returned.length ≤ a.returned.length + 1 := by
  unfold advanceCommand
  split
  · exact Nat.le_succ _
  · simp [giveBack]

/-- Every step of the driver's threads leaves less to do. -/
theorem driverWork_step {a b : Adapter} {action : Action} (hgate : a.Gate)
    (haction : driverThreads a action) (hs : step a action = some b) :
    b.driverWork < a.driverWork := by
  rcases haction with (⟨i, granted, now, rfl⟩ | ⟨i, rfl⟩) | ⟨i, rfl⟩
  · obtain ⟨s, b', next, hlist, hadvance, hb⟩ := step_submission hgate hs
    have hless := returned_advance hadvance
    have hcommands := (advance_advanced hadvance).commands
    unfold driverWork
    rw [hb, hlist]
    simp only [hcommands, List.map_singleton, List.sum_singleton]
    omega
  · simp only [step] at hs
    split at hs
    · rename_i c hc
      cases hs
      have hless := commandSteps_advance hc
      have hreturned := advanceCommand_returned a i c
      unfold driverWork
      rw [(advanceCommand_submissions a i c).1]
      omega
    · cases hs
  · simp only [step] at hs
    split at hs
    · rename_i r hr
      cases hs
      obtain ⟨hi, _⟩ := List.getElem?_eq_some_iff.mp hr
      simp only [driverWork, complete, List.length_eraseIdx_of_lt hi]
      omega
    · cases hs

/-- No SRB is with the driver, and none of its submissions is unfinished. -/
structure Quiet (a : Adapter) : Prop where
  commands : a.commands = []
  submissions : a.submissions = []
  returned : a.returned = []

/-- The driver's threads stop only when every SRB has left the driver. -/
theorem quiet_of_stuck {a : Adapter} (h : Reachable system anyAction a)
    (hstuck : ∀ action, driverThreads a action → system.step a action = none) : a.Quiet := by
  have hcommands : a.commands = [] := by
    by_contra hne
    obtain ⟨c, rest, hc⟩ := List.exists_cons_of_ne_nil hne
    have hget : a.commands[0]? = some c := by rw [hc]; rfl
    have hnone := hstuck (.command 0) (Or.inl (Or.inr ⟨0, rfl⟩))
    simp only [system, step, hget] at hnone
    cases hnone
  refine ⟨hcommands, ?_, ?_⟩
  · by_contra hne
    obtain ⟨s, rest, hs⟩ := List.exists_cons_of_ne_nil hne
    have hget : a.submissions[0]? = some s := by rw [hs]; rfl
    have hnone := hstuck (.submission 0 true 0) (Or.inl (Or.inl ⟨0, true, 0, rfl⟩))
    cases hadvance : a.advance s true 0 with
    | none =>
      obtain ⟨work, l, _, hevent⟩ := advance_blocked hadvance
      obtain ⟨c, hc, _⟩ := exists_command h hevent
      rw [hcommands] at hc
      exact List.not_mem_nil hc
    | some result =>
      obtain ⟨b, next⟩ := result
      simp only [system, step, hget, hadvance] at hnone
      cases next <;> cases hnone
  · by_contra hne
    obtain ⟨r, rest, hr⟩ := List.exists_cons_of_ne_nil hne
    have hget : a.returned[0]? = some r := by rw [hr]; rfl
    have hnone := hstuck (.completeRequest 0) (Or.inr ⟨0, rfl⟩)
    simp only [system, step, hget] at hnone
    cases hnone

/-- From every reachable state the driver's threads empty the driver. -/
theorem quiet_reached {a : Adapter} (h : Reachable system anyAction a) :
    ∃ b, Steps system driverThreads a b ∧ b.Quiet := by
  induction hn : a.driverWork using Nat.strong_induction_on generalizing a with
  | h n ih =>
    subst hn
    by_cases hstuck : ∀ action, driverThreads a action → system.step a action = none
    · exact ⟨a, Steps.refl a, quiet_of_stuck h hstuck⟩
    · obtain ⟨action, hrest⟩ := not_forall.mp hstuck
      obtain ⟨haction, hsome⟩ := Classical.not_imp.mp hrest
      obtain ⟨b, hb⟩ := Option.ne_none_iff_exists'.mp hsome
      obtain ⟨d, hpath, hquiet⟩ := ih b.driverWork
        (driverWork_step (Gate.reachable h) haction hb) (h.step trivial hb) rfl
      exact ⟨d, (Steps.single haction hb).trans hpath, hquiet⟩

theorem nextSrb_step {a b : Adapter} {action : Action} (hgate : a.Gate)
    (hs : step a action = some b) : a.nextSrb ≤ b.nextSrb := by
  cases action with
  | startIo srb now =>
    simp only [step] at hs
    split at hs
    · cases hs
      have hstarted := startIo_started a srb now
      generalize a.startIo srb now = b at hstarted
      cases hstarted <;> exact Nat.le_succ _
    · cases hs
  | command i =>
    simp only [step] at hs
    split at hs
    · cases hs
      unfold advanceCommand
      split <;> exact le_rfl
    · cases hs
  | completeRequest i =>
    simp only [step] at hs
    split at hs
    · cases hs
      exact le_rfl
    · cases hs
  | submission i granted now =>
    obtain ⟨s, b', next, _, hadvance, hb⟩ := step_submission hgate hs
    rw [hb]
    exact (advance_advanced hadvance).nextSrb.ge
  | setStopping stopping =>
    cases hs
    exact le_rfl
  | teardown workerBusy => exact (advanceTeardown_sameSrbs hs).nextSrb.ge

/-! ## Exactly one completion -/

/-- How often, and by whom, the SRB `id` is completed: once, by the worker if its work item was
queued and otherwise by `StartIo`. -/
def CompletedOnce (log : List SrbEvent) (id : ℕ) : Prop :=
  queuedTimes log id ≤ 1 ∧ completedBy log .worker id = queuedTimes log id ∧
    completedBy log .startIo id = 1 - queuedTimes log id

theorem Tracked.completedOnce {a : Adapter} {log : List SrbEvent} (h : a.Tracked log) {id : ℕ}
    (hid : id < a.nextSrb) (hquiet : a.withCaller id + a.withWorker id = 0) :
    CompletedOnce log id := by
  have hplaced := h.placed id
  have hqueued := h.queued id
  rw [if_pos hid] at hplaced
  refine ⟨?_, ?_, ?_⟩ <;> omega

theorem Quiet.none_held {a : Adapter} (h : a.Quiet) (id : ℕ) :
    a.withCaller id + a.withWorker id = 0 := by
  simp only [withCaller, withWorker, h.commands, h.submissions, h.returned, List.countP_nil]

/-- What StorPort has seen of the SRBs it has passed in. -/
structure ExactlyOnce (a : Adapter) (log : List SrbEvent) : Prop where
  /-- No SRB is completed twice, by whomever. -/
  once : ∀ id, completedBy log .startIo id + completedBy log .worker id ≤ 1
  /-- Only an SRB that was passed in is completed. -/
  passed : ∀ id, a.nextSrb ≤ id → completedBy log .startIo id + completedBy log .worker id = 0
  /-- The worker completes only what was queued to it. -/
  worker : ∀ id, completedBy log .worker id ≤ queuedTimes log id
  /-- `StartIo` completes only what was not queued to the worker. -/
  startIo : ∀ id, completedBy log .startIo id + queuedTimes log id ≤ 1
  /-- An SRB that is not completed is with its call of `StartIo` or with its worker run. -/
  held : ∀ id, id < a.nextSrb → completedBy log .startIo id + completedBy log .worker id = 0 →
    (∃ c ∈ a.commands, c.id = id) ∨ (∃ r ∈ a.returned, r.id = id) ∨
      ∃ s ∈ a.submissions, s.id = id
  /-- A worker run that has ended has completed its SRB. -/
  ended : ∀ id, queuedTimes log id = 1 → (∀ s ∈ a.submissions, s.id ≠ id) →
    completedBy log .worker id = 1
  status : ∀ completer id status, .completed completer id status ∈ log → status ≠ srbStatusPending
  /-- Every step of the driver's threads leaves less to do. -/
  shrinks : ∀ action b, driverThreads a action → system.step a action = some b →
    b.driverWork < a.driverWork
  /-- When they cannot step, every SRB has its one completion. -/
  stuck : (∀ action, driverThreads a action → system.step a action = none) →
    ∀ id < a.nextSrb, CompletedOnce log id
  /-- So they bring every SRB to its one completion. -/
  completes : ∃ b more, Steps SrbSystem (Contract.logged _ driverThreads) (a, log) (b, log ++ more) ∧
    ∀ id < a.nextSrb, CompletedOnce (log ++ more) id

/-- Every SRB is completed exactly once, by `StartIo` or by the worker, in every run. -/
theorem exactly_once (a : Adapter) (log : List SrbEvent)
    (h : Reachable SrbSystem (Contract.logged _ anyAction) (a, log)) : a.ExactlyOnce log := by
  have htracked : a.Tracked log := Tracked.reachable h
  have hreachable : Reachable system anyAction a := h.unlogged
  have hcounts := fun id => And.intro (htracked.placed id) (htracked.queued id)
  refine ⟨fun id => ?_, fun id hid => ?_, fun id => ?_, fun id => ?_, fun id hid hnone => ?_,
    fun id hqueued hend => ?_, fun _ _ _ => completed_ne_pending h,
    fun action b haction hs => driverWork_step (Gate.reachable hreachable) haction hs,
    fun hstuck id hid => htracked.completedOnce hid ((quiet_of_stuck hreachable hstuck).none_held id),
    ?_⟩
  · obtain ⟨hplaced, hqueued⟩ := hcounts id
    split at hplaced <;> omega
  · obtain ⟨hplaced, hqueued⟩ := hcounts id
    rw [if_neg (Nat.not_lt.mpr hid)] at hplaced
    omega
  · have hqueued := (hcounts id).2
    omega
  · have hplaced := (hcounts id).1
    split at hplaced <;> omega
  · obtain ⟨hplaced, hqueued⟩ := hcounts id
    rw [if_pos hid] at hplaced
    by_contra hplace
    push Not at hplace
    obtain ⟨hcommands, hreturned, hsubmissions⟩ := hplace
    have hcaller : a.withCaller id = 0 := by
      have hc : a.commands.countP (fun c => c.id == id) = 0 :=
        List.countP_eq_zero.mpr fun c hc heq => hcommands c hc (beq_iff_eq.mp heq)
      have hr : a.returned.countP (fun r => r.id == id) = 0 :=
        List.countP_eq_zero.mpr fun r hr heq => hreturned r hr (beq_iff_eq.mp heq)
      have hs : (a.submissions.countP fun s => s.id == id && s.phase.owner == .caller) = 0 :=
        List.countP_eq_zero.mpr fun s hs heq =>
          hsubmissions s hs (beq_iff_eq.mp (Bool.and_eq_true_iff.mp heq).1)
      rw [withCaller, hc, hr, hs]
    have hworker : a.withWorker id = 0 := List.countP_eq_zero.mpr fun s hs heq =>
      hsubmissions s hs (beq_iff_eq.mp (Bool.and_eq_true_iff.mp heq).1)
    omega
  · have hworker : a.withWorker id = 0 := List.countP_eq_zero.mpr fun s hs heq =>
      hend s hs (beq_iff_eq.mp (Bool.and_eq_true_iff.mp heq).1)
    have hcount := (hcounts id).2
    omega
  · obtain ⟨b, hpath, hquiet⟩ := quiet_reached hreachable
    obtain ⟨more, hlogged⟩ := hpath.logged srbEvents log
    have hany : Steps SrbSystem (Contract.logged _ anyAction) (a, log) (b, log ++ more) :=
      hlogged.mono fun _ _ _ => trivial
    have hpath' : Steps system anyAction a b := hpath.mono fun _ _ _ => trivial
    have htracked' : b.Tracked (log ++ more) := Tracked.reachable (h.path hany)
    have hnext : a.nextSrb ≤ b.nextSrb :=
      hpath'.preserves (P := fun u => a.nextSrb ≤ u.nextSrb) hreachable
        (fun _ _ _ hr hle _ hs => hle.trans (nextSrb_step (Gate.reachable hr) hs)) le_rfl
    exact ⟨b, more, hlogged, fun id hid =>
      htracked'.completedOnce (lt_of_lt_of_le hid hnext) (hquiet.none_held id)⟩

/-- A create that the worker executes, and one that cannot be queued. -/
theorem exactly_once_created : ∃ log, (Adapter.fresh.after (createDisk 1048576 82 ++
    [.startIo (createDiskSrb 1048576 83) 0, .submission 0 false 0])).ExactlyOnce log := by
  obtain ⟨log, h⟩ := (reachable_after (by decide +kernel) :
    Reachable system anyAction (Adapter.fresh.after (createDisk 1048576 82 ++
      [.startIo (createDiskSrb 1048576 83) 0, .submission 0 false 0]))).logged srbEvents
  exact ⟨log, exactly_once _ log h⟩

end Adapter

end WispDisk
