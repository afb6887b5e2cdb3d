import WispDisk.Guarantees.Schedules
import WispDisk.Lifecycle.Progress

/-! The single-flight management gate: `ManagementBusy` stands for the one admitted submission that
has not ended, records are pending and LUNs stopping for it alone, and it always ends. -/
namespace WispDisk
open Transition
set_option autoImplicit false

namespace Adapter

/-- The gate and what may be unfinished while it is closed. `history.admitted` logs the SRBs that
`BeginManagementLocked` let through to the worker, `history.ended` those that ran
`EndManagementLocked`. -/
structure SingleFlight (a : Adapter) : Prop where
  busy : a.extension.managementBusy = true ↔ ∃ id, a.history.admitted = a.history.ended ++ [id]
  idle : a.extension.managementBusy = false ↔ a.history.admitted = a.history.ended
  event : a.extension.managementIdleEvent = true ↔ a.extension.managementBusy = false
  onePending : ∀ i j, (a.extension.operations i).state = .pending →
    (a.extension.operations j).state = .pending → i = j
  settled : a.extension.managementBusy = false → ∀ i, (a.extension.operations i).state ≠ .pending
  removed : a.extension.managementBusy = false → a.teardown = .notStarted →
    ∀ l, (a.extension.luns l).state ≠ .stopping
  endedOnce : a.history.ended.Nodup
  /-- A step of a submission brings it closer to its end, and only a live lease holds it up. -/
  progress : ∀ s ∈ a.submissions, ∀ granted now,
    (∃ b next, a.advance s granted now = some (b, next) ∧
        (∀ s', next = some s' → s'.phase.remaining < s.phase.remaining) ∧
        (next = none → b.history.ended = a.history.ended ++ [s.id])) ∨
      ∃ c ∈ a.commands, ∃ work, s.phase = .waitForLunIo work c.lun
  /-- The adapter's own threads end what is in flight. -/
  recovers : ∃ b, Steps system ownThreads a b ∧ b.extension.managementBusy = false ∧
    b.history.ended = a.history.admitted ∧ ∀ i, (b.extension.operations i).state ≠ .pending

namespace Gate

variable {a : Adapter}

theorem busy_iff (h : a.Gate) :
    a.extension.managementBusy = true ↔ ∃ id, a.history.admitted = a.history.ended ++ [id] := by
  have hlogged := h.logged
  rw [h.busy]
  cases hs : a.submissions with
  | nil =>
    rw [hs, List.map_nil, List.append_nil] at hlogged
    simp [hlogged]
  | cons s rest =>
    have hrest : rest = [] := by
      have hsingle := h.single
      rw [hs, List.length_cons] at hsingle
      exact List.eq_nil_of_length_eq_zero (by omega)
    rw [hs, hrest, List.map_singleton] at hlogged
    exact ⟨fun _ => ⟨s.id, hlogged⟩, fun _ => rfl⟩

theorem idle_iff (h : a.Gate) :
    a.extension.managementBusy = false ↔ a.history.admitted = a.history.ended := by
  have hbusy := h.busy_iff
  constructor
  · intro hidle
    have hlogged := h.logged
    rwa [h.none_in_flight hidle, List.map_nil, List.append_nil] at hlogged
  · intro hsame
    rw [← Bool.not_eq_true, hbusy]
    rintro ⟨id, hid⟩
    have hlength := congrArg List.length (hsame.symm.trans hid)
    rw [List.length_append, List.length_singleton] at hlength
    omega

end Gate

theorem task_idle {a : Adapter} (h : a.Gate) (hidle : a.extension.managementBusy = false) :
    a.machine.task = none := by
  rw [machine_idle (h.none_in_flight hidle)]
  rfl

/-- No record is pending while no submission is in flight. -/
theorem settled_of_idle {C : Contract Adapter Action} {a : Adapter} (h : Reachable system C a)
    (hidle : a.extension.managementBusy = false) (i : Fin kMaximumOperationCount) :
    (a.extension.operations i).state ≠ .pending := fun hpending => by
  have hrecords := Records.reachable (reachable_anywhere h)
  obtain ⟨command, stage, htask, _⟩ := hrecords.pending i hpending
  rw [task_idle (Gate.reachable h) hidle] at htask
  cases htask

/-- No removal is under way while no submission is in flight and teardown has not begun. -/
theorem removed_of_idle {C : Contract Adapter Action} {a : Adapter} (h : Reachable system C a)
    (hidle : a.extension.managementBusy = false) (hteardown : a.teardown = .notStarted)
    (l : Fin kMaximumDiskCount) : (a.extension.luns l).state ≠ .stopping := fun hstopping => by
  have hremoving :=
    Machine.Removing.reachable (reachable_beforeTeardown (reachable_notStarted h hteardown))
  have hclosing : a.machine.closing = .notStarted := by
    unfold machine machineWith
    simp only [hteardown, Teardown.closing]
  unfold Machine.Removing at hremoving
  rw [hclosing, task_idle (Gate.reachable h) hidle] at hremoving
  obtain ⟨p, hp⟩ := hremoving.early rfl l hstopping
  cases hp

theorem advance_progress {C : Contract Adapter Action} {a : Adapter} (h : Reachable system C a)
    (s : Submission) (granted : Bool) (now : LONGLONG) :
    (∃ b next, a.advance s granted now = some (b, next) ∧
        (∀ s', next = some s' → s'.phase.remaining < s.phase.remaining) ∧
        (next = none → b.history.ended = a.history.ended ++ [s.id])) ∨
      ∃ c ∈ a.commands, ∃ work, s.phase = .waitForLunIo work c.lun := by
  cases hadvance : a.advance s granted now with
  | some result =>
    obtain ⟨b, next⟩ := result
    refine Or.inl ⟨b, next, rfl, fun s' hs' => ?_, fun hnone => ?_⟩
    · subst hs'
      exact advance_remaining hadvance
    · exact ((advance_advanced hadvance).finished hnone).2.2
  | none =>
    obtain ⟨work, l, hphase, hevent⟩ := advance_blocked hadvance
    obtain ⟨c, hc, hlun⟩ := exists_command h hevent
    subst hlun
    exact Or.inr ⟨c, hc, work, hphase⟩

theorem recovers {a : Adapter} (h : Reachable system anyAction a) :
    ∃ b, Steps system ownThreads a b ∧ b.extension.managementBusy = false ∧
      b.history.ended = a.history.admitted ∧
        ∀ i, (b.extension.operations i).state ≠ .pending := by
  have hgate := Gate.reachable h
  cases hbusy : a.extension.managementBusy with
  | false =>
    exact ⟨a, Steps.refl a, hbusy, (hgate.idle_iff.mp hbusy).symm, settled_of_idle h hbusy⟩
  | true =>
    have hsubmissions : ∃ s, a.submissions = [s] := by
      cases hs : a.submissions with
      | nil =>
        have hfield := hgate.busy
        rw [hbusy, hs] at hfield
        cases hfield
      | cons s rest =>
        have hget : a.submissions[0]? = some s := by rw [hs]; rfl
        rw [← hs]
        exact ⟨s, (hgate.only hget).2⟩
    obtain ⟨s, hs⟩ := hsubmissions
    obtain ⟨b, hpath, hnone, hsame⟩ := submission_ends h hs
    have hb : Reachable system anyAction b := h.path (hpath.mono fun _ _ _ => trivial)
    have hbgate := Gate.reachable hb
    have hidle : b.extension.managementBusy = false := by
      rw [hbgate.busy, hnone]
      rfl
    exact ⟨b, hpath, hidle, ((hbgate.idle_iff.mp hidle).symm.trans hsame), settled_of_idle hb hidle⟩

/-- The management gate in every state that any interleaving reaches. -/
theorem management_gate (a : Adapter) (h : Reachable system anyAction a) : a.SingleFlight := by
  have hgate := Gate.reachable h
  have hrecords := Records.reachable (reachable_anywhere h)
  refine ⟨hgate.busy_iff, hgate.idle_iff, ?_, fun i j hi hj => ?_, settled_of_idle h,
    removed_of_idle h, ?_, fun s _ => advance_progress h s, recovers h⟩
  · rw [hgate.idle]
    simp
  · exact hrecords.pending_unique hi hj
  · have hdistinct := hgate.distinct
    rw [hgate.logged] at hdistinct
    exact (List.nodup_append.mp hdistinct).1

/-- While the worker is between `CommitNewLun` and its answer. -/
theorem management_gate_creating :
    (fresh.after (.startIo (createDiskSrb 1048576 82) 0 :: serve 7)).SingleFlight :=
  management_gate _ (reachable_after (by decide +kernel))

end Adapter

end WispDisk
