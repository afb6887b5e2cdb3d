import WispDisk.Driver.ControlDispatch
import WispDisk.Foundations.RingLog

/-! What the diagnostics of a Debug build stand for. A journal keeps every event that has been
traced and every fault that has been injected; the ring, the wrapping sequence number and the
counter of remaining faults show as much of it as their widths allow. -/
namespace WispDisk
open Layout
set_option autoImplicit false

/-! ## The journal -/

/-- The modes that inject a fault. -/
def Mode.injects (mode : Mode) : Bool := mode != .disabled && mode != .traceOnly

structure Journal where
  /-- The traced events, oldest first. -/
  entries : List TraceEntry := []
  /-- The accepted configuration, and how many of its faults are left. -/
  mode : Mode := .disabled
  remaining : ℕ := 0
  /-- The SRBs that a fault was injected into, with its mode. -/
  faults : List (ℕ × Mode) := []
  configurations : ℕ := 0

/-- The entry that an event leaves in the trace. -/
def Diagnostics.TraceEvent.entry (e : Diagnostics.TraceEvent) (sequence : ULONGLONG)
    (now : LONGLONG) : TraceEntry where
  sequence := sequence
  operationId := e.operation
  timestamp := now
  deviceId := e.device
  phase := e.phase.code
  status := e.status
  srbStatus := e.srbStatus

namespace Journal

/-- The number of the next event. -/
def nextSequence (j : Journal) : ULONGLONG := UInt64.ofNat (j.entries.length + 1)

/-- One change of the journal: an event while tracing is on, a fault while there is one left, or a
configuration. -/
inductive Step (j : Journal) : Journal → Prop
  | recorded (e : Diagnostics.TraceEvent) (now : LONGLONG) (hmode : j.mode ≠ .disabled) :
      Step j { j with entries := j.entries ++ [e.entry j.nextSequence now] }
  | faulted (id : ℕ) (hremaining : 0 < j.remaining) :
      Step j { j with
        remaining := j.remaining - 1
        faults := j.faults ++ [(id, j.mode)] }
  | configured (mode : Mode) (count : ℕ) (hcount : count ≤ 1000) :
      Step j { j with
        mode := mode
        remaining := if mode.injects then count else 0
        configurations := j.configurations + 1 }

/-- The journals that a new adapter comes to. -/
def Reachable (j : Journal) : Prop := Relation.ReflTransGen Step {} j

/-- Entries carry consecutive numbers, faults come of an injecting configuration, and each
configuration pays for a thousand of them at most. -/
structure Consistent (j : Journal) : Prop where
  numbered : ∀ k e, j.entries[k]? = some e → e.sequence = UInt64.ofNat (k + 1)
  remaining : 0 < j.remaining → j.mode.injects = true
  faults : ∀ fault ∈ j.faults, fault.2.injects = true
  budget : j.faults.length + j.remaining ≤ 1000 * j.configurations

theorem Step.consistent {j j' : Journal} (hs : Step j j') (h : Consistent j) : Consistent j' := by
  cases hs with
  | recorded e now hmode =>
    refine ⟨fun k entry hentry => ?_, h.remaining, h.faults, h.budget⟩
    by_cases hk : k < j.entries.length
    · exact h.numbered k entry (by rwa [List.getElem?_append_left hk] at hentry)
    · have hlt := (List.getElem?_eq_some_iff.mp hentry).1
      rw [List.length_append, List.length_singleton] at hlt
      have hlast : k = j.entries.length := by omega
      rw [hlast, List.getElem?_concat_length] at hentry
      rw [hlast, ← Option.some.inj hentry]
      rfl
  | faulted id hremaining =>
    refine ⟨h.numbered, fun _ => h.remaining hremaining, ?_, ?_⟩
    · rw [List.forall_mem_append]
      refine ⟨h.faults, fun fault hfault => ?_⟩
      rw [List.mem_singleton.mp hfault]
      exact h.remaining hremaining
    · have hbudget := h.budget
      simp only [List.length_append, List.length_singleton]
      omega
  | configured mode count hcount =>
    have hbudget := h.budget
    refine ⟨h.numbered, fun hremaining => ?_, h.faults, ?_⟩
    · by_contra hinjects
      simp only [if_neg hinjects, Nat.lt_irrefl] at hremaining
    · simp only
      split <;> omega

theorem Reachable.consistent {j : Journal} (h : Reachable j) : Consistent j := by
  induction h with
  | refl =>
    refine ⟨fun k e he => ?_, fun hremaining => ?_, fun fault hfault => ?_, Nat.le_refl 0⟩
    · cases he
    · cases hremaining
    · cases hfault
  | tail _ hs ih => exact hs.consistent ih

/-- What has been written stays. -/
theorem extends_of_steps {j j' : Journal} (h : Relation.ReflTransGen Step j j') :
    j.entries <+: j'.entries ∧ j.faults <+: j'.faults := by
  induction h with
  | refl => exact ⟨List.prefix_refl _, List.prefix_refl _⟩
  | tail _ hs ih =>
    cases hs with
    | recorded => exact ⟨ih.1.trans (List.prefix_append _ _), ih.2⟩
    | faulted => exact ⟨ih.1, ih.2.trans (List.prefix_append _ _)⟩
    | configured => exact ih

end Journal

/-! ## What a Debug extension shows of it -/

namespace DebugState

structure Shows (d : DebugState) (j : Journal) : Prop where
  enabled : d.traceEnabled = (j.mode != .disabled)
  mode : d.faultMode = j.mode
  remaining : d.faultRemaining.toNat = j.remaining
  sequence : d.traceSequence = UInt64.ofNat j.entries.length
  ring : RingLog.Holds d.trace j.entries

variable {d : DebugState} {j : Journal}

theorem shows_initial : Shows {} {} := ⟨rfl, rfl, rfl, rfl, RingLog.Holds.empty _⟩

theorem Shows.record (h : Shows d j) (e : Diagnostics.TraceEvent) (now : LONGLONG) :
    ∃ j', Relation.ReflGen Journal.Step j j' ∧ j'.faults = j.faults ∧
      Shows (Diagnostics.record d e now) j' := by
  by_cases hmode : j.mode = .disabled
  · have hoff : d.traceEnabled = false := by rw [h.enabled, hmode]; rfl
    refine ⟨j, .refl, rfl, ?_⟩
    unfold Diagnostics.record
    rw [hoff]
    exact h
  · have hon : d.traceEnabled = true := by
      rw [h.enabled]
      exact bne_iff_ne.mpr hmode
    refine ⟨_, .single (.recorded e now hmode), rfl, ?_⟩
    have hnext : d.traceSequence + 1 = j.nextSequence := by
      rw [h.sequence]
      exact (UInt64.ofNat_add _ _).symm
    have hslot : Fin.ofNat traceEntryCount (d.traceSequence + 1 - 1).toNat =
        Fin.ofNat traceEntryCount j.entries.length := by
      rw [UInt64.add_sub_cancel, h.sequence, UInt64.toNat_ofNat']
      exact RingLog.slot_mod (by decide) _
    have hring : RingLog.Holds (Function.update d.trace
        (Fin.ofNat traceEntryCount (d.traceSequence + 1 - 1).toNat)
        (e.entry (d.traceSequence + 1) now)) (j.entries ++ [e.entry j.nextSequence now]) := by
      rw [hslot, hnext]
      exact h.ring.push _
    unfold Diagnostics.record
    rw [if_pos hon]
    refine ⟨h.enabled, h.mode, h.remaining, ?_, hring⟩
    rw [List.length_append]
    exact hnext

/-- A fault is taken from the journal's remaining ones, or there is none. -/
theorem Shows.takeFault (h : Shows d j) (id : ℕ) :
    (Diagnostics.injectedFault (some d) = .disabled ∧ Diagnostics.consumeFault d = d) ∨
      ∃ j', Journal.Step j j' ∧ Shows (Diagnostics.consumeFault d) j' ∧
        j'.faults = j.faults ++ [(id, Diagnostics.injectedFault (some d))] := by
  unfold Diagnostics.injectedFault Diagnostics.consumeFault
  by_cases hnone : d.faultRemaining = 0
  · left
    simp [hnone]
  · right
    have hpos : 0 < d.faultRemaining.toNat := by
      apply Nat.pos_of_ne_zero
      intro hzero
      exact hnone (UInt32.toNat.inj hzero)
    rw [if_pos hnone]
    simp only [if_pos hnone]
    refine ⟨_, .faulted id (h.remaining ▸ hpos), ⟨h.enabled, h.mode, ?_, h.sequence, h.ring⟩, ?_⟩
    · have hle : (1 : ULONG) ≤ d.faultRemaining := UInt32.le_iff_toNat_le.mpr hpos
      rw [UInt32.toNat_sub_of_le _ _ hle, h.remaining]
      rfl
    · rw [h.mode]

/-- The configuration that `Configure` accepts. -/
def configured (d : DebugState) (mode : Mode) (count : ULONG) : DebugState :=
  { d with
    traceEnabled := mode != .disabled
    faultMode := mode
    faultRemaining := if mode ≠ .disabled ∧ mode ≠ .traceOnly then count else 0 }

theorem Shows.configure (h : Shows d j) (mode : Mode) {count : ULONG}
    (hcount : ¬ Diagnostics.kMaximumFaultCount < count) :
    ∃ j', Journal.Step j j' ∧ j'.faults = j.faults ∧ Shows (d.configured mode count) j' := by
  have hle : count.toNat ≤ 1000 := Nat.not_lt.mp hcount
  refine ⟨_, .configured mode count.toNat hle, rfl, rfl, rfl, ?_, h.sequence, h.ring⟩
  cases mode <;> rfl

end DebugState

end WispDisk
