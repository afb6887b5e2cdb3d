import WispDisk.Lifecycle.Whereabouts

/-! The loop of `DrainAndReleaseDisks`. It has no counter: it ends because a LUN that it has emptied
stays Empty, so no LUN is selected twice. -/
namespace WispDisk
open ManagementController SlotTable
set_option autoImplicit false

/-- The loop has ended. -/
def Closing.drainsDone : Closing → Bool
  | .releaseWorker | .invalidate | .done => true
  | _ => false

theorem Closing.allMarked_of_drainsDone {closing : Closing} (h : closing.drainsDone = true) :
    closing.allMarked = true := by
  cases closing <;> first | rfl | cases h

/-- The LUNs that the loop has selected. -/
structure DrainLoop (luns : Fin kMaximumDiskCount → Lun) (closing : Closing)
    (drained : List (Fin kMaximumDiskCount)) : Prop where
  nodup : drained.Nodup
  unstarted : closing.allMarked = false → drained = []
  emptied : ∀ l ∈ drained, (luns l).state = .empty ∨ ∃ p, draining none closing = some (l, p)
  finished : closing.drainsDone = true → ∀ l, (luns l).state = .empty

namespace DrainLoop

variable {luns luns' : Fin kMaximumDiskCount → Lun} {closing : Closing}
  {drained : List (Fin kMaximumDiskCount)}

/-- Before the loop nothing is claimed. -/
theorem early (h : DrainLoop luns closing drained) {closing' : Closing}
    (hbefore : closing.allMarked = false) (hafter : closing'.allMarked = false) :
    DrainLoop luns' closing' drained := by
  have hnil := h.unstarted hbefore
  subst hnil
  refine ⟨List.nodup_nil, fun _ => rfl, nofun, fun hdone => ?_⟩
  rw [Closing.allMarked_of_drainsDone hdone] at hafter
  cases hafter

/-- Empty LUNs stay Empty. -/
theorem same (h : DrainLoop luns closing drained)
    (hluns : ∀ l, (luns l).state = .empty → (luns' l).state = .empty) :
    DrainLoop luns' closing drained where
  nodup := h.nodup
  unstarted := h.unstarted
  emptied := fun l hl => (h.emptied l hl).imp_left (hluns l)
  finished := fun hdone l => hluns l (h.finished hdone l)

end DrainLoop

theorem Machine.DrainStep.empty {c c' : Machine} {d : Drain} {next : DrainStage}
    (h : DrainStep c d c' next) (l : Fin kMaximumDiskCount) (hl : (c.luns l).state = .empty) :
    (c'.luns l).state = .empty := by
  cases h with
  | waited | refused | freed => exact hl
  | detached k hstate =>
    rcases eq_or_ne l k with rfl | hlk
    · simp only [Function.update_self]
      exact hl
    · simp only [Function.update_of_ne hlk]
      exact hl

theorem Machine.DrainStep.sameDrained {c c' : Machine} {d : Drain} {next : DrainStage}
    (h : DrainStep c d c' next) : c'.drained = c.drained := by
  cases h <;> rfl

theorem DrainLoop.step {c c' : Machine} (h : DrainLoop c.luns c.closing c.drained)
    (hr : c.Removing) (hquiet : Quiet c.stopping c.task c.closing)
    (hs : c.Step Machine.beforeTeardown c') : DrainLoop c'.luns c'.closing c'.drained := by
  have hworker : c.task ≠ none → c.closing.allMarked = false := fun htask => by
    by_contra hmarked
    rw [Bool.not_eq_false] at hmarked
    exact htask (hquiet.idle (Closing.idleReached_of_allMarked hmarked))
  have hkeep : ∀ {k : Fin kMaximumDiskCount} {lun : Lun},
      ((c.luns k).state = .empty → lun.state = .empty) → ∀ l, (c.luns l).state = .empty →
        (Function.update c.luns k lun l).state = .empty := fun hk l =>
    relate_update (R := fun (x y : Lun) => x.state = .empty → y.state = .empty)
      (fun _ h => h) hk l
  cases hs with
  | committed command work l allocation htask =>
    have hmarked := hworker (by rw [htask]; exact Option.some_ne_none _)
    exact h.early hmarked hmarked
  | marked command work l htask =>
    have hmarked := hworker (by rw [htask]; exact Option.some_ne_none _)
    exact h.early hmarked hmarked
  | published command snapshot correlation status created i htask =>
    have hmarked := hworker (by rw [htask]; exact Option.some_ne_none _)
    exact h.early hmarked hmarked
  | workerDrained command work l stage next d htask hdrain =>
    have hmarked := hworker (by rw [htask]; exact Option.some_ne_none _)
    have hearly : DrainLoop d.luns c.closing c.drained := h.early hmarked hmarked
    rw [← hdrain.frame.2.1, ← hdrain.sameDrained] at hearly
    exact hearly
  | workerFinalized command work l htask =>
    have hmarked := hworker (by rw [htask]; exact Option.some_ne_none _)
    exact h.early hmarked hmarked
  | acquired l backing honline => exact h.same (hkeep fun hempty => hempty)
  | released i lease hlease =>
    exact h.same (hkeep fun hempty => (Lun.released_place _).state.trans hempty)
  | entered hclosing | admissionClosed hclosing | idle hclosing | idleLeft hclosing =>
    rw [hclosing] at h
    exact h.early rfl rfl
  | markedAll hclosing =>
    rw [hclosing] at h
    have hnil := h.unstarted rfl
    exact ⟨h.nodup, nofun, fun l hl => absurd hl (by rw [hnil]; exact List.not_mem_nil), nofun⟩
  | selectedStopping l hclosing hstate =>
    rw [hclosing] at h
    have hnew : l ∉ c.drained := fun hl => by
      rcases h.emptied l hl with hempty | ⟨p, hp⟩
      · rw [hempty] at hstate
        cases hstate
      · cases hp
    refine ⟨?_, nofun, fun k hk => ?_, nofun⟩
    · refine List.nodup_append.mpr ⟨h.nodup, List.nodup_singleton l, fun k hk m hm => ?_⟩
      rw [List.mem_singleton] at hm
      subst hm
      exact fun heq => hnew (heq ▸ hk)
    · rcases List.mem_append.mp hk with hold | hnew
      · rcases h.emptied k hold with hempty | ⟨p, hp⟩
        · exact Or.inl hempty
        · cases hp
      · rw [List.mem_singleton] at hnew
        subst hnew
        exact Or.inr ⟨.chosen, rfl⟩
  | noneStopping hclosing hnone =>
    rw [hclosing] at h
    have hlate : ∀ l, (c.luns l).state ≠ .online := hr.late (by rw [hclosing]; rfl)
    have hempty : ∀ l, (c.luns l).state = .empty := fun l => by
      cases hstate : (c.luns l).state with
      | empty => rfl
      | online => exact absurd hstate (hlate l)
      | stopping => exact absurd hstate (hnone l)
    exact ⟨h.nodup, nofun, fun l _ => Or.inl (hempty l), fun _ => hempty⟩
  | targetRead l hclosing =>
    rw [hclosing] at h
    refine ⟨h.nodup, nofun, fun k hk => (h.emptied k hk).imp_right ?_, nofun⟩
    rintro ⟨p, hp⟩
    cases hp
    exact ⟨_, rfl⟩
  | teardownDrained l stage next d hclosing hdrain =>
    rw [hclosing] at h
    have hlog := hdrain.sameDrained
    refine ⟨hlog ▸ h.nodup, nofun, fun k hk => ?_, nofun⟩
    rcases h.emptied k (hlog ▸ hk) with hempty | ⟨p, hp⟩
    · exact Or.inl (hdrain.empty k hempty)
    · cases hp
      exact Or.inr ⟨_, rfl⟩
  | removedRead l hclosing =>
    rw [hclosing] at h
    refine ⟨h.nodup, nofun, fun k hk => (h.emptied k hk).imp_right ?_, nofun⟩
    rintro ⟨p, hp⟩
    cases hp
    exact ⟨_, rfl⟩
  | teardownFinalized l deviceId hclosing =>
    rw [hclosing] at h
    refine ⟨h.nodup, nofun, fun k hk => Or.inl ?_, nofun⟩
    change (Function.update c.luns l (LunStore.removedLun (c.luns l)) k).state = .empty
    rcases h.emptied k hk with hempty | ⟨p, hp⟩
    · exact hkeep (fun _ => rfl) k hempty
    · cases hp
      rw [Function.update_self]
      rfl
  | workerReleased hclosing | invalidated hclosing =>
    rw [hclosing] at h
    exact ⟨h.nodup, nofun, fun l _ => Or.inl (h.finished rfl l), fun _ => h.finished rfl⟩
  | reserved | admittedLegacy | admittedReserved | queueFailed | rejected | startedLegacy | missing
  | startedReserved | notSelected | selected | notAllocated | allocated | notCommitted | freed
  | notMarked | answered | ended | stopped | restarted => exact h

theorem DrainLoop.reachable {c : Machine} (h : c.Reachable Machine.beforeTeardown) :
    DrainLoop c.luns c.closing c.drained := by
  obtain ⟨adapterInstance, hrun⟩ := h
  induction hrun with
  | refl => exact ⟨List.nodup_nil, fun _ => rfl, nofun, nofun⟩
  | tail hrun hs ih =>
    exact ih.step (Machine.Removing.reachable ⟨_, hrun⟩) (Quiet.reachable ⟨_, hrun⟩) hs

/-- The loop performs at most one iteration for each LUN. -/
theorem DrainLoop.length_le {luns : Fin kMaximumDiskCount → Lun} {closing : Closing}
    {drained : List (Fin kMaximumDiskCount)} (h : DrainLoop luns closing drained) :
    drained.length ≤ kMaximumDiskCount := by
  have hle := h.nodup.length_le_card
  rwa [Fintype.card_fin] at hle

/-! ## Teardown goes forward -/

namespace Machine

variable {restartable : Machine → Prop} {c c' : Machine}

theorem Step.closing_forward (hs : c.Step restartable c') :
    (c.closing.admissionClosed = true → c'.closing.admissionClosed = true) ∧
      (c.closing.idleReached = true → c'.closing.idleReached = true) := by
  cases hs with
  | entered hclosing =>
    rw [hclosing]
    exact ⟨nofun, nofun⟩
  | admissionClosed hclosing =>
    rw [hclosing]
    exact ⟨nofun, nofun⟩
  | workerDrained command work l stage next d htask hdrain =>
    change (_ → d.closing.admissionClosed = true) ∧ (_ → d.closing.idleReached = true)
    rw [hdrain.frame.2.1]
    exact ⟨fun h => h, fun h => h⟩
  | idle | idleLeft | markedAll | selectedStopping | noneStopping | targetRead | teardownDrained
  | removedRead | teardownFinalized | workerReleased | invalidated =>
    exact ⟨fun _ => rfl, fun _ => rfl⟩
  | _ => exact ⟨fun h => h, fun h => h⟩

end Machine

end WispDisk
