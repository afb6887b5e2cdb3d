import WispDisk.Cli.Recovery

/-! Which errors `is_unresolved` sees through. A downcast reveals one value of a type, so of the
recovery failures stacked on one chain only the outermost has its cause examined; an outcome that
is unresolved in the cause of an inner one is masked. -/
namespace WispDisk.Cli
set_option autoImplicit false

namespace Error

/-- `UnresolvedOutcome` occurs in the chain or inside the cause of a recovery failure in it. -/
def Carries : Error → Prop
  | message _ => False
  | os _ _ => False
  | driverRejection _ => False
  | context _ source => source.Carries
  | unresolvedOutcome _ _ => True
  | recoveryFailure _ cause source => cause.Carries ∨ source.Carries

/-- The causes of the recovery failures in the chain, the outermost first. -/
def causes : Error → List Error
  | message _ => []
  | os _ _ => []
  | driverRejection _ => []
  | context _ source => source.causes
  | unresolvedOutcome _ source => source.causes
  | recoveryFailure _ cause source => cause :: source.causes

/-- Nothing is masked: the chain itself has the marker, or no cause carries one, or the outermost
cause carries one and masks nothing. -/
inductive Exposed : Error → Prop
  | primary {error : Error} (h : error.unresolved?.isSome = true) : Exposed error
  | absent {error : Error} (h : ∀ cause ∈ error.causes, ¬ cause.Carries) : Exposed error
  | outermost {error cause : Error} (h : error.causes.head? = some cause) (hcarries : cause.Carries)
      (hexposed : Exposed cause) : Exposed error

theorem carries_iff (error : Error) :
    error.Carries ↔ error.unresolved?.isSome = true ∨ ∃ cause ∈ error.causes, cause.Carries := by
  induction error with
  | message text => simp [Carries, unresolved?, causes]
  | os action code => simp [Carries, unresolved?, causes]
  | driverRejection status => simp [Carries, unresolved?, causes]
  | context text source ih => exact ih
  | unresolvedOutcome handle source ih =>
    constructor
    · exact fun _ => Or.inl rfl
    · exact fun _ => trivial
  | recoveryFailure action cause source ih₁ ih₂ =>
    rw [Carries, ih₂, unresolved?, causes]
    constructor
    · rintro (h | h | ⟨inner, hmem, h⟩)
      · exact Or.inr ⟨cause, List.mem_cons_self, h⟩
      · exact Or.inl h
      · exact Or.inr ⟨inner, List.mem_cons_of_mem _ hmem, h⟩
    · rintro (h | ⟨inner, hmem, h⟩)
      · exact Or.inr (Or.inl h)
      · rcases List.mem_cons.mp hmem with rfl | hmem
        · exact Or.inl h
        · exact Or.inr (Or.inr ⟨inner, hmem, h⟩)

/-- The downcast finds the outermost recovery failure. -/
theorem recovery?_cause (error : Error) :
    error.recovery?.map Prod.snd = error.causes.head? := by
  induction error with
  | message text => rfl
  | os action code => rfl
  | driverRejection status => rfl
  | context text source ih => exact ih
  | unresolvedOutcome handle source ih => exact ih
  | recoveryFailure action cause source ih₁ ih₂ => rfl

theorem isUnresolved_iff (error : Error) :
    error.isUnresolved = true ↔ error.unresolved?.isSome = true ∨
      ∃ cause, error.causes.head? = some cause ∧ cause.isUnresolved = true := by
  rw [isUnresolved, Bool.or_eq_true, ← recovery?_cause]
  apply or_congr_right
  split
  · rename_i hnone
    rw [hnone]
    constructor
    · exact fun h => Bool.noConfusion h
    · rintro ⟨cause, hcause, _⟩
      cases hcause
  · rename_i failure hsome
    rw [hsome]
    constructor
    · exact fun h => ⟨failure.2, rfl, h⟩
    · rintro ⟨cause, hcause, h⟩
      cases hcause
      exact h

theorem cause_lt {error cause : Error} (h : error.causes.head? = some cause) :
    sizeOf cause < sizeOf error := by
  rw [← recovery?_cause, Option.map_eq_some_iff] at h
  obtain ⟨failure, hfailure, rfl⟩ := h
  exact recovery?_lt hfailure

/-- What is reported as unresolved is. -/
theorem isUnresolved_carries (error : Error) (h : error.isUnresolved = true) : error.Carries := by
  rw [carries_iff]
  rcases (isUnresolved_iff error).mp h with h | ⟨cause, hcause, h⟩
  · exact Or.inl h
  · exact Or.inr ⟨cause, List.mem_of_mem_head? hcause, isUnresolved_carries cause h⟩
termination_by sizeOf error
decreasing_by exact cause_lt hcause

theorem Exposed.reported {error : Error} (h : error.Exposed) (hcarries : error.Carries) :
    error.isUnresolved = true := by
  induction h with
  | primary h => exact (isUnresolved_iff _).mpr (Or.inl h)
  | absent h =>
    rcases (carries_iff _).mp hcarries with hprimary | ⟨cause, hmem, hcause⟩
    · exact (isUnresolved_iff _).mpr (Or.inl hprimary)
    · exact absurd hcause (h cause hmem)
  | outermost h hcause hexposed ih =>
    exact (isUnresolved_iff _).mpr (Or.inr ⟨_, h, ih hcause⟩)

theorem isUnresolved_exposed (error : Error) (h : error.isUnresolved = true) : error.Exposed := by
  rcases (isUnresolved_iff error).mp h with h | ⟨cause, hcause, h⟩
  · exact Exposed.primary h
  · exact Exposed.outermost hcause (isUnresolved_carries cause h) (isUnresolved_exposed cause h)
termination_by sizeOf error
decreasing_by exact cause_lt hcause

end Error

theorem errorExitCode_iff (error : Error) :
    errorExitCode error = 3 ↔ error.isUnresolved = true := by
  unfold errorExitCode
  cases error.isUnresolved with
  | true => exact ⟨fun _ => rfl, fun _ => rfl⟩
  | false => exact ⟨fun h => absurd h (by decide), fun h => Bool.noConfusion h⟩

/-- The exit code tells an unresolved outcome exactly when the error exposes it. -/
theorem unresolved_reported_iff (error : Error) :
    ((error.isUnresolved = true ∧ errorExitCode error = 3) ↔ error.Carries) ↔ error.Exposed := by
  rw [errorExitCode_iff, and_self]
  constructor
  · intro h
    by_cases hcarries : error.Carries
    · exact Error.isUnresolved_exposed error (h.mpr hcarries)
    · apply Error.Exposed.absent
      intro cause hmem hcause
      exact hcarries ((Error.carries_iff error).mpr (Or.inr ⟨cause, hmem, hcause⟩))
  · intro h
    exact ⟨Error.isUnresolved_carries error, h.reported⟩

/-- A failed rollback with an unresolved outcome, on which another recovery failure is stacked. -/
def maskedError : Error :=
  recoveryFailed
    (recoveryFailed (.message "format failed") "driver rollback also failed"
      (.unresolvedOutcome { adapterInstance := 123, id := 7 }
        (.message "delete transport unavailable")))
    "unlock also failed" (.os "unlock restored volume" 6)

theorem maskedError_unreported :
    maskedError.Carries ∧ maskedError.isUnresolved = false ∧ errorExitCode maskedError = 1 := by
  have hcarries : maskedError.Carries := Or.inr (Or.inl trivial)
  have hunseen : maskedError.isUnresolved = false := by
    rw [Bool.eq_false_iff, ne_eq, Error.isUnresolved_iff]
    rintro (h | ⟨cause, hcause, h⟩)
    · cases h
    · cases hcause
      rw [Error.isUnresolved_iff] at h
      rcases h with h | ⟨inner, hinner, _⟩
      · cases h
      · cases hinner
  refine ⟨hcarries, hunseen, ?_⟩
  unfold errorExitCode
  rw [hunseen]
  rfl

end WispDisk.Cli
