import WispDisk.Driver.ManagementController

/-! The slot search of `ReserveOperation`: it takes the first blank slot, and with no blank slot
left the record with the smallest ID among those that are not pinned. -/
namespace WispDisk.ManagementController
set_option autoImplicit false

variable {n : ℕ} {operations : Fin n → OperationRecord}

/-- The search from a slot `selected` found so far. -/
theorem selectSlot_some {rest : List (Fin n)} {selected : Option (Fin n)} {i : Fin n}
    (h : selectSlot operations rest selected = some i) :
    (operations i).id = 0 ∨
      ((∀ j ∈ rest, (operations j).id ≠ 0) ∧
        (selected = some i ∨ pinned (operations i) = false) ∧
        (∀ j ∈ rest, pinned (operations j) = false → (operations i).id ≤ (operations j).id) ∧
        ∀ b, selected = some b → (operations i).id ≤ (operations b).id) := by
  induction rest generalizing selected with
  | nil =>
    simp only [selectSlot] at h
    subst h
    refine Or.inr ⟨by simp, Or.inl rfl, by simp, fun b hb => ?_⟩
    cases hb
    exact UInt64.le_refl _
  | cons candidate rest ih =>
    simp only [selectSlot] at h
    by_cases hzero : (operations candidate).id = 0
    · rw [if_pos hzero] at h
      cases h
      exact Or.inl hzero
    · rw [if_neg hzero] at h
      cases hpinned : pinned (operations candidate) with
      | true =>
        rw [hpinned, if_pos rfl] at h
        rcases ih h with hblank | ⟨hused, hfrom, hmin, hbest⟩
        · exact Or.inl hblank
        · refine Or.inr ⟨List.forall_mem_cons.mpr ⟨hzero, hused⟩, hfrom,
            List.forall_mem_cons.mpr ⟨fun hfree => ?_, hmin⟩, hbest⟩
          rw [hpinned] at hfree
          cases hfree
      | false =>
        rw [hpinned, if_neg (by decide)] at h
        -- the candidate that goes on is the smaller of the two
        have hnext : ∀ b, selectSlot operations rest (some b) = some i →
            (b = candidate ∨ selected = some b) →
            (operations b).id ≤ (operations candidate).id →
            (∀ d, selected = some d → (operations b).id ≤ (operations d).id) →
            (operations i).id = 0 ∨
              ((∀ j ∈ candidate :: rest, (operations j).id ≠ 0) ∧
                (selected = some i ∨ pinned (operations i) = false) ∧
                (∀ j ∈ candidate :: rest, pinned (operations j) = false →
                  (operations i).id ≤ (operations j).id) ∧
                ∀ d, selected = some d → (operations i).id ≤ (operations d).id) := by
          intro b hb hfrom hcandidate hselected
          rcases ih hb with hblank | ⟨hused, hfrom', hmin, hbest⟩
          · exact Or.inl hblank
          · have hib : (operations i).id ≤ (operations b).id := hbest b rfl
            refine Or.inr ⟨List.forall_mem_cons.mpr ⟨hzero, hused⟩, ?_,
              List.forall_mem_cons.mpr ⟨fun _ => UInt64.le_trans hib hcandidate, hmin⟩,
              fun d hd => UInt64.le_trans hib (hselected d hd)⟩
            rcases hfrom' with heq | hfree
            · cases heq
              rcases hfrom with heq | heq
              · rw [heq]
                exact Or.inr hpinned
              · exact Or.inl heq
            · exact Or.inr hfree
        cases selected with
        | none => exact hnext candidate h (Or.inl rfl) (UInt64.le_refl _) (by simp)
        | some best =>
          simp only at h
          by_cases hlt : (operations candidate).id < (operations best).id
          · rw [if_pos hlt] at h
            refine hnext candidate h (Or.inl rfl) (UInt64.le_refl _) fun d hd => ?_
            cases hd
            exact UInt64.le_of_lt hlt
          · rw [if_neg hlt] at h
            refine hnext best h (Or.inr rfl) (UInt64.not_lt.mp hlt) fun d hd => ?_
            cases hd
            exact UInt64.le_refl _

theorem selectSlot_none {rest : List (Fin n)} {selected : Option (Fin n)}
    (h : selectSlot operations rest selected = none) :
    selected = none ∧ ∀ j ∈ rest, pinned (operations j) = true := by
  induction rest generalizing selected with
  | nil => exact ⟨h, by simp⟩
  | cons candidate rest ih =>
    simp only [selectSlot] at h
    by_cases hzero : (operations candidate).id = 0
    · rw [if_pos hzero] at h
      cases h
    · rw [if_neg hzero] at h
      cases hpinned : pinned (operations candidate) with
      | true =>
        rw [hpinned, if_pos rfl] at h
        exact ⟨(ih h).1, List.forall_mem_cons.mpr ⟨hpinned, (ih h).2⟩⟩
      | false =>
        rw [hpinned, if_neg (by decide)] at h
        cases selected with
        | none => exact nomatch (ih h).1
        | some best =>
          simp only at h
          split at h <;> exact nomatch (ih h).1

theorem mem_recordIndices (i : Fin kMaximumOperationCount) : i ∈ recordIndices :=
  List.mem_finRange i

/-- What the whole search selects. -/
theorem selectSlot_evicts {operations : Fin kMaximumOperationCount → OperationRecord}
    {i : Fin kMaximumOperationCount}
    (h : selectSlot operations recordIndices none = some i) :
    (operations i).id = 0 ∨
      ((∀ j, (operations j).id ≠ 0) ∧ pinned (operations i) = false ∧
        ∀ j, pinned (operations j) = false → (operations i).id ≤ (operations j).id) := by
  rcases selectSlot_some h with hzero | ⟨hused, hfree, hmin, _⟩
  · exact Or.inl hzero
  · exact Or.inr ⟨fun j => hused j (mem_recordIndices j), hfree.resolve_left nofun,
      fun j => hmin j (mem_recordIndices j)⟩

/-- The search fails only when every record is pinned. -/
theorem selectSlot_full {operations : Fin kMaximumOperationCount → OperationRecord}
    (h : selectSlot operations recordIndices none = none) (j : Fin kMaximumOperationCount) :
    pinned (operations j) = true :=
  (selectSlot_none h).2 j (mem_recordIndices j)

theorem pinned_of_pending {record : OperationRecord} (h : record.state = .pending) :
    pinned record = true := by
  simp [pinned, h]

end WispDisk.ManagementController
