import WispDisk.Guarantees.Schedules
import WispDisk.Lifecycle.Backing
import WispDisk.Lifecycle.Completions

/-! LUN references of SCSI SRBs. The lease of `WispDiskHandleExecuteScsi` ends when the handler
returns, before `StartIo` completes the SRB, so a reference covers an SRB only until then. -/
namespace WispDisk
open Transition
set_option autoImplicit false

namespace Adapter

def completedTimes (log : List SrbEvent) (id : ℕ) : ℕ :=
  completedBy log .startIo id + completedBy log .worker id

/-- The SRBs that have acquired a lease on a LUN and are not completed. -/
def uncompleted (a : Adapter) (log : List SrbEvent) (l : Fin kMaximumDiskCount) : Finset ℕ :=
  (Finset.range a.nextSrb).filter fun id => .leased id l ∈ log ∧ completedTimes log id = 0

/-- References are held until completion. -/
structure HeldUntilCompletion (a : Adapter) (log : List SrbEvent) : Prop where
  /-- `ActiveRequests` counts a reference for every SRB that waits for its completion. -/
  counted : ∀ l, (a.uncompleted log l).card ≤ (a.extension.luns l).activeRequests.toNat
  /-- Every SRB that had a lease on an emptied LUN is completed. -/
  emptied : ∀ l, (a.extension.luns l).state = .empty → ∀ id, .leased id l ∈ log →
    0 < completedTimes log id

/-! ## Leased SRBs -/

/-- Where the SRBs are that have acquired a lease. -/
structure LeaseLog (a : Adapter) (log : List SrbEvent) : Prop where
  commands : ∀ c ∈ a.commands, .leased c.id c.lun ∈ log
  passed : ∀ id l, .leased id l ∈ log → id < a.nextSrb
  held : ∀ id l, .leased id l ∈ log → completedTimes log id = 0 →
    (∃ c ∈ a.commands, c.id = id ∧ c.lun = l) ∨ ∃ r ∈ a.returned, r.id = id

theorem completedTimes_append (log more : List SrbEvent) (id : ℕ) :
    completedTimes (log ++ more) id = completedTimes log id + completedTimes more id := by
  simp only [completedTimes, completedBy_append]
  omega

/-- A step leases what `StartIo` has added to the commands. -/
theorem leased_mem {a b : Adapter} {action : Action} {id : ℕ} {l : Fin kMaximumDiskCount}
    (h : .leased id l ∈ srbEvents a action b) :
    (∃ srb now, action = .startIo srb now) ∧
      ∃ c ∈ b.commands.drop a.commands.length, c.id = id ∧ c.lun = l := by
  rcases List.mem_append.mp h with h | h
  · cases action with
    | startIo srb now =>
      obtain ⟨c, hc, heq⟩ := List.mem_map.mp h
      cases heq
      exact ⟨⟨srb, now, rfl⟩, c, hc, rfl, rfl⟩
    | submission i granted now =>
      simp only at h
      split at h
      · split at h
        · split at h
          · cases List.mem_singleton.mp h
          · cases h
        · cases h
      · cases h
    | command | completeRequest | setStopping | teardown => cases h
  · obtain ⟨completion, _, heq⟩ := List.mem_map.mp h
    cases heq

namespace LeaseLog

variable {a b : Adapter} {log more : List SrbEvent}

/-- A step that leases nothing and moves the leased SRBs on. -/
theorem moved (h : a.LeaseLog log) (hmore : ∀ id l, .leased id l ∉ more)
    (hnext : a.nextSrb ≤ b.nextSrb)
    (hcommands : ∀ c ∈ b.commands, ∃ c' ∈ a.commands, c'.id = c.id ∧ c'.lun = c.lun)
    (hheld : ∀ c ∈ a.commands, (∃ c' ∈ b.commands, c'.id = c.id ∧ c'.lun = c.lun) ∨
      ∃ r ∈ b.returned, r.id = c.id)
    (hreturned : ∀ r ∈ a.returned, r ∈ b.returned ∨ 0 < completedTimes more r.id) :
    b.LeaseLog (log ++ more) := by
  have hold : ∀ id l, .leased id l ∈ log ++ more → .leased id l ∈ log := fun id l hmem =>
    (List.mem_append.mp hmem).resolve_right (hmore id l)
  refine ⟨fun c hc => ?_, fun id l hmem => (h.passed id l (hold id l hmem)).trans_le hnext,
    fun id l hmem hzero => ?_⟩
  · obtain ⟨c', hc', hid, hlun⟩ := hcommands c hc
    rw [← hid, ← hlun]
    exact List.mem_append_left more (h.commands c' hc')
  · rw [completedTimes_append] at hzero
    rcases h.held id l (hold id l hmem) (by omega) with ⟨c, hc, rfl, rfl⟩ | ⟨r, hr, rfl⟩
    · exact hheld c hc
    · rcases hreturned r hr with hr' | hpos
      · exact Or.inr ⟨r, hr', rfl⟩
      · omega

theorem startIo (h : a.LeaseLog log) (srb : ScsiRequestBlock) (now : LONGLONG) :
    (a.startIo srb now).LeaseLog (log ++ srbEvents a (.startIo srb now) (a.startIo srb now)) := by
  have hstarted := startIo_started a srb now
  generalize a.startIo srb now = b at hstarted ⊢
  have hquiet : b.commands = a.commands → b.nextSrb = a.nextSrb + 1 →
      (∀ r ∈ a.returned, r ∈ b.returned) →
        b.LeaseLog (log ++ srbEvents a (.startIo srb now) b) := by
    intro hcommands hnext hreturned
    refine h.moved (fun id l hmem => ?_) (by omega) (fun c hc => ⟨c, hcommands ▸ hc, rfl, rfl⟩)
      (fun c hc => Or.inl ⟨c, hcommands ▸ hc, rfl, rfl⟩) (fun r hr => Or.inl (hreturned r hr))
    obtain ⟨_, c, hc, _⟩ := leased_mem hmem
    rw [hcommands, List.drop_length] at hc
    exact List.not_mem_nil hc
  cases hstarted with
  | kept | answered => exact hquiet rfl rfl fun r hr => List.mem_append_left _ hr
  | admitted => exact hquiet rfl rfl fun r hr => hr
  | leased srb' ext l view hacquire =>
    have hevents : srbEvents a (.startIo srb now) { a with
        nextSrb := a.nextSrb + 1
        extension := ext
        commands := a.commands ++ [{ id := a.nextSrb, srb := srb', lun := l, view := view }] } =
        [.leased a.nextSrb l] := by
      simp [srbEvents]
    rw [hevents]
    refine ⟨fun c hc => ?_, fun id l' hmem => ?_, fun id l' hmem hzero => ?_⟩
    · rcases List.mem_append.mp hc with hc | hc
      · exact List.mem_append_left _ (h.commands c hc)
      · rw [List.mem_singleton.mp hc]
        exact List.mem_append_right _ (List.mem_singleton_self _)
    · rcases List.mem_append.mp hmem with hmem | hmem
      · exact Nat.lt_succ_of_lt (h.passed id l' hmem)
      · cases List.mem_singleton.mp hmem
        exact Nat.lt_succ_self _
    · rw [completedTimes_append] at hzero
      rcases List.mem_append.mp hmem with hmem | hmem
      · rcases h.held id l' hmem (by omega) with ⟨c, hc, hplace⟩ | hreturned
        · exact Or.inl ⟨c, List.mem_append_left _ hc, hplace⟩
        · exact Or.inr hreturned
      · cases List.mem_singleton.mp hmem
        exact Or.inl ⟨_, List.mem_append_right _ (List.mem_singleton_self _), rfl, rfl⟩

theorem command (h : a.LeaseLog log) {i : ℕ} {c : ScsiCommand} (hc : a.commands[i]? = some c)
    (hmore : ∀ id l, .leased id l ∉ more) : (a.advanceCommand i c).LeaseLog (log ++ more) := by
  obtain ⟨hi, hget⟩ := List.getElem?_eq_some_iff.mp hc
  unfold advanceCommand
  split
  · refine h.moved hmore le_rfl (fun c' hc' => ?_) (fun c' hc' => ?_) (fun r hr => Or.inl hr)
    · rcases List.mem_or_eq_of_mem_set hc' with hc' | rfl
      · exact ⟨c', hc', rfl, rfl⟩
      · exact ⟨c, List.mem_of_getElem? hc, rfl, rfl⟩
    · obtain ⟨j, hj, hjget⟩ := List.mem_iff_getElem.mp hc'
      by_cases hij : i = j
      · subst hij
        have heq : c = c' := hget.symm.trans hjget
        exact Or.inl ⟨_, List.mem_set hi _, by rw [heq], by rw [heq]⟩
      · refine Or.inl ⟨c', List.mem_iff_getElem.mpr ⟨j, by rwa [List.length_set], ?_⟩, rfl, rfl⟩
        rw [List.getElem_set_ne hij]
        exact hjget
  · refine h.moved hmore le_rfl (fun c' hc' => ⟨c', List.mem_of_mem_eraseIdx hc', rfl, rfl⟩)
      (fun c' hc' => ?_) (fun r hr => Or.inl (List.mem_append_left _ hr))
    obtain ⟨j, hj, hjget⟩ := List.mem_iff_getElem.mp hc'
    by_cases hij : i = j
    · subst hij
      have heq : c = c' := hget.symm.trans hjget
      exact Or.inr ⟨_, List.mem_append_right _ (List.mem_singleton_self _), by rw [heq]⟩
    · exact Or.inl ⟨c', List.mem_eraseIdx_iff_getElem.mpr ⟨j, hj, Ne.symm hij, hjget⟩, rfl, rfl⟩

theorem completeRequest (h : a.LeaseLog log) {i : ℕ} {r : Returned} (hr : a.returned[i]? = some r)
    (srb : ScsiRequestBlock) :
    ({ a with returned := a.returned.eraseIdx i }.complete r.id srb).LeaseLog
      (log ++ [SrbEvent.completed .startIo r.id srb.srbStatus]) := by
  obtain ⟨hi, hget⟩ := List.getElem?_eq_some_iff.mp hr
  refine h.moved (fun id l hmem => ?_) le_rfl (fun c hc => ⟨c, hc, rfl, rfl⟩)
    (fun c hc => Or.inl ⟨c, hc, rfl, rfl⟩) (fun r' hr' => ?_)
  · cases List.mem_singleton.mp hmem
  · obtain ⟨j, hj, hjget⟩ := List.mem_iff_getElem.mp hr'
    by_cases hij : i = j
    · subst hij
      have heq : r = r' := hget.symm.trans hjget
      refine Or.inr ?_
      simp [completedTimes, heq]
    · exact Or.inl (List.mem_eraseIdx_iff_getElem.mpr ⟨j, hj, Ne.symm hij, hjget⟩)

theorem step {action : Action} (h : a.LeaseLog log) (hgate : a.Gate)
    (hs : Adapter.step a action = some b) : b.LeaseLog (log ++ srbEvents a action b) := by
  have hnone : (∀ srb now, action ≠ .startIo srb now) →
      ∀ id l, .leased id l ∉ srbEvents a action b := fun hother id l hmem => by
    obtain ⟨⟨srb, now, heq⟩, _⟩ := leased_mem hmem
    exact hother srb now heq
  have hkept : SameSrbs a b → (∀ id l, .leased id l ∉ srbEvents a action b) →
      b.LeaseLog (log ++ srbEvents a action b) := fun hsame hmore =>
    h.moved hmore hsame.nextSrb.ge (fun c hc => ⟨c, hsame.commands ▸ hc, rfl, rfl⟩)
      (fun c hc => Or.inl ⟨c, hsame.commands ▸ hc, rfl, rfl⟩)
      (fun r hr => Or.inl (hsame.returned ▸ hr))
  cases action with
  | startIo srb now =>
    simp only [Adapter.step] at hs
    split at hs
    · cases hs
      exact h.startIo srb now
    · cases hs
  | command i =>
    simp only [Adapter.step] at hs
    split at hs
    · rename_i c hc
      cases hs
      exact h.command hc (hnone fun _ _ heq => by cases heq)
    · cases hs
  | completeRequest i =>
    simp only [Adapter.step] at hs
    split at hs
    · rename_i r hr
      cases hs
      rw [srbEvents_completeRequest]
      exact h.completeRequest hr _
    · cases hs
  | submission i granted now =>
    have hmore := hnone fun _ _ heq => by cases heq
    obtain ⟨s, b', next, _, hadvance, hb⟩ := step_submission hgate hs
    have hadvanced := advance_advanced hadvance
    have hcommands : b.commands = a.commands := hb ▸ hadvanced.commands
    have hreturned : b.returned = b'.returned := hb ▸ rfl
    refine h.moved hmore (hb ▸ hadvanced.nextSrb.ge)
      (fun c hc => ⟨c, hcommands ▸ hc, rfl, rfl⟩)
      (fun c hc => Or.inl ⟨c, hcommands ▸ hc, rfl, rfl⟩) (fun r hr => Or.inl ?_)
    rw [hreturned]
    cases advance_srb hadvance with
    | refused r' _ _ _ _ hgiven =>
      rw [hgiven]
      exact List.mem_append_left _ hr
    | queued _ _ _ hsame | notQueued _ _ _ hsame | working _ _ _ _ hsame
    | completed _ _ _ _ _ hsame | ended _ _ hsame => exact hsame ▸ hr
  | setStopping stopping =>
    cases hs
    have hsame : SameSrbs a { a with extension := Adapter.setStopping a.extension stopping } :=
      ⟨rfl, rfl, rfl, rfl, rfl⟩
    exact hkept hsame (hnone fun _ _ heq => by cases heq)
  | teardown workerBusy =>
    exact hkept (advanceTeardown_sameSrbs hs) (hnone fun _ _ heq => by cases heq)

theorem reachable {C : Contract Adapter Action} {s : Adapter × List SrbEvent}
    (h : Reachable SrbSystem (Contract.logged _ C) s) : s.1.LeaseLog s.2 := by
  induction h with
  | initial h =>
    obtain ⟨⟨adapterInstance, dbg, contents, hinitial⟩, hlog⟩ := h
    rw [hinitial, hlog]
    exact ⟨fun _ hc => absurd hc List.not_mem_nil, fun _ _ hmem => absurd hmem List.not_mem_nil,
      fun _ _ hmem => absurd hmem List.not_mem_nil⟩
  | step hr ha hs ih =>
    obtain ⟨hstep, hlog⟩ := System.logged_step hs
    rw [hlog]
    exact ih.step (Gate.reachable hr.unlogged) hstep

end LeaseLog

/-! ## References and SRBs -/

/-- The SRBs that hold a lease on a LUN. -/
def holders (a : Adapter) (l : Fin kMaximumDiskCount) : List ℕ :=
  (a.commands.filter fun c => c.lun = l).map ScsiCommand.id

theorem length_holders (a : Adapter) (l : Fin kMaximumDiskCount) :
    (a.holders l).length = leaseCount a.machine.leases l := by
  unfold holders leaseCount machine machineWith
  rw [List.length_map, ← List.countP_eq_length_filter]
  simp only [List.countP_map]
  rfl

theorem mem_holders {a : Adapter} {l : Fin kMaximumDiskCount} {id : ℕ} :
    id ∈ a.holders l ↔ ∃ c ∈ a.commands, c.id = id ∧ c.lun = l := by
  unfold holders
  simp only [List.mem_map, List.mem_filter, decide_eq_true_iff]
  constructor
  · rintro ⟨c, ⟨hc, hlun⟩, hid⟩
    exact ⟨c, hc, hid, hlun⟩
  · rintro ⟨c, hc, hid, hlun⟩
    exact ⟨c, ⟨hc, hlun⟩, hid⟩

namespace Tracked

variable {a : Adapter} {log : List SrbEvent}

/-- An SRB that is with its call of `StartIo` is there once and not completed. -/
theorem with_caller (h : a.Tracked log) {id : ℕ} (hid : 0 < a.withCaller id) :
    a.withCaller id = 1 ∧ completedTimes log id = 0 ∧ id < a.nextSrb := by
  have hplaced := h.placed id
  have hqueued := h.queued id
  unfold completedTimes
  split at hplaced <;> omega

theorem nodup_holders (h : a.Tracked log) (l : Fin kMaximumDiskCount) : (a.holders l).Nodup := by
  have hids : (a.commands.map ScsiCommand.id).Nodup := by
    refine List.nodup_iff_count_le_one.mpr fun id => ?_
    rw [List.count, List.countP_map]
    by_cases hzero : 0 < a.withCaller id
    · have hone := (h.with_caller hzero).1
      simp only [withCaller] at hone
      simp only [Function.comp_def]
      omega
    · simp only [withCaller] at hzero
      simp only [Function.comp_def]
      omega
  exact hids.sublist (List.filter_sublist.map _)

theorem command_caller {c : ScsiCommand} (hc : c ∈ a.commands) : 0 < a.withCaller c.id := by
  have hpos : 0 < a.commands.countP fun c' => c'.id == c.id :=
    List.countP_pos_iff.mpr ⟨c, hc, beq_self_eq_true _⟩
  unfold withCaller
  omega

theorem returned_caller {r : Returned} (hr : r ∈ a.returned) : 0 < a.withCaller r.id := by
  have hpos : 0 < a.returned.countP fun r' => r'.id == r.id :=
    List.countP_pos_iff.mpr ⟨r, hr, beq_self_eq_true _⟩
  unfold withCaller
  omega

/-- An SRB is not both in a command and given back. -/
theorem command_not_returned (h : a.Tracked log) {c : ScsiCommand} {r : Returned}
    (hc : c ∈ a.commands) (hr : r ∈ a.returned) : c.id ≠ r.id := fun heq => by
  have hcommand : 0 < a.commands.countP fun c' => c'.id == c.id :=
    List.countP_pos_iff.mpr ⟨c, hc, beq_self_eq_true _⟩
  have hreturned : 0 < a.returned.countP fun r' => r'.id == c.id :=
    List.countP_pos_iff.mpr ⟨r, hr, beq_iff_eq.mpr heq.symm⟩
  have hone := (h.with_caller (command_caller hc)).1
  simp only [withCaller] at hone
  omega

end Tracked

/-- Once its handler has returned, an SRB waits for its completion without a reference. -/
theorem uncovered {C : Contract Adapter Action} {a : Adapter} {log : List SrbEvent}
    (h : Reachable SrbSystem (Contract.logged _ C) (a, log)) {r : Returned} (hr : r ∈ a.returned)
    {l : Fin kMaximumDiskCount} (hleased : .leased r.id l ∈ log) :
    (a.extension.luns l).activeRequests.toNat < (a.uncompleted log l).card := by
  have htracked : a.Tracked log := Tracked.reachable h
  have hlog : a.LeaseLog log := LeaseLog.reachable h
  have hactive : (a.extension.luns l).activeRequests.toNat ≤ (a.holders l).length := by
    rw [length_holders]
    exact (Counters.reachable (reachable_anywhere h.unlogged)).atMost l
  have hwaits : ∀ id, 0 < a.withCaller id → .leased id l ∈ log → id ∈ a.uncompleted log l := by
    intro id hcaller hmem
    obtain ⟨_, hzero, hlt⟩ := htracked.with_caller hcaller
    exact Finset.mem_filter.mpr ⟨Finset.mem_range.mpr hlt, hmem, hzero⟩
  have hnot : r.id ∉ (a.holders l).toFinset := fun hmem => by
    obtain ⟨c, hc, hid, _⟩ := mem_holders.mp (List.mem_toFinset.mp hmem)
    exact htracked.command_not_returned hc hr hid
  have hsubset : insert r.id (a.holders l).toFinset ⊆ a.uncompleted log l := by
    refine Finset.insert_subset (hwaits r.id (Tracked.returned_caller hr) hleased) fun id hid => ?_
    obtain ⟨c, hc, rfl, rfl⟩ := mem_holders.mp (List.mem_toFinset.mp hid)
    exact hwaits c.id (Tracked.command_caller hc) (hlog.commands c hc)
  calc (a.extension.luns l).activeRequests.toNat
      < (a.holders l).length + 1 := Nat.lt_succ_of_le hactive
    _ = (insert r.id (a.holders l).toFinset).card := by
        rw [Finset.card_insert_of_notMem hnot,
          List.toFinset_card_of_nodup (htracked.nodup_holders l)]
    _ ≤ (a.uncompleted log l).card := Finset.card_le_card hsubset

/-- No SRB that has had a lease is between its handler and its completion. -/
def NoneReturned (a : Adapter) (log : List SrbEvent) : Prop :=
  ∀ r ∈ a.returned, ∀ l, .leased r.id l ∉ log

/-- Until then its lease is its reference. -/
theorem covered {a : Adapter} {log : List SrbEvent}
    (h : Reachable SrbSystem (Contract.logged _ noRestartDuringTeardown) (a, log))
    (hnone : a.NoneReturned log) : a.HeldUntilCompletion log := by
  have hlog : a.LeaseLog log := LeaseLog.reachable h
  have hleased := Leased.reachable (reachable_beforeTeardown h.unlogged)
  have hcounted : ∀ l, (a.uncompleted log l).card ≤ (a.extension.luns l).activeRequests.toNat := by
    intro l
    have hsubset : a.uncompleted log l ⊆ (a.holders l).toFinset := fun id hid => by
      obtain ⟨_, hmem, hzero⟩ := Finset.mem_filter.mp hid
      rcases hlog.held id l hmem hzero with hcommand | ⟨r, hr, rfl⟩
      · exact List.mem_toFinset.mpr (mem_holders.mpr hcommand)
      · exact absurd hmem (hnone r hr l)
    calc (a.uncompleted log l).card
        ≤ (a.holders l).toFinset.card := Finset.card_le_card hsubset
      _ ≤ (a.holders l).length := List.toFinset_card_le _
      _ = (a.extension.luns l).activeRequests.toNat := by
          rw [length_holders]
          exact (hleased.exact l).symm
  refine ⟨hcounted, fun l hempty id hmem => Nat.pos_of_ne_zero fun hzero => ?_⟩
  have hidle : (a.extension.luns l).activeRequests = 0 := hleased.idle_of_empty hempty
  have hcard := hcounted l
  rw [hidle] at hcard
  have hin : id ∈ a.uncompleted log l :=
    Finset.mem_filter.mpr ⟨Finset.mem_range.mpr (hlog.passed id l hmem), hmem, hzero⟩
  exact absurd (Finset.card_pos.mpr ⟨id, hin⟩) (Nat.not_lt.mpr hcard)

/-! ## Runs -/

/-- The handler of no SCSI command that holds a lease returns. -/
def noLeasedReturn : Contract Adapter Action := fun a action =>
  ∀ i c, action = .command i → a.commands[i]? = some c → c.status = none

theorem NoneReturned.step {a b : Adapter} {log : List SrbEvent} {action : Action}
    (h : a.NoneReturned log) (htracked : a.Tracked log) (hlog : a.LeaseLog log) (hgate : a.Gate)
    (haction : noLeasedReturn a action) (hs : Adapter.step a action = some b) :
    b.NoneReturned (log ++ srbEvents a action b) := by
  have hquiet : (∀ srb now, action ≠ .startIo srb now) → (∀ r ∈ b.returned, r ∈ a.returned) →
      b.NoneReturned (log ++ srbEvents a action b) := fun hother hreturned r hr l hmem => by
    rcases List.mem_append.mp hmem with hmem | hmem
    · exact h r (hreturned r hr) l hmem
    · obtain ⟨⟨srb, now, heq⟩, _⟩ := leased_mem hmem
      exact hother srb now heq
  cases action with
  | startIo srb now =>
    simp only [Adapter.step] at hs
    split at hs
    · cases hs
      have hstarted := startIo_started a srb now
      generalize a.startIo srb now = b at hstarted ⊢
      -- an SRB is given back, or leased, by the call that passes it in
      have hnew : ∀ r : Returned, r.id = a.nextSrb → b.commands = a.commands →
          b.returned = a.returned ++ [r] →
            b.NoneReturned (log ++ srbEvents a (.startIo srb now) b) := by
        intro r hid hcommands hreturned r' hr' l hmem
        rcases List.mem_append.mp hmem with hmem | hmem
        · rcases List.mem_append.mp (hreturned ▸ hr') with hr' | hr'
          · exact h r' hr' l hmem
          · have hlt := hlog.passed _ l hmem
            rw [List.mem_singleton.mp hr', hid] at hlt
            exact lt_irrefl _ hlt
        · obtain ⟨_, c, hc, _⟩ := leased_mem hmem
          rw [hcommands, List.drop_length] at hc
          exact List.not_mem_nil hc
      cases hstarted with
      | kept r hid => exact hnew r hid rfl rfl
      | answered ext r hid => exact hnew r hid rfl rfl
      | admitted ext control command =>
        intro r hr l hmem
        rcases List.mem_append.mp hmem with hmem | hmem
        · exact h r hr l hmem
        · obtain ⟨_, c, hc, _⟩ := leased_mem hmem
          rw [List.drop_length] at hc
          exact List.not_mem_nil hc
      | leased srb' ext l' view =>
        intro r hr l hmem
        rcases List.mem_append.mp hmem with hmem | hmem
        · exact h r hr l hmem
        · obtain ⟨_, c, hc, hid, _⟩ := leased_mem hmem
          rw [List.drop_left, List.mem_singleton] at hc
          have hlt := (htracked.with_caller (Tracked.returned_caller hr)).2.2
          rw [← hid, hc] at hlt
          exact lt_irrefl _ hlt
    · cases hs
  | command i =>
    simp only [Adapter.step] at hs
    split at hs
    · rename_i c hc
      cases hs
      refine hquiet (fun _ _ heq => by cases heq) fun r hr => ?_
      unfold advanceCommand at hr
      rw [haction i c rfl hc] at hr
      exact hr
    · cases hs
  | completeRequest i =>
    simp only [Adapter.step] at hs
    split at hs
    · cases hs
      exact hquiet (fun _ _ heq => by cases heq) fun r hr => List.mem_of_mem_eraseIdx hr
    · cases hs
  | submission i granted now =>
    obtain ⟨s, b', next, hlist, hadvance, hb⟩ := step_submission hgate hs
    have hreturned : b.returned = b'.returned := hb ▸ rfl
    cases advance_srb hadvance with
    | refused r hphase hid _ _ hgiven =>
      have howned : 0 < a.submissions.countP fun s' => s'.id == s.id && s'.phase.owner == .caller := by
        refine List.countP_pos_iff.mpr ⟨s, hlist ▸ List.mem_singleton_self s, ?_⟩
        rw [hphase, beq_self_eq_true]
        rfl
      have hcaller : 0 < a.withCaller s.id := by
        unfold withCaller
        omega
      obtain ⟨hone, hzero, _⟩ := htracked.with_caller hcaller
      unfold withCaller at hone
      intro r' hr' l hmem
      rcases List.mem_append.mp hmem with hmem | hmem
      · rw [hreturned, hgiven] at hr'
        rcases List.mem_append.mp hr' with hr' | hr'
        · exact h r' hr' l hmem
        · rw [List.mem_singleton.mp hr', hid] at hmem
          rcases hlog.held s.id l hmem hzero with ⟨c, hc, hcid, _⟩ | ⟨r'', hr'', hrid⟩
          · have hpos : 0 < a.commands.countP fun c => c.id == s.id :=
              List.countP_pos_iff.mpr ⟨c, hc, beq_iff_eq.mpr hcid⟩
            omega
          · have hpos : 0 < a.returned.countP fun r => r.id == s.id :=
              List.countP_pos_iff.mpr ⟨r'', hr'', beq_iff_eq.mpr hrid⟩
            omega
      · obtain ⟨⟨_, _, heq⟩, _⟩ := leased_mem hmem
        cases heq
    | queued _ _ _ hsame | notQueued _ _ _ hsame | working _ _ _ _ hsame
    | completed _ _ _ _ _ hsame | ended _ _ hsame =>
      exact hquiet (fun _ _ heq => by cases heq) fun r hr => hsame ▸ hreturned ▸ hr
  | setStopping stopping =>
    cases hs
    exact hquiet (fun _ _ heq => by cases heq) fun r hr => hr
  | teardown workerBusy =>
    exact hquiet (fun _ _ heq => by cases heq) fun r hr =>
      (advanceTeardown_sameSrbs hs).returned ▸ hr

theorem NoneReturned.reachable {C : Contract Adapter Action} {s : Adapter × List SrbEvent}
    (h : Reachable SrbSystem (Contract.logged _ fun a action => C a action ∧ noLeasedReturn a action)
      s) : s.1.NoneReturned s.2 := by
  induction h with
  | initial h =>
    rw [h.2]
    exact fun _ _ _ hmem => List.not_mem_nil hmem
  | step hr ha hs ih =>
    obtain ⟨hstep, hlog⟩ := System.logged_step hs
    rw [hlog]
    exact ih.step (Tracked.reachable hr) (LeaseLog.reachable hr) (Gate.reachable hr.unlogged) ha.2
      hstep

/-- A run keeps references until completion as long as no handler of a leased command returns, and
only so. -/
theorem reference_until_completion (a : Adapter) (hinitial : system.initial a)
    (actions : List Action) :
    (Throughout SrbSystem (fun s => s.1.HeldUntilCompletion s.2) (a, []) actions →
      Obeys SrbSystem (Contract.logged _ noLeasedReturn) (a, []) actions) ∧
    (Obeys SrbSystem (Contract.logged _ noRestartDuringTeardown) (a, []) actions →
      Obeys SrbSystem (Contract.logged _ noLeasedReturn) (a, []) actions →
        Throughout SrbSystem (fun s => s.1.HeldUntilCompletion s.2) (a, []) actions) := by
  have hstart : SrbSystem.initial (a, []) := ⟨hinitial, rfl⟩
  refine ⟨fun hheld pre action post s hsplit hrun i c haction hc => ?_,
    fun hrestart hreturn pre s hpre hrun => ?_⟩
  · cases hstatus : c.status with
    | none => rfl
    | some status =>
      subst haction
      have hreach : Reachable SrbSystem (Contract.logged _ anyAction) s :=
        reachable_of_run hstart hrun
      have hstep : SrbSystem.step s (.command i) = some (s.1.advanceCommand i c,
          s.2 ++ srbEvents s.1 (.command i) (s.1.advanceCommand i c)) := by
        simp only [System.logged, system, step, hc, Option.map_some]
      have hnext : run SrbSystem (a, []) (pre ++ [.command i]) = some (s.1.advanceCommand i c,
          s.2 ++ srbEvents s.1 (.command i) (s.1.advanceCommand i c)) := by
        rw [run_append, hrun, Option.bind_some, run, hstep]
        rfl
      have hsegment : pre ++ [.command i] <+: actions :=
        ⟨post, by rw [hsplit, List.append_assoc, List.singleton_append]⟩
      have hcounted := (hheld _ _ hsegment hnext).counted c.lun
      have hreturned : ∃ r ∈ (s.1.advanceCommand i c).returned, r.id = c.id := by
        unfold advanceCommand
        rw [hstatus]
        exact ⟨_, List.mem_append_right _ (List.mem_singleton_self _), rfl⟩
      obtain ⟨r, hr, hid⟩ := hreturned
      have hleased : SrbEvent.leased r.id c.lun ∈
          s.2 ++ srbEvents s.1 (.command i) (s.1.advanceCommand i c) := by
        rw [hid]
        exact List.mem_append_left _
          ((LeaseLog.reachable hreach).commands c (List.mem_of_getElem? hc))
      exact absurd hcounted (Nat.not_le.mpr (uncovered (hreach.step trivial hstep) hr hleased))
  · have hboth : Obeys SrbSystem
        (Contract.logged _ fun a action => noRestartDuringTeardown a action ∧ noLeasedReturn a action)
        (a, []) pre := fun first action post s hsplit hs =>
      ⟨hrestart.initial_segment hpre first action post s hsplit hs,
        hreturn.initial_segment hpre first action post s hsplit hs⟩
    have hreach := (Reachable.initial hstart).path (path_of_run hrun hboth)
    exact covered (hreach.mono fun _ _ hboth => hboth.1) (NoneReturned.reachable hreach)

/-- A disk is created and a command leased on it. -/
def leasedCommand : List Action := createDisk 1048576 82 ++ [.startIo (testUnitReadySrb 0) 0]

/-- The handler returns, and a delete drains and finalizes the LUN before `CompleteRequest`. -/
def returnedBeforeDelete : List Action :=
  leasedCommand ++ [.command 0, .command 0] ++ deleteDisk 1

theorem obeys_of_kept {a : Adapter} {actions : List Action}
    (h : actions.all (fun action => !Action.restarts action) = true) :
    Obeys SrbSystem (Contract.logged _ noRestartDuringTeardown) (a, []) actions := by
  refine Obeys.of_all fun action haction _ hrestart => ?_
  have hkept := List.all_eq_true.mp h action haction
  rw [hrestart] at hkept
  exact absurd hkept (by decide)

def Action.isCommand : Action → Bool
  | .command _ => true
  | _ => false

/-- The command is accepted and its handler has not returned. -/
theorem reference_until_completion_leased :
    Throughout SrbSystem (fun s => s.1.HeldUntilCompletion s.2) (fresh, []) leasedCommand := by
  refine (reference_until_completion fresh fresh_initial leasedCommand).2
    (obeys_of_kept (by decide)) (Obeys.of_all fun action haction _ i _ hcommand _ => ?_)
  have hnone : leasedCommand.all (fun action => !Action.isCommand action) = true := by decide
  have hnot := List.all_eq_true.mp hnone action haction
  rw [hcommand] at hnot
  exact absurd hnot Bool.false_ne_true

/-- The LUN is Empty, and the SRB that had a lease on it is not completed. -/
theorem reference_lost : ¬∀ a actions, system.initial a →
    Obeys SrbSystem (Contract.logged _ noRestartDuringTeardown) (a, []) actions →
      Throughout SrbSystem (fun s => s.1.HeldUntilCompletion s.2) (a, []) actions := fun h => by
  have hheld := h fresh returnedBeforeDelete fresh_initial (obeys_of_kept (by decide))
  have hrun : ((run SrbSystem (fresh, []) returnedBeforeDelete).elim false fun s =>
      (s.1.extension.luns 0).state == .empty && s.2.contains (.leased 1 0) &&
        completedTimes s.2 1 == 0) = true := by
    decide +kernel
  cases hs : run SrbSystem (fresh, []) returnedBeforeDelete with
  | none =>
    rw [hs] at hrun
    cases hrun
  | some s =>
    rw [hs, Option.elim_some, Bool.and_eq_true, Bool.and_eq_true, beq_iff_eq, beq_iff_eq] at hrun
    obtain ⟨⟨hempty, hleased⟩, hzero⟩ := hrun
    have hcompleted := (hheld _ s (List.prefix_refl _) hs).emptied 0 hempty 1
      (List.contains_iff_mem.mp hleased)
    omega

end Adapter

end WispDisk
