import WispDisk.Driver.Replies
import WispDisk.Lifecycle.Completions

/-! One control SRB on its way through the adapter. A run commutes with replacing the bytes of its
data buffer behind the envelope's `Length` (`run_withTail`): no handler and no step of the worker
reads or writes them. `Confined` is what the worker's later reads rely on. -/
namespace WispDisk
open Layout ControlDispatch ManagementController Transition
set_option autoImplicit false

namespace Adapter

/-! ## The SRBs of an adapter -/

/-- Every SRB of the adapter: with a command or a submission, given back, or completed. -/
structure Every (a : Adapter) (C : ScsiCommand → Prop) (S : Submission → Prop)
    (R : ℕ → ScsiRequestBlock → Prop) : Prop where
  commands : ∀ c ∈ a.commands, C c
  submissions : ∀ s ∈ a.submissions, S s
  returned : ∀ r ∈ a.returned, R r.id r.srb
  completions : ∀ completion ∈ a.history.completions, R completion.1 completion.2

namespace Every

variable {a b : Adapter} {C : ScsiCommand → Prop} {S : Submission → Prop}
  {R : ℕ → ScsiRequestBlock → Prop}

theorem same (h : a.Every C S R) (hsame : SameSrbs a b) : b.Every C S R where
  commands := hsame.commands ▸ h.commands
  submissions := hsame.submissions ▸ h.submissions
  returned := hsame.returned ▸ h.returned
  completions := hsame.completions ▸ h.completions

/-- A new SRB given back, submitted or leased. -/
theorem started (h : a.Every C S R) (hstarted : Started a b)
    (hcommand : ∀ c ∈ b.commands, c.id = a.nextSrb → C c)
    (hsubmission : ∀ s ∈ b.submissions, s.id = a.nextSrb → S s)
    (hreturned : ∀ r ∈ b.returned, r.id = a.nextSrb → R r.id r.srb) : b.Every C S R := by
  cases hstarted with
  | kept r hid | answered ext r hid =>
    refine ⟨h.commands, h.submissions, fun r' hr => ?_, h.completions⟩
    rcases List.mem_append.mp hr with hold | hnew
    · exact h.returned r' hold
    · exact hreturned r' hr (List.mem_singleton.mp hnew ▸ hid)
  | admitted ext control command =>
    refine ⟨h.commands, fun s hs => ?_, h.returned, h.completions⟩
    rcases List.mem_append.mp hs with hold | hnew
    · exact h.submissions s hold
    · exact hsubmission s hs (List.mem_singleton.mp hnew ▸ rfl)
  | leased srb ext l view =>
    refine ⟨fun c hc => ?_, h.submissions, h.returned, h.completions⟩
    rcases List.mem_append.mp hc with hold | hnew
    · exact h.commands c hold
    · exact hcommand c hc (List.mem_singleton.mp hnew ▸ rfl)

/-- The other steps keep what holds of every SRB, when the data phase of a command, a step of a
submission and `CompleteRequest` keep it of theirs. -/
theorem step {action : Action} (h : a.Every C S R) (hgate : a.Gate)
    (hs : Adapter.step a action = some b)
    (hstart : ∀ srb now, action = .startIo srb now → (a.startIo srb now).Every C S R)
    (hcommand : ∀ c srb status, C c → C { c with srb := srb, status := status })
    (hreleased : ∀ c : ScsiCommand, C c → R c.id c.srb)
    (hadvance : ∀ s granted now a' next, a.submissions = [s] → S s →
      advance a s granted now = some (a', next) → b.extension = a'.extension →
      (∀ s', next = some s' → S s') ∧
        (∀ r ∈ a'.returned, r ∈ a.returned ∨ R r.id r.srb) ∧
          ∀ e ∈ a'.history.completions, e ∈ a.history.completions ∨ R e.1 e.2)
    (hcompleted : ∀ id srb status, R id srb → R id (completeRequest srb status)) :
    b.Every C S R := by
  cases action with
  | startIo srb now =>
    simp only [Adapter.step] at hs
    split at hs
    · cases hs
      exact hstart srb now rfl
    · cases hs
  | command i =>
    simp only [Adapter.step] at hs
    split at hs
    · rename_i c hc
      have hold := h.commands c (List.mem_of_getElem? hc)
      cases hs
      unfold advanceCommand
      split
      · refine ⟨fun c' hc' => ?_, h.submissions, h.returned, h.completions⟩
        rcases List.mem_or_eq_of_mem_set hc' with hc' | rfl
        · exact h.commands c' hc'
        · exact hcommand c _ _ hold
      · refine ⟨fun c' hc' => h.commands c' (List.mem_of_mem_eraseIdx hc'), h.submissions,
          fun r hr => ?_, h.completions⟩
        rcases List.mem_append.mp hr with hr | hr
        · exact h.returned r hr
        · rw [List.mem_singleton.mp hr]
          exact hreleased c hold
    · cases hs
  | completeRequest i =>
    simp only [Adapter.step] at hs
    split at hs
    · rename_i r hr
      cases hs
      refine ⟨h.commands, h.submissions, fun r' hr' => h.returned r' (List.mem_of_mem_eraseIdx hr'),
        fun e he => ?_⟩
      rcases List.mem_append.mp he with he | he
      · exact h.completions e he
      · rw [List.mem_singleton.mp he]
        exact hcompleted r.id r.srb r.status (h.returned r (List.mem_of_getElem? hr))
    · cases hs
  | submission i granted now =>
    obtain ⟨s, b', next, hlist, hstep, hb⟩ := step_submission hgate hs
    have hold := h.submissions s (by rw [hlist]; exact List.mem_singleton_self s)
    have hsame : b.extension = b'.extension := by rw [hb]
    obtain ⟨hnext, hreturned, hcompletions⟩ :=
      hadvance s granted now b' next hlist hold hstep hsame
    have hcommands : b'.commands = a.commands := (advance_advanced hstep).commands
    rw [hb]
    refine ⟨hcommands ▸ h.commands, fun s' hs' => ?_, fun r hr => ?_, fun e he => ?_⟩
    · cases next with
      | none => exact absurd hs' List.not_mem_nil
      | some t =>
        rw [List.mem_singleton.mp hs']
        exact hnext t rfl
    · exact (hreturned r hr).elim (h.returned r) id
    · exact (hcompletions e he).elim (h.completions e) id
  | setStopping stopping =>
    cases hs
    exact ⟨h.commands, h.submissions, h.returned, h.completions⟩
  | teardown workerBusy => exact h.same (advanceTeardown_sameSrbs hs)

end Every

/-- Only `HwStartIo` takes in a new SRB. -/
theorem step_nextSrb {a b : Adapter} {action : Action} (hgate : a.Gate)
    (hs : Adapter.step a action = some b) (hstart : ∀ srb now, action ≠ .startIo srb now) :
    b.nextSrb = a.nextSrb := by
  cases action with
  | startIo srb now => exact absurd rfl (hstart srb now)
  | command i =>
    simp only [Adapter.step] at hs
    split at hs
    · cases hs
      unfold advanceCommand
      split <;> rfl
    · cases hs
  | completeRequest i =>
    simp only [Adapter.step] at hs
    split at hs
    · cases hs
      rfl
    · cases hs
  | submission i granted now =>
    obtain ⟨s, b', next, _, hadvance, hb⟩ := step_submission hgate hs
    rw [hb]
    exact (advance_advanced hadvance).nextSrb
  | setStopping stopping =>
    cases hs
    rfl
  | teardown workerBusy => exact (advanceTeardown_aside hs).nextSrb

theorem startIo_nextSrb (a : Adapter) (srb : ScsiRequestBlock) (now : LONGLONG) :
    (a.startIo srb now).nextSrb = a.nextSrb + 1 := by
  have hstarted := startIo_started a srb now
  generalize a.startIo srb now = b at hstarted ⊢
  cases hstarted <;> rfl

/-- A step of a submission passes on its own SRB only. -/
theorem advance_ids {a a' : Adapter} {s : Submission} {granted : Bool} {now : LONGLONG}
    {next : Option Submission} (hadvance : advance a s granted now = some (a', next)) :
    (∀ s', next = some s' → s'.id = s.id) ∧ (∀ r ∈ a'.returned, r ∈ a.returned ∨ r.id = s.id) ∧
      ∀ e ∈ a'.history.completions, e ∈ a.history.completions ∨ e.1 = s.id := by
  refine ⟨fun s' hs' => ((advance_advanced hadvance).continued s' hs').1, ?_, ?_⟩
  · cases advance_srb hadvance with
    | refused r _ hid _ _ hreturned _ =>
      rw [hreturned]
      intro r' hr'
      rcases List.mem_append.mp hr' with hr' | hr'
      · exact Or.inl hr'
      · rw [List.mem_singleton.mp hr']
        exact Or.inr hid
    | queued _ _ _ hreturned | notQueued _ _ _ hreturned | working _ _ _ _ hreturned
    | completed _ _ _ _ _ hreturned | ended _ _ hreturned =>
      rw [hreturned]
      exact fun r hr => Or.inl hr
  · cases advance_srb hadvance with
    | completed m s' _ _ _ _ hcompletions =>
      rw [hcompletions]
      intro e he
      rcases List.mem_append.mp he with he | he
      · exact Or.inl he
      · rw [List.mem_singleton.mp he]
        exact Or.inr rfl
    | queued _ _ _ _ hcompletions | notQueued _ _ _ _ hcompletions
    | refused _ _ _ _ _ _ hcompletions | working _ _ _ _ _ hcompletions
    | ended _ _ _ hcompletions =>
      rw [hcompletions]
      exact fun e he => Or.inl he

/-- The SRBs that StorPort has passed in so far. -/
def Below (a : Adapter) : Prop :=
  a.Every (fun c => c.id < a.nextSrb) (fun s => s.id < a.nextSrb) fun id _ => id < a.nextSrb

namespace Below

variable {a b : Adapter}

theorem grown (h : a.Below) {k : ℕ} (hk : a.nextSrb ≤ k) :
    a.Every (fun c => c.id < k) (fun s => s.id < k) fun id _ => id < k where
  commands := fun c hc => (h.commands c hc).trans_le hk
  submissions := fun s hs => (h.submissions s hs).trans_le hk
  returned := fun r hr => (h.returned r hr).trans_le hk
  completions := fun e he => (h.completions e he).trans_le hk

theorem started (h : a.Below) (hstarted : Started a b) : b.Below := by
  have hnext : b.nextSrb = a.nextSrb + 1 := by cases hstarted <;> rfl
  unfold Below
  rw [hnext]
  refine (h.grown (Nat.le_succ _)).started hstarted (fun c _ hid => ?_) (fun s _ hid => ?_)
    fun r _ hid => ?_ <;>
  · rw [hid]
    exact Nat.lt_succ_self _

theorem step {action : Action} (h : a.Below) (hgate : a.Gate)
    (hs : Adapter.step a action = some b) : b.Below := by
  cases hstart : action with
  | startIo srb now =>
    rw [hstart] at hs
    simp only [Adapter.step] at hs
    split at hs
    · cases hs
      exact h.started (startIo_started a srb now)
    · cases hs
  | command | completeRequest | submission | setStopping | teardown =>
    have hnext : b.nextSrb = a.nextSrb := step_nextSrb hgate hs fun srb now heq => by
      rw [heq] at hstart
      cases hstart
    unfold Below
    rw [hnext]
    refine Every.step h hgate hs (fun srb now heq => by rw [heq] at hstart; cases hstart)
      (fun _ _ _ hc => hc) (fun _ hc => hc) (fun s granted now a' next _ hlt hadvance _ => ?_)
      fun _ _ _ hlt => hlt
    obtain ⟨hnext, hreturned, hcompletions⟩ := advance_ids hadvance
    refine ⟨fun s' hs' => hnext s' hs' ▸ hlt, fun r hr => ?_, fun e he => ?_⟩
    · exact (hreturned r hr).imp_right fun heq : r.id = s.id => heq ▸ hlt
    · exact (hcompletions e he).imp_right fun heq : e.1 = s.id => heq ▸ hlt

theorem reachable {C : Contract Adapter Action} (h : Reachable system C a) : a.Below := by
  induction h with
  | initial h =>
    obtain ⟨adapterInstance, dbg, contents, rfl⟩ := h
    exact ⟨fun _ hc => absurd hc List.not_mem_nil, fun _ hs => absurd hs List.not_mem_nil,
      fun _ hr => absurd hr List.not_mem_nil, fun _ he => absurd he List.not_mem_nil⟩
  | step hr _ hs ih => exact ih.step (Gate.reachable hr) hs

end Below

/-! ## One SRB -/

/-- The SRB `id` is a control SRB: `S` holds of its submission, `R` of it once it is answered. -/
structure Tracks (a : Adapter) (id : ℕ) (S : Submission → Prop) (R : ScsiRequestBlock → Prop) :
    Prop where
  gate : a.Gate
  begun : id < a.nextSrb
  every : a.Every (fun c => c.id ≠ id) (fun s => s.id = id → S s) fun id' srb => id' = id → R srb

/-- Every step of the adapter keeps what the steps of the submission and `CompleteRequest` keep. -/
theorem Tracks.step {a b : Adapter} {id : ℕ} {S : Submission → Prop} {R : ScsiRequestBlock → Prop}
    {action : Action} (h : a.Tracks id S R) (hs : Adapter.step a action = some b)
    (hadvance : ∀ s granted now a' next, a.submissions = [s] → S s →
      advance a s granted now = some (a', next) → b.extension = a'.extension →
      (∀ s', next = some s' → S s') ∧ (∀ r ∈ a'.returned, r ∈ a.returned ∨ R r.srb) ∧
        ∀ e ∈ a'.history.completions, e ∈ a.history.completions ∨ R e.2)
    (hcompleted : ∀ srb status, R srb → R (completeRequest srb status)) : b.Tracks id S R := by
  have hbegun : a.nextSrb ≠ id := Nat.ne_of_gt h.begun
  have hstart : ∀ {b' : Adapter}, Started a b' →
      b'.Every (fun c => c.id ≠ id) (fun s => s.id = id → S s)
        fun id' srb => id' = id → R srb := fun hstarted =>
    h.every.started hstarted (fun c _ hid => hid ▸ hbegun)
      (fun s _ hnew hid => absurd (hnew.symm.trans hid) hbegun)
      fun r _ hnew hid => absurd (hnew.symm.trans hid) hbegun
  refine ⟨h.gate.step hs, ?_, ?_⟩
  · by_cases hnew : ∃ srb now, action = .startIo srb now
    · obtain ⟨srb, now, rfl⟩ := hnew
      simp only [Adapter.step] at hs
      split at hs
      · cases hs
        exact Nat.lt_trans h.begun (startIo_nextSrb a srb now ▸ Nat.lt_succ_self _)
      · cases hs
    · rw [step_nextSrb h.gate hs fun srb now heq => hnew ⟨srb, now, heq⟩]
      exact h.begun
  · refine h.every.step h.gate hs (fun srb now _ => hstart (startIo_started a srb now))
      (fun _ _ _ hc => hc) (fun c hc hid => absurd hid hc)
      (fun s granted now a' next hlist hS hstep hsame => ?_)
      fun _ srb status hR hid => hcompleted srb status (hR hid)
    by_cases hid : s.id = id
    · obtain ⟨hnext, hreturned, hcompletions⟩ :=
        hadvance s granted now a' next hlist (hS hid) hstep hsame
      exact ⟨fun s' hs' _ => hnext s' hs', fun r hr => (hreturned r hr).imp_right fun hR _ => hR,
        fun e he => (hcompletions e he).imp_right fun hR _ => hR⟩
    · obtain ⟨hnext, hreturned, hcompletions⟩ := advance_ids hstep
      refine ⟨fun s' hs' heq => absurd ((hnext s' hs').symm.trans heq) hid, fun r hr => ?_,
        fun e he => ?_⟩
      · exact (hreturned r hr).imp_right fun hr' heq => absurd (hr'.symm.trans heq) hid
      · exact (hcompletions e he).imp_right fun he' heq => absurd (he'.symm.trans heq) hid

/-- A control SRB is answered at once or submitted. -/
theorem startIo_tracks {a : Adapter} {S : Submission → Prop} {R : ScsiRequestBlock → Prop}
    (hgate : a.Gate) (ha : a.Below) {srb : ScsiRequestBlock}
    (hcontrol : srb.function = srbFunctionIoControl) {now : LONGLONG}
    (hcomplete : ∀ ext reply, handleIoControl a.extension srb now = .complete ext reply → R reply)
    (hsubmitted : ∀ ext control command,
      handleIoControl a.extension srb now = .submitted ext control command →
        S { id := a.nextSrb, control := control, command := command }) :
    (a.startIo srb now).Tracks a.nextSrb S R := by
  have hcommands : ∀ c ∈ a.commands, c.id ≠ a.nextSrb := fun c hc =>
    Nat.ne_of_lt (ha.commands c hc)
  have hreturned : ∀ r ∈ a.returned, r.id = a.nextSrb → R r.srb := fun r hr hid =>
    absurd hid (Nat.ne_of_lt (ha.returned r hr))
  have hcompletions : ∀ e ∈ a.history.completions, e.1 = a.nextSrb → R e.2 := fun e he hid =>
    absurd hid (Nat.ne_of_lt (ha.completions e he))
  have hsubmissions : ∀ s ∈ a.submissions, s.id = a.nextSrb → S s := fun s hs hid =>
    absurd hid (Nat.ne_of_lt (ha.submissions s hs))
  refine ⟨hgate.started (startIo_started a srb now),
    startIo_nextSrb a srb now ▸ Nat.lt_succ_self _, ?_⟩
  unfold startIo
  simp only
  rw [if_pos hcontrol]
  unfold startIoControl
  simp only
  cases houtcome : handleIoControl a.extension srb now with
  | complete ext reply =>
    refine ⟨hcommands, hsubmissions, fun r hr hid => ?_, hcompletions⟩
    rcases List.mem_append.mp hr with hr | hr
    · exact hreturned r hr hid
    · rw [List.mem_singleton.mp hr]
      exact hcomplete ext reply houtcome
  | submitted ext control command =>
    refine ⟨hcommands, fun s hs hid => ?_, hreturned, hcompletions⟩
    rcases List.mem_append.mp hs with hs | hs
    · exact hsubmissions s hs hid
    · rw [List.mem_singleton.mp hs]
      exact hsubmitted ext control command houtcome

end Adapter

/-! ## The bounds of one SRB -/

/-- The steps from which on the worker still decodes the request. -/
def Phase.readsRequest (code : ULONG) : Phase → Bool
  | .prepared | .queued | .takeFault => isReservedCode code
  | .rejectOperation | .snapshotPending => true
  | _ => false

theorem Phase.readsRequest_start (code : ULONG) (work : Work) :
    work.start.readsRequest code = false := by
  unfold Work.start
  split <;> rfl

/-- A submission whose SRB stays below `n` and is completed with at most `limit` bytes. -/
structure Submission.Confined (n : ℕ) (limit : ULONG) (s : Submission) : Prop where
  fits : s.control.Fits n
  transferred : s.control.srb.dataTransferLength ≤ limit
  request : s.phase.readsRequest s.control.ioControl.controlCode = true →
    OperationResponse.size ≤ s.control.ioControl.length

namespace Submission.Confined

variable {n : ℕ} {limit : ULONG} {s : Submission}

/-- A step that leaves the SRB alone and does not come back to the request. -/
theorem move (h : s.Confined n limit) {phase : Phase}
    (hphase : ∀ code, phase.readsRequest code = false) :
    { s with phase := phase }.Confined n limit where
  fits := h.fits
  transferred := h.transferred
  request := fun hreads => absurd ((hphase _).symm.trans hreads) Bool.false_ne_true

/-- A step that writes the answer. -/
theorem reply (h : s.Confined n limit) (hn : n ≤ limit.toNat) {control : ControlRequest}
    (hreply : s.control.Reply control) {phase : Phase}
    (hphase : ∀ code, phase.readsRequest code = false) :
    { s with control := control, phase := phase }.Confined n limit where
  fits := hreply.fits h.fits
  transferred := hreply.dataTransferLength_le h.fits hn
  request := fun hreads => absurd ((hphase _).symm.trans hreads) Bool.false_ne_true

end Submission.Confined

/-- The worker's decoding of an SRB finds the envelope and the payload again. -/
theorem ControlRequest.fromSrb_toSrb_some {control decoded : ControlRequest}
    (h : fromSrb control.toSrb = some decoded) :
    decoded =
      { srb := control.toSrb, ioControl := control.ioControl, payload := control.payload } := by
  obtain ⟨henveloped, hsrb⟩ := fromSrb_enveloped h
  unfold fromSrb toSrb at h
  simp only [buffer_ioControl, buffer_payload] at h
  split at h
  · cases h
  · split at h <;> cases h
    rfl

namespace Adapter

variable {n : ℕ} {limit : ULONG}

theorem beginWork_confined (a : Adapter) {s : Submission} (h : s.Confined n limit)
    (hn : n ≤ limit.toNat) (hphase : s.phase = .takeFault) : (a.beginWork s).2.Confined n limit := by
  have hif : ∀ (b : Bool) (work : Work) (status : NTSTATUS) (code : ULONG),
      (if b = true then work.start else Phase.publish work status none).readsRequest code =
        false := by
    intro b work status code
    split
    · exact Phase.readsRequest_start code work
    · rfl
  unfold beginWork
  simp only
  split
  · rename_i hreserved
    have hroom := h.request (by rw [hphase]; exact hreserved)
    exact ⟨h.fits, h.transferred, fun _ => hroom⟩
  split
  · exact h.move fun code => hif _ _ _ code
  split
  · exact h.move fun code => hif _ _ _ code
  · exact h.reply hn (ControlRequest.writeError_reply _ _ _ _) fun _ => rfl

/-- What a step of a confined submission leaves of its SRB. -/
theorem advance_confined {a a' : Adapter} {s : Submission} {granted : Bool} {now : LONGLONG}
    {next : Option Submission} (hn : n ≤ limit.toNat) (h : s.Confined n limit)
    (hadvance : advance a s granted now = some (a', next)) :
    (∀ s', next = some s' → s'.Confined n limit) ∧
      (∀ r ∈ a'.returned, r ∈ a.returned ∨ r.srb.dataTransferLength ≤ limit) ∧
        ∀ e ∈ a'.history.completions, e ∈ a.history.completions ∨
          e.2.dataTransferLength ≤ limit := by
  have hkept : ∀ {b : Adapter} {s' : Submission}, b.returned = a.returned →
      b.history.completions = a.history.completions → s'.Confined n limit →
        (∀ t, some s' = some t → t.Confined n limit) ∧
          (∀ r ∈ b.returned, r ∈ a.returned ∨ r.srb.dataTransferLength ≤ limit) ∧
            ∀ e ∈ b.history.completions, e ∈ a.history.completions ∨
              e.2.dataTransferLength ≤ limit := by
    intro b s' hreturned hcompletions hs'
    rw [hreturned, hcompletions]
    exact ⟨fun t ht => Option.some.inj ht ▸ hs', fun r hr => Or.inl hr, fun e he => Or.inl he⟩
  have hmove : ∀ {phase : Phase}, (∀ code, phase.readsRequest code = false) →
      { s with phase := phase }.Confined n limit := fun hphase => h.move hphase
  unfold advance at hadvance
  cases hphase : s.phase with
  | prepared =>
    simp only [hphase] at hadvance
    cases hadvance
    refine hkept rfl rfl ⟨h.fits, h.transferred, fun hreads => h.request ?_⟩
    rw [hphase]
    simp only at hreads
    split at hreads
    · exact hreads
    · cases hreads
  | queueFailed =>
    simp only [hphase] at hadvance
    cases hadvance
    have hreply := failQueueing_reply a.extension s.control s.command now
    refine ⟨fun s' hs' => absurd hs'.symm (Option.some_ne_none s'), fun r hr => ?_,
      fun e he => Or.inl he⟩
    rcases List.mem_append.mp hr with hr | hr
    · exact Or.inl hr
    · rw [List.mem_singleton.mp hr]
      exact Or.inr (hreply.dataTransferLength_le h.fits hn)
  | queued =>
    simp only [hphase] at hadvance
    split at hadvance
    · cases hadvance
      exact hkept rfl rfl ⟨h.fits, UInt32.le_iff_toNat_le.mpr (Nat.zero_le _), fun hreads => by
        cases hreads⟩
    · rename_i decoded hdecoded
      cases hadvance
      have heq := ControlRequest.fromSrb_toSrb_some hdecoded
      rw [heq]
      exact hkept rfl rfl
        ⟨h.fits, h.transferred, fun hreads => h.request (by rw [hphase]; exact hreads)⟩
  | takeFault =>
    simp only [hphase] at hadvance
    cases hadvance
    obtain ⟨_, hreturned, hhistory⟩ := beginWork_owner a s
    exact hkept hreturned (by rw [hhistory]) (beginWork_confined a h hn hphase)
  | rejectOperation =>
    simp only [hphase] at hadvance
    cases hadvance
    exact hkept rfl rfl (h.reply hn (failOperationLocked_reply _ _ _ _ _ _) fun _ => rfl)
  | snapshotPending =>
    simp only [hphase] at hadvance
    split at hadvance
    · rename_i control hmissing
      cases hadvance
      exact hkept rfl rfl (h.reply hn (snapshotPendingOperation_reply hmissing) fun _ => rfl)
    · cases hadvance
      exact hkept rfl rfl (hmove fun code => Phase.readsRequest_start code _)
  | publish work status created =>
    simp only [hphase] at hadvance
    cases hadvance
    unfold publish
    cases work with
    | legacyCreate request =>
      exact hkept rfl rfl (h.reply hn (ControlRequest.writeResponse_reply _ _ _ _) fun _ => rfl)
    | legacyDelete request =>
      exact hkept rfl rfl (h.reply hn (ControlRequest.writeResponse_reply _ _ _ _) fun _ => rfl)
    | reserved snapshot correlation =>
      exact hkept rfl rfl (h.reply hn (publishOperationResult_reply _ _ _ _ _) fun _ => rfl)
  | respond =>
    simp only [hphase] at hadvance
    cases hadvance
    refine hkept rfl rfl ⟨?_, ?_, fun hreads => by cases hreads⟩
    · unfold failTransport
      split <;> exact h.fits
    · unfold failTransport
      split <;> exact h.transferred
  | complete m =>
    simp only [hphase] at hadvance
    cases hadvance
    refine ⟨fun s' hs' => ?_, fun r hr => Or.inl hr, fun e he => ?_⟩
    · cases hs'
      refine hmove fun code => ?_
      split <;> rfl
    · rcases List.mem_append.mp he with he | he
      · exact Or.inl he
      · rw [List.mem_singleton.mp he]
        exact Or.inr h.transferred
  | endManagement =>
    simp only [hphase] at hadvance
    cases hadvance
    exact ⟨fun s' hs' => absurd hs'.symm (Option.some_ne_none s'), fun r hr => Or.inl hr,
      fun e he => Or.inl he⟩
  | selectLun | allocate | commit | markStopping | waitForLunIo =>
    simp only [hphase] at hadvance
    split at hadvance <;> cases hadvance <;> exact hkept rfl rfl (hmove fun _ => rfl)
  | zeroMemory | freeAllocation | detach | freePool | finalize | traceResponse | notifyBus =>
    simp only [hphase] at hadvance
    cases hadvance
    exact hkept rfl rfl (hmove fun _ => rfl)

end Adapter

end WispDisk
