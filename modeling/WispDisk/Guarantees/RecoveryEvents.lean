import WispDisk.Cli.Recovery
import WispDisk.Foundations.Counting
import WispDisk.Foundations.Transition

/-! The calls that `resolve_operation` makes, for every attempt and every number of calls: when it
submits again, when it queries, when it stops, and with what. -/
namespace WispDisk.Cli
open Counting Transition
set_option autoImplicit false

/-! ## Events -/

namespace RecoveryEvent

def reply? : RecoveryEvent → Option OperationResponse
  | submit (.ok reply) => some reply
  | query (.ok reply) => some reply
  | _ => none

def error? : RecoveryEvent → Option Error
  | submit (.error error) => some error
  | query (.error error) => some error
  | _ => none

def isSubmit : RecoveryEvent → Bool
  | submit _ => true
  | _ => false

def isQuery : RecoveryEvent → Bool
  | query _ => true
  | _ => false

def isWait : RecoveryEvent → Bool
  | wait _ => true
  | _ => false

end RecoveryEvent

section Events

variable (handle : OperationHandle) (mutation : ULONG)

/-- A reply with the operation's identity and the given state. -/
def Reports (event : RecoveryEvent) (reply : OperationResponse) (state : OperationState) : Prop :=
  event.reply? = some reply ∧
    reply.matchesOperation handle.adapterInstance handle.id mutation = true ∧
      reply.state = state.code

def TerminalRejection (error : Error) : Prop :=
  ∃ status, error.rejection? = some status ∧ isTerminal status = true

/-- The events that end the loop, with what it returns. -/
inductive Returns : RecoveryEvent → Except Error OperationResponse → Prop
  | rejected (error : Error) (h : TerminalRejection error) : Returns (.submit (.error error)) (.error error)
  | succeeded (event : RecoveryEvent) (reply : OperationResponse)
      (h : Reports handle mutation event reply .succeeded) (hresult : reply.resultStatus = 0) :
      Returns event (.ok reply)
  | failed (event : RecoveryEvent) (reply : OperationResponse)
      (h : Reports handle mutation event reply .failed) (hresult : reply.resultStatus < 0) :
      Returns event (.error (.driverRejection reply.resultStatus))
  | deleted (event : RecoveryEvent) (reply : OperationResponse) (text : String)
      (h : Reports handle mutation event reply .deleted) : Returns event (.error (.message text))
  | expired (errors : RecoveryErrors) :
      Returns (.wait false) (.error (errors.unresolved handle))

/-- The events after which nothing follows. -/
inductive Final : RecoveryEvent → Prop
  | rejected (error : Error) (h : TerminalRejection error) : Final (.submit (.error error))
  | succeeded (event : RecoveryEvent) (reply : OperationResponse)
      (h : Reports handle mutation event reply .succeeded) (hresult : reply.resultStatus = 0) :
      Final event
  | failed (event : RecoveryEvent) (reply : OperationResponse)
      (h : Reports handle mutation event reply .failed) (hresult : reply.resultStatus < 0) :
      Final event
  | deleted (event : RecoveryEvent) (reply : OperationResponse)
      (h : Reports handle mutation event reply .deleted) : Final event
  | expired : Final (.wait false)

end Events

variable {handle : OperationHandle} {mutation : ULONG}

theorem Returns.final {event : RecoveryEvent} {result : Except Error OperationResponse}
    (h : Returns handle mutation event result) : Final handle mutation event := by
  cases h with
  | rejected error h => exact Final.rejected error h
  | succeeded event reply h hresult => exact Final.succeeded event reply h hresult
  | failed event reply h hresult => exact Final.failed event reply h hresult
  | deleted event reply text h => exact Final.deleted event reply h
  | expired errors => exact Final.expired

/-! ## One call -/

/-- What `interpret` makes of a reply. -/
inductive Interpreted (handle : OperationHandle) (mutation : ULONG) (reply : OperationResponse) :
    Except Error RecoveryProgress → Prop
  | complete (hstate : reply.state = OperationState.succeeded.code)
      (hresult : reply.resultStatus = 0)
      (hmatch : reply.matchesOperation handle.adapterInstance handle.id mutation = true) :
      Interpreted handle mutation reply (.ok (.complete reply))
  | failed (hstate : reply.state = OperationState.failed.code) (hresult : reply.resultStatus < 0)
      (hmatch : reply.matchesOperation handle.adapterInstance handle.id mutation = true) :
      Interpreted handle mutation reply (.error (.driverRejection reply.resultStatus))
  | deleted (text : String) (hstate : reply.state = OperationState.deleted.code)
      (hmatch : reply.matchesOperation handle.adapterInstance handle.id mutation = true) :
      Interpreted handle mutation reply (.error (.message text))
  | reserved (hstate : reply.state = OperationState.reserved.code)
      (hmatch : reply.matchesOperation handle.adapterInstance handle.id mutation = true) :
      Interpreted handle mutation reply (.ok .reserved)
  | pending (hstate : reply.state = OperationState.pending.code) :
      Interpreted handle mutation reply (.ok .pending)
  | invalid (error : Error)
      (h : reply.matchesOperation handle.adapterInstance handle.id mutation = true →
        ¬(reply.state = OperationState.succeeded.code ∧ reply.resultStatus = 0) ∧
          ¬(reply.state = OperationState.failed.code ∧ reply.resultStatus < 0) ∧
            reply.state ≠ OperationState.deleted.code) :
      Interpreted handle mutation reply (.ok (.invalid error))

theorem interpret_spec (handle : OperationHandle) (mutation : ULONG) (reply : OperationResponse) :
    Interpreted handle mutation reply (handle.interpret reply mutation) := by
  unfold OperationHandle.interpret
  split
  · rename_i hmatch
    exact Interpreted.invalid _ fun h => by rw [hmatch] at h; cases h
  rename_i hmatch
  rw [Bool.not_eq_false] at hmatch
  split
  · rename_i h
    exact Interpreted.complete h.1 h.2 hmatch
  rename_i hsucceeded
  split
  · rename_i h
    exact Interpreted.failed h.1 h.2 hmatch
  rename_i hfailed
  split
  · rename_i h
    exact Interpreted.deleted _ h hmatch
  rename_i hdeleted
  split
  · rename_i h
    exact Interpreted.reserved h hmatch
  split
  · rename_i h
    exact Interpreted.pending h
  · exact Interpreted.invalid _ fun _ => ⟨hsucceeded, hfailed, hdeleted⟩

theorem recordSubmission_spec (errors : RecoveryErrors) (error : Error) :
    errors.recordSubmission error = .error error ∧ TerminalRejection error ∨
      errors.recordSubmission error = .ok { errors with submission := some error } ∧
        ¬TerminalRejection error := by
  have hterminal : error.rejection?.any isTerminal = true ↔ TerminalRejection error := by
    rw [Option.any_eq_true]
    exact exists_congr fun status => Iff.rfl
  unfold RecoveryErrors.recordSubmission
  split
  · rename_i h
    exact Or.inl ⟨rfl, hterminal.mp h⟩
  · rename_i h
    exact Or.inr ⟨rfl, fun hrejected => h (hterminal.mpr hrejected)⟩

def resolutionSystem (handle : OperationHandle) (mutation : ULONG) :
    System Resolution RecoveryEvent where
  initial r := r = .start
  step := Resolution.step handle mutation

/-- The calls of the loop with their answers. -/
inductive Called (handle : OperationHandle) (mutation : ULONG) :
    Resolution → RecoveryEvent → Resolution → Prop
  | rejected (errors : RecoveryErrors) (error : Error) (h : TerminalRejection error) :
      Called handle mutation (.submitting errors) (.submit (.error error)) (.returned (.error error))
  | ambiguous (errors : RecoveryErrors) (error : Error) (h : ¬TerminalRejection error) :
      Called handle mutation (.submitting errors) (.submit (.error error))
        (.querying { errors with submission := some error })
  | submitted (errors : RecoveryErrors) (reply : OperationResponse) :
      Called handle mutation (.submitting errors) (.submit (.ok reply))
        (Resolution.settle handle mutation errors (.ok reply))
  | queried (errors : RecoveryErrors) (current : Except Error OperationResponse) :
      Called handle mutation (.querying errors) (.query current)
        (Resolution.settle handle mutation errors current)
  | waited (action : RecoveryAction) (errors : RecoveryErrors) :
      Called handle mutation (.waiting action errors) (.wait true) (Resolution.next errors action)
  | expired (action : RecoveryAction) (errors : RecoveryErrors) :
      Called handle mutation (.waiting action errors) (.wait false)
        (.returned (.error (errors.unresolved handle)))

theorem step_called {r r' : Resolution} {event : RecoveryEvent}
    (h : (resolutionSystem handle mutation).step r event = some r') :
    Called handle mutation r event r' := by
  unfold resolutionSystem Resolution.step at h
  simp only at h
  split at h
  · cases h
    exact Called.submitted _ _
  · rename_i errors error
    rcases recordSubmission_spec errors error with ⟨heq, hrejected⟩ | ⟨heq, hambiguous⟩
    · simp only [heq, Option.some.injEq] at h
      exact h ▸ Called.rejected errors error hrejected
    · simp only [heq, Option.some.injEq] at h
      exact h ▸ Called.ambiguous errors error hambiguous
  · cases h
    exact Called.queried _ _
  · cases h
    exact Called.waited _ _
  · cases h
    exact Called.expired _ _
  · cases h

/-- What a reply or a failed query leads to. -/
inductive Settled (handle : OperationHandle) (mutation : ULONG) (event : RecoveryEvent) :
    Resolution → Prop
  | returned (result : Except Error OperationResponse) (h : Returns handle mutation event result)
      (hwait : ∀ again, event ≠ .wait again) : Settled handle mutation event (.returned result)
  | reserved (errors : RecoveryErrors) (reply : OperationResponse)
      (h : Reports handle mutation event reply .reserved) :
      Settled handle mutation event (.waiting .submit errors)
  | unsettled (errors : RecoveryErrors) (h : ¬Final handle mutation event) :
      Settled handle mutation event (.waiting .query errors)

theorem not_final {event : RecoveryEvent} {current : Except Error OperationResponse}
    (hevent : event = .submit current ∨ event = .query current)
    (hreply : ∀ reply, event.reply? = some reply → current = .ok reply)
    (hrejected : ∀ error, event ≠ .submit (.error error))
    (h : ∀ reply, current = .ok reply →
      reply.matchesOperation handle.adapterInstance handle.id mutation = true →
        ¬(reply.state = OperationState.succeeded.code ∧ reply.resultStatus = 0) ∧
          ¬(reply.state = OperationState.failed.code ∧ reply.resultStatus < 0) ∧
            reply.state ≠ OperationState.deleted.code) : ¬Final handle mutation event := by
  intro hfinal
  cases hfinal with
  | rejected error _ => exact hrejected error rfl
  | succeeded _ reply hreports hresult =>
    exact (h reply (hreply reply hreports.1) hreports.2.1).1 ⟨hreports.2.2, hresult⟩
  | failed _ reply hreports hresult =>
    exact (h reply (hreply reply hreports.1) hreports.2.1).2.1 ⟨hreports.2.2, hresult⟩
  | deleted _ reply hreports =>
    exact (h reply (hreply reply hreports.1) hreports.2.1).2.2 hreports.2.2
  | expired => rcases hevent with h | h <;> cases h

theorem settle_reply {event : RecoveryEvent} {reply : OperationResponse}
    (hevent : event = .submit (.ok reply) ∨ event = .query (.ok reply)) (errors : RecoveryErrors) :
    Settled handle mutation event (Resolution.settle handle mutation errors (.ok reply)) := by
  have hreply : event.reply? = some reply := by
    rcases hevent with rfl | rfl <;> rfl
  have hwait : ∀ again, event ≠ .wait again := fun again heq => by
    rw [heq] at hreply
    cases hreply
  have hopen (h : reply.matchesOperation handle.adapterInstance handle.id mutation = true →
        ¬(reply.state = OperationState.succeeded.code ∧ reply.resultStatus = 0) ∧
          ¬(reply.state = OperationState.failed.code ∧ reply.resultStatus < 0) ∧
            reply.state ≠ OperationState.deleted.code) : ¬Final handle mutation event := by
    refine not_final hevent (fun reply' heq => ?_) (fun error heq => ?_) fun reply' heq => ?_
    · rw [Option.some.inj (hreply.symm.trans heq)]
    · rw [heq] at hreply
      cases hreply
    · cases heq
      exact h
  have hspec := interpret_spec handle mutation reply
  unfold Resolution.settle
  simp only
  generalize handle.interpret reply mutation = interpreted at hspec
  cases hspec with
  | complete hstate hresult hmatch =>
    exact Settled.returned _ (Returns.succeeded event reply ⟨hreply, hmatch, hstate⟩ hresult) hwait
  | failed hstate hresult hmatch =>
    exact Settled.returned _ (Returns.failed event reply ⟨hreply, hmatch, hstate⟩ hresult) hwait
  | deleted text hstate hmatch =>
    exact Settled.returned _ (Returns.deleted event reply text ⟨hreply, hmatch, hstate⟩) hwait
  | reserved hstate hmatch => exact Settled.reserved errors reply ⟨hreply, hmatch, hstate⟩
  | pending hstate =>
    refine Settled.unsettled errors (hopen fun _ => ?_)
    rw [hstate]
    exact ⟨fun h => absurd h.1 (by decide), fun h => absurd h.1 (by decide), by decide⟩
  | invalid error h => exact Settled.unsettled _ (hopen h)

theorem settle_query (errors : RecoveryErrors) (current : Except Error OperationResponse) :
    Settled handle mutation (.query current)
      (Resolution.settle handle mutation errors current) := by
  cases current with
  | ok reply => exact settle_reply (Or.inr rfl) errors
  | error error =>
    exact Settled.unsettled _
      (not_final (Or.inr rfl) (fun _ h => by cases h) (fun _ h => by cases h) fun _ h => by cases h)

/-! ## The calls so far -/

/-- What led to a point of the loop. -/
def Trail (handle : OperationHandle) (mutation : ULONG) (events : List RecoveryEvent) :
    Resolution → Prop
  | .submitting _ => events = [] ∨ ∃ pre event reply,
      events = pre ++ [event, .wait true] ∧ Reports handle mutation event reply .reserved
  | .querying _ => events ≠ []
  | .waiting action _ => ∃ pre event, events = pre ++ [event] ∧ ¬Final handle mutation event ∧
      (action = .submit → ∃ reply, Reports handle mutation event reply .reserved)
  | .returned result => ∃ pre event, events = pre ++ [event] ∧ Returns handle mutation event result

theorem Reports.not_final {event : RecoveryEvent} {reply : OperationResponse}
    (h : Reports handle mutation event reply .reserved) : ¬Final handle mutation event := by
  have hother : ∀ reply' state, Reports handle mutation event reply' state → state = .reserved :=
    fun reply' state h' => by
      have heq := Option.some.inj (h'.1.symm.trans h.1)
      exact OperationState.code_injective (h'.2.2.symm.trans (heq ▸ h.2.2))
  intro hfinal
  cases hfinal with
  | rejected error _ => exact nomatch h.1
  | succeeded _ reply' h' _ => exact nomatch hother reply' _ h'
  | failed _ reply' h' _ => exact nomatch hother reply' _ h'
  | deleted _ reply' h' => exact nomatch hother reply' _ h'
  | expired => exact nomatch h.1

theorem Settled.trail {event : RecoveryEvent} {r : Resolution}
    (h : Settled handle mutation event r) (events : List RecoveryEvent) :
    Trail handle mutation (events ++ [event]) r := by
  cases h with
  | returned result h => exact ⟨events, event, rfl, h⟩
  | reserved errors reply h => exact ⟨events, event, rfl, h.not_final, fun _ => ⟨reply, h⟩⟩
  | unsettled errors h => exact ⟨events, event, rfl, h, nofun⟩

theorem trail {events : List RecoveryEvent} {r : Resolution}
    (h : run (resolutionSystem handle mutation) .start events = some r) :
    Trail handle mutation events r := by
  have hbase : Trail handle mutation [] .start := Or.inl rfl
  refine run_invariant hbase (fun as a u v hu hs => ?_) h
  cases step_called hs with
  | rejected errors error hrejected => exact ⟨as, _, rfl, Returns.rejected error hrejected⟩
  | ambiguous errors error _ => exact List.append_ne_nil_of_right_ne_nil _ (List.cons_ne_nil _ _)
  | submitted errors reply => exact (settle_reply (Or.inl rfl) errors).trail as
  | queried errors current => exact (settle_query errors current).trail as
  | waited action errors =>
    obtain ⟨pre, event, rfl, _, hreserved⟩ := hu
    cases action with
    | submit =>
      obtain ⟨reply, hreply⟩ := hreserved rfl
      exact Or.inr ⟨pre, event, reply, by simp, hreply⟩
    | query => exact List.append_ne_nil_of_right_ne_nil _ (List.cons_ne_nil _ _)
  | expired action errors => exact ⟨as, _, rfl, Returns.expired errors⟩

/-- Submissions and queries are at most one for each wait, and one for the turn that runs. -/
def Paced (events : List RecoveryEvent) (r : Resolution) : Prop :=
  let submits := events.countP RecoveryEvent.isSubmit
  let queries := events.countP RecoveryEvent.isQuery
  let waits := events.countP RecoveryEvent.isWait
  match r with
  | .submitting _ => submits ≤ waits ∧ queries ≤ waits
  | .querying _ => submits ≤ waits + 1 ∧ queries ≤ waits
  | .waiting _ _ => submits ≤ waits + 1 ∧ queries ≤ waits + 1
  | .returned _ => submits ≤ waits + 1 ∧ queries ≤ waits + 1

theorem Settled.paced {event : RecoveryEvent} {r : Resolution} {events : List RecoveryEvent}
    (h : Settled handle mutation event r)
    (hsubmits : (events ++ [event]).countP RecoveryEvent.isSubmit ≤
      (events ++ [event]).countP RecoveryEvent.isWait + 1)
    (hqueries : (events ++ [event]).countP RecoveryEvent.isQuery ≤
      (events ++ [event]).countP RecoveryEvent.isWait + 1) : Paced (events ++ [event]) r := by
  cases h with
  | returned | reserved | unsettled => exact ⟨hsubmits, hqueries⟩

theorem paced {events : List RecoveryEvent} {r : Resolution}
    (h : run (resolutionSystem handle mutation) .start events = some r) : Paced events r := by
  have hbase : Paced [] .start := ⟨Nat.le_refl 0, Nat.le_refl 0⟩
  refine run_invariant hbase (fun as a u v hu hs => ?_) h
  cases step_called hs with
  | rejected errors error | ambiguous errors error =>
    obtain ⟨hsubmits, hqueries⟩ := hu
    simp only [Paced, countP_snoc, RecoveryEvent.isSubmit, RecoveryEvent.isQuery,
      RecoveryEvent.isWait, if_true, Bool.false_eq_true, if_false]
    omega
  | submitted errors reply =>
    obtain ⟨hsubmits, hqueries⟩ := hu
    refine (settle_reply (Or.inl rfl) errors).paced ?_ ?_ <;>
      simp only [countP_snoc, RecoveryEvent.isSubmit, RecoveryEvent.isQuery,
        RecoveryEvent.isWait, if_true, Bool.false_eq_true, if_false] <;> omega
  | queried errors current =>
    obtain ⟨hsubmits, hqueries⟩ := hu
    refine (settle_query errors current).paced ?_ ?_ <;>
      simp only [countP_snoc, RecoveryEvent.isSubmit, RecoveryEvent.isQuery,
        RecoveryEvent.isWait, if_true, Bool.false_eq_true, if_false] <;> omega
  | waited action errors =>
    obtain ⟨hsubmits, hqueries⟩ := hu
    cases action <;>
      simp only [Paced, Resolution.next, countP_snoc, RecoveryEvent.isSubmit,
        RecoveryEvent.isQuery, RecoveryEvent.isWait, if_true, Bool.false_eq_true, if_false] <;>
      omega
  | expired action errors =>
    obtain ⟨hsubmits, hqueries⟩ := hu
    simp only [Paced, countP_snoc, RecoveryEvent.isSubmit, RecoveryEvent.isQuery,
      RecoveryEvent.isWait, if_true, Bool.false_eq_true, if_false]
    omega

/-- After a last event the loop makes no call. -/
theorem returned_of_final {r r' : Resolution} {event : RecoveryEvent}
    (hs : (resolutionSystem handle mutation).step r event = some r')
    (h : Final handle mutation event) :
    ∃ result, r' = .returned result := by
  have hsettled : ∀ {r : Resolution}, Settled handle mutation event r →
      ∃ result, r = .returned result := fun hr => by
    cases hr with
    | returned result _ => exact ⟨result, rfl⟩
    | reserved errors reply hreserved => exact absurd h hreserved.not_final
    | unsettled errors hopen => exact absurd h hopen
  cases step_called hs with
  | rejected errors error => exact ⟨_, rfl⟩
  | ambiguous errors error hopen =>
    cases h with
    | rejected _ hrejected => exact absurd hrejected hopen
    | succeeded _ reply hreports => exact nomatch hreports.1
    | failed _ reply hreports => exact nomatch hreports.1
    | deleted _ reply hreports => exact nomatch hreports.1
  | submitted errors reply => exact hsettled (settle_reply (Or.inl rfl) errors)
  | queried errors current => exact hsettled (settle_query errors current)
  | waited action errors =>
    cases h with
    | succeeded _ reply hreports => exact nomatch hreports.1
    | failed _ reply hreports => exact nomatch hreports.1
    | deleted _ reply hreports => exact nomatch hreports.1
  | expired action errors => exact ⟨_, rfl⟩

theorem returned_stops {result : Except Error OperationResponse} {events : List RecoveryEvent}
    {r : Resolution}
    (h : run (resolutionSystem handle mutation) (.returned result) events = some r) :
    events = [] ∧ r = .returned result := by
  cases events with
  | nil => exact ⟨rfl, (Option.some.inj h).symm⟩
  | cons event events =>
    obtain ⟨v, hv, _⟩ := Option.bind_eq_some_iff.mp h
    cases step_called hv

/-! ## Attempts -/

theorem calls_run {τ : Type} (attempt : RecoveryAttempt τ) (handle : OperationHandle)
    (mutation : ULONG) (n : ℕ) (t : τ) (r : Resolution) :
    run (resolutionSystem handle mutation) r (attempt.calls handle mutation n t r).1 =
      some (attempt.calls handle mutation n t r).2 := by
  induction n generalizing t r with
  | zero => rfl
  | succ n ih =>
    unfold RecoveryAttempt.calls
    split
    · rfl
    · rename_i event t' hcall
      split
      · rfl
      · rename_i r' hstep
        simp only [run, resolutionSystem, hstep, Option.bind_some]
        exact ih t' r'

theorem call_enabled {τ : Type} (attempt : RecoveryAttempt τ) (handle : OperationHandle)
    (mutation : ULONG) {t : τ} {r : Resolution}
    {event : RecoveryEvent} {t' : τ} (h : attempt.call t r = some (event, t')) :
    ∃ r', r.step handle mutation event = some r' := by
  cases r with
  | submitting errors =>
    cases h
    cases (attempt.submit t).1 with
    | ok reply => exact ⟨_, rfl⟩
    | error error =>
      rcases recordSubmission_spec errors error with ⟨heq, _⟩ | ⟨heq, _⟩ <;>
        simp only [Resolution.step, heq] <;> exact ⟨_, rfl⟩
  | querying errors =>
    cases h
    exact ⟨_, rfl⟩
  | waiting action errors =>
    cases h
    cases (attempt.waitForRetry t).1 <;> exact ⟨_, rfl⟩
  | returned result => cases h

theorem calls_length {τ : Type} (attempt : RecoveryAttempt τ) (handle : OperationHandle)
    (mutation : ULONG) (n : ℕ) (t : τ) (r : Resolution) :
    (attempt.calls handle mutation n t r).1.length = n ∨
      ∃ result, (attempt.calls handle mutation n t r).2 = .returned result := by
  induction n generalizing t r with
  | zero => exact Or.inl rfl
  | succ n ih =>
    unfold RecoveryAttempt.calls
    split
    · rename_i hcall
      cases r with
      | returned result => exact Or.inr ⟨result, rfl⟩
      | submitting | querying | waiting => cases hcall
    · rename_i event t' hcall
      obtain ⟨r', hstep⟩ := call_enabled attempt handle mutation hcall
      simp only [hstep]
      exact (ih t' r').imp (fun hlength => congrArg (· + 1) hlength) id

/-! ## Discipline -/

/-- The calls `events` of the loop, which they have led to `r`. -/
structure RecoveryDiscipline (handle : OperationHandle) (mutation : ULONG)
    (events : List RecoveryEvent) (r : Resolution) : Prop where
  first : ∀ event rest, events = event :: rest → ∃ result, event = .submit result
  /-- Between two submissions there is a Reserved reply and then a wait. -/
  resubmitted : ∀ pre result post, pre ≠ [] → events = pre ++ .submit result :: post →
    ∃ pre' event reply, pre = pre' ++ [event, .wait true] ∧
      Reports handle mutation event reply .reserved
  queried : ∀ pre error post, events = pre ++ .submit (.error error) :: post →
    ¬TerminalRejection error →
      (∃ result rest, post = .query result :: rest) ∨ post = [] ∧ ∃ errors, r = .querying errors
  stopped : ∀ pre event post, events = pre ++ event :: post → Final handle mutation event →
    post = [] ∧ ∃ result, r = .returned result
  /-- When the `k`-th wait expires, there have been at most `k` submissions and `k` queries. -/
  paced : ∀ pre post, events = pre ++ .wait false :: post →
    events.countP RecoveryEvent.isSubmit ≤ events.countP RecoveryEvent.isWait ∧
      events.countP RecoveryEvent.isQuery ≤ events.countP RecoveryEvent.isWait
  /-- Nothing else ends the loop. -/
  ended : ∀ result, r = .returned result → ∃ pre event, events = pre ++ [event] ∧
    Final handle mutation event
  succeeded : ∀ reply, r = .returned (.ok reply) → ∃ pre event, events = pre ++ [event] ∧
    Reports handle mutation event reply .succeeded ∧ reply.resultStatus = 0
  unresolved : (∀ event ∈ events, ∀ error, event.error? = some error → error.unresolved? = none) →
    ∀ error, r = .returned (.error error) →
      (error.unresolved? = some handle ↔ ∃ pre, events = pre ++ [.wait false])

theorem Returns.unresolved {event : RecoveryEvent} {error : Error}
    (h : Returns handle mutation event (.error error))
    (hfree : ∀ error, event.error? = some error → error.unresolved? = none) :
    error.unresolved? = some handle ↔ event = .wait false := by
  generalize hresult : (Except.error error : Except Error OperationResponse) = result at h
  cases h with
  | rejected error' _ =>
    cases hresult
    refine ⟨fun h => ?_, nofun⟩
    cases (hfree error rfl).symm.trans h
  | succeeded event reply _ _ => cases hresult
  | failed event reply hreports _ =>
    cases hresult
    exact ⟨nofun, fun heq => by rw [heq] at hreports; exact nomatch hreports.1⟩
  | deleted event reply text hreports =>
    cases hresult
    exact ⟨nofun, fun heq => by rw [heq] at hreports; exact nomatch hreports.1⟩
  | expired errors =>
    cases hresult
    exact ⟨fun _ => rfl, fun _ => rfl⟩

theorem discipline {events : List RecoveryEvent} {r : Resolution}
    (h : run (resolutionSystem handle mutation) .start events = some r) :
    RecoveryDiscipline handle mutation events r := by
  have hstopped : ∀ pre event post, events = pre ++ event :: post →
      Final handle mutation event → post = [] ∧ ∃ result, r = .returned result := by
    rintro pre event post rfl hfinal
    obtain ⟨u, v, _, hv, hrest⟩ := run_split h
    obtain ⟨result, rfl⟩ := returned_of_final hv hfinal
    exact (returned_stops hrest).imp_right fun heq => ⟨result, heq⟩
  refine ⟨fun event rest heq => ?_, fun pre result post hpre heq => ?_,
    fun pre error post heq hopen => ?_, hstopped, fun pre post heq => ?_, fun result heq => ?_,
    fun reply heq => ?_, fun hfree error heq => ?_⟩
  · subst heq
    obtain ⟨v, hv, _⟩ := Option.bind_eq_some_iff.mp h
    cases step_called hv <;> exact ⟨_, rfl⟩
  · subst heq
    obtain ⟨u, v, hu, hv, _⟩ := run_split h
    have htrail := trail hu
    cases step_called hv <;> exact htrail.resolve_left hpre
  · subst heq
    obtain ⟨u, v, _, hv, hrest⟩ := run_split h
    cases step_called hv with
    | rejected errors _ hrejected => exact absurd hrejected hopen
    | ambiguous errors _ _ =>
      cases post with
      | nil => exact Or.inr ⟨rfl, _, (Option.some.inj hrest).symm⟩
      | cons event rest =>
        obtain ⟨w, hw, _⟩ := Option.bind_eq_some_iff.mp hrest
        cases step_called hw
        exact Or.inl ⟨_, _, rfl⟩
  · obtain ⟨rfl, _⟩ := hstopped pre _ post heq Final.expired
    subst heq
    obtain ⟨u, v, hu, hv, _⟩ := run_split h
    have hpaced := paced hu
    cases step_called hv
    obtain ⟨hsubmits, hqueries⟩ := hpaced
    simp only [countP_snoc, RecoveryEvent.isSubmit, RecoveryEvent.isQuery, RecoveryEvent.isWait,
      if_true, Bool.false_eq_true, if_false]
    omega
  · subst heq
    obtain ⟨pre, event, heq, hreturns⟩ := trail h
    exact ⟨pre, event, heq, hreturns.final⟩
  · subst heq
    obtain ⟨pre, event, heq, hreturns⟩ := trail h
    cases hreturns with
    | succeeded _ _ hreports hresult => exact ⟨pre, event, heq, hreports, hresult⟩
  · subst heq
    obtain ⟨pre, event, heq, hreturns⟩ := trail h
    have hmem : event ∈ events := by
      rw [heq]
      exact List.mem_append_right pre (List.mem_singleton_self event)
    rw [hreturns.unresolved (hfree event hmem)]
    constructor
    · rintro rfl
      exact ⟨pre, heq⟩
    · rintro ⟨pre', heq'⟩
      exact (List.append_singleton_inj.mp (heq.symm.trans heq')).2

/-- The calls of `resolve_operation` on any attempt: it makes one after another until it returns,
and they keep the discipline. -/
theorem recovery_discipline {τ : Type} (attempt : RecoveryAttempt τ) (handle : OperationHandle)
    (mutation : ULONG) (n : ℕ) (t : τ) :
    ((attempt.resolveOperation handle mutation n t).1.length = n ∨
      ∃ result, (attempt.resolveOperation handle mutation n t).2 = .returned result) ∧
    RecoveryDiscipline handle mutation (attempt.resolveOperation handle mutation n t).1
      (attempt.resolveOperation handle mutation n t).2 :=
  ⟨calls_length attempt handle mutation n t .start,
    discipline (calls_run attempt handle mutation n t .start)⟩

end WispDisk.Cli
