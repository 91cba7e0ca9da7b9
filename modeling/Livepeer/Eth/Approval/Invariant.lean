import Livepeer.Eth.Approval.Moves

/-! The invariant of one Bond or Deposit call, kept by every move of every party. It ties
the history fields to the program counters: Approve's goroutine takes one log from
`logsCh`, hands that same log to Bond's goroutine, and only then closes `inRes` and
`inErr`; so Bond's goroutine never reads a closed `inRes` or `inErr`, and it submits only
after the log it was handed is a non-removed one the subscription's filter let through. -/
namespace Livepeer.Eth
open Livepeer.Go

def ApproverPc.handed : ApproverPc → Bool
  | .closingRes | .closingErr | .exited => true
  | _ => false

def ApproverPc.holding : ApproverPc → Option Log
  | .closingLogs log | .unsubscribing log | .sending log => some log
  | _ => none

structure Op.Inv (c : Client) (o : Op) : Prop where
  queued : ∀ l ∈ o.queue, (approvalQuery c).matches l
  grantedMatches : ∀ l, o.granted = some l → (approvalQuery c).matches l
  holding : ∀ l, o.approver.holding = some l → o.granted = some l
  observedGranted : ∀ l, o.observed = some l → o.granted = some l
  unobserved : o.worker = .idle ∨ o.worker = .selecting → o.observed = none
  handed : o.observed.isSome = o.approver.handed
  resClosed : o.inResClosed = true → o.approver = .closingErr ∨ o.approver = .exited
  errClosed : o.inErrClosed = true → o.approver = .exited
  submitting : o.worker = .submitting → ∃ l, o.observed = some l ∧ l.removed = false
  submitted : o.submitted = true → ∃ l, o.observed = some l ∧ l.removed = false
  started : o.worker ≠ .idle → o.caller = .returned

namespace Op

variable {c : Client} {call : Call} {chain : List Log} {o o' : Op}

theorem inv_init : ({} : Op).Inv c :=
  ⟨by simp,by simp,by simp [ApproverPc.holding],by simp,by simp,rfl,by simp,by simp,by simp,by simp,
    by simp⟩

theorem Inv.idle (inv : o.Inv c) (early : o.caller ≠ .returned) : o.worker = .idle :=
  Classical.byContradiction fun busy => early (inv.started busy)

theorem Inv.unhanded (inv : o.Inv c) (none_ : o.observed = none) : o.approver.handed = false := by
  rw [← inv.handed,none_]
  rfl

theorem Inv.unobserved_of (inv : o.Inv c) (unhanded : o.approver.handed = false) :
    o.observed = none := by
  simpa [unhanded] using inv.handed

theorem Inv.resOpen (inv : o.Inv c) (unhanded : o.approver.handed = false) : o.inResClosed = false := by
  cases closed : o.inResClosed
  · rfl
  · rcases inv.resClosed closed with at_ | at_ <;> simp [at_,ApproverPc.handed] at unhanded

theorem Inv.errOpen (inv : o.Inv c) (unhanded : o.approver.handed = false) : o.inErrClosed = false := by
  cases closed : o.inErrClosed
  · rfl
  · simp [inv.errClosed closed,ApproverPc.handed] at unhanded

/-- Bond's goroutine moved on from a started program counter to one past the select and
the submission, touching only its own channels, the timer and the submission record. -/
theorem Inv.workerPast (inv : o.Inv c) (busy : o.worker ≠ .idle) (w : WorkerPc)
    (past : w ≠ .idle ∧ w ≠ .selecting ∧ w ≠ .submitting) (t : Timer) (r : List Outcome)
    (resClosed errClosed done : Bool)
    (valid : done = true → ∃ l, o.observed = some l ∧ l.removed = false) :
    ({o with worker := w, timer := t, received := r, outResClosed := resClosed,
             outErrClosed := errClosed, submitted := done} : Op).Inv c :=
  { inv with
    unobserved := fun at_ => by rcases at_ with at_ | at_ <;> simp_all
    submitting := fun at_ => absurd at_ past.2.2
    submitted := valid
    started := fun _ => inv.started busy }

theorem Inv.moves (inv : o.Inv c) (moved : Moves c call chain o o') : o'.Inv c := by
  cases moved with
  | subscribeFails err at_ | approveFails err at_ =>
    exact { inv with started := fun busy => absurd (inv.idle (by simp [at_])) busy }
  | subscribed at_ => exact { inv with started := fun busy => absurd (inv.idle (by simp [at_])) busy }
  | approved at_ =>
    have none_ := inv.unobserved (.inl (inv.idle (by simp [at_])))
    have unhanded := inv.unhanded none_
    exact { inv with
      holding := by simp [ApproverPc.holding]
      unobserved := fun _ => none_
      handed := by simp [none_,ApproverPc.handed]
      resClosed := by simp [inv.resOpen unhanded]
      errClosed := by simp [inv.errOpen unhanded]
      submitting := by simp
      started := fun _ => rfl }
  | notify log active matching mined =>
    exact { inv with
      queued := by
        simp only [List.mem_append,List.mem_singleton]
        rintro l (mem | rfl)
        exacts [inv.queued l mem,matching] }
  | forward log rest queued open_ at_ =>
    have unhanded : o.approver.handed = false := by simp [at_,ApproverPc.handed]
    exact { inv with
      queued := fun l mem => inv.queued l (by simp [queued,mem])
      grantedMatches := by simpa using inv.queued log (by simp [queued])
      holding := by simp [ApproverPc.holding]
      observedGranted := by simp [inv.unobserved_of unhanded]
      handed := by simp [inv.unobserved_of unhanded,ApproverPc.handed]
      resClosed := by simp [inv.resOpen unhanded]
      errClosed := by simp [inv.errOpen unhanded] }
  | closeLogs log at_ open_ =>
    have unhanded : o.approver.handed = false := by simp [at_,ApproverPc.handed]
    exact { inv with
      holding := fun l held => inv.holding l (by simpa [at_,ApproverPc.holding] using held)
      handed := by simp [inv.unobserved_of unhanded,ApproverPc.handed]
      resClosed := by simp [inv.resOpen unhanded]
      errClosed := by simp [inv.errOpen unhanded] }
  | unsubscribe log at_ =>
    have unhanded : o.approver.handed = false := by simp [at_,ApproverPc.handed]
    exact { inv with
      queued := by simp
      holding := fun l held => inv.holding l (by simpa [at_,ApproverPc.holding] using held)
      handed := by simp [inv.unobserved_of unhanded,ApproverPc.handed]
      resClosed := by simp [inv.resOpen unhanded]
      errClosed := by simp [inv.errOpen unhanded] }
  | hand log at_ waiting open_ =>
    have granted := inv.holding log (by simp [at_,ApproverPc.holding])
    have none_ := inv.unobserved (.inr waiting)
    have unhanded : o.approver.handed = false := by simp [at_,ApproverPc.handed]
    exact { inv with
      holding := by simp [ApproverPc.holding]
      observedGranted := by simpa using granted
      unobserved := by split <;> simp
      handed := by simp [ApproverPc.handed]
      resClosed := by simp [open_]
      errClosed := by simp [inv.errOpen unhanded]
      submitting := by split <;> simp_all
      submitted := fun done => by simpa [none_] using inv.submitted done
      started := fun _ => inv.started (by simp [waiting]) }
  | closeInRes at_ open_ =>
    exact { inv with
      holding := by simp [ApproverPc.holding]
      handed := by simpa [at_,ApproverPc.handed] using inv.handed
      resClosed := by simp
      errClosed := fun closed => absurd (at_.symm.trans (inv.errClosed closed)) (by decide) }
  | closeInErr at_ open_ =>
    exact { inv with
      holding := by simp [ApproverPc.holding]
      handed := by simpa [at_,ApproverPc.handed] using inv.handed
      resClosed := by simp
      errClosed := by simp }
  | fire armed => exact { inv with }
  | selectClosedRes at_ closed | selectClosedErr at_ closed =>
    have unhanded := inv.unhanded (inv.unobserved (.inr at_))
    simp [inv.resOpen unhanded,inv.errOpen unhanded] at closed
  | selectTimer at_ fired =>
    exact inv.workerPast (by simp [at_]) _ (by simp) _ _ _ _ _ inv.submitted
  | submitFails err at_ | submitted tx at_ =>
    exact inv.workerPast (by simp [at_]) _ (by simp) _ _ _ _ _ fun _ => inv.submitting at_
  | polled tx now turn result at_ done =>
    cases result <;> exact inv.workerPast (by simp [at_]) _ (by simp) _ _ _ _ _ inv.submitted
  | pollAgain tx now turn at_ again | deliverErr err at_ _ | deliverRes r at_ _ | closeOutErr at_ _
    | closeOutRes at_ _ =>
    exact inv.workerPast (by simp [at_]) _ (by simp) _ _ _ _ _ inv.submitted

end Op

end Livepeer.Eth
