import Livepeer.Eth.Approval.Runs

/-! The channels of the approval chain over whole runs: each is closed exactly when the
goroutine that owns it has run its close, so the client's goroutines never send on or close
a closed channel. On a client NewClient built, the only panics left are the subscription's
send on the `logsCh` Approve's goroutine closed, and a dependent transaction sent through a
nil session. -/
namespace Livepeer.Eth
open Livepeer.Go

def ApproverPc.logsClosed : ApproverPc → Bool
  | .unsubscribing _ | .sending _ | .closingRes | .closingErr | .exited => true
  | _ => false

/-- The channel discipline of one call: `logsCh`, `outErr` and `outRes` are closed exactly
when their closes have run; nothing has started before the caller returns; the caller has
at most one outcome, and none before Bond's goroutine is past its send. -/
structure Op.Closed (o : Op) : Prop where
  unstarted : o.caller ≠ .returned → o.approver = .idle
  logs : o.logsClosed = o.approver.logsClosed
  outErr : o.outErrClosed = o.worker.errClosed
  outRes : o.outResClosed = o.worker.resClosed
  received : o.received.length ≤ if o.worker.delivered then 1 else 0

namespace Op

variable {c : Client} {call : Call} {chain : List Log} {o o' : Op}

theorem closed_init : ({} : Op).Closed := ⟨fun _ => rfl,rfl,rfl,rfl,by simp⟩

theorem Closed.unreceived (closed : o.Closed) (before : o.worker.delivered = false) : o.received = [] := by
  simpa [before] using closed.received

theorem Closed.approverMoved (closed : o.Closed) (busy : o.approver ≠ .idle) (a : ApproverPc)
    (logsClosed : Bool) (logs : logsClosed = a.logsClosed) (q : List Log) (subscribed : Bool)
    (granted : Option Log) (resClosed errClosed : Bool) :
    ({o with approver := a, logsClosed := logsClosed, queue := q, subscribed := subscribed, granted := granted,
             inResClosed := resClosed, inErrClosed := errClosed} : Op).Closed :=
  { closed with unstarted := fun early => absurd (closed.unstarted early) busy, logs := logs }

theorem Closed.beforeSend (closed : o.Closed) (before : o.worker.delivered = false ∧ o.worker.errClosed = false ∧
    o.worker.resClosed = false) (w : WorkerPc) (after : w.delivered = false ∧ w.errClosed = false ∧
    w.resClosed = false) (t : Timer) (observed : Option Log) (done : Bool) :
    ({o with worker := w, timer := t, observed := observed, submitted := done} : Op).Closed :=
  { closed with
    outErr := by simp [closed.outErr,before.2.1,after.2.1]
    outRes := by simp [closed.outRes,before.2.2,after.2.2]
    received := by simp [closed.unreceived before.1] }

theorem Closed.moves (closed : o.Closed) (inv : o.Inv c) (moved : Moves c call chain o o') : o'.Closed := by
  have logs := closed.logs
  cases moved with
  | subscribeFails _ at_ | subscribed at_ | approveFails _ at_ =>
    exact { closed with unstarted := fun _ => closed.unstarted (by simp [at_]) }
  | approved at_ =>
    have fresh := closed.unstarted (by simp [at_])
    have idle := inv.idle (by simp [at_])
    exact ⟨fun returned => absurd rfl returned,by simp [logs,fresh,ApproverPc.logsClosed],
      by simp [closed.outErr,idle,WorkerPc.errClosed],by simp [closed.outRes,idle,WorkerPc.resClosed],
      by simp [closed.unreceived (by simp [idle,WorkerPc.delivered])]⟩
  | notify | fire => exact { closed with }
  | forward _ _ _ open_ at_ =>
    exact closed.approverMoved (by simp [at_]) _ _ (by simp [open_,ApproverPc.logsClosed]) _ _ _ _ _
  | closeLogs _ at_ =>
    exact closed.approverMoved (by simp [at_]) _ _ (by simp [ApproverPc.logsClosed]) _ _ _ _ _
  | unsubscribe _ at_ | closeInRes at_ | closeInErr at_ =>
    exact closed.approverMoved (by simp [at_]) _ _ (by simp [logs,at_,ApproverPc.logsClosed]) _ _ _ _ _
  | hand log at_ waiting =>
    cases log.removed <;>
      exact ⟨fun early => absurd (closed.unstarted early) (by simp [at_]),by simp [logs,at_,ApproverPc.logsClosed],
        by simp [closed.outErr,waiting,WorkerPc.errClosed],
        by simp [closed.outRes,waiting,WorkerPc.resClosed],
        by simp [closed.unreceived (by simp [waiting,WorkerPc.delivered])]⟩
  | selectClosedRes at_ | selectClosedErr at_ | selectTimer at_ | submitFails _ at_ | submitted _ at_
    | pollAgain _ _ _ at_ =>
    exact closed.beforeSend (by simp [at_,WorkerPc.delivered,WorkerPc.errClosed,WorkerPc.resClosed]) _
      (by simp [WorkerPc.delivered,WorkerPc.errClosed,WorkerPc.resClosed]) _ _ _
  | polled _ _ _ result at_ =>
    cases result <;>
      exact closed.beforeSend (by simp [at_,WorkerPc.delivered,WorkerPc.errClosed,WorkerPc.resClosed]) _
        (by simp [WorkerPc.delivered,WorkerPc.errClosed,WorkerPc.resClosed]) _ _ _
  | deliverErr _ at_ open_ | deliverRes _ at_ open_ =>
    exact { closed with
      outErr := by simp [closed.outErr,at_,WorkerPc.errClosed]
      outRes := by simp [closed.outRes,at_,WorkerPc.resClosed]
      received := by simp [closed.unreceived (by simp [at_,WorkerPc.delivered]),WorkerPc.delivered] }
  | closeOutErr at_ | closeOutRes at_ =>
    exact { closed with
      outErr := by simp [closed.outErr,at_,WorkerPc.errClosed]
      outRes := by simp [closed.outRes,at_,WorkerPc.resClosed]
      received := by simpa [at_,WorkerPc.delivered] using closed.received }

end Op

namespace System

variable {s t : System}

theorem Reachable.closed (reached : Reachable s) (i : Nat) : (s.ops i).Closed := by
  induction reached generalizing i with
  | init => exact Op.closed_init
  | step j e reached stepped ih =>
    obtain ⟨-,-,call,o',eff,-,moved,ops⟩ := step_cases stepped
    rw [ops]
    by_cases same : i = j
    · subst same
      rw [Function.update_same]
      rcases Op.step_moves moved with rfl | moved
      · exact ih i
      · exact (ih i).moves (reached.inv i) moved
    · rw [Function.update_noteq same]
      exact ih i

end System

/-- However many Bond and Deposit calls run and however they interleave, each call's caller
receives at most one outcome, and `outRes` is closed only after `outErr`. -/
theorem approval_outcome_at_most_once {s : System} (reached : s.Reachable) (i : Nat) :
    (s.ops i).received.length ≤ 1 ∧ ((s.ops i).outResClosed = true → (s.ops i).outErrClosed = true) := by
  obtain ⟨-,-,outErr,outRes,received⟩ := reached.closed i
  rw [outErr,outRes]
  refine ⟨received.trans (by split <;> omega),?_⟩
  cases (s.ops i).worker <;> simp [WorkerPc.errClosed,WorkerPc.resClosed]

theorem doubleGrant_outcomes_at_most_once :
    ∃ s : System, s.Reachable ∧ s.calls = [bondCall,depositCall] ∧
      ∀ i, (s.ops i).received.length ≤ 1 ∧ ((s.ops i).outResClosed = true → (s.ops i).outErrClosed = true) := by
  obtain ⟨s,reached,calls⟩ := System.reachable_of_run (fun s => s.calls == [bondCall,depositCall])
    doubleGrant (.init resolvedClient [bondCall,depositCall] []) (by decide)
  exact ⟨s,reached,beq_iff_eq.1 calls,approval_outcome_at_most_once reached⟩

end Livepeer.Eth
