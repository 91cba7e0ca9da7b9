import Livepeer.Eth.Approval.Safety

/-! Runs of the approval chain against `resolvedClient`: a Bond whose caller never gets its
channels back, a Bond whose goroutine exits without sending anything, a subscription that
sends on the closed `logsCh`, and a Bond that times out while Approve's goroutine and
subscription stay behind. -/
namespace Livepeer.Eth
open Livepeer.Go

namespace Op

/-- No party of the call can move: the caller is blocked or has returned, the
subscription is gone, neither goroutine is between its first and last step, and the
timer has nothing left to do. -/
def Stuck (o : Op) : Bool :=
  (match o.caller with | .blocked _ | .returned => true | _ => false) && !o.subscribed &&
    o.queue.isEmpty && (o.approver = .idle || o.approver = .exited) && o.timer != .armed &&
    (o.worker = .idle || o.worker = .exited)

theorem step_stuck {c : Client} {call : Call} {chain : List Log} {o : Op} (stuck : o.Stuck = true)
    (e : Event) : o.step c call chain e = none := by
  simp only [Stuck,Bool.and_eq_true,Bool.or_eq_true,decide_eq_true_eq,Bool.not_eq_true',
    List.isEmpty_iff,bne_iff_ne,ne_eq] at stuck
  obtain ⟨⟨⟨⟨⟨caller,unsubscribed⟩,empty⟩,approver⟩,timer⟩,worker⟩ := stuck
  have notSubscribing : o.caller ≠ .subscribing := by split at caller <;> simp_all
  have notApproving : o.caller ≠ .approving := by split at caller <;> simp_all
  cases e <;> rcases approver with approver | approver <;> rcases worker with worker | worker <;>
    simp [step,Helper.step,notSubscribing,notApproving,unsubscribed,empty,approver,timer,worker]

end Op

theorem System.quiescent_of {s : System} (stuck : ∀ i < s.calls.length, (s.ops i).Stuck = true) :
    s.Quiescent := by
  intro i e
  unfold step
  split
  · rename_i call _ found
    rw [Op.step_stuck (stuck i (List.getElem?_eq_some_iff.1 found).1)]
    rfl
  · rfl

def bondGrant : Log := approvalLog resolvedClient resolvedClient.bondingManagerAddr 100

def refusedSubscription : List (Nat × Event) :=
  [(0,.subscribe (some (.errorString "subscription refused")))]

/-- The first log on Bond's subscription is its own Approval log marked removed: Bond's
goroutine falls out of its select and both deferred closes run. -/
def removedGrant : List (Nat × Event) :=
  [(0,.subscribe none),(0,.approve none),(0,.notify {bondGrant with removed := true}),(0,.forward),
   (0,.closeLogs),(0,.unsubscribe),(0,.hand),(0,.closeInRes),(0,.closeInErr),(0,.closeOutErr),
   (0,.closeOutRes),(0,.fire)]

theorem System.quiescent_single {s : System} (single : s.calls.length = 1) (stuck : (s.ops 0).Stuck = true) :
    s.Quiescent :=
  System.quiescent_of fun i bound => by
    obtain rfl : i = 0 := by omega
    exact stuck

/-- A Bond call can end with no outcome at all: in one quiescent state its caller never got
the channels back, in another both channels are closed and nothing was ever sent. -/
theorem bond_outcome_can_be_lost :
    (∃ s : System, s.Reachable ∧ s.Quiescent ∧ s.calls = [bondCall] ∧ (s.ops 0).caller ≠ .returned) ∧
    (∃ s : System, s.Reachable ∧ s.Quiescent ∧ s.calls = [bondCall] ∧ (s.ops 0).caller = .returned ∧
      (s.ops 0).outResClosed = true ∧ (s.ops 0).outErrClosed = true ∧ (s.ops 0).received = []) := by
  constructor
  · obtain ⟨s,reached,holds⟩ := System.reachable_of_run
      (fun s => s.calls == [bondCall] && (s.ops 0).Stuck && (s.ops 0).caller != .returned)
      refusedSubscription (.init resolvedClient [bondCall] []) (by decide)
    simp only [Bool.and_eq_true,beq_iff_eq,bne_iff_ne] at holds
    exact ⟨s,reached,System.quiescent_single (by simp [holds.1.1]) holds.1.2,holds.1.1,holds.2⟩
  · obtain ⟨s,reached,holds⟩ := System.reachable_of_run
      (fun s => s.calls == [bondCall] && (s.ops 0).Stuck && (s.ops 0).caller == .returned &&
        (s.ops 0).outResClosed && (s.ops 0).outErrClosed && (s.ops 0).received.isEmpty)
      removedGrant (.init resolvedClient [bondCall] []) (by decide)
    simp only [Bool.and_eq_true,beq_iff_eq,List.isEmpty_iff] at holds
    obtain ⟨⟨⟨⟨⟨calls,stuck⟩,returned⟩,resClosed⟩,errClosed⟩,nothing⟩ := holds
    exact ⟨s,reached,System.quiescent_single (by simp [calls]) stuck,calls,returned,resClosed,errClosed,
      nothing⟩

def doubleGrant : List (Nat × Event) :=
  [(0,.subscribe none),(1,.subscribe none),(0,.approve none),(1,.approve none),
   (0,.notify bondGrant),(0,.notify depositGrant),(0,.forward),(0,.closeLogs)]

/-- Between `close(logsCh)` and `sub.Unsubscribe()` the subscription sends its next log on
the closed channel, and the process panics. -/
theorem subscription_sends_on_closed_logs :
    ∃ s t : System, s.Reachable ∧ (s.ops 0).logsClosed = true ∧ (s.ops 0).subscribed = true ∧
      s.step 0 .forward = some t ∧ t.panic = some sendOnClosedChannel := by
  obtain ⟨s,reached,holds⟩ := System.reachable_of_run
    (fun s => (s.ops 0).logsClosed && (s.ops 0).subscribed &&
      (s.step 0 .forward).map (·.panic) == some (some sendOnClosedChannel))
    doubleGrant (.init resolvedClient [bondCall,depositCall] []) (by decide)
  simp only [Bool.and_eq_true,beq_iff_eq] at holds
  obtain ⟨t,stepped,panicked⟩ := Option.map_eq_some'.1 holds.2
  exact ⟨s,t,reached,holds.1.1,holds.1.2,stepped,panicked⟩

def timedOutBond : List (Nat × Event) :=
  [(0,.subscribe none),(0,.approve none),(0,.fire),(0,.selectTimer),(0,.deliver),(0,.closeOutErr),
   (0,.closeOutRes)]

/-- Bond's goroutine can exit with the subscription still open and Approve's goroutine
still waiting on `logsCh`; from there Approve's goroutine never exits, whatever happens. -/
theorem timed_out_bond_strands_approve :
    ∃ s : System, s.Reachable ∧ s.calls = [bondCall] ∧ (s.ops 0).worker = .exited ∧
      (s.ops 0).subscribed = true ∧ (s.ops 0).approver = .receiving ∧
      ∀ t, s.Reaches t → (t.ops 0).approver ≠ .exited := by
  obtain ⟨s,reached,holds⟩ := System.reachable_of_run
    (fun s => s.calls == [bondCall] && (s.ops 0).worker == .exited && (s.ops 0).subscribed &&
      (s.ops 0).approver == .receiving && (s.ops 0).observed.isNone)
    timedOutBond (.init resolvedClient [bondCall] []) (by decide)
  simp only [Bool.and_eq_true,beq_iff_eq,Option.isNone_iff_eq_none] at holds
  obtain ⟨⟨⟨⟨calls,gone⟩,subscribed⟩,receiving⟩,untaken⟩ := holds
  refine ⟨s,reached,calls,gone,subscribed,receiving,fun t reaches exited => ?_⟩
  exact approver_exits_after_hand (reaches.reachable reached) 0 exited
    (reaches.stranded reached gone untaken).2

end Livepeer.Eth
