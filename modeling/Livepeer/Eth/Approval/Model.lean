import Livepeer.Eth.Transactions.Model

/-! The approval chain behind `Bond` and `Deposit`: the calling goroutine runs `Approve`
(which subscribes to Approval logs and sends the token approval), Approve starts a
goroutine that waits for one log, and Bond or Deposit starts a goroutine that waits on
that log, Approve's error channel and a timer before it submits its own transaction.
Every call is one record of program counters, channel states and the subscription; the
node, the timer and the caller reading the result are the other parties. -/
namespace Livepeer.Eth
open Livepeer.Go

def approvalEvent : Topic := .event "Approval(address,address,uint256)"

/-- The query of `SubscribeToApproval`: Approval logs of the token whose owner is the
client's account. -/
def approvalQuery (c : Client) : FilterQuery :=
  ⟨[c.tokenAddr],[[approvalEvent],[.address c.account]]⟩

def approvalLog (c : Client) (spender : Address) (amount : Nat) : Log :=
  ⟨c.tokenAddr,[approvalEvent,.address c.account,.address spender],amount,false⟩

inductive Spend
  | bond (toAddr : Address)
  | deposit
deriving DecidableEq, Repr

structure Call where
  spend : Spend
  amount : Nat
deriving DecidableEq, Repr

def Call.spender (c : Client) (call : Call) : Address :=
  match call.spend with
  | .bond _ => c.bondingManagerAddr
  | .deposit => c.jobsManagerAddr

def Call.session (c : Client) (call : Call) : Option Session :=
  match call.spend with
  | .bond _ => c.bondingManagerSession
  | .deposit => c.jobsManagerSession

inductive CallerPc
  | subscribing
  | approving
  | blocked (err : GoError)
  | returned
deriving DecidableEq, Repr

inductive ApproverPc
  | idle
  | receiving
  | closingLogs (log : Log)
  | unsubscribing (log : Log)
  | sending (log : Log)
  | closingRes
  | closingErr
  | exited
deriving DecidableEq, Repr

inductive Timer
  | unarmed
  | armed
  | fired
  | drained
deriving DecidableEq, Repr

/-- One Bond or Deposit call. `inRes`/`inErr` are the channels Approve returns, `outRes`/
`outErr` those Bond returns; `granted`, `observed` and `submitted` record what Approve's
goroutine took from `logsCh`, what Bond's goroutine took from `inRes`, and whether the
dependent transaction was sent. -/
structure Op where
  caller : CallerPc := .subscribing
  subscribed : Bool := false
  queue : List Log := []
  logsClosed : Bool := false
  approver : ApproverPc := .idle
  inResClosed : Bool := false
  inErrClosed : Bool := false
  timer : Timer := .unarmed
  worker : WorkerPc := .idle
  outResClosed : Bool := false
  outErrClosed : Bool := false
  received : List Outcome := []
  granted : Option Log := none
  observed : Option Log := none
  submitted : Bool := false
deriving DecidableEq, Repr

def subscriptionTimedOut : GoError := .errorString "Event subscription timed out"

namespace Op

def touch (o next : Op) (closed : Bool) (r : PanicValue) : Option (Op × Effect) :=
  some (if closed then (o,.panics r) else (next,.quiet))

def afterWait (o : Op) : Except GoError Receipt → Op
  | .error err => {o with worker := .sendingErr (some err)}
  | .ok r => {o with worker := .sendingRes r}

def helper (o : Op) : Helper := ⟨o.worker,o.outResClosed,o.outErrClosed,o.received⟩

/-- A step of the part of the call Bond's goroutine shares with every transaction helper
(`helper`), taken back into the call; the dependent transaction counts as sent once the
goroutine has left its contract call. -/
def lift (o : Op) : Helper × Effect → Op × Effect
  | (h,eff) =>
    ({o with worker := h.worker, outResClosed := h.outResClosed, outErrClosed := h.outErrClosed,
             received := h.received, submitted := o.submitted || (o.worker == .submitting && h.worker != .submitting)},
     eff)

def step (c : Client) (call : Call) (chain : List Log) (o : Op) : Event → Option (Op × Effect)
  | .subscribe err =>
    if o.caller = .subscribing then
      match err with
      | some err => some ({o with caller := .blocked err},.quiet)
      | none => some ({o with caller := .approving, subscribed := true},.quiet)
    else none
  | .approve err =>
    if o.caller = .approving then
      match c.tokenSession, err with
      | none, _ => some (o,.panics nilDereference)
      | some _, some err => some ({o with caller := .blocked err},.quiet)
      | some _, none =>
        some ({o with caller := .returned, approver := .receiving, worker := .selecting, timer := .armed},
          .emits (approvalLog c (call.spender c) call.amount))
    else none
  | .notify log =>
    if o.subscribed ∧ (approvalQuery c).matches log ∧ {log with removed := false} ∈ chain then
      some ({o with queue := o.queue ++ [log]},.quiet)
    else none
  | .forward =>
    match o.queue with
    | [] => none
    | log :: rest =>
      if o.logsClosed then some (o,.panics sendOnClosedChannel)
      else if o.approver = .receiving then
        some ({o with queue := rest, approver := .closingLogs log, granted := some log},.quiet)
      else none
  | .closeLogs =>
    match o.approver with
    | .closingLogs log =>
      o.touch {o with logsClosed := true, approver := .unsubscribing log} o.logsClosed closeOfClosedChannel
    | _ => none
  | .unsubscribe =>
    match o.approver with
    | .unsubscribing log => some ({o with approver := .sending log, subscribed := false, queue := []},.quiet)
    | _ => none
  | .hand =>
    match o.approver, o.worker with
    | .sending log, .selecting =>
      let next : WorkerPc := if log.removed then .closingErr else .submitting
      o.touch {o with approver := .closingRes, observed := some log, worker := next}
        o.inResClosed sendOnClosedChannel
    | _, _ => none
  | .closeInRes =>
    match o.approver with
    | .closingRes => o.touch {o with approver := .closingErr, inResClosed := true} o.inResClosed closeOfClosedChannel
    | _ => none
  | .closeInErr =>
    match o.approver with
    | .closingErr => o.touch {o with approver := .exited, inErrClosed := true} o.inErrClosed closeOfClosedChannel
    | _ => none
  | .fire => if o.timer = .armed then some ({o with timer := .fired},.quiet) else none
  | .selectClosedRes =>
    if o.worker = .selecting ∧ o.inResClosed then
      some ({o with worker := .submitting, observed := some zeroLog},.quiet)
    else none
  | .selectClosedErr =>
    if o.worker = .selecting ∧ o.inErrClosed then some ({o with worker := .sendingErr none},.quiet)
    else none
  | .selectTimer =>
    if o.worker = .selecting ∧ o.timer = .fired then
      some ({o with worker := .sendingErr (some subscriptionTimedOut), timer := .drained},.quiet)
    else none
  -- past its select, Bond's goroutine is the helper goroutine on the Bond or Deposit session
  | e => (o.helper.step c (call.session c) e).map o.lift

end Op

def Event.ofWorker : Event → Bool
  | .submit _ | .poll _ | .deliver | .closeOutErr | .closeOutRes => true
  | _ => false

namespace Op

@[simp] theorem helper_worker (o : Op) : o.helper.worker = o.worker := rfl
@[simp] theorem helper_outResClosed (o : Op) : o.helper.outResClosed = o.outResClosed := rfl
@[simp] theorem helper_outErrClosed (o : Op) : o.helper.outErrClosed = o.outErrClosed := rfl
@[simp] theorem helper_received (o : Op) : o.helper.received = o.received := rfl

@[simp] theorem lift_helper (o : Op) (h : Helper) (eff : Effect) : (o.lift (h,eff)).1.helper = h := rfl

theorem lift_self (o : Op) (eff : Effect) : (o.lift (o.helper,eff)).1 = o := by
  simp [lift,bne]

theorem step_worker (c : Client) (call : Call) (chain : List Log) (o : Op) (e : Event) (own : e.ofWorker = true) :
    o.step c call chain e = (o.helper.step c (call.session c) e).map o.lift := by
  cases e <;> first | rfl | cases own

theorem step_of_worker {c : Client} {call : Call} {chain : List Log} {o o' : Op} {e : Event} {eff : Effect}
    (stepped : o.step c call chain e = some (o',eff)) (own : e.ofWorker = true) :
    ∃ h, o.helper.step c (call.session c) e = some (h,eff) ∧ o' = (o.lift (h,eff)).1 := by
  rw [step_worker c call chain o e own] at stepped
  obtain ⟨⟨h,eff'⟩,helped,lifted⟩ := Option.map_eq_some'.1 stepped
  cases lifted
  exact ⟨h,helped,rfl⟩

end Op

/-- Concurrent Bond and Deposit calls through one client. `chain` holds the Approval logs
mined so far, which the node may deliver to any subscription whose filter they match, as
they are or marked removed; a panic stops the process. -/
structure System where
  client : Client
  calls : List Call
  chain : List Log
  ops : Nat → Op
  panic : Option PanicValue

namespace System

def init (c : Client) (calls : List Call) (chain : List Log) : System :=
  ⟨c,calls,chain,fun _ => {},none⟩

def apply (s : System) (i : Nat) : Op × Effect → System
  | (o,.quiet) => {s with ops := Function.update s.ops i o}
  | (o,.emits log) => {s with ops := Function.update s.ops i o, chain := s.chain ++ [log]}
  | (o,.panics r) => {s with ops := Function.update s.ops i o, panic := some r}

def step (s : System) (i : Nat) (e : Event) : Option System :=
  match s.panic, s.calls[i]? with
  | none, some call => ((s.ops i).step s.client call s.chain e).map (s.apply i)
  | _, _ => none

def Quiescent (s : System) : Prop := ∀ i e, s.step i e = none

inductive Reachable : System → Prop
  | init (c : Client) (calls : List Call) (chain : List Log) : Reachable (init c calls chain)
  | step {s t : System} (i : Nat) (e : Event) (reached : Reachable s) (stepped : s.step i e = some t) :
      Reachable t

inductive Reaches : System → System → Prop
  | refl (s : System) : Reaches s s
  | step {s t u : System} (i : Nat) (e : Event) (stepped : s.step i e = some t) (rest : Reaches t u) :
      Reaches s u

end System

end Livepeer.Eth
