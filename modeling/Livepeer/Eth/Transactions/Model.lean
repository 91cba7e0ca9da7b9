import Livepeer.Eth.Events

/-! The transaction helpers of the client: `InitializeRound`, `Transcoder`, `Reward`, `Job`,
`ClaimWork`, `Verify`, `DistributeFees` and `Transfer`. Each makes two unbuffered channels
and starts a goroutine that sends one contract call through a session, waits for the
receipt, sends the error or the receipt, and runs its deferred closes of `outErr` and then
`outRes`. They differ only in the session and in the call, whose answer the node gives. -/
namespace Livepeer.Eth
open Livepeer.Go

namespace WorkerPc

def delivered : WorkerPc → Bool
  | .closingErr | .closingRes | .exited => true
  | _ => false

def errClosed : WorkerPc → Bool
  | .closingRes | .exited => true
  | _ => false

def resClosed : WorkerPc → Bool
  | .exited => true
  | _ => false

def pending : WorkerPc → Option Outcome
  | .sendingErr err => some (.error err)
  | .sendingRes r => some (.receipt r)
  | _ => none

end WorkerPc

def Outcome.ofWait : Except GoError Receipt → Outcome
  | .error err => .error (some err)
  | .ok r => .receipt r

/-- One call of a transaction helper: its goroutine's program counter, the two channels it
returns, and what the caller received from them. -/
structure Helper where
  worker : WorkerPc := .submitting
  outResClosed : Bool := false
  outErrClosed : Bool := false
  received : List Outcome := []
deriving DecidableEq, Repr

namespace Helper

def touch (h next : Helper) (closed : Bool) (r : PanicValue) : Option (Helper × Effect) :=
  some (if closed then (h,.panics r) else (next,.quiet))

def afterWait (h : Helper) : Except GoError Receipt → Helper
  | .error err => {h with worker := .sendingErr (some err)}
  | .ok r => {h with worker := .sendingRes r}

@[simp] theorem pending_afterWait (h : Helper) (result : Except GoError Receipt) :
    (h.afterWait result).worker.pending = some (.ofWait result) := by
  cases result <;> rfl

@[simp] theorem received_afterWait (h : Helper) (result : Except GoError Receipt) :
    (h.afterWait result).received = h.received := by
  cases result <;> rfl

@[simp] theorem afterWait_worker (h : Helper) (w : WorkerPc) (result : Except GoError Receipt) :
    ({h with worker := w} : Helper).afterWait result = h.afterWait result := by
  cases result <;> rfl

/-- One step of the goroutine of a helper whose contract call goes through `session`. As
for Bond's goroutine, the caller is taken to be ready to receive. -/
def step (c : Client) (session : Option Session) (h : Helper) : Event → Option (Helper × Effect)
  | .submit result =>
    if h.worker = .submitting then
      match session with
      | none => some (h,.panics nilDereference)
      | some _ =>
        match result with
        | .error err => some ({h with worker := .sendingErr (some err)},.quiet)
        | .ok tx => some ({h with worker := .waiting tx 0},.quiet)
    else none
  | .poll turn =>
    match h.worker with
    | .waiting tx now =>
      match receiptTurn c tx now turn with
      | some result => some (h.afterWait result,.quiet)
      | none => some ({h with worker := .waiting tx (turn.next now)},.quiet)
    | _ => none
  | .deliver =>
    match h.worker with
    | .sendingErr err =>
      h.touch {h with worker := .closingErr, received := h.received ++ [.error err]} h.outErrClosed
        sendOnClosedChannel
    | .sendingRes r =>
      h.touch {h with worker := .closingErr, received := h.received ++ [.receipt r]} h.outResClosed
        sendOnClosedChannel
    | _ => none
  | .closeOutErr =>
    match h.worker with
    | .closingErr => h.touch {h with worker := .closingRes, outErrClosed := true} h.outErrClosed closeOfClosedChannel
    | _ => none
  | .closeOutRes =>
    match h.worker with
    | .closingRes => h.touch {h with worker := .exited, outResClosed := true} h.outResClosed closeOfClosedChannel
    | _ => none
  | _ => none

def run (step : Helper → Event → Option (Helper × Effect)) : Helper → List Event →
    Option (Except PanicValue Helper)
  | h, [] => some (.ok h)
  | h, e :: es =>
    match step h e with
    | none => none
    | some (_,.panics r) => some (.error r)
    | some (next,.quiet) | some (next,.emits _) => run step next es

end Helper

namespace Client

def initializeRound (c : Client) : Helper → Event → Option (Helper × Effect) :=
  Helper.step c c.roundsManagerSession

/-- `Transcoder(blockRewardCut, feeShare, pricePerSegment)`. Its goroutine returns from the
error branch after WaitForReceipt instead of taking an else, to the same effect. -/
def transcoder (c : Client) : Helper → Event → Option (Helper × Effect) :=
  Helper.step c c.bondingManagerSession

def reward (c : Client) : Helper → Event → Option (Helper × Effect) :=
  Helper.step c c.bondingManagerSession

def job (c : Client) : Helper → Event → Option (Helper × Effect) :=
  Helper.step c c.jobsManagerSession

def claimWork (c : Client) : Helper → Event → Option (Helper × Effect) :=
  Helper.step c c.jobsManagerSession

def verify (c : Client) : Helper → Event → Option (Helper × Effect) :=
  Helper.step c c.jobsManagerSession

def distributeFees (c : Client) : Helper → Event → Option (Helper × Effect) :=
  Helper.step c c.jobsManagerSession

def transfer (c : Client) : Helper → Event → Option (Helper × Effect) :=
  Helper.step c c.tokenSession

end Client

/-- What a transaction helper sends, read off the node's answers: the contract call's
error, or what WaitForReceipt returns over the receipt polls; `none` while it polls. -/
def report (c : Client) : Except GoError Transaction → List Turn → Option Outcome
  | .error err, _ => some (.error (some err))
  | .ok tx, turns =>
    match waitForReceipt c tx 0 turns with
    | .returned (.error err) => some (.error (some err))
    | .returned (.ok r) => some (.receipt r)
    | .looping _ => none

def Event.polled : Event → Option Turn
  | .poll turn => some turn
  | _ => none

theorem report_ok {c : Client} {tx : Transaction} {turns : List Turn} {result : Except GoError Receipt}
    (returned : waitForReceipt c tx 0 turns = .returned result) :
    report c (.ok tx) turns = some (.ofWait result) := by
  cases result <;> simp [report,returned,Outcome.ofWait]

theorem report_append {c : Client} {result : Except GoError Transaction} {turns : List Turn} {o : Outcome}
    (reported : report c result turns = some o) (more : List Turn) : report c result (turns ++ more) = some o := by
  cases result with
  | error err => exact reported
  | ok tx =>
    cases waited : waitForReceipt c tx 0 turns with
    | returned result =>
      rw [report_ok (waitForReceipt_append_returned waited more),← reported,report_ok waited]
    | looping later => simp [report,waited] at reported

end Livepeer.Eth
