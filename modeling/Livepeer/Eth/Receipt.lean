import Livepeer.Eth.Client

/-! `WaitForReceipt`, the confirmation loop behind every transaction the client submits.
The loop guard reads the clock twice, in `time.Since(time.Now())`; a turn of the loop
records how far apart the two reads are, the node's answer and the time the call and the
one-second sleep take. -/
namespace Livepeer.Eth
open Livepeer.Go

structure Transaction where
  hash : Hash
  gas : Nat
deriving DecidableEq, Repr

structure Receipt where
  txHash : Hash
  gasUsed : Nat
deriving DecidableEq, Repr

structure ReceiptAnswer where
  receipt : Option Receipt
  err : Option GoError
deriving DecidableEq, Repr

def notMined : ReceiptAnswer := ⟨none,some .notFound⟩

def since (now t : Int) : Duration := now - t

def hexDigits (width n : Nat) : String :=
  String.mk ((List.range width).reverse.map fun i => Nat.digitChar (n / Nat.pow 16 i % 16))

def hashHex (h : Hash) : String := "0x" ++ hexDigits 64 h.toNat

def txThrew (tx : Transaction) : GoError := .errorString ("Tx " ++ hashHex tx.hash ++ " threw")

def txTimedOut (tx : Transaction) : GoError := .errorString ("Tx " ++ hashHex tx.hash ++ " timed out")

def classify (tx : Transaction) : Option Receipt → Option (Except GoError Receipt)
  | none => none
  | some r => some (if tx.gas = r.gasUsed then .error (txThrew tx) else .ok r)

def pollReceipt (tx : Transaction) (answer : ReceiptAnswer) : Option (Except GoError Receipt) :=
  match answer.err with
  | some err => if err = .notFound then classify tx answer.receipt else some (.error err)
  | none => classify tx answer.receipt

/-- One turn of the environment: the gap between the guard's two clock reads, the node's
answer, and how long the call takes. -/
structure Turn where
  gap : Duration
  answer : ReceiptAnswer
  latency : Duration
deriving DecidableEq, Repr

inductive Waiting
  | returned (result : Except GoError Receipt)
  | looping (now : Int)

/-- One turn of the loop with the clock at `now`: what WaitForReceipt returns, or `none`
when it goes round again. -/
def receiptTurn (c : Client) (tx : Transaction) (now : Int) (turn : Turn) :
    Option (Except GoError Receipt) :=
  if since (now + turn.gap) now < c.eventTimeout then pollReceipt tx turn.answer
  else some (.error (txTimedOut tx))

def Turn.next (turn : Turn) (now : Int) : Int := now + turn.gap + turn.latency + second

/-- `WaitForReceipt(tx)` started with the clock at `now`, run for the given turns. -/
def waitForReceipt (c : Client) (tx : Transaction) : Int → List Turn → Waiting
  | now, [] => .looping now
  | now, turn :: turns =>
    match receiptTurn c tx now turn with
    | some result => .returned result
    | none => waitForReceipt c tx (turn.next now) turns

@[simp] theorem pollReceipt_notMined (tx : Transaction) : pollReceipt tx notMined = none := rfl

@[simp] theorem since_gap (now gap : Int) : since (now + gap) now = gap := by
  show now + gap - now = gap
  omega

section Loop

variable {c : Client} {tx : Transaction}

theorem waitForReceipt_append_returned {now : Int} {turns : List Turn} {result : Except GoError Receipt}
    (returned : waitForReceipt c tx now turns = .returned result) (more : List Turn) :
    waitForReceipt c tx now (turns ++ more) = .returned result := by
  induction turns generalizing now with
  | nil => cases returned
  | cons turn turns ih =>
    simp only [waitForReceipt,List.cons_append] at returned ⊢
    split at returned
    · exact returned
    · exact ih returned

theorem waitForReceipt_append_looping {now later : Int} {turns : List Turn}
    (looping : waitForReceipt c tx now turns = .looping later) (more : List Turn) :
    waitForReceipt c tx now (turns ++ more) = waitForReceipt c tx later more := by
  induction turns generalizing now with
  | nil =>
    cases looping
    rfl
  | cons turn turns ih =>
    simp only [waitForReceipt,List.cons_append] at looping ⊢
    split at looping
    · cases looping
    · exact ih looping

end Loop

/-- The guard measures the gap between its own two clock reads, never the time since the
call: as long as that gap stays under the timeout, a node that keeps answering NotFound
keeps the loop polling for every number of turns, whatever the clock does in between. -/
theorem waitForReceipt_never_times_out (c : Client) (tx : Transaction) (now : Int)
    (turns : List Turn) (quick : ∀ turn ∈ turns, turn.gap < c.eventTimeout)
    (unmined : ∀ turn ∈ turns, turn.answer = notMined) :
    ∃ later, waitForReceipt c tx now turns = .looping later := by
  induction turns generalizing now with
  | nil => exact ⟨now,rfl⟩
  | cons turn turns ih =>
    have guard : since (now + turn.gap) now < c.eventTimeout := by
      simpa using quick turn (by simp)
    simp only [waitForReceipt,receiptTurn,guard,if_true,unmined turn (by simp),pollReceipt_notMined]
    exact ih _ (fun t mem => quick t (by simp [mem])) (fun t mem => unmined t (by simp [mem]))

theorem waitForReceipt_polls_past_timeout :
    (∀ turn ∈ List.replicate 2 (⟨0,notMined,0⟩ : Turn), turn.gap < resolvedClient.eventTimeout) ∧
    (∀ turn ∈ List.replicate 2 (⟨0,notMined,0⟩ : Turn), turn.answer = notMined) ∧
    ∃ later, waitForReceipt resolvedClient ⟨0,21000⟩ 0 (List.replicate 2 ⟨0,notMined,0⟩) =
      .looping later :=
  ⟨by decide,by decide,waitForReceipt_never_times_out _ _ _ _ (by decide) (by decide)⟩

end Livepeer.Eth
