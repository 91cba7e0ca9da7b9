import Livepeer.Eth.Approval.Model
import Livepeer.Eth.Transactions.Moves

/-! What one step can do to a call's record, said once: every step either panics and
leaves the record as it was, or is one of the moves below, each with the guard the code
checks before it. Every invariant of the approval chain is proved over these moves. -/
namespace Livepeer.Eth
open Livepeer.Go

/-- The moves of one Bond or Deposit call. -/
inductive Moves (c : Client) (call : Call) (chain : List Log) : Op → Op → Prop
  | subscribeFails (o : Op) (err : GoError) (at_ : o.caller = .subscribing) :
      Moves c call chain o {o with caller := .blocked err}
  | subscribed (o : Op) (at_ : o.caller = .subscribing) :
      Moves c call chain o {o with caller := .approving, subscribed := true}
  | approveFails (o : Op) (err : GoError) (at_ : o.caller = .approving) :
      Moves c call chain o {o with caller := .blocked err}
  | approved (o : Op) (at_ : o.caller = .approving) :
      Moves c call chain o
        {o with caller := .returned, approver := .receiving, worker := .selecting, timer := .armed}
  | notify (o : Op) (log : Log) (active : o.subscribed = true) (matching : (approvalQuery c).matches log)
      (mined : {log with removed := false} ∈ chain) :
      Moves c call chain o {o with queue := o.queue ++ [log]}
  | forward (o : Op) (log : Log) (rest : List Log) (queued : o.queue = log :: rest)
      (open_ : o.logsClosed = false) (at_ : o.approver = .receiving) :
      Moves c call chain o {o with queue := rest, approver := .closingLogs log, granted := some log}
  | closeLogs (o : Op) (log : Log) (at_ : o.approver = .closingLogs log) (open_ : o.logsClosed = false) :
      Moves c call chain o {o with logsClosed := true, approver := .unsubscribing log}
  | unsubscribe (o : Op) (log : Log) (at_ : o.approver = .unsubscribing log) :
      Moves c call chain o {o with approver := .sending log, subscribed := false, queue := []}
  | hand (o : Op) (log : Log) (at_ : o.approver = .sending log) (waiting : o.worker = .selecting)
      (open_ : o.inResClosed = false) :
      Moves c call chain o
        {o with approver := .closingRes, observed := some log,
                worker := if log.removed then .closingErr else .submitting}
  | closeInRes (o : Op) (at_ : o.approver = .closingRes) (open_ : o.inResClosed = false) :
      Moves c call chain o {o with approver := .closingErr, inResClosed := true}
  | closeInErr (o : Op) (at_ : o.approver = .closingErr) (open_ : o.inErrClosed = false) :
      Moves c call chain o {o with approver := .exited, inErrClosed := true}
  | fire (o : Op) (armed : o.timer = .armed) : Moves c call chain o {o with timer := .fired}
  | selectClosedRes (o : Op) (at_ : o.worker = .selecting) (closed : o.inResClosed = true) :
      Moves c call chain o {o with worker := .submitting, observed := some zeroLog}
  | selectClosedErr (o : Op) (at_ : o.worker = .selecting) (closed : o.inErrClosed = true) :
      Moves c call chain o {o with worker := .sendingErr none}
  | selectTimer (o : Op) (at_ : o.worker = .selecting) (fired : o.timer = .fired) :
      Moves c call chain o {o with worker := .sendingErr (some subscriptionTimedOut), timer := .drained}
  | submitFails (o : Op) (err : GoError) (at_ : o.worker = .submitting) :
      Moves c call chain o {o with worker := .sendingErr (some err), submitted := true}
  | submitted (o : Op) (tx : Transaction) (at_ : o.worker = .submitting) :
      Moves c call chain o {o with worker := .waiting tx 0, submitted := true}
  | polled (o : Op) (tx : Transaction) (now : Int) (turn : Turn) (result : Except GoError Receipt)
      (at_ : o.worker = .waiting tx now) (done : receiptTurn c tx now turn = some result) :
      Moves c call chain o (o.afterWait result)
  | pollAgain (o : Op) (tx : Transaction) (now : Int) (turn : Turn) (at_ : o.worker = .waiting tx now)
      (again : receiptTurn c tx now turn = none) :
      Moves c call chain o {o with worker := .waiting tx (turn.next now)}
  | deliverErr (o : Op) (err : Option GoError) (at_ : o.worker = .sendingErr err)
      (open_ : o.outErrClosed = false) :
      Moves c call chain o {o with worker := .closingErr, received := o.received ++ [.error err]}
  | deliverRes (o : Op) (r : Receipt) (at_ : o.worker = .sendingRes r) (open_ : o.outResClosed = false) :
      Moves c call chain o {o with worker := .closingErr, received := o.received ++ [.receipt r]}
  | closeOutErr (o : Op) (at_ : o.worker = .closingErr) (open_ : o.outErrClosed = false) :
      Moves c call chain o {o with worker := .closingRes, outErrClosed := true}
  | closeOutRes (o : Op) (at_ : o.worker = .closingRes) (open_ : o.outResClosed = false) :
      Moves c call chain o {o with worker := .exited, outResClosed := true}

theorem Moves.ofHelper {c : Client} {call : Call} {chain : List Log} {o : Op} {e : Event} {h : Helper}
    (moved : Helper.Moves c o.helper e h) :
    Moves c call chain o (o.lift (h,.quiet)).1 := by
  generalize helped : o.helper = h₀ at moved
  cases moved <;> subst helped <;>
    simp only [Op.helper_worker,Op.helper_outResClosed,Op.helper_outErrClosed] at *
  case submitFails err at_ => convert Moves.submitFails o err at_ using 1; simp [Op.lift,at_]
  case submitted tx at_ => convert Moves.submitted o tx at_ using 1; simp [Op.lift,at_]
  case polled tx now turn result done at_ =>
    convert Moves.polled o tx now turn result at_ done using 1
    cases result <;> simp [Op.lift,Op.afterWait,Helper.afterWait,at_]
  case pollAgain tx now turn again at_ =>
    convert Moves.pollAgain o tx now turn at_ again using 1; simp [Op.lift,at_]
  case deliverErr err at_ open_ => convert Moves.deliverErr o err at_ open_ using 1; simp [Op.lift,at_]
  case deliverRes r at_ open_ => convert Moves.deliverRes o r at_ open_ using 1; simp [Op.lift,at_]
  case closeOutErr at_ open_ => convert Moves.closeOutErr o at_ open_ using 1; simp [Op.lift,at_]
  case closeOutRes at_ open_ => convert Moves.closeOutRes o at_ open_ using 1; simp [Op.lift,at_]

namespace Op

variable {c : Client} {call : Call} {chain : List Log} {o o' : Op} {eff : Effect}

theorem moved {next : Op} {eff' : Effect} (stepped : some (next,eff') = some (o',eff))
    (move : Moves c call chain o next) : o' = o ∨ Moves c call chain o o' := by
  cases stepped
  exact .inr move

theorem touch_moves {next : Op} {closed : Bool} {r : PanicValue}
    (stepped : o.touch next closed r = some (o',eff)) (open_ : closed = false → Moves c call chain o next) :
    o' = o ∨ Moves c call chain o o' := by
  cases closed
  · exact moved stepped (open_ rfl)
  · cases stepped
    exact .inl rfl

theorem helper_moves {e : Event} (stepped : o.step c call chain e = some (o',eff)) (own : e.ofWorker = true) :
    o' = o ∨ Moves c call chain o o' := by
  obtain ⟨h,helped,rfl⟩ := step_of_worker stepped own
  rcases Helper.step_cases helped with ⟨moved,rfl⟩ | ⟨rfl,-⟩
  · exact .inr (.ofHelper moved)
  · exact .inl (lift_self o eff)

/-- Every step of a call panics and leaves its record as it was, or is one of its moves. -/
theorem step_moves {e : Event} (stepped : o.step c call chain e = some (o',eff)) :
    o' = o ∨ Moves c call chain o o' := by
  cases e with
  | subscribe err =>
    simp only [step] at stepped
    split at stepped
    · cases err
      · exact moved stepped (.subscribed o ‹_›)
      · exact moved stepped (.subscribeFails o _ ‹_›)
    · cases stepped
  | approve err =>
    simp only [step] at stepped
    split at stepped
    · split at stepped
      · cases stepped
        exact .inl rfl
      · exact moved stepped (.approveFails o _ ‹_›)
      · exact moved stepped (.approved o ‹_›)
    · cases stepped
  | notify log =>
    simp only [step] at stepped
    split at stepped
    · rename_i guard
      exact moved stepped (.notify o log guard.1 guard.2.1 guard.2.2)
    · cases stepped
  | forward =>
    simp only [step] at stepped
    split at stepped
    · cases stepped
    · rename_i log rest queued
      split at stepped
      · cases stepped
        exact .inl rfl
      · split at stepped
        · exact moved stepped (.forward o log rest queued (by simpa using ‹¬o.logsClosed = true›) ‹_›)
        · cases stepped
  | closeLogs =>
    simp only [step] at stepped
    split at stepped
    · exact touch_moves stepped (fun open_ => .closeLogs o _ ‹_› open_)
    · cases stepped
  | unsubscribe =>
    simp only [step] at stepped
    split at stepped
    · exact moved stepped (.unsubscribe o _ ‹_›)
    · cases stepped
  | hand =>
    simp only [step] at stepped
    split at stepped
    · exact touch_moves stepped (fun open_ => .hand o _ ‹_› ‹_› open_)
    · cases stepped
  | closeInRes =>
    simp only [step] at stepped
    split at stepped
    · exact touch_moves stepped (fun open_ => .closeInRes o ‹_› open_)
    · cases stepped
  | closeInErr =>
    simp only [step] at stepped
    split at stepped
    · exact touch_moves stepped (fun open_ => .closeInErr o ‹_› open_)
    · cases stepped
  | fire =>
    simp only [step] at stepped
    split at stepped
    · exact moved stepped (.fire o ‹_›)
    · cases stepped
  | selectClosedRes =>
    simp only [step] at stepped
    split at stepped
    · rename_i guard
      exact moved stepped (.selectClosedRes o guard.1 guard.2)
    · cases stepped
  | selectClosedErr =>
    simp only [step] at stepped
    split at stepped
    · rename_i guard
      exact moved stepped (.selectClosedErr o guard.1 guard.2)
    · cases stepped
  | selectTimer =>
    simp only [step] at stepped
    split at stepped
    · rename_i guard
      exact moved stepped (.selectTimer o guard.1 guard.2)
    · cases stepped
  | submit _ | poll _ | deliver | closeOutErr | closeOutRes => exact helper_moves stepped rfl

end Op

end Livepeer.Eth
