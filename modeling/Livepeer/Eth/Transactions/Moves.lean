import Livepeer.Eth.Transactions.Model

/-! What one step of a helper's goroutine can do, said once: a move with the guard the code
checks before it, or a panic. Two invariants are kept by every move: the channel
discipline, and what the state says about the node's answers so far. -/
namespace Livepeer.Eth
open Livepeer.Go

namespace Helper

variable {c : Client} {session : Option Session} {h h' : Helper} {e : Event} {eff : Effect}

/-- The moves of the goroutine, each with the guard the code checks before it. -/
inductive Moves (c : Client) : Helper → Event → Helper → Prop
  | submitFails (h : Helper) (err : GoError) (at_ : h.worker = .submitting) :
      Moves c h (.submit (.error err)) {h with worker := .sendingErr (some err)}
  | submitted (h : Helper) (tx : Transaction) (at_ : h.worker = .submitting) :
      Moves c h (.submit (.ok tx)) {h with worker := .waiting tx 0}
  | polled (h : Helper) (tx : Transaction) (now : Int) (turn : Turn) (result : Except GoError Receipt)
      (at_ : h.worker = .waiting tx now) (done : receiptTurn c tx now turn = some result) :
      Moves c h (.poll turn) (h.afterWait result)
  | pollAgain (h : Helper) (tx : Transaction) (now : Int) (turn : Turn) (at_ : h.worker = .waiting tx now)
      (again : receiptTurn c tx now turn = none) :
      Moves c h (.poll turn) {h with worker := .waiting tx (turn.next now)}
  | deliverErr (h : Helper) (err : Option GoError) (at_ : h.worker = .sendingErr err)
      (open_ : h.outErrClosed = false) :
      Moves c h .deliver {h with worker := .closingErr, received := h.received ++ [.error err]}
  | deliverRes (h : Helper) (r : Receipt) (at_ : h.worker = .sendingRes r) (open_ : h.outResClosed = false) :
      Moves c h .deliver {h with worker := .closingErr, received := h.received ++ [.receipt r]}
  | closeOutErr (h : Helper) (at_ : h.worker = .closingErr) (open_ : h.outErrClosed = false) :
      Moves c h .closeOutErr {h with worker := .closingRes, outErrClosed := true}
  | closeOutRes (h : Helper) (at_ : h.worker = .closingRes) (open_ : h.outResClosed = false) :
      Moves c h .closeOutRes {h with worker := .exited, outResClosed := true}

/-- The steps that panic: the contract call through a nil session, and a send on, or close
of, a closed channel. -/
inductive Panics (session : Option Session) (h : Helper) : Event → PanicValue → Prop
  | nilSession (result : Except GoError Transaction) (nil : session = none) (at_ : h.worker = .submitting) :
      Panics session h (.submit result) nilDereference
  | sendErr (err : Option GoError) (at_ : h.worker = .sendingErr err) (closed : h.outErrClosed = true) :
      Panics session h .deliver sendOnClosedChannel
  | sendRes (r : Receipt) (at_ : h.worker = .sendingRes r) (closed : h.outResClosed = true) :
      Panics session h .deliver sendOnClosedChannel
  | closeErr (at_ : h.worker = .closingErr) (closed : h.outErrClosed = true) :
      Panics session h .closeOutErr closeOfClosedChannel
  | closeRes (at_ : h.worker = .closingRes) (closed : h.outResClosed = true) :
      Panics session h .closeOutRes closeOfClosedChannel

theorem touch_cases {next : Helper} {closed : Bool} {r : PanicValue}
    (stepped : h.touch next closed r = some (h',eff)) :
    (closed = false ∧ h' = next ∧ eff = .quiet) ∨ (closed = true ∧ h' = h ∧ eff = .panics r) := by
  cases closed <;> cases stepped <;> simp

theorem step_cases (stepped : h.step c session e = some (h',eff)) :
    (Moves c h e h' ∧ eff = .quiet) ∨ (h' = h ∧ ∃ r, eff = .panics r ∧ Panics session h e r) := by
  cases e with
  | submit result =>
    simp only [step] at stepped
    split at stepped
    · split at stepped
      · cases stepped
        exact .inr ⟨rfl,_,rfl,.nilSession result rfl ‹_›⟩
      · cases result <;> cases stepped
        exacts [.inl ⟨.submitFails h _ ‹_›,rfl⟩,.inl ⟨.submitted h _ ‹_›,rfl⟩]
    · cases stepped
  | poll turn =>
    simp only [step] at stepped
    split at stepped
    · split at stepped <;> cases stepped
      exacts [.inl ⟨.polled h _ _ turn _ ‹_› ‹_›,rfl⟩,.inl ⟨.pollAgain h _ _ turn ‹_› ‹_›,rfl⟩]
    · cases stepped
  | deliver =>
    simp only [step] at stepped
    split at stepped
    · rcases touch_cases stepped with ⟨open_,rfl,rfl⟩ | ⟨closed,rfl,rfl⟩
      exacts [.inl ⟨.deliverErr h _ ‹_› open_,rfl⟩,.inr ⟨rfl,_,rfl,.sendErr _ ‹_› closed⟩]
    · rcases touch_cases stepped with ⟨open_,rfl,rfl⟩ | ⟨closed,rfl,rfl⟩
      exacts [.inl ⟨.deliverRes h _ ‹_› open_,rfl⟩,.inr ⟨rfl,_,rfl,.sendRes _ ‹_› closed⟩]
    · cases stepped
  | closeOutErr =>
    simp only [step] at stepped
    split at stepped
    · rcases touch_cases stepped with ⟨open_,rfl,rfl⟩ | ⟨closed,rfl,rfl⟩
      exacts [.inl ⟨.closeOutErr h ‹_› open_,rfl⟩,.inr ⟨rfl,_,rfl,.closeErr ‹_› closed⟩]
    · cases stepped
  | closeOutRes =>
    simp only [step] at stepped
    split at stepped
    · rcases touch_cases stepped with ⟨open_,rfl,rfl⟩ | ⟨closed,rfl,rfl⟩
      exacts [.inl ⟨.closeOutRes h ‹_› open_,rfl⟩,.inr ⟨rfl,_,rfl,.closeRes ‹_› closed⟩]
    · cases stepped
  | _ => cases stepped

theorem Moves.past (moved : Moves c h e h') : h'.worker ≠ .submitting := by
  cases moved with
  | polled tx now turn result => cases result <;> simp [afterWait]
  | _ => simp

/-- The channel discipline of a call: each channel is closed exactly when its deferred
close has run, and the caller has one outcome once the goroutine is past its send, none
before. -/
structure Inv (h : Helper) : Prop where
  errClosed : h.outErrClosed = h.worker.errClosed
  resClosed : h.outResClosed = h.worker.resClosed
  received : h.received.length = if h.worker.delivered then 1 else 0

theorem inv_init : ({} : Helper).Inv := ⟨rfl,rfl,rfl⟩

theorem Inv.moves (inv : h.Inv) (moved : Moves c h e h') : h'.Inv := by
  obtain ⟨errClosed,resClosed,received⟩ := inv
  cases moved with
  | polled tx now turn result at_ =>
    cases result <;> constructor <;> simp_all [afterWait,WorkerPc.errClosed,WorkerPc.resClosed,WorkerPc.delivered]
  | _ => constructor <;> simp_all [WorkerPc.errClosed,WorkerPc.resClosed,WorkerPc.delivered]

/-- What the goroutine's state says about the node's answers once the contract call
answered `result` and the receipt polls answered `polls`: it waits as WaitForReceipt
still loops over those polls, and what it holds or sent is the answer they give. -/
structure Reports (c : Client) (result : Except GoError Transaction) (polls : List Turn) (h : Helper) : Prop where
  past : h.worker ≠ .submitting
  waiting : ∀ tx now, h.worker = .waiting tx now → result = .ok tx ∧ waitForReceipt c tx 0 polls = .looping now
  reported : ∀ o, h.worker.pending = some o ∨ o ∈ h.received → report c result polls = some o

theorem reports_submitted {result : Except GoError Transaction} (moved : Moves c {} (.submit result) h') :
    Reports c result [] h' := by
  cases moved with
  | submitFails err => exact ⟨by simp,by simp,by simp [WorkerPc.pending,report]⟩
  | submitted tx => exact ⟨by simp,by simp; rfl,by simp [WorkerPc.pending]⟩

theorem Reports.moves {result : Except GoError Transaction} {polls : List Turn}
    (reports : Reports c result polls h) (moved : Moves c h e h') :
    Reports c result (polls ++ e.polled.toList) h' := by
  have kept (o : Outcome) (sent : o ∈ h.received) (more : List Turn) :=
    report_append (reports.reported o (.inr sent)) more
  cases moved with
  | submitFails _ at_ | submitted _ at_ => exact absurd at_ reports.past
  | polled tx now turn result at_ done =>
    obtain ⟨rfl,looping⟩ := reports.waiting tx now at_
    have returned : waitForReceipt c tx 0 (polls ++ [turn]) = .returned result := by
      simp [waitForReceipt_append_looping looping,waitForReceipt,done]
    refine ⟨by cases result <;> simp [afterWait],by cases result <;> simp [afterWait],?_⟩
    rintro o (held | sent)
    · simpa [Event.polled,report_ok returned] using held
    · exact kept o (by simpa using sent) _
  | pollAgain tx now turn at_ again =>
    obtain ⟨rfl,looping⟩ := reports.waiting tx now at_
    refine ⟨by simp,?_,?_⟩
    · rintro tx' now' ⟨⟩
      simp [Event.polled,waitForReceipt_append_looping looping,waitForReceipt,again]
    · rintro o (held | sent)
      · simp [WorkerPc.pending] at held
      · exact kept o sent _
  | deliverErr err at_ | deliverRes err at_ =>
    simp only [Event.polled,Option.toList,List.append_nil]
    refine ⟨by simp,by simp,?_⟩
    rintro o (held | sent)
    · simp [WorkerPc.pending] at held
    · rcases List.mem_append.1 sent with sent | sent
      · exact reports.reported o (.inr sent)
      · rw [List.mem_singleton.1 sent]
        exact reports.reported _ (.inl (by simp [at_,WorkerPc.pending]))
  | closeOutErr | closeOutRes =>
    refine ⟨by simp,by simp,?_⟩
    rintro o (held | sent)
    · simp [WorkerPc.pending] at held
    · exact kept o sent _
end Helper

end Livepeer.Eth
