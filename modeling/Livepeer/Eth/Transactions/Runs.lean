import Livepeer.Eth.Transactions.Moves

/-! Runs of a helper's goroutine over every schedule of its steps: it panics only through a
nil session, sends exactly one outcome before its closes, sends what the code computes from
the node's answers, and runs to its end once WaitForReceipt has a result. -/
namespace Livepeer.Eth
open Livepeer.Go

namespace Helper

variable {c : Client} {session : Option Session} {h h' : Helper} {e : Event} {eff : Effect}
theorem run_moves {es : List Event} (moved : h.step c session e = some (h',.quiet)) :
    run (step c session) h (e :: es) = run (step c session) h' es := by
  simp [run,moved]

theorem run_panicked {es : List Event} {r : PanicValue} (panicked : h.step c session e = some (h',.panics r)) :
    run (step c session) h (e :: es) = some (.error r) := by
  simp [run,panicked]

theorem run_keeps (P : List Turn → Helper → Prop)
    (keeps : ∀ {polls h e h'}, P polls h → Moves c h e h' → P (polls ++ e.polled.toList) h')
    (polls : List Turn) {evs : List Event} (holds : P polls h)
    (ran : run (step c session) h evs = some (.ok h')) : P (polls ++ evs.filterMap Event.polled) h' := by
  induction evs generalizing h polls with
  | nil =>
    cases ran
    simpa using holds
  | cons e es ih =>
    cases stepped : h.step c session e with
    | none => simp [run,stepped] at ran
    | some next =>
      obtain ⟨next,eff⟩ := next
      rcases step_cases stepped with ⟨moved,rfl⟩ | ⟨rfl,r,rfl,-⟩
      · rw [run_moves stepped] at ran
        have := ih _ (keeps holds moved) ran
        cases polled : e.polled <;> simp_all [List.filterMap_cons]
      · simp [run_panicked stepped] at ran

theorem run_inv {evs : List Event} (inv : h.Inv) (ran : run (step c session) h evs = some (.ok h')) : h'.Inv :=
  run_keeps (fun _ h => h.Inv) (fun inv moved => inv.moves moved) [] inv ran

theorem run_start {evs : List Event} {h : Helper} (ran : run (step c session) {} evs = some (.ok h)) :
    (evs = [] ∧ h = {}) ∨ ∃ result rest first, evs = .submit result :: rest ∧
      Moves c {} (.submit result) first ∧ run (step c session) first rest = some (.ok h) := by
  cases evs with
  | nil =>
    cases ran
    exact .inl ⟨rfl,rfl⟩
  | cons e rest =>
    cases stepped : ({} : Helper).step c session e with
    | none => simp [run,stepped] at ran
    | some next =>
      obtain ⟨next,eff⟩ := next
      rcases step_cases stepped with ⟨moved,rfl⟩ | ⟨rfl,r,rfl,-⟩
      · rw [run_moves stepped] at ran
        cases moved with
        | submitFails err | submitted err => exact .inr ⟨_,rest,_,rfl,by constructor; rfl,ran⟩
        | _ => contradiction
      · simp [run_panicked stepped] at ran

theorem run_append (step : Helper → Event → Option (Helper × Effect)) (h : Helper) (xs ys : List Event) :
    run step h (xs ++ ys) = (run step h xs).bind fun
      | .ok h' => run step h' ys
      | .error r => some (.error r) := by
  induction xs generalizing h with
  | nil => rfl
  | cons e es ih =>
    simp only [List.cons_append,run]
    split <;> simp_all

theorem run_polls {tx : Transaction} {now : Int} {turns : List Turn} {result : Except GoError Receipt}
    (at_ : h.worker = .waiting tx now) (returned : waitForReceipt c tx now turns = .returned result) :
    ∃ used, used <+: turns ∧ run (step c session) h (used.map .poll) = some (.ok (h.afterWait result)) := by
  induction turns generalizing h now with
  | nil => cases returned
  | cons turn turns ih =>
    simp only [waitForReceipt] at returned
    cases turned : receiptTurn c tx now turn with
    | some result' =>
      rw [turned] at returned
      cases returned
      exact ⟨[turn],by simp,by simp [run,step,at_,turned]⟩
    | none =>
      simp only [turned] at returned
      obtain ⟨used,prefix_,ran⟩ := @ih {h with worker := .waiting tx (turn.next now)} _ rfl returned
      refine ⟨turn :: used,List.cons_prefix_cons.2 ⟨rfl,prefix_⟩,?_⟩
      have moved : h.step c session (.poll turn) = some ({h with worker := .waiting tx (turn.next now)},.quiet) := by
        simp [step,at_,turned]
      rw [List.map_cons,run_moves moved]
      simpa using ran

theorem run_completes (c : Client) (s : Session) (result : Except GoError Transaction) (turns : List Turn)
    (o : Outcome) (reported : report c result turns = some o) :
    ∃ used, used <+: turns ∧
      run (step c (some s)) {} (.submit result :: used.map .poll ++ [.deliver,.closeOutErr,.closeOutRes]) =
        some (.ok ⟨.exited,true,true,[o]⟩) := by
  cases result with
  | error err =>
    cases reported
    exact ⟨[],List.nil_prefix,rfl⟩
  | ok tx =>
    cases waited : waitForReceipt c tx 0 turns with
    | looping later => simp [report,waited] at reported
    | returned res =>
      rw [report_ok waited,Option.some.injEq] at reported
      subst reported
      have submitted : ({} : Helper).step c (some s) (.submit (.ok tx)) = some ({worker := .waiting tx 0},.quiet) := rfl
      have polls : ∃ used, used <+: turns ∧ run (step c (some s)) {worker := .waiting tx 0}
          (used.map .poll) = some (.ok (({worker := .waiting tx 0} : Helper).afterWait res)) :=
        run_polls rfl waited
      obtain ⟨used,prefix_,polled⟩ := polls
      refine ⟨used,prefix_,?_⟩
      rw [List.cons_append,run_moves submitted,run_append,polled]
      cases res <;> rfl

end Helper

/-- Over every schedule the goroutine sends at most one outcome, closes a channel only
after sending it and `outErr` before `outRes`, and once gone has sent exactly one and
closed both. -/
theorem helper_sends_once (c : Client) (session : Option Session) (evs : List Event) (h : Helper)
    (ran : Helper.run (Helper.step c session) {} evs = some (.ok h)) :
    h.received.length ≤ 1 ∧ (h.outErrClosed = true → h.received.length = 1) ∧
      (h.outResClosed = true → h.outErrClosed = true) ∧
      (h.worker = .exited → h.outErrClosed = true ∧ h.outResClosed = true ∧ h.received.length = 1) := by
  obtain ⟨errClosed,resClosed,received⟩ := Helper.run_inv Helper.inv_init ran
  rw [errClosed,resClosed,received]
  cases h.worker <;> simp [WorkerPc.errClosed,WorkerPc.resClosed,WorkerPc.delivered]

def minedTransfer : List Event :=
  [.submit (.ok ⟨5,21000⟩),.poll ⟨0,notMined,0⟩,.poll ⟨0,⟨some ⟨5,20000⟩,none⟩,0⟩,.deliver,.closeOutErr,
    .closeOutRes]

def minedState : Helper := ⟨.exited,true,true,[.receipt ⟨5,20000⟩]⟩

theorem minedTransfer_sends_once :
    Helper.run resolvedClient.transfer {} minedTransfer = some (.ok minedState) ∧
      minedState.received.length ≤ 1 ∧ (minedState.outErrClosed = true → minedState.received.length = 1) ∧
      (minedState.outResClosed = true → minedState.outErrClosed = true) ∧
      (minedState.worker = .exited →
        minedState.outErrClosed = true ∧ minedState.outResClosed = true ∧ minedState.received.length = 1) :=
  have ran : Helper.run resolvedClient.transfer {} minedTransfer = some (.ok minedState) := rfl
  ⟨ran,helper_sends_once _ _ _ _ ran⟩

/-- Every outcome the caller receives is the one the code computes from the node's answers:
the contract call's error, or what WaitForReceipt returns over the schedule's receipt
polls. -/
theorem helper_reports_answers (c : Client) (session : Option Session) (evs : List Event) (h : Helper)
    (ran : Helper.run (Helper.step c session) {} evs = some (.ok h)) (o : Outcome) (sent : o ∈ h.received) :
    ∃ result rest, evs = .submit result :: rest ∧ report c result (rest.filterMap Event.polled) = some o := by
  rcases Helper.run_start ran with ⟨rfl,rfl⟩ | ⟨result,rest,first,rfl,moved,ran⟩
  · cases sent
  · have reports := Helper.run_keeps (Helper.Reports c result) (fun reports moved => reports.moves moved) []
      (Helper.reports_submitted moved) ran
    exact ⟨result,rest,rfl,by simpa using reports.reported o (.inr sent)⟩

theorem minedTransfer_reports :
    Helper.run resolvedClient.transfer {} minedTransfer = some (.ok minedState) ∧
      Outcome.receipt ⟨5,20000⟩ ∈ minedState.received ∧
      ∃ result rest, minedTransfer = .submit result :: rest ∧
        report resolvedClient result (rest.filterMap Event.polled) = some (.receipt ⟨5,20000⟩) :=
  have ran : Helper.run resolvedClient.transfer {} minedTransfer = some (.ok minedState) := rfl
  have sent : Outcome.receipt ⟨5,20000⟩ ∈ minedState.received := by decide
  ⟨ran,sent,helper_reports_answers _ _ _ _ ran _ sent⟩

/-- Whatever the contract call answers, once the receipt polls give WaitForReceipt a result
the goroutine runs to its end through those polls, its send and its two closes, having sent
the outcome the code computes from those answers. -/
theorem helper_completes (c : Client) (s : Session) (result : Except GoError Transaction) (turns : List Turn)
    (o : Outcome) (reported : report c result turns = some o) :
    ∃ used, used <+: turns ∧
      Helper.run (Helper.step c (some s)) {} (.submit result :: used.map .poll ++ [.deliver,.closeOutErr,.closeOutRes]) =
        some (.ok ⟨.exited,true,true,[o]⟩) :=
  Helper.run_completes c s result turns o reported

theorem minedTransfer_completes :
    report resolvedClient (.ok ⟨5,21000⟩) [⟨0,notMined,0⟩,⟨0,⟨some ⟨5,20000⟩,none⟩,0⟩] = some (.receipt ⟨5,20000⟩) ∧
      ∃ used, used <+: [⟨0,notMined,0⟩,⟨0,⟨some ⟨5,20000⟩,none⟩,0⟩] ∧
        Helper.run (Helper.step resolvedClient (some ⟨11,⟨9⟩⟩)) {}
          (.submit (.ok ⟨5,21000⟩) :: used.map .poll ++ [.deliver,.closeOutErr,.closeOutRes]) =
          some (.ok ⟨.exited,true,true,[.receipt ⟨5,20000⟩]⟩) :=
  have reported : report resolvedClient (.ok ⟨5,21000⟩) [⟨0,notMined,0⟩,⟨0,⟨some ⟨5,20000⟩,none⟩,0⟩] =
      some (.receipt ⟨5,20000⟩) := rfl
  ⟨reported,helper_completes _ _ _ _ _ reported⟩

end Livepeer.Eth
