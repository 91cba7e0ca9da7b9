import Livepeer.Eth.Approval.Channels
import Livepeer.Eth.Transactions.Runs

/-! What a Bond or Deposit caller can receive, over every interleaving of every call. Until
its goroutine sends its own transaction, the only outcomes are the two the approval chain
gives up with; once it has, the goroutine is a transaction helper, and what the caller gets
is what `report` reads off that call's own answers: the submission's, then the receipt
polls that follow it in the schedule. -/
namespace Livepeer.Eth
open Livepeer.Go

def WorkerPc.unsubmitted : WorkerPc → Bool
  | .waiting _ _ | .sendingRes _ => false
  | .sendingErr (some err) => err == subscriptionTimedOut
  | _ => true

def Outcome.ofApproval : Outcome → Bool
  | .error none => true
  | .error (some err) => err == subscriptionTimedOut
  | .receipt _ => false

theorem Outcome.ofApproval_iff (o : Outcome) :
    o.ofApproval = true ↔ o = .error none ∨ o = .error (some subscriptionTimedOut) := by
  rcases o with r | _ | err <;> simp [ofApproval]

theorem Event.unpolled {e : Event} (own : e.ofWorker = false) : e.polled = none := by
  cases e <;> first | rfl | cases own

theorem filterMap_polled_append (evs : List Event) (e : Event) :
    (evs ++ [e]).filterMap Event.polled = evs.filterMap Event.polled ++ e.polled.toList := by
  cases polled : e.polled <;> simp [List.filterMap_append,polled]

/-- An unsent call's goroutine is where an unsent one can be, and its caller has only the
approval chain's outcomes. -/
def Op.Unsent (o : Op) : Prop :=
  o.submitted = false → o.worker.unsubmitted = true ∧ ∀ x ∈ o.received, x.ofApproval = true

section Moves

variable {c : Client} {call : Call} {chain : List Log} {o o' : Op}

theorem Op.Unsent.keep (unsent : o.Unsent) (same : o'.submitted = o.submitted) (received : o'.received = o.received)
    (pc : o.worker.unsubmitted = true → o'.worker.unsubmitted = true) : o'.Unsent := fun fresh =>
  have ⟨at_,had⟩ := unsent (same ▸ fresh)
  ⟨pc at_,received ▸ had⟩

theorem Moves.unsent (moved : Moves c call chain o o') (unsent : o.Unsent) : o'.Unsent := by
  cases moved with
  | subscribeFails | subscribed | approveFails | notify | forward | closeLogs | unsubscribe | closeInRes
    | closeInErr | fire => exact unsent.keep rfl rfl id
  | approved | selectClosedRes | selectClosedErr | selectTimer | closeOutErr | closeOutRes =>
    exact unsent.keep rfl rfl fun _ => by simp [WorkerPc.unsubmitted]
  | hand log => exact unsent.keep rfl rfl fun _ => by split <;> rfl
  | submitFails | submitted => exact fun fresh => by cases fresh
  | polled _ _ _ result at_ =>
    cases result <;> exact fun fresh => absurd (unsent fresh).1 (by simp [at_,WorkerPc.unsubmitted])
  | pollAgain _ _ _ at_ | deliverRes _ at_ =>
    exact fun fresh => absurd (unsent fresh).1 (by simp [at_,WorkerPc.unsubmitted])
  | deliverErr err at_ =>
    intro fresh
    obtain ⟨pc,had⟩ := unsent fresh
    refine ⟨rfl,?_⟩
    simp only [List.mem_append,List.mem_singleton]
    rintro x (mem | rfl)
    exacts [had x mem,by cases err <;> simp_all [WorkerPc.unsubmitted,Outcome.ofApproval]]

theorem Moves.sends (moved : Moves c call chain o o') (fresh : o.submitted = false) (sent : o'.submitted = true) :
    o.worker = .submitting ∧ o'.worker ≠ .submitting := by
  cases moved with
  | polled _ _ _ result => cases result <;> simp_all [Op.afterWait]
  | _ => simp_all

end Moves

namespace Op

variable {c : Client} {call : Call} {chain : List Log} {o o' : Op} {e : Event} {eff : Effect}

theorem step_frame (own : e.ofWorker = false) (stepped : o.step c call chain e = some (o',eff)) :
    o'.submitted = o.submitted ∧ o'.received = o.received ∧
      (o'.worker = o.worker ∨ o.worker = .selecting ∨ o.caller = .approving) := by
  cases e <;> simp only [Event.ofWorker,reduceCtorEq] at own <;> simp only [step,touch] at stepped <;>
    (repeat' split at stepped) <;> cases stepped <;> refine ⟨rfl,rfl,?_⟩ <;> simp_all only [or_true,true_or]

theorem step_as_helper (own : e.ofWorker = true) (stepped : o.step c call chain e = some (o',eff)) :
    o.helper.step c (call.session c) e = some (o'.helper,eff) := by
  obtain ⟨h,helped,rfl⟩ := step_of_worker stepped own
  simpa using helped

end Op

namespace Helper

variable {c : Client} {h h' : Helper} {e : Event}

theorem Reports.congr {result : Except GoError Transaction} {polls : List Turn}
    (reports : Reports c result polls h) (worker : h'.worker = h.worker) (received : h'.received = h.received) :
    Reports c result polls h' :=
  ⟨worker ▸ reports.past,worker ▸ reports.waiting,by rw [worker,received]; exact reports.reported⟩

theorem Moves.reports_call (moved : Moves c h e h') (at_ : h.worker = .submitting) (fresh : h.received = []) :
    ∃ result, e = .submit result ∧ Reports c result [] h' := by
  cases moved with
  | submitFails err => exact ⟨.error err,rfl,by simp,by simp,by simp [WorkerPc.pending,report,fresh]⟩
  | submitted tx => exact ⟨.ok tx,rfl,by simp,by simp; rfl,by simp [WorkerPc.pending,fresh]⟩
  | polled _ _ _ _ at_' | pollAgain _ _ _ at_' | deliverErr _ at_' | deliverRes _ at_' | closeOutErr at_'
    | closeOutRes at_' => simp [at_] at at_'

theorem Panics.unpolled {session : Option Session} {r : PanicValue} (panics : Panics session h e r) :
    e.polled = none := by
  cases panics <;> rfl

end Helper

/-- A call's goroutine tracks the call's own steps `evs`: unsent, it has only the approval
chain's outcomes; sent, it reports the submission's answer and the polls that followed. -/
structure Op.Tracks (c : Client) (evs : List Event) (o : Op) : Prop where
  unsent : o.Unsent
  reports : o.submitted = true → ∃ pre result rest, evs = pre ++ .submit result :: rest ∧
    Helper.Reports c result (rest.filterMap Event.polled) o.helper

namespace Op

variable {c : Client} {call : Call} {chain : List Log} {o o' : Op} {e : Event} {eff : Effect}
  {evs : List Event}

theorem tracks_init : ({} : Op).Tracks c [] :=
  ⟨fun _ => ⟨rfl,by simp⟩,fun sent => by cases sent⟩

theorem Tracks.reports_frame (tracks : o.Tracks c evs) (sent : o.submitted = true) (unpolled : e.polled = none)
    (worker : o'.worker = o.worker) (received : o'.received = o.received) :
    ∃ pre result rest, evs ++ [e] = pre ++ .submit result :: rest ∧
      Helper.Reports c result (rest.filterMap Event.polled) o'.helper := by
  obtain ⟨pre,result,rest,split,reports⟩ := tracks.reports sent
  refine ⟨pre,result,rest ++ [e],by simp [split],?_⟩
  rw [filterMap_polled_append,unpolled]
  simpa using reports.congr worker received

theorem Tracks.step (tracks : o.Tracks c evs) (inv : o.Inv c) (closed : o.Closed)
    (stepped : o.step c call chain e = some (o',eff)) : o'.Tracks c (evs ++ [e]) := by
  have moves := step_moves stepped
  refine ⟨by rcases moves with rfl | moved; exacts [tracks.unsent,moved.unsent tracks.unsent],fun sent => ?_⟩
  /- Once sent, the goroutine is past its select and its caller has returned. -/
  have past (done : o.submitted = true) : o.worker ≠ .selecting ∧ o.caller ≠ .approving := by
    obtain ⟨l,observed,-⟩ := inv.submitted done
    have busy : o.worker ≠ .idle := fun idle => by simp [inv.unobserved (.inl idle)] at observed
    exact ⟨fun at_ => by simp [inv.unobserved (.inr at_)] at observed,by simp [inv.started busy]⟩
  /- The move that sends the transaction starts from the contract call. -/
  have sends (fresh : o.submitted = false) : o.worker = .submitting ∧ o'.worker ≠ .submitting := by
    rcases moves with rfl | moved
    · simp [fresh] at sent
    · exact moved.sends fresh sent
  cases own : e.ofWorker
  · obtain ⟨same,received,worker⟩ := step_frame own stepped
    have done : o.submitted = true := same ▸ sent
    exact tracks.reports_frame done (Event.unpolled own)
      (worker.resolve_right (by simpa using past done)) received
  · rcases Helper.step_cases (step_as_helper own stepped) with ⟨moved,-⟩ | ⟨same,r,-,panics⟩
    · cases fresh : o.submitted
      · obtain ⟨at_,-⟩ := sends fresh
        obtain ⟨result,rfl,reports⟩ :=
          moved.reports_call at_ (closed.unreceived (by simp [at_,WorkerPc.delivered]))
        exact ⟨evs,result,[],rfl,reports⟩
      · obtain ⟨pre,result,rest,split,reports⟩ := tracks.reports fresh
        refine ⟨pre,result,rest ++ [e],by simp [split],?_⟩
        rw [filterMap_polled_append]
        exact reports.moves moved
    · have worker : o'.worker = o.worker := congrArg Helper.worker same
      have done : o.submitted = true := by
        cases fresh : o.submitted
        · exact absurd (worker.trans (sends fresh).1) (sends fresh).2
        · rfl
      exact tracks.reports_frame done panics.unpolled worker (congrArg Helper.received same)

end Op

namespace System

variable {s t : System} {schedule : List (Nat × Event)}

def eventsOf (schedule : List (Nat × Event)) (i : Nat) : List Event :=
  schedule.filterMap fun step => if step.1 = i then some step.2 else none

theorem eventsOf_append (first rest : List (Nat × Event)) (i : Nat) :
    eventsOf (first ++ rest) i = eventsOf first i ++ eventsOf rest i :=
  List.filterMap_append _ _ _

theorem step_tracks {hist : List (Nat × Event)} (reached : s.Reachable)
    (tracks : ∀ i, (s.ops i).Tracks s.client (eventsOf hist i)) {j : Nat} {e : Event} (stepped : s.step j e = some t)
    (i : Nat) :
    (t.ops i).Tracks s.client (eventsOf (hist ++ [(j,e)]) i) := by
  obtain ⟨-,-,call,o',eff,-,moved,ops⟩ := step_cases stepped
  rw [ops,eventsOf_append]
  by_cases same : i = j
  · subst same
    simpa [eventsOf] using (tracks i).step (reached.inv i) (reached.closed i) moved
  · simpa [Function.update_noteq same,eventsOf,Ne.symm same] using tracks i

theorem run_tracks (hist : List (Nat × Event)) (reached : s.Reachable)
    (tracks : ∀ i, (s.ops i).Tracks s.client (eventsOf hist i)) (ran : s.run schedule = some t) (i : Nat) :
    (t.ops i).Tracks s.client (eventsOf (hist ++ schedule) i) := by
  induction schedule generalizing s hist with
  | nil =>
    cases ran
    simpa using tracks i
  | cons head rest ih =>
    obtain ⟨j,e⟩ := head
    obtain ⟨u,stepped,ran⟩ := Option.bind_eq_some.1 ran
    obtain ⟨client,-⟩ := step_cases stepped
    have later := ih (hist ++ [(j,e)]) (reached.step j e stepped) (client ▸ step_tracks reached tracks stepped) ran
    simpa [client] using later

theorem step_of_helper {i : Nat} {call : Call} {e : Event} {h' : Helper} (found : s.calls[i]? = some call)
    (free : s.panic = none) (own : e.ofWorker = true)
    (stepped : (s.ops i).helper.step s.client (call.session s.client) e = some (h',.quiet)) :
    ∃ t, s.step i e = some t ∧ (t.ops i).helper = h' ∧ t.client = s.client ∧ t.calls = s.calls ∧
      t.panic = none := by
  refine ⟨s.apply i (((s.ops i).lift (h',.quiet)).1,.quiet),?_,by simp [apply],rfl,rfl,free⟩
  simp [step,free,found,Op.step_worker _ _ _ _ _ own,stepped]
  rfl

theorem run_of_helper {i : Nat} {call : Call} (found : s.calls[i]? = some call) (free : s.panic = none)
    {evs : List Event} (own : ∀ e ∈ evs, e.ofWorker = true) {h : Helper}
    (ran : Helper.run (Helper.step s.client (call.session s.client)) (s.ops i).helper evs = some (.ok h)) :
    ∃ t, s.run (evs.map ((i,·))) = some t ∧ (t.ops i).helper = h := by
  induction evs generalizing s with
  | nil =>
    cases ran
    exact ⟨s,rfl,rfl⟩
  | cons e es ih =>
    cases stepped : (s.ops i).helper.step s.client (call.session s.client) e with
    | none => simp [Helper.run,stepped] at ran
    | some next =>
      obtain ⟨next,eff⟩ := next
      rcases Helper.step_cases stepped with ⟨-,rfl⟩ | ⟨-,r,rfl,-⟩
      · obtain ⟨t,tStep,helped,client,calls,tFree⟩ := step_of_helper found free (own e (.head _)) stepped
        rw [Helper.run_moves stepped,← helped,← client] at ran
        obtain ⟨u,uRun,done⟩ := ih (by rw [calls]; exact found) tFree (fun e mem => own e (.tail _ mem)) ran
        exact ⟨u,by simp [run,tStep,uRun],done⟩
      · simp [Helper.run_panicked stepped] at ran

end System

/-- Over every schedule of any Bond and Deposit calls, the node, the timers and the callers,
an outcome a call's caller receives is one of two kinds. Before the call's own transaction
is sent, it is the nil error of a closed `inErr` or the subscription timeout. After, it is
what the sequential helper computes from that call's own steps: the error of its contract
call, or WaitForReceipt's result over the receipt polls that follow. -/
theorem bond_outcome_reports_answers (c : Client) (calls : List Call) (chain : List Log)
    (schedule : List (Nat × Event)) {t : System} (ran : (System.init c calls chain).run schedule = some t)
    (i : Nat) {o : Outcome} (sent : o ∈ (t.ops i).received) :
    ((t.ops i).submitted = false ∧ (o = .error none ∨ o = .error (some subscriptionTimedOut))) ∨
      ((t.ops i).submitted = true ∧ ∃ pre result rest,
        System.eventsOf schedule i = pre ++ .submit result :: rest ∧
        report c result (rest.filterMap Event.polled) = some o) := by
  have tracks := System.run_tracks [] (.init c calls chain) (fun _ => Op.tracks_init) ran i
  cases done : (t.ops i).submitted
  · exact .inl ⟨rfl,(Outcome.ofApproval_iff o).1 ((tracks.unsent done).2 o sent)⟩
  · obtain ⟨pre,result,rest,split,reports⟩ := tracks.reports done
    exact .inr ⟨rfl,pre,result,rest,split,reports.reported o (.inr sent)⟩

/-- A Bond whose own Approval log arrives: its transaction is sent, the first poll finds the
receipt, and the caller gets it. -/
def minedBond : List (Nat × Event) :=
  [(0,.subscribe none),(0,.approve none),(0,.notify bondGrant),(0,.forward),(0,.closeLogs),
   (0,.unsubscribe),(0,.hand),(0,.submit (.ok ⟨7,90000⟩)),(0,.poll ⟨0,⟨some ⟨7,60000⟩,none⟩,0⟩),
   (0,.deliver)]

def minedBondState : System :=
  ((System.init resolvedClient [bondCall] []).run minedBond).getD (System.init resolvedClient [] [])

theorem minedBond_reports_answers :
    (System.init resolvedClient [bondCall] []).run minedBond = some minedBondState ∧
      Outcome.receipt ⟨7,60000⟩ ∈ (minedBondState.ops 0).received ∧
      (((minedBondState.ops 0).submitted = false ∧
          (Outcome.receipt ⟨7,60000⟩ = .error none ∨
            Outcome.receipt ⟨7,60000⟩ = .error (some subscriptionTimedOut))) ∨
        ((minedBondState.ops 0).submitted = true ∧ ∃ pre result rest,
          System.eventsOf minedBond 0 = pre ++ .submit result :: rest ∧
          report resolvedClient result (rest.filterMap Event.polled) = some (.receipt ⟨7,60000⟩))) :=
  have ran : (System.init resolvedClient [bondCall] []).run minedBond = some minedBondState := rfl
  ⟨ran,by decide,bond_outcome_reports_answers _ _ _ _ ran 0 (by decide)⟩

/-- Once a Bond or Deposit call's goroutine is at its contract call through a set session,
whatever the node answers and whatever the other calls are doing, the call's own steps take
it to its end as soon as the receipt polls give WaitForReceipt a result: its caller gets
exactly the outcome the sequential helper computes, and both its channels are closed. -/
theorem bond_completes_with_report {s : System} (reached : s.Reachable) {i : Nat} {call : Call}
    (found : s.calls[i]? = some call) (free : s.panic = none) (at_ : (s.ops i).worker = .submitting)
    {session : Session} (bound : call.session s.client = some session) (result : Except GoError Transaction)
    (turns : List Turn) (o : Outcome) (reported : report s.client result turns = some o) :
    ∃ used, used <+: turns ∧ ∃ t,
      s.run ((Event.submit result :: used.map .poll ++ [Event.deliver,Event.closeOutErr,Event.closeOutRes]).map
        ((i,·))) = some t ∧
        (t.ops i).helper = ⟨.exited,true,true,[o]⟩ := by
  have closed := reached.closed i
  have fresh : (s.ops i).helper = {} := by
    simp [Op.helper,at_,closed.outErr,closed.outRes,closed.unreceived (by simp [at_,WorkerPc.delivered]),
      WorkerPc.errClosed,WorkerPc.resClosed]
  obtain ⟨used,prefix_,ran⟩ := Helper.run_completes s.client session result turns o reported
  rw [← bound,← fresh] at ran
  have own : ∀ e ∈ Event.submit result :: used.map .poll ++ [.deliver,.closeOutErr,.closeOutRes],
      e.ofWorker = true := by
    simp only [List.mem_cons,List.mem_append,List.mem_map,List.not_mem_nil,or_false]
    rintro e ((rfl | ⟨turn,-,rfl⟩) | rfl | rfl | rfl) <;> rfl
  obtain ⟨t,ranSystem,done⟩ := System.run_of_helper found free own ran
  exact ⟨used,prefix_,t,ranSystem,done⟩

def grantedBond : System :=
  ((System.init resolvedClient [bondCall] []).run (minedBond.take 7)).getD (System.init resolvedClient [] [])

theorem grantedBond_completes :
    grantedBond.Reachable ∧ grantedBond.calls[0]? = some bondCall ∧ grantedBond.panic = none ∧
      (grantedBond.ops 0).worker = .submitting ∧ bondCall.session grantedBond.client = some ⟨1,⟨9⟩⟩ ∧
      report grantedBond.client (.ok ⟨7,90000⟩) [⟨0,⟨some ⟨7,60000⟩,none⟩,0⟩] =
        some (.receipt ⟨7,60000⟩) ∧
      ∃ used, used <+: [⟨0,⟨some ⟨7,60000⟩,none⟩,0⟩] ∧ ∃ t,
        grantedBond.run ((Event.submit (.ok ⟨7,90000⟩) :: used.map .poll ++
          [Event.deliver,Event.closeOutErr,Event.closeOutRes]).map ((0,·))) = some t ∧ (t.ops 0).helper = ⟨.exited,true,true,[.receipt ⟨7,60000⟩]⟩ :=
  have reached : grantedBond.Reachable :=
    System.run_reachable (minedBond.take 7) (System.Reachable.init resolvedClient [bondCall] []) rfl
  have found : grantedBond.calls[0]? = some bondCall := by decide
  have free : grantedBond.panic = none := by decide
  have at_ : (grantedBond.ops 0).worker = .submitting := by decide
  have bound : bondCall.session grantedBond.client = some ⟨1,⟨9⟩⟩ := rfl
  have reported : report grantedBond.client (.ok ⟨7,90000⟩) [⟨0,⟨some ⟨7,60000⟩,none⟩,0⟩] =
      some (.receipt ⟨7,60000⟩) := rfl
  ⟨reached,found,free,at_,bound,reported,bond_completes_with_report reached found free at_ bound _ _ _ reported⟩

end Livepeer.Eth
