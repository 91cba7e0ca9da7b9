import Livepeer.Eth.Approval.Invariant

/-! The approval chain over whole runs: every call of every reachable state keeps its
invariant, whatever the other calls, the node, the timers and the callers do. What Bond
submits on is checked against a run in which it proceeds on a concurrent Deposit's
Approval log, on the client `resolvedClient` (BondingManager at 1, JobsManager at 2, token
at 11, account 9). -/
namespace Livepeer.Eth
open Livepeer.Go

namespace System

variable {s t u : System} {i : Nat} {e : Event}

theorem step_cases (stepped : s.step i e = some t) :
    t.client = s.client ∧ t.calls = s.calls ∧ ∃ call o' eff, s.calls[i]? = some call ∧
      (s.ops i).step s.client call s.chain e = some (o',eff) ∧ t.ops = Function.update s.ops i o' := by
  unfold step at stepped
  split at stepped
  · rename_i call _ found
    obtain ⟨⟨o',eff⟩,moved,rfl⟩ := Option.map_eq_some'.1 stepped
    refine ⟨?_,?_,call,o',eff,found,moved,?_⟩ <;> cases eff <;> rfl
  · cases stepped

/-- Every call of a reachable state keeps the invariant. -/
theorem Reachable.inv (reached : Reachable s) (i : Nat) : (s.ops i).Inv s.client := by
  induction reached generalizing i with
  | init => exact Op.inv_init
  | step j e _ stepped ih =>
    obtain ⟨client,-,call,o',eff,-,moved,ops⟩ := step_cases stepped
    rw [client,ops]
    by_cases same : i = j
    · subst same
      rw [Function.update_same]
      rcases Op.step_moves moved with rfl | moved
      · exact ih i
      · exact (ih i).moves moved
    · rw [Function.update_noteq same]
      exact ih i

theorem Reaches.reachable (reached : Reachable s) (reaches : Reaches s t) : Reachable t := by
  induction reaches with
  | refl => exact reached
  | step j e stepped _ ih => exact ih (.step j e reached stepped)

def run : System → List (Nat × Event) → Option System
  | s, [] => some s
  | s, (i,e) :: rest => (s.step i e).bind (run · rest)

theorem run_reachable {s t : System} (schedule : List (Nat × Event)) (reached : s.Reachable)
    (ran : s.run schedule = some t) : t.Reachable := by
  induction schedule generalizing s with
  | nil =>
    cases ran
    exact reached
  | cons head rest ih =>
    obtain ⟨i,e⟩ := head
    obtain ⟨u,stepped,ran⟩ := Option.bind_eq_some.1 ran
    exact ih (reached.step i e stepped) ran

theorem reachable_of_run (p : System → Bool) {s : System} (schedule : List (Nat × Event))
    (reached : s.Reachable) (ran : (s.run schedule).map p = some true) :
    ∃ t, t.Reachable ∧ p t = true := by
  obtain ⟨t,found,holds⟩ := Option.map_eq_some'.1 ran
  exact ⟨t,run_reachable schedule reached found,holds⟩

end System

def bondCall : Call := ⟨.bond 5,100⟩

def depositCall : Call := ⟨.deposit,200⟩

def depositGrant : Log := approvalLog resolvedClient resolvedClient.jobsManagerAddr 200

/-- Bond and Deposit run concurrently; the node delivers Deposit's Approval log (spender
JobsManager, value 200) on Bond's subscription first, and Bond submits on it. -/
def crossedGrants : List (Nat × Event) :=
  [(0,.subscribe none),(1,.subscribe none),(0,.approve none),(1,.approve none),
   (0,.notify depositGrant),(0,.forward),(0,.closeLogs),(0,.unsubscribe),(0,.hand),
   (0,.submit (.ok ⟨7,90000⟩))]

def crossedState : System :=
  ((System.init resolvedClient [bondCall,depositCall] []).run crossedGrants).getD
    (System.init resolvedClient [] [])

theorem crossedState_reachable : crossedState.Reachable :=
  System.run_reachable crossedGrants (.init resolvedClient [bondCall,depositCall] []) rfl

/-- Bond or Deposit submits its own transaction only after its caller got the channel
pair back, which happens only once its own `approve` was sent without error, and only
after Approve's goroutine took a log from its own subscription and handed that same log
over: a log with `Removed` false that the Approval filter of the token and the account let
through. Neither the log's spender nor its value is checked. -/
theorem submitted_after_granted_log {s : System} (reached : s.Reachable) (i : Nat)
    (sent : (s.ops i).submitted = true) :
    (s.ops i).caller = .returned ∧ ∃ l, (s.ops i).granted = some l ∧ (s.ops i).observed = some l ∧
      l.removed = false ∧ (approvalQuery s.client).matches l = true := by
  have inv := reached.inv i
  obtain ⟨l,observed,valid⟩ := inv.submitted sent
  have busy : (s.ops i).worker ≠ .idle := fun idle => by simp [inv.unobserved (.inl idle)] at observed
  have granted := inv.observedGranted l observed
  exact ⟨inv.started busy,l,granted,observed,valid,inv.grantedMatches l granted⟩

theorem crossedState_submitted_after_grant :
    crossedState.Reachable ∧ (crossedState.ops 0).submitted = true ∧
      ((crossedState.ops 0).caller = .returned ∧ ∃ l, (crossedState.ops 0).granted = some l ∧
        (crossedState.ops 0).observed = some l ∧ l.removed = false ∧
        (approvalQuery crossedState.client).matches l = true) :=
  ⟨crossedState_reachable,by decide,submitted_after_granted_log crossedState_reachable 0 (by decide)⟩

theorem bond_submits_on_foreign_grant :
    ¬ ∀ s : System, s.Reachable → ∀ i call, s.calls[i]? = some call → (s.ops i).submitted = true →
      (s.ops i).granted = some (approvalLog s.client (call.spender s.client) call.amount) := by
  intro own
  obtain ⟨s,reached,holds⟩ := System.reachable_of_run
    (fun s => s.calls[0]? == some bondCall && (s.ops 0).submitted &&
      (s.ops 0).granted != some (approvalLog s.client (bondCall.spender s.client) bondCall.amount))
    crossedGrants (.init resolvedClient [bondCall,depositCall] []) (by decide)
  simp only [Bool.and_eq_true,beq_iff_eq,bne_iff_ne,ne_eq] at holds
  exact holds.2 (own s reached 0 bondCall holds.1.1 holds.1.2)

theorem approver_exits_after_hand {s : System} (reached : s.Reachable) (i : Nat)
    (exited : (s.ops i).approver = .exited) : (s.ops i).observed ≠ none := by
  have handed := (reached.inv i).handed
  rw [exited] at handed
  cases observed : (s.ops i).observed <;> simp_all [ApproverPc.handed]

theorem Moves.stranded {c : Client} {call : Call} {chain : List Log} {o o' : Op}
    (moved : Moves c call chain o o') (inv : o.Inv c) (gone : o.worker = .exited)
    (untaken : o.observed = none) : o'.worker = .exited ∧ o'.observed = none := by
  have returned := inv.started (by simp [gone])
  cases moved <;> simp_all

theorem System.step_stranded {s t : System} {i j : Nat} {e : Event} (reached : s.Reachable)
    (stepped : s.step j e = some t) (gone : (s.ops i).worker = .exited)
    (untaken : (s.ops i).observed = none) : (t.ops i).worker = .exited ∧ (t.ops i).observed = none := by
  obtain ⟨-,-,call,o',eff,-,moved,ops⟩ := step_cases stepped
  rw [ops]
  by_cases same : i = j
  · subst same
    rw [Function.update_same]
    rcases Op.step_moves moved with rfl | moved
    · exact ⟨gone,untaken⟩
    · exact moved.stranded (reached.inv i) gone untaken
  · rw [Function.update_noteq same]
    exact ⟨gone,untaken⟩

theorem System.Reaches.stranded {s t : System} {i : Nat} (reaches : s.Reaches t) (reached : s.Reachable)
    (gone : (s.ops i).worker = .exited) (untaken : (s.ops i).observed = none) :
    (t.ops i).worker = .exited ∧ (t.ops i).observed = none := by
  induction reaches with
  | refl => exact ⟨gone,untaken⟩
  | step j e stepped _ ih =>
    obtain ⟨gone,untaken⟩ := System.step_stranded reached stepped gone untaken
    exact ih (reached.step j e stepped) gone untaken

end Livepeer.Eth
