import Livepeer.Go

/-! The client's contract bindings (`Client`, `NewClient`, `SetManagers` of the eth
package). A binding of a manager role is its address field together with the session
built for that address; SetManagers resolves the three roles through the registry. -/
namespace Livepeer.Eth
open Livepeer.Go

inductive Role
  | bondingManager
  | jobsManager
  | roundsManager
deriving DecidableEq, Repr

def Role.name : Role → String
  | .bondingManager => "BondingManager"
  | .jobsManager => "JobsManager"
  | .roundsManager => "RoundsManager"

def Role.index : Role → Nat
  | .bondingManager => 0
  | .jobsManager => 1
  | .roundsManager => 2

structure TransactOpts where
  sender : Address
deriving DecidableEq, Repr

structure Session where
  address : Address
  transactOpts : TransactOpts
deriving DecidableEq, Repr

structure Client where
  account : Address
  transactOpts : TransactOpts
  protocolAddr : Address
  tokenAddr : Address
  bondingManagerAddr : Address := 0
  jobsManagerAddr : Address := 0
  roundsManagerAddr : Address := 0
  protocolSession : Option Session
  tokenSession : Option Session
  bondingManagerSession : Option Session := none
  jobsManagerSession : Option Session := none
  roundsManagerSession : Option Session := none
  rpcTimeout : Duration
  eventTimeout : Duration
deriving DecidableEq, Repr

namespace Client

def addr (c : Client) : Role → Address
  | .bondingManager => c.bondingManagerAddr
  | .jobsManager => c.jobsManagerAddr
  | .roundsManager => c.roundsManagerAddr

def session (c : Client) : Role → Option Session
  | .bondingManager => c.bondingManagerSession
  | .jobsManager => c.jobsManagerSession
  | .roundsManager => c.roundsManagerSession

def setAddr (c : Client) : Role → Address → Client
  | .bondingManager, a => {c with bondingManagerAddr := a}
  | .jobsManager, a => {c with jobsManagerAddr := a}
  | .roundsManager, a => {c with roundsManagerAddr := a}

def setSession (c : Client) : Role → Session → Client
  | .bondingManager, s => {c with bondingManagerSession := some s}
  | .jobsManager, s => {c with jobsManagerSession := some s}
  | .roundsManager, s => {c with roundsManagerSession := some s}

@[simp] theorem addr_setAddr (c : Client) (r q : Role) (a : Address) :
    (c.setAddr r a).addr q = if q = r then a else c.addr q := by
  cases r <;> cases q <;> rfl

@[simp] theorem session_setAddr (c : Client) (r q : Role) (a : Address) :
    (c.setAddr r a).session q = c.session q := by
  cases r <;> cases q <;> rfl

@[simp] theorem addr_setSession (c : Client) (r q : Role) (s : Session) :
    (c.setSession r s).addr q = c.addr q := by
  cases r <;> cases q <;> rfl

@[simp] theorem session_setSession (c : Client) (r q : Role) (s : Session) :
    (c.setSession r s).session q = if q = r then some s else c.session q := by
  cases r <;> cases q <;> rfl

@[simp] theorem transactOpts_setAddr (c : Client) (r : Role) (a : Address) :
    (c.setAddr r a).transactOpts = c.transactOpts := by
  cases r <;> rfl

@[simp] theorem transactOpts_setSession (c : Client) (r : Role) (s : Session) :
    (c.setSession r s).transactOpts = c.transactOpts := by
  cases r <;> rfl

end Client

/-- The node's answers to one SetManagers call: the protocol contract's
`Registry(roleHash)` for each role, and the error the generated constructor
(`contracts.NewBondingManager` and its siblings) returns for an address, if any. -/
structure Registry where
  lookup : Role → Except GoError Address
  binding : Role → Address → Option GoError

namespace Client

/-- One of the three blocks of SetManagers: look the role up, store the address, build
the contract, store the session; each failure returns at once. -/
def setRole (c : Client) (node : Registry) (r : Role) : Client × Option GoError :=
  match node.lookup r with
  | .error err => (c, some err)
  | .ok a =>
    match node.binding r a with
    | some err => (c.setAddr r a, some err)
    | none => ((c.setAddr r a).setSession r ⟨a,c.transactOpts⟩, none)

def thenBlock (first : Client × Option GoError) (next : Client → Client × Option GoError) :
    Client × Option GoError :=
  match first.2 with
  | none => next first.1
  | some _ => first

def setManagers (c : Client) (node : Registry) : Client × Option GoError :=
  thenBlock (thenBlock (c.setRole node .bondingManager) (·.setRole node .jobsManager))
    (·.setRole node .roundsManager)

end Client

structure Setup where
  transactOpts : Except GoError TransactOpts
  token : Option GoError
  protocol : Option GoError
  registry : Registry

/-- `NewClient`: the error SetManagers returns is dropped. -/
def newClient (account protocolAddr tokenAddr : Address) (rpcTimeout eventTimeout : Duration)
    (setup : Setup) : Except GoError Client :=
  match setup.transactOpts with
  | .error err => .error err
  | .ok opts =>
    match setup.token with
    | some err => .error err
    | none =>
      match setup.protocol with
      | some err => .error err
      | none =>
        let client : Client :=
          { account, transactOpts := opts, protocolAddr, tokenAddr,
            protocolSession := some ⟨protocolAddr,opts⟩, tokenSession := some ⟨tokenAddr,opts⟩,
            rpcTimeout, eventTimeout }
        .ok (client.setManagers setup.registry).1

/-- Client states reachable by a successful NewClient followed by SetManagers calls. -/
inductive Reachable : Client → Prop
  | newClient {c : Client} (account protocolAddr tokenAddr : Address) (rpcTimeout eventTimeout : Duration)
      (setup : Setup) (ok : newClient account protocolAddr tokenAddr rpcTimeout eventTimeout setup = .ok c) :
      Reachable c
  | setManagers {c : Client} (node : Registry) (reached : Reachable c) : Reachable (c.setManagers node).1

def Resolves (node : Registry) (r : Role) (a : Address) : Prop :=
  node.lookup r = .ok a ∧ node.binding r a = none

def Fails (node : Registry) (r : Role) (err : GoError) : Prop :=
  node.lookup r = .error err ∨ ∃ a, node.lookup r = .ok a ∧ node.binding r a = some err

def BoundTo (c : Client) (r : Role) (a : Address) : Prop :=
  c.addr r = a ∧ c.session r = some ⟨a,c.transactOpts⟩

def Kept (before after : Client) (r : Role) : Prop :=
  after.addr r = before.addr r ∧ after.session r = before.session r

/-- SetManagers gets to the block of role `r`: every earlier role resolved. -/
def Reached (node : Registry) : Role → Prop
  | .bondingManager => True
  | .jobsManager => ∃ a, Resolves node .bondingManager a
  | .roundsManager => (∃ a, Resolves node .bondingManager a) ∧ ∃ a, Resolves node .jobsManager a

theorem Resolves.not_fails {node : Registry} {r : Role} {a : Address} {err : GoError} (found : Resolves node r a) : ¬ Fails node r err := by
  rintro (looked | ⟨b,looked,built⟩)
  · simp [found.1] at looked
  · cases found.1.symm.trans looked
    simp [found.2] at built

namespace Client

variable (c : Client) (node : Registry) (r : Role)

theorem setRole_resolved {a : Address} (found : Resolves node r a) :
    c.setRole node r = ((c.setAddr r a).setSession r ⟨a,c.transactOpts⟩,none) := by
  simp [setRole,found.1,found.2]

theorem setRole_unbuilt {a : Address} {err : GoError} (looked : node.lookup r = .ok a)
    (built : node.binding r a = some err) : c.setRole node r = (c.setAddr r a,some err) := by
  simp [setRole,looked,built]

theorem setRole_unknown {err : GoError} (looked : node.lookup r = .error err) :
    c.setRole node r = (c,some err) := by
  simp [setRole,looked]

theorem setRole_cases :
    (∃ a, Resolves node r a ∧
      c.setRole node r = ((c.setAddr r a).setSession r ⟨a,c.transactOpts⟩,none)) ∨
    (∃ a err, node.lookup r = .ok a ∧ node.binding r a = some err ∧
      c.setRole node r = (c.setAddr r a,some err)) ∨
    (∃ err, node.lookup r = .error err ∧ c.setRole node r = (c,some err)) := by
  cases looked : node.lookup r with
  | error err => exact .inr (.inr ⟨err,rfl,setRole_unknown c node r looked⟩)
  | ok a =>
    cases built : node.binding r a with
    | some err => exact .inr (.inl ⟨a,err,rfl,built,setRole_unbuilt c node r looked built⟩)
    | none => exact .inl ⟨a,⟨looked,built⟩,setRole_resolved c node r ⟨looked,built⟩⟩

theorem setRole_transactOpts : (c.setRole node r).1.transactOpts = c.transactOpts := by
  rcases setRole_cases c node r with ⟨a,-,same⟩ | ⟨a,err,-,-,same⟩ | ⟨err,-,same⟩ <;> simp [same]

theorem setRole_other {q : Role} (other : q ≠ r) : Kept c (c.setRole node r).1 q := by
  rcases setRole_cases c node r with ⟨a,-,same⟩ | ⟨a,err,-,-,same⟩ | ⟨err,-,same⟩ <;>
    simp [same,Kept,other]

theorem setRole_ok_iff : (c.setRole node r).2 = none ↔ ∃ a, Resolves node r a := by
  rcases setRole_cases c node r with ⟨a,found,same⟩ | ⟨a,err,looked,built,same⟩ | ⟨err,looked,same⟩
  · simpa [same] using ⟨a,found⟩
  · simp only [same,reduceCtorEq,false_iff,not_exists,Resolves,looked,Except.ok.injEq]
    rintro b ⟨rfl,unbuilt⟩
    simp [built] at unbuilt
  · simp [same,Resolves,looked]

theorem setRole_error (err : GoError) : (c.setRole node r).2 = some err ↔ Fails node r err := by
  rcases setRole_cases c node r with ⟨a,found,same⟩ | ⟨a,err',looked,built,same⟩ | ⟨err',looked,same⟩
  · simp [same,Fails,found.1,found.2]
  · simp [same,Fails,looked,built]
  · simp [same,Fails,looked]

theorem setRole_congr {d : Client} (same : Kept c d r) (opts : d.transactOpts = c.transactOpts) :
    Kept (c.setRole node r).1 (d.setRole node r).1 r := by
  obtain ⟨addrs,sessions⟩ := same
  unfold setRole
  split <;> (try split) <;> simp [Kept,addrs,sessions,opts]

theorem thenBlock_ok {first : Client × Option GoError} (ok : first.2 = none)
    (next : Client → Client × Option GoError) : thenBlock first next = next first.1 := by
  simp [thenBlock,ok]

theorem thenBlock_failed {first : Client × Option GoError} (failed : first.2 ≠ none)
    (next : Client → Client × Option GoError) : thenBlock first next = first := by
  obtain ⟨c',_|err⟩ := first
  · exact absurd rfl failed
  · rfl

theorem setManagers_transactOpts : (c.setManagers node).1.transactOpts = c.transactOpts := by
  unfold setManagers thenBlock
  split <;> (try split) <;> simp [setRole_transactOpts]

theorem setManagers_ok_iff : (c.setManagers node).2 = none ↔ ∀ q, ∃ a, Resolves node q a := by
  have all (q : Role) : q = .bondingManager ∨ q = .jobsManager ∨ q = .roundsManager := by
    cases q <;> simp
  by_cases first : ∃ a, Resolves node .bondingManager a
  · rw [setManagers,thenBlock_ok ((setRole_ok_iff _ _ _).2 first)]
    by_cases second : ∃ a, Resolves node .jobsManager a
    · rw [thenBlock_ok ((setRole_ok_iff _ _ _).2 second),setRole_ok_iff]
      constructor
      · intro third q
        rcases all q with rfl | rfl | rfl <;> assumption
      · exact fun every => every _
    · rw [thenBlock_failed (mt (setRole_ok_iff _ _ _).1 second)]
      exact ⟨fun ok => absurd ((setRole_ok_iff _ _ _).1 ok) second,fun every => absurd (every _) second⟩
  · rw [setManagers,thenBlock_failed (mt (setRole_ok_iff _ _ _).1 first),
      thenBlock_failed (mt (setRole_ok_iff _ _ _).1 first)]
    exact ⟨fun ok => absurd ((setRole_ok_iff _ _ _).1 ok) first,fun every => absurd (every _) first⟩

theorem setManagers_error (err : GoError) :
    (c.setManagers node).2 = some err ↔ ∃ q, Reached node q ∧ Fails node q err := by
  have ok {q : Role} {d : Client} (resolved : ∃ a, Resolves node q a) :=
    thenBlock_ok ((setRole_ok_iff d node q).2 resolved)
  have failed {q : Role} {d : Client} (unresolved : ¬ ∃ a, Resolves node q a) :=
    thenBlock_failed (mt (setRole_ok_iff d node q).1 unresolved)
  have clean {q : Role} : (∃ a, Resolves node q a) → ¬ Fails node q err
    | ⟨_,found⟩ => found.not_fails
  by_cases first : ∃ a, Resolves node .bondingManager a
  · rw [setManagers,ok first]
    by_cases second : ∃ a, Resolves node .jobsManager a
    · rw [ok second,setRole_error]
      refine ⟨fun fails => ⟨.roundsManager,⟨first,second⟩,fails⟩,?_⟩
      rintro ⟨_|_|_,-,fails⟩
      exacts [absurd fails (clean first),absurd fails (clean second),fails]
    · rw [failed second,setRole_error]
      refine ⟨fun fails => ⟨.jobsManager,first,fails⟩,?_⟩
      rintro ⟨_|_|_,reached,fails⟩
      exacts [absurd fails (clean first),fails,absurd reached.2 second]
  · rw [setManagers,failed first,failed first,setRole_error]
    refine ⟨fun fails => ⟨.bondingManager,trivial,fails⟩,?_⟩
    rintro ⟨_|_|_,reached,fails⟩
    exacts [fails,absurd reached first,absurd reached.1 first]

theorem kept_refl (d : Client) : Kept d d r := ⟨rfl,rfl⟩

theorem kept_trans {x y z : Client} (first : Kept x y r) (second : Kept y z r) : Kept x z r :=
  ⟨second.1.trans first.1,second.2.trans first.2⟩

theorem thenBlock_kept {x : Client} {first : Client × Option GoError}
    {next : Client → Client × Option GoError} (kept : Kept x first.1 r)
    (frame : ∀ d, Kept d (next d).1 r) : Kept x (thenBlock first next).1 r := by
  unfold thenBlock
  split
  · exact kept_trans r kept (frame _)
  · exact kept

theorem setManagers_role :
    (Reached node r → Kept (c.setRole node r).1 (c.setManagers node).1 r) ∧
    (¬ Reached node r → Kept c (c.setManagers node).1 r) := by
  have later {q : Role} (other : q ≠ r) (d : Client) : Kept d (d.setRole node q).1 r :=
    setRole_other d node q (Ne.symm other)
  have ok {q : Role} {d : Client} (resolved : ∃ a, Resolves node q a) :=
    thenBlock_ok ((setRole_ok_iff d node q).2 resolved)
  have failed {q : Role} {d : Client} (unresolved : ¬ ∃ a, Resolves node q a) :=
    thenBlock_failed (mt (setRole_ok_iff d node q).1 unresolved)
  cases r with
  | bondingManager =>
    refine ⟨fun _ => ?_,fun unreached => absurd trivial unreached⟩
    exact thenBlock_kept _ (thenBlock_kept _ (kept_refl _ _) (later (by decide)))
      (later (by decide))
  | jobsManager =>
    constructor
    · intro first
      rw [setManagers,ok first]
      exact thenBlock_kept _
        (setRole_congr c node _ (setRole_other c node _ (by decide)) (setRole_transactOpts _ _ _))
        (later (by decide))
    · intro first
      rw [setManagers,failed first,failed first]
      exact setRole_other c node _ (by decide)
  | roundsManager =>
    by_cases first : ∃ a, Resolves node .bondingManager a
    · by_cases second : ∃ a, Resolves node .jobsManager a
      · refine ⟨fun _ => ?_,fun unreached => absurd ⟨first,second⟩ unreached⟩
        rw [setManagers,ok first,ok second]
        refine setRole_congr c node _ ?_ (by simp [setRole_transactOpts])
        exact kept_trans _ (setRole_other c node _ (by decide)) (setRole_other _ node _ (by decide))
      · refine ⟨fun reached => absurd reached.2 second,fun _ => ?_⟩
        rw [setManagers,ok first,failed second]
        exact kept_trans _ (setRole_other c node _ (by decide)) (setRole_other _ node _ (by decide))
    · refine ⟨fun reached => absurd reached.1 first,fun _ => ?_⟩
      rw [setManagers,failed first,failed first]
      exact setRole_other c node _ (by decide)

theorem setManagers_keeps {α : Type} (f : Client → α) (addrs : ∀ d r a, f (d.setAddr r a) = f d)
    (sessions : ∀ d r s, f (d.setSession r s) = f d) : f (c.setManagers node).1 = f c := by
  have block (d : Client) (q : Role) : f (d.setRole node q).1 = f d := by
    rcases setRole_cases d node q with ⟨a,-,same⟩ | ⟨a,err,-,-,same⟩ | ⟨err,-,same⟩ <;>
      simp [same,addrs,sessions]
  unfold setManagers thenBlock
  split <;> (try split) <;> simp [block]

theorem setManagers_session :
    (c.setManagers node).1.session r = c.session r ∨
      ∃ a, (c.setManagers node).1.session r = some ⟨a,c.transactOpts⟩ := by
  have block : (c.setRole node r).1.session r = c.session r ∨
      ∃ a, (c.setRole node r).1.session r = some ⟨a,c.transactOpts⟩ := by
    rcases setRole_cases c node r with ⟨a,-,same⟩ | ⟨a,err,-,-,same⟩ | ⟨err,-,same⟩ <;> simp [same]
  by_cases reached : Reached node r
  · rw [((setManagers_role c node r).1 reached).2]
    exact block
  · exact .inl ((setManagers_role c node r).2 reached).2

end Client

/-- Every session of the client signs with the client's own options: the token and
protocol sessions are bound to their addresses, and each manager session that is set
carries the client's `transactOpts`. -/
structure Signs (c : Client) : Prop where
  token : c.tokenSession = some ⟨c.tokenAddr,c.transactOpts⟩
  protocol : c.protocolSession = some ⟨c.protocolAddr,c.transactOpts⟩
  managers : ∀ r s, c.session r = some s → s.transactOpts = c.transactOpts

theorem Signs.setManagers {c : Client} (signs : Signs c) (node : Registry) :
    Signs (c.setManagers node).1 := by
  have opts := c.setManagers_transactOpts node
  have base := c.setManagers_keeps node (fun d => (d.tokenAddr,d.protocolAddr,d.tokenSession,d.protocolSession))
    (by intro d r a; cases r <;> rfl) (by intro d r s; cases r <;> rfl)
  simp only [Prod.mk.injEq] at base
  obtain ⟨tokenAddr,protocolAddr,tokenSession,protocolSession⟩ := base
  refine ⟨by rw [tokenSession,tokenAddr,opts,signs.token],by rw [protocolSession,protocolAddr,opts,signs.protocol],
    fun r s bound => ?_⟩
  · rcases c.setManagers_session node r with same | ⟨a,built⟩
    · rw [opts]
      exact signs.managers r s (same ▸ bound)
    · rw [built] at bound
      cases bound
      exact opts.symm

theorem Reachable.signs {c : Client} (reached : Reachable c) : Signs c := by
  induction reached with
  | newClient account protocolAddr tokenAddr rpcTimeout eventTimeout setup ok =>
    unfold Eth.newClient at ok
    split at ok
    · cases ok
    · split at ok
      · cases ok
      · split at ok
        · cases ok
        · cases ok
          exact Signs.setManagers ⟨rfl,rfl,by intro r s bound; cases r <;> cases bound⟩ _
  | setManagers node _ signs => exact signs.setManagers node

def answering (bonding jobs rounds : Except GoError Address) : Registry :=
  ⟨fun | .bondingManager => bonding | .jobsManager => jobs | .roundsManager => rounds,
    fun _ _ => none⟩

/-- A client built by NewClient whose registry resolved the managers to 1, 2 and 3. -/
def resolvedClient : Client :=
  { account := 9, transactOpts := ⟨9⟩, protocolAddr := 10, tokenAddr := 11,
    bondingManagerAddr := 1, jobsManagerAddr := 2, roundsManagerAddr := 3,
    protocolSession := some ⟨10,⟨9⟩⟩, tokenSession := some ⟨11,⟨9⟩⟩,
    bondingManagerSession := some ⟨1,⟨9⟩⟩, jobsManagerSession := some ⟨2,⟨9⟩⟩,
    roundsManagerSession := some ⟨3,⟨9⟩⟩, rpcTimeout := second, eventTimeout := second }

theorem resolvedClient_reachable : Reachable resolvedClient :=
  .newClient 9 10 11 second second ⟨.ok ⟨9⟩,none,none,answering (.ok 1) (.ok 2) (.ok 3)⟩ rfl

/-- On every client NewClient and later SetManagers calls produce, the token and protocol
sessions are set and bound to their own addresses, and every session signs with the
client's own `transactOpts`: no transaction goes out under other options. -/
theorem sessions_sign_for_client {c : Client} (reached : Reachable c) :
    c.tokenSession = some ⟨c.tokenAddr,c.transactOpts⟩ ∧ c.protocolSession = some ⟨c.protocolAddr,c.transactOpts⟩ ∧
      ∀ r s, c.session r = some s → s.transactOpts = c.transactOpts :=
  have signs := reached.signs
  ⟨signs.token,signs.protocol,signs.managers⟩

theorem resolvedClient_signs :
    Reachable resolvedClient ∧ resolvedClient.tokenSession = some ⟨11,⟨9⟩⟩ ∧
      resolvedClient.protocolSession = some ⟨10,⟨9⟩⟩ ∧
      ∀ r s, resolvedClient.session r = some s → s.transactOpts = ⟨9⟩ :=
  ⟨resolvedClient_reachable,sessions_sign_for_client resolvedClient_reachable⟩

/-- SetManagers on a client NewClient and earlier SetManagers calls built. Its registry
calls go through a protocol session that is set. It returns nil exactly when all three
roles resolve, and otherwise the error of the first role whose lookup or constructor
failed. A role it gets to is bound to the new address when the role resolves, has only its
address replaced when just the constructor fails, and keeps its fields when the lookup
fails; the roles after the failing one keep their fields. -/
theorem Client.setManagers_outcome {c : Client} (reached : Reachable c) (node : Registry) (r : Role) :
    c.protocolSession = some ⟨c.protocolAddr,c.transactOpts⟩ ∧
    ((c.setManagers node).2 = none ↔ ∀ q, ∃ a, Resolves node q a) ∧
    (∀ err, (c.setManagers node).2 = some err ↔ ∃ q, Reached node q ∧ Fails node q err) ∧
    (Reached node r → ∀ a, Resolves node r a → BoundTo (c.setManagers node).1 r a) ∧
    (Reached node r → ∀ a err, node.lookup r = .ok a → node.binding r a = some err →
      (c.setManagers node).1.addr r = a ∧ (c.setManagers node).1.session r = c.session r) ∧
    (Reached node r → ∀ err, node.lookup r = .error err → Kept c (c.setManagers node).1 r) ∧
    (¬ Reached node r → Kept c (c.setManagers node).1 r) := by
  obtain ⟨there,unreached⟩ := c.setManagers_role node r
  refine ⟨reached.signs.protocol,c.setManagers_ok_iff node,c.setManagers_error node,fun got a found => ?_,
    fun got a err looked built => ?_,fun got err looked => ?_,unreached⟩
  · have kept := there got
    rw [c.setRole_resolved node r found] at kept
    simpa [BoundTo,Kept,Client.setManagers_transactOpts] using kept
  · have kept := there got
    rw [c.setRole_unbuilt node r looked built] at kept
    simpa [Kept] using kept
  · simpa [c.setRole_unknown node r looked] using there got

def partialRegistry : Registry :=
  answering (.ok 4) (.error (.errorString "no code")) (.ok 3)

theorem resolvedClient_partial_rebind :
    Reachable resolvedClient ∧ (resolvedClient.setManagers partialRegistry).2 = some (.errorString "no code") ∧
      BoundTo (resolvedClient.setManagers partialRegistry).1 .bondingManager 4 :=
  have outcome := Client.setManagers_outcome resolvedClient_reachable partialRegistry .bondingManager
  ⟨resolvedClient_reachable,(outcome.2.2.1 _).2 ⟨.jobsManager,⟨4,rfl,rfl⟩,.inl rfl⟩,outcome.2.2.2.1 trivial 4 ⟨rfl,rfl⟩⟩

theorem failed_setManagers_rebinds :
    ¬ ∀ c node err, Reachable c → (c.setManagers node).2 = some err →
      ∀ r, Kept c (c.setManagers node).1 r := by
  intro keeps
  have kept := keeps resolvedClient partialRegistry (.errorString "no code") resolvedClient_reachable rfl .bondingManager
  exact absurd kept.1 (by decide)

end Livepeer.Eth
