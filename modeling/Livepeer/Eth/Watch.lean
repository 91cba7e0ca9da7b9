import Livepeer.Eth.Events

/-! `Client.WatchEvent`: a loop around a `select` on the log channel and the event timer.
It answers with the first log it receives that is not marked removed, or with the timeout
error once the select takes the timer's case. A receive on a closed channel yields the
zero `Log`, which is not marked removed. -/
namespace Livepeer.Eth
open Livepeer.Go

inductive LogsEvent
  | send (log : Log)
  | close
deriving DecidableEq, Repr

/-- `<-logsCh` on a channel whose events still to come are `events`: the next log sent,
or the zero `Log` once the channel is closed, which stays closed; `none` when nothing
more arrives and the receive blocks. -/
def receive : List LogsEvent → Option (Log × List LogsEvent)
  | [] => none
  | .send log :: rest => some (log,rest)
  | .close :: rest => some (zeroLog,.close :: rest)

def watchEventTimedOut : GoError := .errorString "watchEvent timed out"

/-- `WatchEvent(logsCh)` when the select takes the channel's case at most `receives` times
before the timer's: the timer fires after that many receives, or while the select blocks
on a channel with nothing more to give. The timer's duration `c.eventTimeout` only
decides `receives`. -/
def watchEvent : List LogsEvent → Nat → Log × Option GoError
  | _,0 => (zeroLog,some watchEventTimedOut)
  | events,receives + 1 =>
    match receive events with
    | none => (zeroLog,some watchEventTimedOut)
    | some (log,rest) => if !log.removed then (log,none) else watchEvent rest receives

theorem watchEvent_ok {events : List LogsEvent} {receives : Nat} {log : Log}
    (answered : watchEvent events receives = (log,none)) :
    ∃ (removed : List Log) (rest : List LogsEvent), removed.length < receives ∧ (∀ l ∈ removed, l.removed = true) ∧
      ((events = removed.map .send ++ .send log :: rest ∧ log.removed = false) ∨
        (events = removed.map .send ++ .close :: rest ∧ log = zeroLog)) := by
  induction receives generalizing events with
  | zero => cases answered
  | succ receives ih =>
    match events, answered with
    | [],answered => cases answered
    | .close :: rest,answered =>
      cases answered
      exact ⟨[],rest,by simp,nofun,.inr ⟨rfl,rfl⟩⟩
    | .send l :: rest,answered =>
      simp only [watchEvent,receive] at answered
      cases dropped : l.removed
      · simp only [dropped,Bool.not_false,if_true,Prod.mk.injEq] at answered
        obtain ⟨rfl,-⟩ := answered
        exact ⟨[],rest,by simp,nofun,.inl ⟨rfl,dropped⟩⟩
      · simp only [dropped,Bool.not_true,Bool.false_eq_true,if_false] at answered
        obtain ⟨removed,rest',fewer,all,next⟩ := ih answered
        refine ⟨l :: removed,rest',by simpa using fewer,?_,by simpa using next⟩
        simpa [dropped] using all

theorem watchEvent_timedOut {events : List LogsEvent} {receives : Nat} {log : Log} {err : GoError}
    (answered : watchEvent events receives = (log,some err)) :
    log = zeroLog ∧ err = watchEventTimedOut ∧ ∃ (removed : List Log) (rest : List LogsEvent), (∀ l ∈ removed, l.removed = true) ∧
      events = removed.map .send ++ rest ∧ (removed.length = receives ∨ rest = []) := by
  induction receives generalizing events with
  | zero =>
    cases answered
    exact ⟨rfl,rfl,[],events,nofun,rfl,.inl rfl⟩
  | succ receives ih =>
    match events, answered with
    | [],answered =>
      cases answered
      exact ⟨rfl,rfl,[],[],nofun,rfl,.inr rfl⟩
    | .close :: rest,answered => cases answered
    | .send l :: rest,answered =>
      simp only [watchEvent,receive] at answered
      cases dropped : l.removed
      · simp [dropped] at answered
      · simp only [dropped,Bool.not_true,Bool.false_eq_true,if_false] at answered
        obtain ⟨rfl,rfl,removed,rest',all,split,ends⟩ := ih answered
        refine ⟨rfl,rfl,l :: removed,rest',?_,by simp [split],by simpa using ends⟩
        simpa [dropped] using all

/-- Every answer of `WatchEvent` follows only logs marked removed; without error it is the
next log sent, not marked removed, or, when the channel was closed instead, the zero `Log`
no one sent; with an error it is the timeout. On a channel closed before any log is sent
it answers the zero `Log` and no error before the timer fires. -/
theorem watchEvent_answers :
    (∀ events receives log, watchEvent events receives = (log,none) →
      ∃ (removed : List Log) (rest : List LogsEvent), removed.length < receives ∧ (∀ l ∈ removed, l.removed = true) ∧
        ((events = removed.map .send ++ .send log :: rest ∧ log.removed = false) ∨
          (events = removed.map .send ++ .close :: rest ∧ log = zeroLog))) ∧
    (∀ events receives log err, watchEvent events receives = (log,some err) →
      log = zeroLog ∧ err = watchEventTimedOut ∧ ∃ (removed : List Log) (rest : List LogsEvent), (∀ l ∈ removed, l.removed = true) ∧
        events = removed.map .send ++ rest ∧ (removed.length = receives ∨ rest = [])) ∧
    watchEvent [.close] 1 = (zeroLog,none) :=
  ⟨fun _ _ _ => watchEvent_ok,fun _ _ _ _ => watchEvent_timedOut,rfl⟩

def minedLog : Log := ⟨1,[],7,false⟩

def retractedThenMined : List LogsEvent := [.send {minedLog with removed := true},.send minedLog]

theorem retractedThenMined_answered :
    watchEvent retractedThenMined 2 = (minedLog,none) ∧
      ∃ (removed : List Log) (rest : List LogsEvent), removed.length < 2 ∧ (∀ l ∈ removed, l.removed = true) ∧
        ((retractedThenMined = removed.map .send ++ .send minedLog :: rest ∧ minedLog.removed = false) ∨
          (retractedThenMined = removed.map .send ++ .close :: rest ∧ minedLog = zeroLog)) :=
  have answered : watchEvent retractedThenMined 2 = (minedLog,none) := rfl
  ⟨answered,watchEvent_answers.1 _ _ _ answered⟩

end Livepeer.Eth
