import Livepeer.Eth.Receipt

/-! What the client's goroutines exchange with the node and with their callers: event logs
and the node's filter, the program counter of a goroutine that sends one transaction, the
values it sends, and the steps of every party with what they do beyond their own state. -/
namespace Livepeer.Eth
open Livepeer.Go

/-- A log topic: an event signature id (the Keccak256 hash of the signature), or a
32-byte word holding a left-padded address. -/
inductive Topic
  | event (signature : String)
  | address (a : Address)
deriving DecidableEq, Repr

structure Log where
  address : Address
  topics : List Topic
  value : Nat
  removed : Bool
deriving DecidableEq, Repr

structure FilterQuery where
  addresses : List Address
  topics : List (List Topic)
deriving DecidableEq, Repr

def topicsMatch : List (List Topic) → List Topic → Bool
  | [], _ => true
  | _ :: _, [] => false
  | wanted :: rest, topic :: topics => (wanted.isEmpty || wanted.contains topic) && topicsMatch rest topics

def FilterQuery.matches (q : FilterQuery) (l : Log) : Bool :=
  (q.addresses.isEmpty || q.addresses.contains l.address) && topicsMatch q.topics l.topics

def zeroLog : Log := ⟨0,[],0,false⟩

/-- A goroutine that sends one transaction: Bond's or Deposit's before and in its select,
and every transaction helper's from its contract call on. -/
inductive WorkerPc
  | idle
  | selecting
  | submitting
  | waiting (tx : Transaction) (now : Int)
  | sendingErr (err : Option GoError)
  | sendingRes (receipt : Receipt)
  | closingErr
  | closingRes
  | exited
deriving DecidableEq, Repr

inductive Outcome
  | receipt (r : Receipt)
  | error (err : Option GoError)
deriving DecidableEq, Repr

inductive Event
  | subscribe (err : Option GoError)
  | approve (err : Option GoError)
  | notify (log : Log)
  | forward
  | closeLogs
  | unsubscribe
  | hand
  | closeInRes
  | closeInErr
  | fire
  | selectClosedRes
  | selectClosedErr
  | selectTimer
  | submit (result : Except GoError Transaction)
  | poll (turn : Turn)
  | deliver
  | closeOutErr
  | closeOutRes

inductive Effect
  | quiet
  | emits (log : Log)
  | panics (r : PanicValue)

def sendOnClosedChannel : PanicValue := .error (.runtime "send on closed channel")

def closeOfClosedChannel : PanicValue := .error (.runtime "close of closed channel")

end Livepeer.Eth
