import Mathlib.Data.List.Basic

/-! Go values shared by the Ethereum client and the transcoder: `error` values, the
values a goroutine panics with, durations, and the fixed-width identifiers of the chain. -/
namespace Livepeer.Go

/-- An `error` value. Sentinel errors are compared by identity in Go, so each one the
code compares against is a constructor of its own. -/
inductive GoError
  | errorString (text : String)
  | unrecoverable (err : GoError)
  | notFound
  | pathError (op path : String)
  | runtime (text : String)
deriving DecidableEq, Repr

/-- What `recover()` can see: `panic(nil)`, an `error` value, or any other value. -/
inductive PanicValue
  | nil
  | error (err : GoError)
  | other (text : String)
deriving DecidableEq, Repr

abbrev Duration := Int

def second : Duration := 1000000000

abbrev Address := BitVec 160

abbrev Hash := BitVec 256

abbrev Bytes := List UInt8

def quote (s : String) : String := "\"" ++ s ++ "\""

def nilDereference : PanicValue :=
  .error (.runtime "invalid memory address or nil pointer dereference")

/-- The files a program reads, writes and removes: what `ioutil.ReadFile` answers for each
path, and the paths that cannot be written or removed. -/
structure FileSystem where
  readFile : String → Except GoError Bytes
  readOnly : String → Bool

namespace FileSystem

def notExist (name : String) : GoError := .pathError "open" name

def remove (fs : FileSystem) (name : String) : FileSystem :=
  if fs.readOnly name then fs
  else {fs with readFile := Function.update fs.readFile name (.error (notExist name))}

def writeFile (fs : FileSystem) (name : String) (data : Bytes) : Except GoError FileSystem :=
  if fs.readOnly name then .error (.pathError "open" name)
  else .ok {fs with readFile := Function.update fs.readFile name (.ok data)}

@[simp] theorem remove_readOnly (fs : FileSystem) (name : String) : (fs.remove name).readOnly = fs.readOnly := by
  unfold remove
  split <;> rfl

theorem remove_readFile {fs : FileSystem} {name other : String} (apart : other ≠ name) :
    (fs.remove name).readFile other = fs.readFile other := by
  unfold remove
  split
  · rfl
  · exact Function.update_noteq apart _ _

theorem remove_readFile_self {fs : FileSystem} {name : String} (writable : fs.readOnly name = false) :
    (fs.remove name).readFile name = .error (notExist name) := by
  simp [remove,writable]

theorem remove_keeps_missing {fs : FileSystem} {name other : String}
    (missing : fs.readFile other = .error (notExist other)) :
    (fs.remove name).readFile other = .error (notExist other) := by
  by_cases same : other = name
  · subst same
    unfold remove
    split
    · exact missing
    · simp
  · rwa [remove_readFile same]

end FileSystem

end Livepeer.Go
