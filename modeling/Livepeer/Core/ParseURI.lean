import Livepeer.Go
import Mathlib.Data.String.Basic
import Mathlib.Data.Nat.Digits

/-! `parseURI` of `core/transcoder.go`, which reads the manifest id and the sequence number
out of a segment URI `.../mid/seqNo.ext`, with the two library calls it makes:
`strings.Split` on a one-character separator and `strconv.ParseUint(s, 10, 64)`. -/
namespace Livepeer.Go

namespace Strings

/-- `strings.Split(s, sep)` for a one-character separator: the pieces between the
occurrences of `sep`, so `n` occurrences give `n + 1` pieces. -/
def split (s : String) (sep : Char) : List String := s.split (· == sep)

theorem split_eq (s : String) (sep : Char) :
    split s sep = (s.data.splitOnP (· == sep)).map String.mk :=
  String.split_of_valid _ _

theorem split_ne_nil (s : String) (sep : Char) : split s sep ≠ [] := by
  simp [split_eq,List.splitOnP_ne_nil]

theorem splitOnP_append_sep {α : Type} {p : α → Bool} {sep : α} (cut : p sep = true) (xs ys : List α) :
    (xs ++ sep :: ys).splitOnP p = xs.splitOnP p ++ ys.splitOnP p := by
  induction xs with
  | nil => simp [cut]
  | cons x xs ih =>
    rw [List.cons_append,List.splitOnP_cons,List.splitOnP_cons,ih]
    split
    · rfl
    · obtain ⟨a,as,split⟩ := List.exists_cons_of_ne_nil (List.splitOnP_ne_nil p xs)
      rw [split]
      rfl

theorem splitOnP_piece {xs : List Char} {sep : Char} (absent : sep ∉ xs) :
    xs.splitOnP (· == sep) = [xs] :=
  List.splitOnP_eq_single _ _ fun c mem same => absent (by rwa [← beq_iff_eq.1 same])

end Strings

namespace Strconv

def numError (fn num err : String) : GoError :=
  .errorString ("strconv." ++ fn ++ ": parsing " ++ quote num ++ ": " ++ err)

def syntaxError (fn num : String) : GoError := numError fn num "invalid syntax"

def rangeError (fn num : String) : GoError := numError fn num "value out of range"

def maxUint64 : Nat := Nat.pow 2 64 - 1

def lower (c : Char) : Nat := c.toNat ||| 32

def digitValue (c : Char) : Option Nat :=
  if '0'.toNat ≤ c.toNat ∧ c.toNat ≤ '9'.toNat then some (c.toNat - '0'.toNat)
  else if 'a'.toNat ≤ lower c ∧ lower c ≤ 'z'.toNat then some (lower c - 'a'.toNat + 10)
  else none

/-- The loop of `ParseUint(s0, 10, 64)` over the characters left, from the value `n` read
so far, with `cutoff = maxUint64/10 + 1` and `maxVal = maxUint64`. Go walks the bytes; a
character outside ASCII stops the loop with a syntax error either way. On the sum as a
number, the tests `n1 < n` of a wrapped sum and `n1 > maxVal` are the one test
`maxUint64 < n1`. -/
def parseDigits (s0 : String) : List Char → Nat → Nat × Option GoError
  | [],n => (n,none)
  | c :: cs,n =>
    match digitValue c with
    | none => (0,some (syntaxError "ParseUint" s0))
    | some d =>
      if 10 ≤ d then (0,some (syntaxError "ParseUint" s0))
      else if maxUint64 / 10 + 1 ≤ n then (maxUint64,some (rangeError "ParseUint" s0))
      else if maxUint64 < n * 10 + d then (maxUint64,some (rangeError "ParseUint" s0))
      else parseDigits s0 cs (n * 10 + d)

def parseUint (s : String) : Nat × Option GoError :=
  if s = "" then (0,some (syntaxError "ParseUint" s)) else parseDigits s s.data 0

theorem isDigit_iff (c : Char) : c.isDigit = true ↔ 48 ≤ c.toNat ∧ c.toNat ≤ 57 := by
  simp [Char.isDigit,Char.toNat,UInt32.le_def,BitVec.le_def]
  rfl

theorem digitValue_digit {c : Char} (digit : c.isDigit = true) : digitValue c = some (c.toNat - '0'.toNat) :=
  if_pos ((isDigit_iff c).1 digit)

theorem digitValue_other {c : Char} {d : Nat} (other : c.isDigit = false) (found : digitValue c = some d) :
    10 ≤ d := by
  have outside : ¬('0'.toNat ≤ c.toNat ∧ c.toNat ≤ '9'.toNat) := fun inside =>
    absurd ((isDigit_iff c).2 inside) (by simp [other])
  simp only [digitValue,outside,if_false] at found
  split at found <;> cases found
  omega

def decimalValue (n : Nat) (cs : List Char) : Nat := cs.foldl (fun n c => n * 10 + (c.toNat - '0'.toNat)) n

theorem le_decimalValue (n : Nat) (cs : List Char) : n ≤ decimalValue n cs := by
  induction cs generalizing n with
  | nil => exact le_refl n
  | cons c cs ih => exact le_trans (by omega : n ≤ n * 10 + (c.toNat - '0'.toNat)) (ih _)

theorem parseDigits_ok_iff (s0 : String) (cs : List Char) {n : Nat} (small : n ≤ maxUint64) (v : Nat) :
    parseDigits s0 cs n = (v,none) ↔ (∀ c ∈ cs, c.isDigit = true) ∧ decimalValue n cs = v ∧ v ≤ maxUint64 := by
  induction cs generalizing n with
  | nil =>
    simp only [parseDigits,decimalValue,List.foldl_nil,Prod.mk.injEq,and_true]
    exact ⟨fun same => ⟨nofun,same,same ▸ small⟩,fun holds => holds.2.1⟩
  | cons c cs ih =>
    cases digit : c.isDigit with
    | false =>
      have stops : (parseDigits s0 (c :: cs) n).2 ≠ none := by
        simp only [parseDigits]
        split
        · nofun
        · rename_i d found
          simp [digitValue_other digit found]
      simp only [List.mem_cons,forall_eq_or_imp,digit,Bool.false_eq_true,false_and,iff_false]
      exact fun ran => stops (by rw [ran])
    | true =>
      have grows := le_decimalValue (n * 10 + (c.toNat - '0'.toNat)) cs
      have bound := (isDigit_iff c).1 digit
      have zero : '0'.toNat = 48 := rfl
      simp only [parseDigits,digitValue_digit digit,List.mem_cons,forall_eq_or_imp,digit,true_and,
        decimalValue,List.foldl_cons] at grows ⊢
      split_ifs with over cutoff wraps
      · omega
      · exact ⟨nofun,fun ⟨_,value,fits⟩ => absurd fits (by omega)⟩
      · exact ⟨nofun,fun ⟨_,value,fits⟩ => absurd fits (by omega)⟩
      · exact ih (by omega)

theorem parseUint_ok_iff (s : String) (v : Nat) :
    parseUint s = (v,none) ↔ s.toNat? = some v ∧ v < Nat.pow 2 64 := by
  have fits : v ≤ maxUint64 ↔ v < Nat.pow 2 64 := by
    have : 0 < Nat.pow 2 64 := by decide
    unfold maxUint64
    omega
  unfold parseUint
  split
  · rename_i empty
    have unread : "".toNat? = none := by decide
    simp [empty,unread]
  · rename_i nonempty
    rw [parseDigits_ok_iff _ _ (Nat.zero_le _),← fits]
    have notEmpty : s.isEmpty = false := Bool.eq_false_iff.2 fun empty => nonempty ((String.isEmpty_iff s).1 empty)
    by_cases digits : ∀ c ∈ s.data, c.isDigit = true
    · have isNat : s.isNat = true := by
        simp only [String.isNat,notEmpty,Bool.not_false,Bool.true_and]
        exact (String.all_iff _ _).2 digits
      simp only [String.toNat?,isNat,if_true,Option.some.injEq,String.foldl_eq]
      exact ⟨fun ⟨_,value,fits⟩ => ⟨value,fits⟩,fun ⟨value,fits⟩ => ⟨digits,value,fits⟩⟩
    · have notNat : s.isNat = false := Bool.eq_false_iff.2 fun isNat =>
        digits (by simpa [String.isNat,notEmpty,String.all_iff] using isNat)
      simp [String.toNat?,notNat,digits]

end Strconv

end Livepeer.Go

namespace Livepeer.Core
open Livepeer.Go

def badURI : GoError := .errorString "BadURI"

/-- `parseURI`: the manifest id and the sequence number of a segment URI
`.../mid/seqNo.ext`. The indices it reads are within bounds once there are three parts. -/
def parseURI (uri : String) : String × Nat × Option GoError :=
  let parts := Strings.split uri '/'
  if parts.length < 3 then ("",0,some badURI)
  else
    let mid := parts.getD (parts.length - 2) ""
    let parts := Strings.split (parts.getD (parts.length - 1) "") '.'
    (mid,Strconv.parseUint (parts.getD 0 ""))

theorem exists_append_pair {α : Type} {xs : List α} (long : ¬ xs.length < 3) :
    ∃ pre a b, xs = pre ++ [a,b] ∧ pre ≠ [] := by
  rcases xs.eq_nil_or_concat with rfl | ⟨ys,b,rfl⟩
  · simp at long
  rcases ys.eq_nil_or_concat with rfl | ⟨pre,a,rfl⟩
  · simp at long
  refine ⟨pre,a,b,by simp,?_⟩
  rintro rfl
  simp at long

theorem getD_append_pair {α : Type} (pre : List α) (a b d : α) :
    (pre ++ [a,b]).getD ((pre ++ [a,b]).length - 2) d = a ∧ (pre ++ [a,b]).getD ((pre ++ [a,b]).length - 1) d = b := by
  simp [List.getD_eq_getElem?_getD,List.getElem?_append_right,List.getElem_append_right]

theorem parseURI_ok_iff (uri mid : String) (seqNo : Nat) :
    parseURI uri = (mid,seqNo,none) ↔
      ∃ pre last first rest, pre ≠ [] ∧ Strings.split uri '/' = pre ++ [mid,last] ∧
        Strings.split last '.' = first :: rest ∧ first.toNat? = some seqNo ∧ seqNo < Nat.pow 2 64 := by
  unfold parseURI
  generalize Strings.split uri '/' = parts
  by_cases short : parts.length < 3
  · simp only [short,if_true,Prod.mk.injEq,reduceCtorEq,and_false,false_iff,not_exists,not_and]
    rintro pre last - - nonempty rfl - - -
    simp only [List.length_append,List.length_cons,List.length_nil] at short
    exact nonempty (List.eq_nil_of_length_eq_zero (by omega))
  · obtain ⟨pre,m,l,rfl,nonempty⟩ := exists_append_pair short
    obtain ⟨first,rest,pieces⟩ := List.exists_cons_of_ne_nil (Strings.split_ne_nil l '.')
    rw [if_neg short]
    obtain ⟨atMid,atLast⟩ := getD_append_pair pre m l ""
    simp only [atMid,atLast,pieces,List.getD_cons_zero]
    rw [Prod.mk.injEq,Strconv.parseUint_ok_iff]
    constructor
    · rintro ⟨rfl,read,fits⟩
      exact ⟨pre,l,first,rest,nonempty,rfl,pieces,read,fits⟩
    · rintro ⟨pre',l',first',rest',-,same,pieces',read,fits⟩
      obtain ⟨-,parts⟩ := List.append_inj' same rfl
      simp only [List.cons.injEq,and_true] at parts
      obtain ⟨rfl,rfl⟩ := parts
      rw [pieces,List.cons.injEq] at pieces'
      exact ⟨rfl,pieces'.1 ▸ read,fits⟩

theorem digitChar_decimal : ∀ k < 10, (Nat.digitChar k).isDigit = true ∧ (Nat.digitChar k).toNat - '0'.toNat = k := by
  decide

theorem toDigitsCore_decimal (fuel n : Nat) (ds : List Char) (enough : n < fuel) :
    ∃ pre, Nat.toDigitsCore 10 fuel n ds = pre ++ ds ∧ pre ≠ [] ∧ (∀ c ∈ pre, c.isDigit = true) ∧
      Strconv.decimalValue 0 pre = n := by
  induction fuel generalizing n ds with
  | zero => omega
  | succ fuel ih =>
    obtain ⟨digit,value⟩ := digitChar_decimal (n % 10) (Nat.mod_lt _ (by decide))
    unfold Nat.toDigitsCore
    dsimp only
    split
    · refine ⟨[Nat.digitChar (n % 10)],rfl,by simp,by simpa using digit,?_⟩
      simp only [Strconv.decimalValue,List.foldl_cons,List.foldl_nil,value]
      omega
    · obtain ⟨pre,eq,-,digits,folded⟩ := ih (n / 10) (Nat.digitChar (n % 10) :: ds) (by omega)
      refine ⟨pre ++ [Nat.digitChar (n % 10)],by simp [eq],by simp,?_,?_⟩
      · simpa [or_imp,forall_and] using ⟨digits,digit⟩
      · simp only [Strconv.decimalValue,List.foldl_append,List.foldl_cons,List.foldl_nil] at folded ⊢
        rw [folded,value]
        omega

theorem toNat?_toString (n : Nat) : (toString n).toNat? = some n := by
  obtain ⟨pre,eq,nonempty,digits,folded⟩ := toDigitsCore_decimal (n + 1) n [] (by omega)
  rw [List.append_nil] at eq
  have shown : toString n = String.mk pre := by
    rw [← eq]
    rfl
  have notEmpty : (String.mk pre).isEmpty = false := Bool.eq_false_iff.2 fun empty =>
    nonempty (by simpa [String.ext_iff] using (String.isEmpty_iff _).1 empty)
  rw [shown]
  simp only [String.toNat?,String.isNat,notEmpty,Bool.not_false,Bool.true_and,String.all_iff]
  rw [if_pos digits,String.foldl_eq]
  exact congrArg some folded

theorem split_segment (p m rest : String) (noSlashMid : '/' ∉ m.data) (noSlashRest : '/' ∉ rest.data) :
    Strings.split (p ++ "/" ++ m ++ "/" ++ rest) '/' = Strings.split p '/' ++ [m,rest] := by
  have whole : (p ++ "/" ++ m ++ "/" ++ rest).data = p.data ++ '/' :: (m.data ++ '/' :: rest.data) := by
    simp
  rw [Strings.split_eq,whole,Strings.splitOnP_append_sep (by simp),Strings.splitOnP_append_sep (by simp),
    Strings.splitOnP_piece noSlashMid,Strings.splitOnP_piece noSlashRest,Strings.split_eq]
  simp

theorem toString_no_sep (n : Nat) (sep : Char) (notDigit : sep.isDigit = false) : sep ∉ (toString n).data := by
  obtain ⟨pre,eq,-,digits,-⟩ := toDigitsCore_decimal (n + 1) n [] (by omega)
  rw [List.append_nil] at eq
  have shown : (toString n).data = pre := eq
  rw [shown]
  intro mem
  simp [digits sep mem] at notDigit

/-- `parseURI` reads every URI as the manifest id and the sequence number it names: an
answer without error exactly on the URIs `.../mid/seqNo.ext` whose `seqNo` is decimal
digits of a value that fits in 64 bits; and `p/m/n.e` gives `m` and `n` for every `p`,
every `m` and `e` without `/`, and every `n` below `2^64`. -/
theorem parseURI_reads_segment_uri :
    (∀ uri mid seqNo, parseURI uri = (mid,seqNo,none) ↔
      ∃ pre last first rest, pre ≠ [] ∧ Strings.split uri '/' = pre ++ [mid,last] ∧
        Strings.split last '.' = first :: rest ∧ first.toNat? = some seqNo ∧ seqNo < Nat.pow 2 64) ∧
    (∀ p m e n, '/' ∉ m.data → '/' ∉ e.data → n < Nat.pow 2 64 →
      parseURI (p ++ "/" ++ m ++ "/" ++ toString n ++ "." ++ e) = (m,n,none)) := by
  refine ⟨parseURI_ok_iff,fun p m e n noSlashMid noSlashExt small => ?_⟩
  have last : '/' ∉ (toString n ++ "." ++ e).data := by
    simpa [toString_no_sep n '/' rfl] using noSlashExt
  have pieces : Strings.split (toString n ++ "." ++ e) '.' = toString n :: Strings.split e '.' := by
    have whole : (toString n ++ "." ++ e).data = (toString n).data ++ '.' :: e.data := by simp
    rw [Strings.split_eq,whole,Strings.splitOnP_append_sep (by simp),
      Strings.splitOnP_piece (toString_no_sep n '.' rfl),Strings.split_eq]
    rfl
  rw [show p ++ "/" ++ m ++ "/" ++ toString n ++ "." ++ e = p ++ "/" ++ m ++ "/" ++ (toString n ++ "." ++ e) by
    simp [String.append_assoc]]
  exact (parseURI_ok_iff _ _ _).2 ⟨_,_,_,_,Strings.split_ne_nil p '/',split_segment p m _ noSlashMid last,pieces,
    toNat?_toString n,small⟩

theorem streamSegment_parsed :
    '/' ∉ "manifest".data ∧ '/' ∉ "ts".data ∧ 42 < Nat.pow 2 64 ∧
      parseURI ("https://broadcaster:8935/stream" ++ "/" ++ "manifest" ++ "/" ++ toString 42 ++ "." ++ "ts") =
        ("manifest",42,none) :=
  have noSlashMid : '/' ∉ "manifest".data := by decide
  have noSlashExt : '/' ∉ "ts".data := by decide
  have small : 42 < Nat.pow 2 64 := by decide
  ⟨noSlashMid,noSlashExt,small,parseURI_reads_segment_uri.2 _ _ _ _ noSlashMid noSlashExt small⟩

end Livepeer.Core
