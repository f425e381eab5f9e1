import AsioClient.FirstOccurrence
import Mathlib.Algebra.Group.Int.Defs
import Mathlib.Algebra.Group.Nat.Defs

/-!
The pieces of the C++ standard library the client is written with: byte strings, the two
integer types its positions travel through, and the exceptions that can leave a call.
-/

set_option autoImplicit false

namespace AsioClient
open FirstOccurrence

abbrev Bytes := List UInt8

def text (s : String) : Bytes := s.toList.map Char.toUInt8

def slash : UInt8 := '/'.toUInt8
def colon : UInt8 := ':'.toUInt8
def space : UInt8 := ' '.toUInt8
def cr : UInt8 := '\r'.toUInt8
def lf : UInt8 := '\n'.toUInt8

def crlf : Bytes := [cr, lf]

/-- `std::isspace` in the "C" locale. -/
def isSpace (c : UInt8) : Prop := c = space ∨ (9 ≤ c ∧ c ≤ 13)

instance (c : UInt8) : Decidable (isSpace c) :=
  inferInstanceAs (Decidable (c = space ∨ (9 ≤ c ∧ c ≤ 13)))

inductive ErrorCategory where
  | system | asioSystem | netdb | addrinfo | misc
  deriving DecidableEq, Repr

/-- `asio::error_code`: a value with the category it is read in. -/
structure ErrorCode where
  value : Int32
  category : ErrorCategory
  deriving DecidableEq, Repr

namespace ErrorCode

/-- `operator bool`: only the value decides. -/
def isSet (ec : ErrorCode) : Bool := ec.value != 0

/-- `clear()`, also the default constructor. -/
def cleared : ErrorCode := ⟨0, .system⟩

/-- `assign(0, category())`, the way a socket operation reports success. -/
def succeed (ec : ErrorCode) : ErrorCode := { ec with value := 0 }

def eof : ErrorCode := ⟨2, .misc⟩

@[simp] theorem isSet_cleared : cleared.isSet = false := rfl
@[simp] theorem isSet_succeed (ec : ErrorCode) : ec.succeed.isSet = false := rfl
@[simp] theorem isSet_eof : eof.isSet = true := rfl

theorem beq_eof_of_not_isSet {ec : ErrorCode} (h : ec.isSet = false) : (ec == eof) = false := by
  rw [beq_eq_false_iff_ne]
  intro heq
  rw [heq, isSet_eof] at h
  cases h

end ErrorCode

/-- An error code that does report an error. -/
structure Failure where
  code : ErrorCode
  isSet : code.isSet = true
  deriving DecidableEq

namespace Failure

def eof : Failure := ⟨.eof, rfl⟩

end Failure

/-- The exceptions thrown on the way; `systemError` is the only `std::runtime_error`. -/
inductive Exn where
  | systemError (code : ErrorCode)
  | outOfRange
  | lengthError
  deriving DecidableEq, Repr

def npos : Nat := 2 ^ 64 - 1

/-- Narrowing a `std::size_t` to `int`. -/
def toInt (n : Nat) : Int32 := Int32.ofNat n

/-- Widening an `int` to `std::size_t`. -/
def toSizeT (i : Int32) : Nat := (i.toInt % 2 ^ 64).toNat

def addSizeT (a b : Nat) : Nat := (a + b) % 2 ^ 64

theorem toInt_npos : toInt npos = -1 := by decide

theorem toSizeT_neg_one : toSizeT (-1) = npos := by decide

theorem toInt_toInt (n : Nat) :
    (toInt n).toInt =
      if n % 2 ^ 32 < 2 ^ 31 then (n : Int) % 2 ^ 32 else (n : Int) % 2 ^ 32 - 2 ^ 32 := by
  have hbmod : (toInt n).toInt = (n : Int).bmod (2 ^ 32) := Int32.toInt_ofNat'
  rw [hbmod, Int.bmod_def]
  split <;> split <;> omega

/-- As an `int` a position is negative in every other range of `2 ^ 31`. -/
theorem neg_one_lt_toInt_iff {n : Nat} : -1 < toInt n ↔ n % 2 ^ 32 < 2 ^ 31 := by
  have hneg : (-1 : Int32).toInt = -1 := rfl
  rw [Int32.lt_iff_toInt_lt, toInt_toInt, hneg]
  split <;> omega

theorem toSizeT_toInt (n : Nat) :
    toSizeT (toInt n) =
      if n % 2 ^ 32 < 2 ^ 31 then n % 2 ^ 32 else n % 2 ^ 32 + (2 ^ 64 - 2 ^ 32) := by
  rw [toSizeT, toInt_toInt]
  split <;> omega

theorem toSizeT_toInt_of_lt {n : Nat} (h : n < 2 ^ 31) : toSizeT (toInt n) = n := by
  rw [toSizeT_toInt, if_pos (by omega)]
  omega

/-- `std::vector<char>::max_size()`; no `std::string` is longer. -/
def maxSize : Nat := 2 ^ 63 - 1

theorem le_maxSize_of_lt {n : Nat} (h : n < 2 ^ 31) : n ≤ maxSize := by
  rw [maxSize]
  omega

/-- `s.find(pat)`: the index of the first occurrence, or `npos`. -/
def find (s pat : Bytes) : Nat :=
  match cut pat s with
  | some (before, _) => before.length
  | none => npos

theorem find_of_cut {s pat p t : Bytes} (h : cut pat s = some (p, t)) :
    find s pat = p.length := by
  simp [find, h]

theorem find_ne_npos_iff {s pat : Bytes} (hlen : s.length ≤ maxSize) :
    find s pat ≠ npos ↔ pat <:+: s := by
  cases hc : cut pat s with
  | none => simp [find, hc, cut_eq_none_iff.1 hc]
  | some r =>
    obtain ⟨p, t⟩ := r
    have hs := (cut_eq_some_iff.1 hc).1
    have hl := congrArg List.length hs
    simp only [List.length_append] at hl
    rw [maxSize] at hlen
    rw [find_of_cut hc, npos]
    exact iff_of_true (by omega) ⟨p, t, hs.symm⟩

theorem find_of_absent {s pat : Bytes} (h : ¬ pat <:+: s) : find s pat = npos := by
  simp [find, cut_eq_none_iff.2 h]

theorem length_before_lt {s pat p t : Bytes} {n : Nat} (hlen : s.length < n)
    (h : cut pat s = some (p, t)) : p.length < n := by
  have hl := congrArg List.length (cut_eq_some_iff.1 h).1
  simp only [List.length_append] at hl
  omega

theorem toInt_find {s pat p t : Bytes} (h : cut pat s = some (p, t)) (hp : p.length < 2 ^ 31) :
    -1 < toInt (find s pat) ∧ toSizeT (toInt (find s pat)) = p.length := by
  rw [find_of_cut h]
  exact ⟨neg_one_lt_toInt_iff.2 (by omega), toSizeT_toInt_of_lt hp⟩

theorem toInt_find_of_absent {s pat : Bytes} (h : cut pat s = none) :
    toInt (find s pat) = -1 := by
  rw [find_of_absent (cut_eq_none_iff.1 h), toInt_npos]

/-- `std::search` over the whole of `s`: the position of the first occurrence, or the end. -/
def search (s pat : Bytes) : Nat :=
  match cut pat s with
  | some (before, _) => before.length
  | none => s.length

def substr (s : Bytes) (pos : Nat) : Except Exn Bytes :=
  if pos ≤ s.length then .ok (s.drop pos) else .error .outOfRange

theorem substr_suffix {s t : Bytes} {pos : Nat} (h : substr s pos = .ok t) : t <:+ s := by
  unfold substr at h
  split at h
  · cases h
    exact List.drop_suffix pos s
  · cases h

def substrCount (s : Bytes) (pos count : Nat) : Except Exn Bytes :=
  if pos ≤ s.length then .ok ((s.drop pos).take count) else .error .outOfRange

theorem substr_after {s pat p t : Bytes} (hlen : s.length ≤ maxSize)
    (h : cut pat s = some (p, t)) (hp : p.length < 2 ^ 31) :
    substr s (addSizeT (toSizeT (toInt (find s pat))) pat.length) = .ok t := by
  have hs := (cut_eq_some_iff.1 h).1
  have hl := congrArg List.length hs
  simp only [List.length_append] at hl
  rw [maxSize] at hlen
  have hsum : addSizeT p.length pat.length = (p ++ pat).length := by
    rw [addSizeT, List.length_append]
    omega
  rw [(toInt_find h hp).2, hsum, substr, if_pos (by simp only [List.length_append]; omega)]
  rw [hs, List.drop_left]

/-- `std::vector<char> v(n)` with an `int` argument; the result is the vector's size. -/
def vectorOfSize (n : Int32) : Except Exn Nat :=
  if toSizeT n ≤ maxSize then .ok (toSizeT n) else .error .lengthError

theorem vectorOfSize_of_neg {n : Int32} (h : n.toInt < 0) :
    vectorOfSize n = .error .lengthError := by
  have hge := n.le_toInt
  have hlarge : ¬ toSizeT n ≤ maxSize := by
    rw [toSizeT, maxSize]
    omega
  rw [vectorOfSize, if_neg hlarge]

theorem vectorOfSize_of_nonneg {n : Int32} (h : 0 ≤ n.toInt) :
    vectorOfSize n = .ok n.toInt.toNat := by
  have hlt := n.toInt_lt
  have hsize : toSizeT n = n.toInt.toNat := by
    rw [toSizeT]
    omega
  rw [vectorOfSize, hsize, if_pos (by rw [maxSize]; omega)]

end AsioClient
