import KWindowSystem.NetWM.NETRArray
import Mathlib.Data.List.Basic
import Mathlib.Data.List.Induction

/-!
# Runs of a growing array

Whatever is done to a `NETRArray`, it reads as the map of what was written since the last `reset`, with zero
for everything else.
-/

namespace KWindowSystem

namespace NETRArray

inductive Access (Z : Type) where
  | reset
  | write (index : Nat) (z : Z)
  | read (index : Nat)
deriving DecidableEq, Repr

namespace Access

variable {Z : Type}

/-- The element that an access uses. -/
def index? : Access Z → Option Nat
  | .reset => none
  | .write index _ => some index
  | .read index => some index

def noteWrite (i : Nat) (last : Option Z) : Access Z → Option Z
  | .reset => none
  | .write index z => if i = index then some z else last
  | .read _ => last

/-- What the last write since the last reset has left at `i`. -/
def lastWrite (ops : List (Access Z)) (i : Nat) : Option Z := ops.foldl (noteWrite i) none

def noteIndex (indices : List Nat) : Access Z → List Nat
  | .reset => []
  | .write index _ => index :: indices
  | .read index => index :: indices

/-- The indices used since the last reset. -/
def touched (ops : List (Access Z)) : List Nat := ops.foldl noteIndex []

theorem lastWrite_append_singleton (ops : List (Access Z)) (op : Access Z) (i : Nat) :
    lastWrite (ops ++ [op]) i = noteWrite i (lastWrite ops i) op :=
  List.foldl_concat _ _ _ _

theorem touched_append_singleton (ops : List (Access Z)) (op : Access Z) :
    touched (ops ++ [op]) = noteIndex (touched ops) op :=
  List.foldl_concat _ _ _ _

end Access

/-- One more than the largest of the indices, zero if there is none. -/
def bound : List Nat → Nat
  | [] => 0
  | i :: l => max (bound l) (i + 1)

variable {Z : Type} [Inhabited Z]

def step (a : NETRArray Z) : Access Z → NETRArray Z
  | .reset => a.reset
  | .write index z => a.set index z
  | .read index => a.touch index

def run (ops : List (Access Z)) : NETRArray Z := ops.foldl step new

/-- Each access stays in the block that there is when it is made. -/
def InBlock : NETRArray Z → List (Access Z) → Prop
  | _, [] => True
  | a, op :: ops => (∀ i ∈ op.index?, i < (step a op).capacity) ∧ InBlock (step a op) ops

theorem run_append_singleton (ops : List (Access Z)) (op : Access Z) :
    run (ops ++ [op]) = step (run ops) op :=
  List.foldl_concat _ _ _ _

theorem lt_capacity_step (a : NETRArray Z) (op : Access Z) : ∀ i ∈ op.index?, i < (step a op).capacity := by
  intro i hi
  cases op with
  | reset => cases hi
  | write index z =>
      cases hi
      show i < ((a.block i).set i z).length
      rw [List.length_set]
      exact a.lt_length_block i
  | read index =>
      cases hi
      exact a.lt_length_block i

theorem inBlock (a : NETRArray Z) (ops : List (Access Z)) : InBlock a ops := by
  induction ops generalizing a with
  | nil => trivial
  | cons op ops ih => exact ⟨lt_capacity_step a op, ih (step a op)⟩

theorem size_run (ops : List (Access Z)) : (run ops).size = bound (Access.touched ops) := by
  induction ops using List.reverseRecOn with
  | nil => rfl
  | append_singleton ops op ih =>
      rw [run_append_singleton, Access.touched_append_singleton]
      cases op with
      | reset => rfl
      | write index z => exact congrArg (max · (index + 1)) ih
      | read index => exact congrArg (max · (index + 1)) ih

theorem get_run (ops : List (Access Z)) (i : Nat) :
    (run ops).get i = (Access.lastWrite ops i).getD default := by
  induction ops using List.reverseRecOn with
  | nil => exact get_new i
  | append_singleton ops op ih =>
      rw [run_append_singleton, Access.lastWrite_append_singleton]
      cases op with
      | reset => exact get_new i
      | write index z =>
          show ((run ops).set index z).get i = (if i = index then some z else _).getD default
          rw [get_set]
          split
          · rfl
          · exact ih
      | read index =>
          show ((run ops).touch index).get i = _
          rw [get_touch]
          exact ih

/-- After any accesses: none was outside its block, the size is the bound of the indices used since the last
reset, and each slot reads as it was last written since, or else as zero. -/
theorem zero_default_map (ops : List (Access Z)) :
    InBlock new ops ∧ (run ops).size = bound (Access.touched ops) ∧
      ∀ i, (run ops).get i = (Access.lastWrite ops i).getD default :=
  ⟨inBlock new ops, size_run ops, get_run ops⟩

-- A write, growth by a read, and a slot from before the reset.
example :
    (run [.write 1 7, .reset, .write 0 5, .read 9]).toList = [5, 0, 0, 0, 0, 0, 0, 0, 0, (0 : Nat)] := by
  decide

end NETRArray

end KWindowSystem
