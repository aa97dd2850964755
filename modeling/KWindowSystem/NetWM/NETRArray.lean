import KWindowSystem.NetWM.Def

/-!
# Growing arrays

`NETRArray`: a zero-filled block that grows when an index outside it is used.
-/

namespace KWindowSystem

structure NETRArray (Z : Type) where
  sz : Nat
  /-- The allocated block, of `capacity` elements. -/
  d : List Z
  fits : sz ≤ d.length
deriving DecidableEq, Repr

namespace NETRArray

variable {Z : Type} [Inhabited Z]

/-- A block as `calloc` and `reset` leave it. -/
def new : NETRArray Z := ⟨0, List.replicate 2 default, Nat.zero_le _⟩

def capacity (a : NETRArray Z) : Nat := a.d.length

def size (a : NETRArray Z) : Nat := a.sz

def reset (_ : NETRArray Z) : NETRArray Z := new

/-- The block that `operator[]` makes an index fit into. -/
def block (a : NETRArray Z) (index : Nat) : List Z :=
  if a.capacity ≤ index then
    a.d ++ List.replicate (max (2 * a.capacity) (index + 1) - a.capacity) default
  else a.d

theorem lt_length_block (a : NETRArray Z) (index : Nat) : index < (a.block index).length := by
  unfold block
  split
  · rw [List.length_append, List.length_replicate]
    have := Nat.le_max_right (2 * a.capacity) (index + 1)
    unfold capacity at *
    omega
  · rename_i h
    exact Nat.lt_of_not_le h

theorem length_le_length_block (a : NETRArray Z) (index : Nat) :
    a.d.length ≤ (a.block index).length := by
  unfold block
  split
  · rw [List.length_append]
    omega
  · exact Nat.le_refl _

/-- What using an index, for reading too, does to the array. -/
def touch (a : NETRArray Z) (index : Nat) : NETRArray Z where
  sz := max a.sz (index + 1)
  d := a.block index
  fits := Nat.max_le.mpr
    ⟨Nat.le_trans a.fits (a.length_le_length_block index), a.lt_length_block index⟩

def set (a : NETRArray Z) (index : Nat) (z : Z) : NETRArray Z where
  sz := (a.touch index).sz
  d := (a.touch index).d.set index z
  fits := by
    rw [List.length_set]
    exact (a.touch index).fits

def get (a : NETRArray Z) (index : Nat) : Z := (a.block index).getD index default

/-- The elements up to `size`. -/
def toList (a : NETRArray Z) : List Z := a.d.take a.sz

/-- A loop that writes the elements from `index` on. -/
def setFrom (a : NETRArray Z) (index : Nat) : List Z → NETRArray Z
  | [] => a
  | z :: zs => (a.set index z).setFrom (index + 1) zs

/-- A loop that zeroes the elements up to `n`. -/
def zero (a : NETRArray Z) (n : Nat) : NETRArray Z := a.setFrom 0 (List.replicate n default)

/-- A loop that reads the elements up to `n`, which makes room for them. -/
def readTo (a : NETRArray Z) (n : Nat) : NETRArray Z := (List.range n).foldl touch a

/-! ## As a map -/

theorem getD_block (a : NETRArray Z) (index i : Nat) :
    (a.block index).getD i default = a.d.getD i default := by
  unfold block
  split
  · rw [List.getD_eq_getElem?_getD, List.getD_eq_getElem?_getD, List.getElem?_append]
    split
    · rfl
    · rename_i h
      rw [List.getElem?_eq_none (Nat.le_of_not_lt h), List.getElem?_replicate]
      split <;> rfl
  · rfl

theorem get_eq (a : NETRArray Z) (i : Nat) : a.get i = a.d.getD i default := getD_block a i i

theorem get_of_lt_size (a : NETRArray Z) {i : Nat} (h : i < a.size) :
    a.get i = a.toList.getD i default := by
  have htake : (a.d.take a.sz)[i]? = a.d[i]? := List.getElem?_take_of_lt h
  unfold toList
  rw [get_eq, List.getD_eq_getElem?_getD, List.getD_eq_getElem?_getD, htake]

-- Growing does not change what is read.
theorem get_set (a : NETRArray Z) (index : Nat) (z : Z) (i : Nat) :
    (a.set index z).get i = if i = index then z else a.get i := by
  rw [get_eq, get_eq]
  show ((a.block index).set index z).getD i default = _
  rw [List.getD_eq_getElem?_getD, List.getElem?_set]
  by_cases h : i = index
  · rw [if_pos h, if_pos h.symm, if_pos (a.lt_length_block index)]
    rfl
  · rw [if_neg h, if_neg (Ne.symm h), ← List.getD_eq_getElem?_getD]
    exact getD_block a index i

theorem get_touch (a : NETRArray Z) (index i : Nat) : (a.touch index).get i = a.get i := by
  rw [get_eq, get_eq]
  exact getD_block a index i

theorem get_readTo (a : NETRArray Z) (n i : Nat) : (a.readTo n).get i = a.get i := by
  unfold readTo
  induction n with
  | zero => rfl
  | succ n ih => rw [List.range_succ, List.foldl_append, List.foldl_cons, List.foldl_nil, get_touch, ih]

theorem size_readTo (a : NETRArray Z) (n : Nat) : (a.readTo n).size = max a.size n := by
  unfold readTo
  induction n with
  | zero => exact (Nat.max_zero a.size).symm
  | succ n ih =>
      rw [List.range_succ, List.foldl_append, List.foldl_cons, List.foldl_nil]
      show max (size _) (n + 1) = _
      rw [ih]
      omega

/-- Nothing but the default stands behind `size`. -/
def Clean (a : NETRArray Z) : Prop := ∀ i, a.sz ≤ i → a.get i = default

theorem get_new (i : Nat) : (new : NETRArray Z).get i = default := by
  rw [get_eq]
  show (List.replicate 2 default).getD i default = default
  rw [List.getD_eq_getElem?_getD, List.getElem?_replicate]
  split <;> rfl

theorem clean_new : (new : NETRArray Z).Clean := fun i _ => get_new i

theorem clean_set {a : NETRArray Z} (ha : a.Clean) (index : Nat) (z : Z) : (a.set index z).Clean := by
  intro i hi
  have hsz : max a.sz (index + 1) ≤ i := hi
  have hold := ha i (by omega)
  rw [get_set, if_neg (by omega), hold]

theorem clean_readTo {a : NETRArray Z} (ha : a.Clean) (n : Nat) : (a.readTo n).Clean := by
  intro i hi
  have hsize : (a.readTo n).sz = max a.sz n := size_readTo a n
  rw [get_readTo]
  exact ha i (by omega)

theorem clean_setFrom {a : NETRArray Z} (ha : a.Clean) (index : Nat) (zs : List Z) :
    (a.setFrom index zs).Clean := by
  induction zs generalizing a index with
  | nil => exact ha
  | cons z zs ih => exact ih (clean_set ha index z) (index + 1)

theorem get_setFrom (a : NETRArray Z) (index : Nat) (zs : List Z) (i : Nat) :
    (a.setFrom index zs).get i =
      if index ≤ i ∧ i < index + zs.length then zs.getD (i - index) default else a.get i := by
  induction zs generalizing a index with
  | nil =>
      rw [if_neg (by show ¬(index ≤ i ∧ i < index + 0); omega)]
      rfl
  | cons z zs ih =>
      show ((a.set index z).setFrom (index + 1) zs).get i = _
      rw [ih, get_set, List.length_cons]
      by_cases h : i = index
      · subst h
        rw [if_neg (by omega), if_pos rfl, if_pos (by omega), Nat.sub_self]
        rfl
      · rw [if_neg h]
        by_cases hin : index + 1 ≤ i ∧ i < index + 1 + zs.length
        · rw [if_pos hin, if_pos (by omega), show i - index = i - (index + 1) + 1 by omega]
          rfl
        · rw [if_neg hin, if_neg (by omega)]

theorem size_setFrom {a : NETRArray Z} {index : Nat} (h : index ≤ a.size) (zs : List Z) :
    (a.setFrom index zs).size = max a.size (index + zs.length) := by
  induction zs generalizing a index with
  | nil => exact (Nat.max_eq_left h).symm
  | cons z zs ih =>
      have hsize : (a.set index z).size = max a.size (index + 1) := rfl
      show ((a.set index z).setFrom (index + 1) zs).size = _
      rw [ih (hsize ▸ Nat.le_max_right _ _), hsize, List.length_cons]
      omega

-- Zeroing an array does not make it smaller.
theorem size_zero (a : NETRArray Z) : (a.zero a.size).size = a.size := by
  unfold zero
  rw [size_setFrom (Nat.zero_le _), List.length_replicate, Nat.zero_add, Nat.max_self]

-- Zeroed up to its size, a clean array reads as a new one.
theorem get_zero {a : NETRArray Z} (ha : a.Clean) (i : Nat) : (a.zero a.size).get i = default := by
  unfold zero
  rw [get_setFrom, List.length_replicate]
  split
  · rw [List.getD_eq_getElem?_getD, List.getElem?_replicate]
    split <;> rfl
  · rename_i h
    have hsize : a.size = a.sz := rfl
    exact ha i (by omega)

/-! ## As a list -/

theorem length_toList {Z : Type} (a : NETRArray Z) : a.toList.length = a.size := List.length_take_of_le a.fits

theorem toList_eq (a : NETRArray Z) : a.toList = (List.range a.size).map a.get := by
  apply List.ext_getElem
  · rw [length_toList, List.length_map, List.length_range]
  · intro i hi _
    rw [List.getElem_map, List.getElem_range, a.get_of_lt_size (a.length_toList ▸ hi),
      List.getD_eq_getElem?_getD, List.getElem?_eq_getElem hi]
    rfl

-- The element behind the last one is appended.
theorem toList_set_size (a : NETRArray Z) (z : Z) : (a.set a.size z).toList = a.toList ++ [z] := by
  have hsize : (a.set a.size z).size = a.size + 1 := Nat.max_eq_right (Nat.le_succ _)
  have hold : (List.range a.size).map (a.set a.size z).get = a.toList := by
    rw [toList_eq]
    apply List.map_congr_left
    intro i hi
    rw [get_set, if_neg (Nat.ne_of_lt (List.mem_range.mp hi))]
  rw [toList_eq, hsize, List.range_succ, List.map_append, hold, List.map_singleton, get_set, if_pos rfl]

theorem toList_setFrom_size (a : NETRArray Z) (zs : List Z) :
    (a.setFrom a.size zs).toList = a.toList ++ zs := by
  induction zs generalizing a with
  | nil => exact (List.append_nil _).symm
  | cons z zs ih =>
      have hsize : (a.set a.size z).size = a.size + 1 := Nat.max_eq_right (Nat.le_succ _)
      show ((a.set a.size z).setFrom (a.size + 1) zs).toList = _
      rw [← hsize, ih, toList_set_size, List.append_assoc]
      rfl

-- An array that is overwritten as a whole.
theorem toList_setFrom_zero {a : NETRArray Z} {zs : List Z} (h : a.size ≤ zs.length) :
    (a.setFrom 0 zs).toList = zs := by
  have hsize : (a.setFrom 0 zs).size = zs.length := by
    rw [size_setFrom (Nat.zero_le _), Nat.zero_add, Nat.max_eq_right h]
  apply List.ext_getElem
  · rw [length_toList, hsize]
  · intro i _ hi
    have hget := (a.setFrom 0 zs).get_of_lt_size (hsize ▸ hi)
    rw [get_setFrom, if_pos ⟨Nat.zero_le i, (Nat.zero_add zs.length).symm ▸ hi⟩, Nat.sub_zero,
      List.getD_eq_getElem?_getD, List.getD_eq_getElem?_getD, List.getElem?_eq_getElem hi,
      List.getElem?_eq_getElem] at hget
    exact hget.symm

theorem toList_new_setFrom (zs : List Z) : ((new : NETRArray Z).setFrom 0 zs).toList = zs :=
  toList_setFrom_size new zs

end NETRArray

end KWindowSystem
