import Mathlib.Order.Basic
import Mathlib.Data.Int.Notation

/-!
# Grid — numbered cells of an area that wraps around

The cells are numbered row by row from one.  Along each side the area is cut into cells of one length; a
rest that is shorter than a cell is in none of them, and a position outside belongs to the first or to the
last cell.  Coordinates are taken modulo the length of the side with the operations of C, which round
towards zero.
-/

namespace Grid

/-! ## Numbers of cells -/

def number (columns column row : Int) : Int := row * columns + column + 1

theorem number_emod_ediv (columns d : Int) :
    number columns ((d - 1) % columns) ((d - 1) / columns) = d := by
  unfold number
  rw [Int.ediv_mul_add_emod]
  omega

theorem number_inj {columns column row column' row' : Int} (h : 0 ≤ column) (hlt : column < columns)
    (h' : 0 ≤ column') (hlt' : column' < columns) :
    number columns column row = number columns column' row' ↔ column = column' ∧ row = row' := by
  unfold number
  apply Iff.intro
  · intro heq
    have hcolumn : (row * columns + column) % columns = (row' * columns + column') % columns := by
      rw [show row * columns + column = row' * columns + column' by omega]
    rw [Int.mul_add_emod_self_right, Int.mul_add_emod_self_right, Int.emod_eq_of_lt h hlt,
      Int.emod_eq_of_lt h' hlt'] at hcolumn
    have hrow : row * columns = row' * columns := by omega
    exact ⟨hcolumn, Int.eq_of_mul_eq_mul_right (by omega) hrow⟩
  · rintro ⟨rfl, rfl⟩
    rfl

theorem number_pos {columns column row : Int} (hcolumn : 0 ≤ column) (hcolumns : 0 ≤ columns)
    (hrow : 0 ≤ row) : 1 ≤ number columns column row := by
  have h := Int.mul_nonneg hrow hcolumns
  unfold number
  omega

theorem number_le {columns rows column row : Int} (hcolumn : column < columns) (hcolumns : 0 ≤ columns)
    (hrow : row < rows) : number columns column row ≤ columns * rows := by
  have h : (row + 1) * columns ≤ rows * columns := Int.mul_le_mul_of_nonneg_right (by omega) hcolumns
  unfold number
  rw [Int.add_mul] at h
  rw [Int.mul_comm columns rows]
  omega

/-- The cell of a number is one of the grid. -/
theorem cell_of_number {columns rows d : Int} (h : 1 ≤ d) (hle : d ≤ columns * rows)
    (hcolumns : 0 < columns) :
    0 ≤ (d - 1) % columns ∧ (d - 1) % columns < columns ∧ 0 ≤ (d - 1) / columns ∧
      (d - 1) / columns < rows := by
  refine ⟨Int.emod_nonneg _ (by omega), Int.emod_lt_of_pos _ hcolumns,
    Int.ediv_nonneg (by omega) (by omega), ?_⟩
  apply Int.ediv_lt_of_lt_mul hcolumns
  rw [Int.mul_comm]
  omega

/-! ## Positions -/

/-- The cell of a position on one side. -/
def cell (size view position : Int) : Int :=
  if position < 0 then 0
  else if position ≥ size then size / view - 1
  else position / view

section Side

variable {size view position : Int}

/-- Where there is a whole cell, the side is as long as that. -/
theorem view_le_of_cells (hview : 0 < view) (hcells : 0 < size / view) : view ≤ size := by
  have h : 1 * view ≤ size / view * view := Int.mul_le_mul_of_nonneg_right hcells (Int.le_of_lt hview)
  have hle := Int.ediv_mul_le size (Int.ne_of_gt hview)
  omega

theorem cell_nonneg (hview : 0 < view) (hsize : view ≤ size) : 0 ≤ cell size view position := by
  have hcells : 1 ≤ size / view := Int.le_ediv_of_mul_le hview (by omega)
  unfold cell
  split
  · omega
  · split
    · omega
    · exact Int.ediv_nonneg (by omega) (by omega)

theorem cell_eq {i : Int} (hview : 0 < view) (hi : 0 ≤ i) (hsize : (i + 1) * view ≤ size)
    (h : i * view ≤ position) (hlt : position < (i + 1) * view) : cell size view position = i := by
  have hpos : 0 ≤ position := Int.le_trans (Int.mul_nonneg hi (Int.le_of_lt hview)) h
  unfold cell
  rw [if_neg (by omega), if_neg (by omega)]
  apply Int.le_antisymm
  · exact Int.le_of_lt_add_one (Int.ediv_lt_of_lt_mul hview hlt)
  · exact Int.le_ediv_of_mul_le hview h

theorem cell_of_neg (h : position < 0) : cell size view position = 0 := if_pos h

theorem cell_of_le (hsize : 0 ≤ size) (h : size ≤ position) :
    cell size view position = size / view - 1 := by
  unfold cell
  rw [if_neg (by omega), if_pos h]

/-- The first position of a whole cell, and the positions before the next one. -/
theorem cell_corner {i offset : Int} (hview : 0 < view) (hi : 0 ≤ i) (hcell : i < size / view)
    (h : 0 ≤ offset) (hlt : offset < view) :
    cell size view (view * i + offset) = i ∧ 0 ≤ view * i ∧ view * i + view ≤ size := by
  have hle : (i + 1) * view ≤ size / view * view :=
    Int.mul_le_mul_of_nonneg_right (by omega) (Int.le_of_lt hview)
  have hsize := Int.ediv_mul_le size (Int.ne_of_gt hview)
  have hcorner := Int.mul_nonneg hi (Int.le_of_lt hview)
  have hnext : (i + 1) * view = i * view + view := by rw [Int.add_mul, Int.one_mul]
  rw [Int.mul_comm view i]
  exact ⟨cell_eq hview hi (by omega) (by omega) (by omega), hcorner, by omega⟩

/-- Where there is no rest, the last cell goes on behind the side. -/
theorem cell_of_last (hview : 0 < view) (hcells : 0 < size / view) (hdvd : view ∣ size)
    (h : size - view ≤ position) : cell size view position = size / view - 1 := by
  have hsize := view_le_of_cells hview hcells
  by_cases hbehind : size ≤ position
  · exact cell_of_le (by omega) hbehind
  · apply cell_eq hview (by omega)
    · exact Int.le_of_eq (by rw [Int.sub_add_cancel, Int.ediv_mul_cancel hdvd])
    · rw [Int.sub_mul, Int.ediv_mul_cancel hdvd]
      omega
    · rw [Int.sub_add_cancel, Int.ediv_mul_cancel hdvd]
      omega

/-- The position before a cell is in the cell before. -/
theorem cell_before {i : Int} (hview : 0 < view) (hi : 0 < i) (hcell : i < size / view) :
    cell size view (view * i - 1) = i - 1 := by
  have hoffset : view * i - 1 = view * (i - 1) + (view - 1) := by
    rw [Int.mul_sub]
    omega
  rw [hoffset]
  exact (cell_corner hview (by omega) (by omega) (by omega) (by omega)).1

/-- Where there is no rest, every position has a cell. -/
theorem cell_lt (hview : 0 < view) (hsize : view ≤ size) (hdvd : view ∣ size) :
    cell size view position < size / view := by
  have hcells : 1 ≤ size / view := Int.le_ediv_of_mul_le hview (by omega)
  unfold cell
  split
  · omega
  · split
    · omega
    · apply Int.ediv_lt_of_lt_mul hview
      rw [Int.ediv_mul_cancel hdvd]
      omega

/-- The rest is counted as one more cell. -/
theorem cell_rest (hview : 0 < view) (hsize : 0 ≤ size) (hdvd : ¬view ∣ size) :
    cell size view (size - 1) = size / view := by
  have hrest : 0 < size % view := by
    have h := Int.emod_nonneg size (Int.ne_of_gt hview)
    rw [Int.dvd_iff_emod_eq_zero] at hdvd
    omega
  have hsplit := Int.ediv_mul_add_emod size view
  have hlt := Int.emod_lt_of_pos size hview
  have hpos : 0 ≤ size / view := Int.ediv_nonneg hsize (Int.le_of_lt hview)
  have hmul := Int.mul_nonneg hpos (Int.le_of_lt hview)
  unfold cell
  rw [if_neg (by omega), if_neg (by omega)]
  apply Int.le_antisymm
  · apply Int.le_of_lt_add_one
    apply Int.ediv_lt_of_lt_mul hview
    rw [Int.add_mul]
    omega
  · exact Int.le_ediv_of_mul_le hview (by omega)

end Side

/-! ## Wrapping around -/

/-- A remainder that is rounded towards zero, brought to its positive value. -/
def wrap (size x : Int) : Int := if x < 0 then x + size else x

theorem wrap_tmod {size : Int} (hsize : 0 < size) (x : Int) : wrap size (x.tmod size) = x % size := by
  unfold wrap
  have hnonneg := Int.emod_nonneg x (Int.ne_of_gt hsize)
  have hlt := Int.emod_lt_of_pos x hsize
  rw [Int.tmod_eq_emod]
  split
  · rw [if_neg (by omega)]
    omega
  · rw [Int.natAbs_of_nonneg (Int.le_of_lt hsize)]
    split <;> omega

/-- One step up or down is enough for what is less than one length away. -/
theorem wrap_eq_emod {size x : Int} (h : -size ≤ x) (hlt : x < size) : wrap size x = x % size := by
  unfold wrap
  split
  · rw [← Int.add_emod_right, Int.emod_eq_of_lt (by omega) (by omega)]
  · rw [Int.emod_eq_of_lt (by omega) hlt]

end Grid
