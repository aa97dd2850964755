import KWindowSystem.KX11Extras.DesktopSignals
import KWindowSystem.Lib.Grid

/-!
# Viewports as desktops

The conversions between the positions in one large desktop and the numbers of the parts that stand for
desktops, with the divisions that they make.  The divisors come from the screens and from properties of the
root window, so each function says whether it has a result.  Coordinates are integers otherwise, as those of
rectangles are.
-/

open Qt

namespace KWindowSystem

open NET NETRootInfo

namespace KX11Extras

/-- Why an expression of type `int` has no result. -/
inductive Undefined where
  | divisionByZero
  | overflow
deriving DecidableEq, Repr

/-- The values of an `int`. -/
def intFits (a : Int) : Prop := -(2 ^ 31) ≤ a ∧ a < 2 ^ 31

instance (a : Int) : Decidable (intFits a) := inferInstanceAs (Decidable (_ ∧ _))

namespace Checked

def div (a b : Int) : Except Undefined Int :=
  if b = 0 then .error .divisionByZero else .ok (a.tdiv b)

def mod (a b : Int) : Except Undefined Int :=
  if b = 0 then .error .divisionByZero else .ok (a.tmod b)

def mul (a b : Int) : Except Undefined Int :=
  if intFits (a * b) then .ok (a * b) else .error .overflow

theorem div_of_ne {b : Int} (h : b ≠ 0) (a : Int) : div a b = .ok (a.tdiv b) := if_neg h

theorem mod_of_ne {b : Int} (h : b ≠ 0) (a : Int) : mod a b = .ok (a.tmod b) := if_neg h

@[simp]
theorem ok_bind {α β : Type} (a : α) (f : α → Except Undefined β) : (Except.ok a >>= f) = f a := rfl

/-! ## The functions -/

section Functions

variable (screens : DisplayGeometry) (p : NETRootInfo)

/-- While viewports are desktops, the product is taken before it is divided, and can be too large for an
`int` where the number of desktops is not. -/
def numberOfDesktops : Except Undefined Int :=
  if mapViewport screens p then do
    let s := p.desktopGeometry
    let columns ← div s.width.toInt screens.rect.width
    let product ← mul columns s.height.toInt
    div product screens.rect.height
  else .ok p.getNumberOfDesktops.toInt

/-- The column or the row of a position. -/
def part (position size parts view : Int) : Except Undefined Int :=
  if position < 0 then .ok 0
  else if position ≥ size then .ok (parts - 1)
  else div position view

def viewportToDesktop (x y : Int) : Except Undefined Int := do
  let s := p.desktopGeometry
  let xs ← div s.width.toInt screens.rect.width
  let column ← part x s.width.toInt xs screens.rect.width
  let ys ← div s.height.toInt screens.rect.height
  let row ← part y s.height.toInt ys screens.rect.height
  return row * xs + column + 1

def viewportWindowToDesktop (rect : QRect) : Except Undefined Int :=
  let viewport := p.desktopViewport p.getCurrentDesktop
  let center := rect.center
  viewportToDesktop screens p (center.1 + viewport.x.toInt) (center.2 + viewport.y.toInt)

/-- A coordinate relative to the viewport, brought into the geometry. -/
def relative (size coordinate : Int) : Int :=
  let coordinate := if coordinate ≥ size then coordinate - size else coordinate
  if coordinate < 0 then coordinate + size else coordinate

def desktopToViewport (desktop : Int) (absolute : Bool) : Except Undefined (Int × Int) := do
  let s := p.desktopGeometry
  let xs ← div s.width.toInt screens.rect.width
  let ys ← div s.height.toInt screens.rect.height
  if desktop ≤ 0 ∨ desktop > xs * ys then return (0, 0)
  else
    let column ← mod (desktop - 1) xs
    let row ← div (desktop - 1) xs
    let ret := (screens.rect.width * column, screens.rect.height * row)
    if absolute then return ret
    else
      let viewport := p.desktopViewport p.getCurrentDesktop
      return (relative s.width.toInt (ret.1 - viewport.x.toInt),
        relative s.height.toInt (ret.2 - viewport.y.toInt))

end Functions

end Checked

/-! ## Where there are screens -/

section Values

variable {screens : DisplayGeometry} (p : NETRootInfo)

namespace Checked

theorem part_of_ne {view : Int} (h : view ≠ 0) (position size parts : Int) :
    part position size parts view =
      .ok (if position < 0 then 0 else if position ≥ size then parts - 1 else position.tdiv view) := by
  unfold part
  split
  · rfl
  · split
    · rfl
    · exact div_of_ne h position

-- On screens of some size, the number of a point always has a value.
theorem viewportToDesktop_eq (hwidth : 0 < screens.rect.width) (hheight : 0 < screens.rect.height)
    (x y : Int) :
    viewportToDesktop screens p x y = .ok (KX11Extras.viewportToDesktop screens p x y) := by
  have hw : screens.rect.width ≠ 0 := Int.ne_of_gt hwidth
  have hh : screens.rect.height ≠ 0 := Int.ne_of_gt hheight
  unfold viewportToDesktop KX11Extras.viewportToDesktop
  simp only [div_of_ne hw, div_of_ne hh, part_of_ne hw, part_of_ne hh, ok_bind]
  rfl

theorem viewportWindowToDesktop_eq (hwidth : 0 < screens.rect.width) (hheight : 0 < screens.rect.height)
    (rect : QRect) :
    viewportWindowToDesktop screens p rect =
      .ok (KX11Extras.viewportWindowToDesktop screens p rect) :=
  viewportToDesktop_eq p hwidth hheight _ _

end Checked

/-! ## The grid of desktops -/

/-- The geometry cut into parts of the size of the screens. -/
def columns (screens : DisplayGeometry) (p : NETRootInfo) : Int :=
  p.desktopGeometry.width.toInt / screens.rect.width

def rows (screens : DisplayGeometry) (p : NETRootInfo) : Int :=
  p.desktopGeometry.height.toInt / screens.rect.height

theorem width_tdiv (h : 0 ≤ p.desktopGeometry.width.toInt) :
    p.desktopGeometry.width.toInt.tdiv screens.rect.width = columns screens p :=
  Int.tdiv_eq_ediv_of_nonneg h

theorem height_tdiv (h : 0 ≤ p.desktopGeometry.height.toInt) :
    p.desktopGeometry.height.toInt.tdiv screens.rect.height = rows screens p :=
  Int.tdiv_eq_ediv_of_nonneg h

/-- The whole parts, of which a geometry below zero has none. -/
def wholeCells (screens : DisplayGeometry) (p : NETRootInfo) : Nat :=
  (columns screens p).toNat * (rows screens p).toNat

theorem toNat_mul_pos {a b d : Int} (h : 1 ≤ d) (hle : d ≤ (a.toNat * b.toNat : Nat)) :
    0 < a ∧ 0 < b ∧ d ≤ a * b := by
  have ha : 0 < a := by
    by_contra hneg
    rw [Int.toNat_of_nonpos (by omega), Nat.zero_mul] at hle
    omega
  have hb : 0 < b := by
    by_contra hneg
    rw [Int.toNat_of_nonpos (by omega : b ≤ 0), Nat.mul_zero] at hle
    omega
  rw [Int.natCast_mul, Int.toNat_of_nonneg (Int.le_of_lt ha), Int.toNat_of_nonneg (Int.le_of_lt hb)] at hle
  exact ⟨ha, hb, hle⟩

theorem viewportToDesktop_eq_number (hwidth : 0 ≤ p.desktopGeometry.width.toInt)
    (hheight : 0 ≤ p.desktopGeometry.height.toInt) (x y : Int) :
    viewportToDesktop screens p x y =
      Grid.number (columns screens p)
        (Grid.cell p.desktopGeometry.width.toInt screens.rect.width x)
        (Grid.cell p.desktopGeometry.height.toInt screens.rect.height y) := by
  have hcell : ∀ position size view : Int, 0 ≤ size →
      (if position < 0 then 0
        else if position ≥ size then size.tdiv view - 1
        else position.tdiv view) = Grid.cell size view position := by
    intro position size view hsize
    unfold Grid.cell
    split
    · rfl
    · rw [Int.tdiv_eq_ediv_of_nonneg hsize, Int.tdiv_eq_ediv_of_nonneg (by omega : 0 ≤ position)]
  unfold viewportToDesktop Grid.number columns
  dsimp only
  rw [hcell _ _ _ hwidth, hcell _ _ _ hheight, Int.tdiv_eq_ediv_of_nonneg hwidth]

/-- The first positions of the part of a desktop. -/
def corner (screens : DisplayGeometry) (p : NETRootInfo) (d : Int) : Int × Int :=
  (screens.rect.width * ((d - 1) % columns screens p), screens.rect.height * ((d - 1) / columns screens p))

theorem Checked.desktopToViewport_eq (hwidth : 0 < screens.rect.width)
    (hheight : 0 < screens.rect.height) {d : Int} (h : 1 ≤ d)
    (hle : d ≤ columns screens p * rows screens p) (hcolumns : 0 < columns screens p)
    (hrows : 0 < rows screens p) (absolute : Bool) :
    Checked.desktopToViewport screens p d absolute = .ok
      (if absolute then corner screens p d
        else
          let viewport := p.desktopViewport p.getCurrentDesktop
          (relative p.desktopGeometry.width.toInt ((corner screens p d).1 - viewport.x.toInt),
            relative p.desktopGeometry.height.toInt ((corner screens p d).2 - viewport.y.toInt))) := by
  have hw := Int.ne_of_gt hwidth
  have hh := Int.ne_of_gt hheight
  have hgeometry := Grid.view_le_of_cells hwidth hcolumns
  have hgeometry' := Grid.view_le_of_cells hheight hrows
  unfold Checked.desktopToViewport corner
  simp only [Checked.div_of_ne hw, Checked.div_of_ne hh, ok_bind,
    width_tdiv p (by omega : 0 ≤ p.desktopGeometry.width.toInt),
    height_tdiv p (by omega : 0 ≤ p.desktopGeometry.height.toInt),
    Checked.mod_of_ne (Int.ne_of_gt hcolumns), Checked.div_of_ne (Int.ne_of_gt hcolumns),
    Int.tmod_eq_emod_of_nonneg (by omega : 0 ≤ d - 1), Int.tdiv_eq_ediv_of_nonneg (by omega : 0 ≤ d - 1)]
  rw [if_neg (by omega)]
  split <;> rfl

theorem Checked.relative_eq {size coordinate : Int} (h : -size ≤ coordinate) (hlt : coordinate < size) :
    relative size coordinate = coordinate % size := by
  have hbelow : (if coordinate ≥ size then coordinate - size else coordinate) = coordinate :=
    if_neg (by omega)
  unfold relative
  dsimp only
  rw [hbelow]
  exact Grid.wrap_eq_emod h hlt

-- Without a rest, a point has the number of a desktop exactly if it is in its column and in its row.
theorem viewportToDesktop_eq_iff (hwidth : 0 < screens.rect.width) (hcolumns : 0 < columns screens p)
    (hheight : 0 ≤ p.desktopGeometry.height.toInt)
    (hdvd : screens.rect.width ∣ p.desktopGeometry.width.toInt) (x y d : Int) :
    viewportToDesktop screens p x y = d ↔
      Grid.cell p.desktopGeometry.width.toInt screens.rect.width x = (d - 1) % columns screens p ∧
        Grid.cell p.desktopGeometry.height.toInt screens.rect.height y = (d - 1) / columns screens p := by
  have hgeometry := Grid.view_le_of_cells hwidth hcolumns
  have hnumbers := @Grid.number_inj (columns screens p) _
    (Grid.cell p.desktopGeometry.height.toInt screens.rect.height y) _ ((d - 1) / columns screens p)
    (@Grid.cell_nonneg _ _ x hwidth hgeometry) (Grid.cell_lt hwidth hgeometry hdvd)
    (Int.emod_nonneg (d - 1) (by omega)) (Int.emod_lt_of_pos (d - 1) hcolumns)
  rw [Grid.number_emod_ediv] at hnumbers
  rw [viewportToDesktop_eq_number p (by omega) hheight]
  exact hnumbers

/-! ## There and back -/

/-- The viewport is at a position of the geometry. -/
def ViewportInside (p : NETRootInfo) : Prop :=
  let viewport := p.desktopViewport p.getCurrentDesktop
  (0 ≤ viewport.x.toInt ∧ viewport.x.toInt < p.desktopGeometry.width.toInt) ∧
    0 ≤ viewport.y.toInt ∧ viewport.y.toInt < p.desktopGeometry.height.toInt

/-- A coordinate relative to the viewport: the geometry wraps around, and it is taken inside. -/
def RelativeTo (size viewport absolute relative : Int) : Prop :=
  0 ≤ relative ∧ relative < size ∧ relative % size = (absolute - viewport) % size

theorem relativeTo_relative {size viewport absolute : Int} (hviewport : 0 ≤ viewport)
    (hlt : viewport < size) (habsolute : 0 ≤ absolute) (hle : absolute < size) :
    RelativeTo size viewport absolute (Checked.relative size (absolute - viewport)) := by
  rw [Checked.relative_eq (by omega) (by omega)]
  exact ⟨Int.emod_nonneg _ (by omega), Int.emod_lt_of_pos _ (by omega),
    Int.emod_emod_of_dvd _ (Int.dvd_refl _)⟩

/-- The number of a viewport is the desktop that it stands for, and the relative form of the viewport is a
position of the geometry that is as far from the current one. -/
theorem viewport_of_desktop (hwidth : 0 < screens.rect.width) (hheight : 0 < screens.rect.height) {d : Int}
    (h : 1 ≤ d) (hle : d ≤ wholeCells screens p) :
    ∃ x y, Checked.desktopToViewport screens p d true = .ok (x, y) ∧
      Checked.viewportToDesktop screens p x y = .ok d ∧
      (ViewportInside p → ∃ x' y', Checked.desktopToViewport screens p d false = .ok (x', y') ∧
        RelativeTo p.desktopGeometry.width.toInt (p.desktopViewport p.getCurrentDesktop).x.toInt x x' ∧
        RelativeTo p.desktopGeometry.height.toInt (p.desktopViewport p.getCurrentDesktop).y.toInt y y') := by
  obtain ⟨hcolumns, hrows, hcells⟩ := toNat_mul_pos h hle
  have heq := Checked.desktopToViewport_eq p hwidth hheight h hcells hcolumns hrows
  obtain ⟨hx, hxlt, hy, hylt⟩ := Grid.cell_of_number h hcells hcolumns
  have hcornerx := Grid.cell_corner hwidth hx hxlt (Int.le_refl 0) hwidth
  have hcornery := Grid.cell_corner hheight hy hylt (Int.le_refl 0) hheight
  rw [Int.add_zero] at hcornerx hcornery
  refine ⟨(corner screens p d).1, (corner screens p d).2, heq true, ?_, ?_⟩
  · rw [Checked.viewportToDesktop_eq p hwidth hheight,
      viewportToDesktop_eq_number p (by omega) (by omega)]
    unfold corner
    rw [hcornerx.1, hcornery.1, Grid.number_emod_ediv]
  · intro hinside
    refine ⟨_, _, heq false, ?_, ?_⟩
    · exact relativeTo_relative hinside.1.1 hinside.1.2 hcornerx.2.1 (by unfold corner; omega)
    · exact relativeTo_relative hinside.2.1 hinside.2.2 hcornery.2.1 (by unfold corner; omega)

/-- A single screen. -/
def oneScreen : DisplayGeometry := ⟨.ofSize 0 0 1000 800, by decide⟩

/-- A window manager with one desktop of the given geometry. -/
def oneDesktop (geometry : NETSize) (viewport : NETPoint) : NETRootInfo :=
  { newClient 1 ⟨1000, 800⟩ windowsProperties windowsProperties2 with
    properties := mask Property.desktopViewport
    geometry
    viewport := NETRArray.new.setFrom 0 [viewport] }

theorem viewport_of_third_desktop :
    ∃ x y,
      Checked.desktopToViewport oneScreen (oneDesktop ⟨2500, 1600⟩ ⟨1000, 800⟩) 3 true = .ok (x, y) ∧
      Checked.viewportToDesktop oneScreen (oneDesktop ⟨2500, 1600⟩ ⟨1000, 800⟩) x y = .ok 3 ∧
      ∃ x' y', Checked.desktopToViewport oneScreen (oneDesktop ⟨2500, 1600⟩ ⟨1000, 800⟩) 3 false =
          .ok (x', y') ∧
        RelativeTo 2500 1000 x x' ∧ RelativeTo 1600 800 y y' := by
  obtain ⟨x, y, habsolute, hnumber, hrelative⟩ :=
    @viewport_of_desktop oneScreen (oneDesktop ⟨2500, 1600⟩ ⟨1000, 800⟩) (by decide) (by decide) 3
      (by decide) (by decide)
  exact ⟨x, y, habsolute, hnumber, hrelative ⟨⟨by decide, by decide⟩, by decide, by decide⟩⟩

/-! ## Numbers in range -/

/-- Every point has one of the desktops that are counted, and what is counted are the columns and rows that
`desktopToViewport` goes by. -/
def ViewportsInRange (screens : DisplayGeometry) (p : NETRootInfo) : Prop :=
  ∃ n, Checked.numberOfDesktops screens p = .ok n ∧ n = columns screens p * rows screens p ∧
    ∀ x y, ∃ d, Checked.viewportToDesktop screens p x y = .ok d ∧ 1 ≤ d ∧ d ≤ n

theorem Checked.numberOfDesktops_eq (hmapped : mapViewport screens p = true)
    (hwidth : 0 < screens.rect.width) (hheight : 0 < screens.rect.height)
    (hgeometry : 0 ≤ p.desktopGeometry.width.toInt) :
    Checked.numberOfDesktops screens p =
      if intFits (columns screens p * p.desktopGeometry.height.toInt) then
        .ok ((columns screens p * p.desktopGeometry.height.toInt).tdiv screens.rect.height)
      else .error .overflow := by
  unfold numberOfDesktops
  rw [if_pos hmapped]
  simp only [div_of_ne (Int.ne_of_gt hwidth), ok_bind, width_tdiv p hgeometry, mul]
  split
  · exact div_of_ne (Int.ne_of_gt hheight) _
  · rfl

-- Points of a rest belong to a column or a row too many.
theorem dvd_of_numbers_le (hwidth : 0 < screens.rect.width) (hheight : 0 < screens.rect.height)
    (hgeometry : screens.rect.width ≤ p.desktopGeometry.width.toInt)
    (hgeometry' : screens.rect.height ≤ p.desktopGeometry.height.toInt)
    (h : ∀ x y, viewportToDesktop screens p x y ≤ columns screens p * rows screens p) :
    screens.rect.width ∣ p.desktopGeometry.width.toInt ∧
      screens.rect.height ∣ p.desktopGeometry.height.toInt := by
  have hnumber := @viewportToDesktop_eq_number screens p (by omega) (by omega)
  apply And.intro
  · by_contra hrest
    have hpoint := h (p.desktopGeometry.width.toInt - 1) p.desktopGeometry.height.toInt
    rw [hnumber, Grid.cell_rest hwidth (by omega) hrest, Grid.cell_of_le (by omega) (Int.le_refl _)] at hpoint
    unfold Grid.number at hpoint
    have hrow : (rows screens p - 1) * columns screens p =
        columns screens p * rows screens p - columns screens p := by
      rw [Int.sub_mul, Int.one_mul, Int.mul_comm]
    unfold columns rows at hpoint hrow
    omega
  · by_contra hrest
    have hpoint := h (-1) (p.desktopGeometry.height.toInt - 1)
    rw [hnumber, Grid.cell_rest hheight (by omega) hrest, Grid.cell_of_neg (by omega)] at hpoint
    unfold Grid.number at hpoint
    have hrow := Int.mul_comm (columns screens p) (rows screens p)
    unfold columns rows at hpoint hrow
    omega

theorem number_in_range (hwidth : 0 < screens.rect.width) (hheight : 0 < screens.rect.height)
    (hgeometry : screens.rect.width ≤ p.desktopGeometry.width.toInt)
    (hgeometry' : screens.rect.height ≤ p.desktopGeometry.height.toInt)
    (hdvd : screens.rect.width ∣ p.desktopGeometry.width.toInt)
    (hdvd' : screens.rect.height ∣ p.desktopGeometry.height.toInt) (x y : Int) :
    1 ≤ viewportToDesktop screens p x y ∧
      viewportToDesktop screens p x y ≤ columns screens p * rows screens p := by
  have hcolumn := @Grid.cell_nonneg _ _ x hwidth hgeometry
  have hlt := @Grid.cell_lt _ _ x hwidth hgeometry hdvd
  have hrow := @Grid.cell_nonneg _ _ y hheight hgeometry'
  have hlt' := @Grid.cell_lt _ _ y hheight hgeometry' hdvd'
  have hcolumns : 0 ≤ columns screens p := by
    unfold columns
    omega
  rw [viewportToDesktop_eq_number p (by omega) (by omega)]
  exact ⟨Grid.number_pos hcolumn hcolumns hrow, Grid.number_le hlt hcolumns hlt'⟩

/-- The count and the numbers fit together exactly for a geometry without a rest, as far as the count can be
computed at all. -/
theorem viewportsInRange_iff (hwidth : 0 < screens.rect.width) (hheight : 0 < screens.rect.height)
    (hgeometry : screens.rect.width ≤ p.desktopGeometry.width.toInt)
    (hgeometry' : screens.rect.height ≤ p.desktopGeometry.height.toInt)
    (hmapped : mapViewport screens p = true) :
    ViewportsInRange screens p ↔
      screens.rect.width ∣ p.desktopGeometry.width.toInt ∧
        screens.rect.height ∣ p.desktopGeometry.height.toInt ∧
        columns screens p * p.desktopGeometry.height.toInt < 2 ^ 31 := by
  have hcount := Checked.numberOfDesktops_eq p hmapped hwidth hheight (by omega)
  have hvalue := @Checked.viewportToDesktop_eq screens p hwidth hheight
  have hcolumns : 0 ≤ columns screens p := Int.ediv_nonneg (by omega) (by omega)
  have hproduct : 0 ≤ columns screens p * p.desktopGeometry.height.toInt :=
    Int.mul_nonneg hcolumns (by omega)
  apply Iff.intro
  · rintro ⟨n, hn, hcells, hpoints⟩
    have hle : ∀ x y, viewportToDesktop screens p x y ≤ columns screens p * rows screens p := by
      intro x y
      rcases hpoints x y with ⟨d, hd, -, hdn⟩
      rw [hvalue] at hd
      injection hd with hd
      omega
    have hdvd := dvd_of_numbers_le p hwidth hheight hgeometry hgeometry' hle
    have hfits : intFits (columns screens p * p.desktopGeometry.height.toInt) := by
      by_contra hlarge
      rw [hcount, if_neg hlarge] at hn
      cases hn
    exact ⟨hdvd.1, hdvd.2, hfits.2⟩
  · rintro ⟨hdvd, hdvd', hlt⟩
    have hrows : (columns screens p * p.desktopGeometry.height.toInt).tdiv screens.rect.height =
        columns screens p * rows screens p := by
      rw [Int.tdiv_eq_ediv_of_nonneg hproduct, Int.mul_ediv_assoc _ hdvd']
      rfl
    refine ⟨_, ?_, rfl, ?_⟩
    · rw [hcount, if_pos ⟨by omega, hlt⟩, hrows]
    · intro x y
      exact ⟨_, hvalue x y, number_in_range p hwidth hheight hgeometry hgeometry' hdvd hdvd' x y⟩

end Values

theorem numbers_of_three_parts : ViewportsInRange oneScreen (oneDesktop ⟨3000, 800⟩ {}) :=
  (viewportsInRange_iff (oneDesktop ⟨3000, 800⟩ {}) (by decide) (by decide) (by decide) (by decide)
    (by decide)).mpr (by decide)

-- Two and a half screens are counted as two desktops, and the half has the number three.
theorem rest_out_of_range :
    mapViewport oneScreen (oneDesktop ⟨2500, 800⟩ {}) = true ∧
      oneScreen.rect.width ≤ (oneDesktop ⟨2500, 800⟩ {}).desktopGeometry.width.toInt ∧
      oneScreen.rect.height ≤ (oneDesktop ⟨2500, 800⟩ {}).desktopGeometry.height.toInt ∧
      ¬ViewportsInRange oneScreen (oneDesktop ⟨2500, 800⟩ {}) := by
  refine ⟨by decide, by decide, by decide, ?_⟩
  rintro ⟨n, hn, -, hpoints⟩
  have hcount : Checked.numberOfDesktops oneScreen (oneDesktop ⟨2500, 800⟩ {}) = .ok 2 := by decide
  have hnumber : Checked.viewportToDesktop oneScreen (oneDesktop ⟨2500, 800⟩ {}) 2400 0 = .ok 3 := by
    decide
  rcases hpoints 2400 0 with ⟨d, hd, -, hle⟩
  rw [hcount] at hn
  rw [hnumber] at hd
  injection hn with hn
  injection hd with hd
  omega

end KX11Extras

end KWindowSystem
