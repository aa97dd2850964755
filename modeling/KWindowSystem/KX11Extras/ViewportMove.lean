import KWindowSystem.KX11Extras.Viewport

/-!
# Moving a window to a viewport

`setOnDesktop` while viewports are desktops: the middle of the window is carried to the part of the desktop,
and the corner that belongs to it is then brought back into the geometry.
-/

open Qt

namespace KWindowSystem

open NET NETRootInfo

namespace KX11Extras

/-- A window as `XGetGeometry` and `XTranslateCoordinates` tell about it. -/
structure WindowGeometry where
  x : Int
  y : Int
  w : Nat
  h : Nat
deriving DecidableEq, Repr

/-- What `setOnDesktop` asks the window manager for. -/
inductive DesktopRequest where
  | setDesktop (desktop : Int)
  /-- `setState` or `clearState` with `NET::Sticky`. -/
  | sticky (set : Bool)
  | moveResizeWindow (flags : Nat) (x y : Int) (width height : Nat)
deriving DecidableEq, Repr

/-- `NET::FromTool`. -/
def fromTool : Nat := 2

/-- From a tool, both coordinates, static gravity. -/
def moveFlags : Nat := fromTool <<< 12 ||| 0x03 <<< 8 ||| 10

namespace Checked

section Functions

variable (screens : DisplayGeometry) (p : NETRootInfo)

def constrainViewportRelativePosition (x y : Int) : Except Undefined (Int × Int) := do
  let s := p.desktopGeometry
  let c := p.desktopViewport p.getCurrentDesktop
  let x ← mod (x + c.x.toInt) s.width.toInt
  let y ← mod (y + c.y.toInt) s.height.toInt
  return (Grid.wrap s.width.toInt x - c.x.toInt, Grid.wrap s.height.toInt y - c.y.toInt)

def setOnDesktop (window : WindowGeometry) (desktop : Int) : Except Undefined (List DesktopRequest) :=
  if mapViewport screens p then
    if desktop = onAllDesktops.toInt then .ok [.sticky true]
    else do
      let target ← desktopToViewport screens p desktop false
      let x ← mod (window.x + (window.w / 2 : Nat)) screens.rect.width
      let y ← mod (window.y + (window.h / 2 : Nat)) screens.rect.height
      -- from the current desktop to the given one, and from the middle back to the corner
      let x := Grid.wrap screens.rect.width x + target.1 - (window.w / 2 : Nat)
      let y := Grid.wrap screens.rect.height y + target.2 - (window.h / 2 : Nat)
      let position ← constrainViewportRelativePosition p x y
      return [.sticky false,
        .moveResizeWindow moveFlags position.1 position.2 window.w window.h]
  else .ok [.setDesktop desktop]

end Functions

end Checked

/-! ## One side -/

section Side

/-- The coordinate that is asked for on one side. -/
def requested (size view viewport first target : Int) (length : Nat) : Int :=
  Grid.wrap size ((Grid.wrap view ((first + (length / 2 : Nat)).tmod view) +
    Checked.relative size (view * target - viewport) - (length / 2 : Nat) + viewport).tmod size) - viewport

/-- The middle of the window on the current desktop. -/
def middle (view first : Int) (length : Nat) : Int := (first + (length / 2 : Nat)) % view

/-- The window does not have to be wrapped around to the last of several cells, and its middle is not
rounded to the cell before. -/
def Lands (size view viewport first target : Int) (length : Nat) : Prop :=
  ¬(target = 0 ∧ 2 ≤ size / view ∧ middle view first length < (length / 2 : Nat)) ∧
    ¬(length % 2 = 0 ∧ middle view first length = 0 ∧ viewport / view < target)

instance (size view viewport first target : Int) (length : Nat) :
    Decidable (Lands size view viewport first target length) := inferInstanceAs (Decidable (_ ∧ _))

variable {size view viewport first target : Int} {length : Nat}

theorem requested_eq (hview : 0 < view) (hviewport : 0 ≤ viewport) (hlt : viewport < size)
    (htarget : 0 ≤ target) (hcell : target < size / view) :
    requested size view viewport first target length + viewport =
      (view * target + middle view first length - (length / 2 : Nat)) % size := by
  have hcorner := Grid.cell_corner hview htarget hcell (Int.le_refl 0) hview
  unfold requested middle
  rw [Grid.wrap_tmod hview, Grid.wrap_tmod (by omega), Checked.relative_eq (by omega) (by omega),
    Int.sub_add_cancel]
  generalize (first + (length / 2 : Nat)) % view = m
  have hsum : m + (view * target - viewport) % size - (length / 2 : Nat) + viewport =
      (view * target - viewport) % size + (m - (length / 2 : Nat) + viewport) := by omega
  rw [hsum, Int.emod_add_emod]
  congr 1
  omega

/-- The position of the middle after the request. -/
theorem requested_middle (hview : 0 < view) (hviewport : 0 ≤ viewport) (hlt : viewport < size)
    (htarget : 0 ≤ target) (hcell : target < size / view) (hlength : (length : Int) ≤ view) :
    requested size view viewport first target length + viewport + (length / 2 : Nat) =
      if target = 0 ∧ middle view first length < (length / 2 : Nat) then
        size + middle view first length
      else view * target + middle view first length := by
  have hcorner := Grid.cell_corner hview htarget hcell (Int.le_refl 0) hview
  have hmiddle : 0 ≤ middle view first length := Int.emod_nonneg _ (by omega)
  have hmiddle' : middle view first length < view := Int.emod_lt_of_pos _ hview
  rw [requested_eq hview hviewport hlt htarget hcell]
  split
  · rename_i h
    rw [h.1, Int.mul_zero, ← Int.add_emod_right, Int.emod_eq_of_lt (by omega) (by omega)]
    omega
  · rename_i h
    have hpos : (length / 2 : Nat) ≤ view * target + middle view first length := by
      by_cases hzero : target = 0
      · have hle : ¬middle view first length < (length / 2 : Nat) := fun hlow => h ⟨hzero, hlow⟩
        omega
      · have hcell' : view * 1 ≤ view * target := Int.mul_le_mul_of_nonneg_left (by omega) (by omega)
        omega
    rw [Int.emod_eq_of_lt (by omega) (by omega)]
    omega

/-- The middle of a rectangle is the pixel before the middle if the length is even, unless it is rounded to
zero from below. -/
theorem center_eq (r : Int) :
    (r + (r + length - 1)).tdiv 2 =
      r + (length / 2 : Nat) - if length % 2 = 0 ∧ 0 < r + (length / 2 : Nat) then 1 else 0 := by
  have hsign : Int.sign 2 = 1 := rfl
  rw [Int.tdiv_eq_ediv, hsign]
  split <;> split <;> omega

/-- On one side, the window is in the column or the row of the desktop exactly if it lands there. -/
theorem cell_of_requested_iff (hview : 0 < view) (hdvd : view ∣ size) (hviewport : 0 ≤ viewport)
    (hlt : viewport < size) (htarget : 0 ≤ target) (hcell : target < size / view)
    (hlength : (length : Int) ≤ view) :
    let r := requested size view viewport first target length
    Grid.cell size view ((r + (r + length - 1)).tdiv 2 + viewport) = target ↔
      Lands size view viewport first target length := by
  intro r
  have hposition := @requested_middle _ _ _ first _ length hview hviewport hlt htarget hcell hlength
  have hmiddle : 0 ≤ middle view first length := Int.emod_nonneg _ (by omega)
  have hmiddle' : middle view first length < view := Int.emod_lt_of_pos _ hview
  have hcurrent : viewport / view < target ↔ viewport < view * target := by
    rw [Int.ediv_lt_iff_lt_mul hview, Int.mul_comm]
  rw [center_eq]
  unfold Lands
  change r + viewport + _ = _ at hposition
  generalize middle view first length = m at hposition hmiddle hmiddle' ⊢
  split at hposition
  · -- The corner is wrapped around, so that the middle is behind the geometry.
    rename_i hwrapped
    have hnotBefore : ¬viewport / view < target := by
      rw [hwrapped.1, Int.ediv_lt_iff_lt_mul hview]
      omega
    rw [Grid.cell_of_last hview (by omega) hdvd (by split <;> omega)]
    omega
  · rename_i hwrapped
    by_cases hrounded : length % 2 = 0 ∧ 0 < r + (length / 2 : Nat)
    · rw [if_pos hrounded]
      by_cases hzero : m = 0
      · -- The middle is on the line between two cells, and rounded to the first one.
        have hbefore : viewport < view * target := by omega
        have hpositive : 0 < target := by
          by_contra hfirst
          rw [show target = 0 by omega, Int.mul_zero] at hbefore
          omega
        have hpoint : r + (length / 2 : Nat) - 1 + viewport = view * target - 1 := by omega
        rw [hpoint, Grid.cell_before hview hpositive hcell]
        have hland := hcurrent.mpr hbefore
        omega
      · have hpoint : r + (length / 2 : Nat) - 1 + viewport = view * target + (m - 1) := by omega
        rw [hpoint, (Grid.cell_corner hview htarget hcell (by omega : 0 ≤ m - 1) (by omega)).1]
        omega
    · rw [if_neg hrounded]
      have hpoint : r + (length / 2 : Nat) - 0 + viewport = view * target + m := by omega
      rw [hpoint, (Grid.cell_corner hview htarget hcell hmiddle hmiddle').1]
      have hland : ¬(length % 2 = 0 ∧ m = 0 ∧ viewport / view < target) := by
        rw [hcurrent]
        omega
      omega

end Side

/-! ## The desktop of the window -/

section Move

variable {screens : DisplayGeometry} (p : NETRootInfo)

/-- The window, moved to where `setOnDesktop` asks for, is on the desktop. -/
def LandsOn (screens : DisplayGeometry) (p : NETRootInfo) (window : WindowGeometry) (d : Int) : Prop :=
  ∃ x y, Checked.setOnDesktop screens p window d =
      .ok [.sticky false, .moveResizeWindow moveFlags x y window.w window.h] ∧
    Checked.viewportWindowToDesktop screens p (.ofSize x y window.w window.h) = .ok d

theorem request_inj {x y x' y' : Int} {w h : Nat}
    (heq : (Except.ok [.sticky false, .moveResizeWindow moveFlags x y w h] :
      Except Undefined (List DesktopRequest)) =
        .ok [.sticky false, .moveResizeWindow moveFlags x' y' w h]) : x = x' ∧ y = y' := by
  simp only [Except.ok.injEq, List.cons.injEq, DesktopRequest.moveResizeWindow.injEq, true_and,
    and_true] at heq
  exact heq

theorem Checked.constrainViewportRelativePosition_eq (hwidth : p.desktopGeometry.width.toInt ≠ 0)
    (hheight : p.desktopGeometry.height.toInt ≠ 0) (x y : Int) :
    let c := p.desktopViewport p.getCurrentDesktop
    constrainViewportRelativePosition p x y = .ok
      (Grid.wrap p.desktopGeometry.width.toInt ((x + c.x.toInt).tmod p.desktopGeometry.width.toInt) -
          c.x.toInt,
        Grid.wrap p.desktopGeometry.height.toInt ((y + c.y.toInt).tmod p.desktopGeometry.height.toInt) -
          c.y.toInt) := by
  unfold constrainViewportRelativePosition
  simp only [mod_of_ne hwidth, mod_of_ne hheight, ok_bind]
  rfl

-- Each coordinate is found for its own side.
theorem Checked.setOnDesktop_eq (hmapped : mapViewport screens p = true)
    (hwidth : 0 < screens.rect.width) (hheight : 0 < screens.rect.height) {d : Int} (h : 1 ≤ d)
    (hle : d ≤ columns screens p * rows screens p) (hcolumns : 0 < columns screens p)
    (hrows : 0 < rows screens p) (window : WindowGeometry) :
    let c := p.desktopViewport p.getCurrentDesktop
    Checked.setOnDesktop screens p window d = .ok
      [.sticky false, .moveResizeWindow moveFlags
        (requested p.desktopGeometry.width.toInt screens.rect.width c.x.toInt window.x
          ((d - 1) % columns screens p) window.w)
        (requested p.desktopGeometry.height.toInt screens.rect.height c.y.toInt window.y
          ((d - 1) / columns screens p) window.h)
        window.w window.h] := by
  have hgeometry := Grid.view_le_of_cells hwidth hcolumns
  have hgeometry' := Grid.view_le_of_cells hheight hrows
  have hone : d ≠ onAllDesktops.toInt := by
    rw [show onAllDesktops.toInt = -1 by decide]
    omega
  intro c
  unfold Checked.setOnDesktop
  rw [if_pos hmapped, if_neg hone,
    Checked.desktopToViewport_eq p hwidth hheight h hle hcolumns hrows false]
  simp only [ok_bind, mod_of_ne (Int.ne_of_gt hwidth), mod_of_ne (Int.ne_of_gt hheight),
    Checked.constrainViewportRelativePosition_eq p (by omega : p.desktopGeometry.width.toInt ≠ 0)
      (by omega : p.desktopGeometry.height.toInt ≠ 0)]
  rfl

/-- A window that is moved to a desktop is there exactly if it lands in the column and in the row. -/
theorem landsOn_iff (hmapped : mapViewport screens p = true) (hwidth : 0 < screens.rect.width)
    (hheight : 0 < screens.rect.height) (hdvd : screens.rect.width ∣ p.desktopGeometry.width.toInt)
    (hdvd' : screens.rect.height ∣ p.desktopGeometry.height.toInt) (hinside : ViewportInside p)
    (window : WindowGeometry) (hw : window.w ≤ screens.rect.width) (hh : window.h ≤ screens.rect.height)
    {d : Int} (h : 1 ≤ d) (hle : d ≤ wholeCells screens p) :
    LandsOn screens p window d ↔
      Lands p.desktopGeometry.width.toInt screens.rect.width
          (p.desktopViewport p.getCurrentDesktop).x.toInt window.x ((d - 1) % columns screens p) window.w ∧
        Lands p.desktopGeometry.height.toInt screens.rect.height
          (p.desktopViewport p.getCurrentDesktop).y.toInt window.y ((d - 1) / columns screens p)
          window.h := by
  obtain ⟨hcolumns, hrows, hcells⟩ := toNat_mul_pos h hle
  obtain ⟨hcolumn, hcolumnlt, hrow, hrowlt⟩ := Grid.cell_of_number h hcells hcolumns
  have hgeometry := Grid.view_le_of_cells hwidth hcolumns
  have hgeometry' := Grid.view_le_of_cells hheight hrows
  have hset := Checked.setOnDesktop_eq p hmapped hwidth hheight h hcells hcolumns hrows window
  have hx := @cell_of_requested_iff _ _ _ window.x _ _ hwidth hdvd hinside.1.1 hinside.1.2 hcolumn
    hcolumnlt hw
  have hy := @cell_of_requested_iff _ _ _ window.y _ _ hheight hdvd' hinside.2.1 hinside.2.2 hrow
    hrowlt hh
  dsimp only at hset hx hy
  rw [← hx, ← hy]
  generalize requested p.desktopGeometry.width.toInt screens.rect.width _ window.x _ window.w = x at hset
  generalize requested p.desktopGeometry.height.toInt screens.rect.height _ window.y _ window.h = y at hset
  have hwindow := Checked.viewportWindowToDesktop_eq p hwidth hheight (.ofSize x y window.w window.h)
  have hnumber : KX11Extras.viewportWindowToDesktop screens p (.ofSize x y window.w window.h) = d ↔ _ :=
    viewportToDesktop_eq_iff p hwidth hcolumns (by omega) hdvd _ _ d
  unfold LandsOn
  rw [hset]
  apply Iff.trans _ hnumber
  apply Iff.intro
  · rintro ⟨x', y', hrequest, hdesktop⟩
    have hposition := request_inj hrequest
    rw [← hposition.1, ← hposition.2, hwindow] at hdesktop
    injection hdesktop
  · intro hdesktop
    exact ⟨x, y, rfl, by rw [hwindow, hdesktop]⟩

/-! ## The divisors -/

/-- No function divides by zero, whatever it is called with. -/
structure NoDivisionByZero (screens : DisplayGeometry) (p : NETRootInfo) : Prop where
  numberOfDesktops : Checked.numberOfDesktops screens p ≠ .error .divisionByZero
  setOnDesktop (window : WindowGeometry) (desktop : Int) :
    Checked.setOnDesktop screens p window desktop ≠ .error .divisionByZero
  viewportToDesktop (x y : Int) : Checked.viewportToDesktop screens p x y ≠ .error .divisionByZero
  viewportWindowToDesktop (rect : QRect) :
    Checked.viewportWindowToDesktop screens p rect ≠ .error .divisionByZero
  desktopToViewport (desktop : Int) (absolute : Bool) :
    Checked.desktopToViewport screens p desktop absolute ≠ .error .divisionByZero
  constrainViewportRelativePosition (x y : Int) :
    Checked.constrainViewportRelativePosition p x y ≠ .error .divisionByZero

theorem ne_error_of_ok {α : Type} {r : Except Undefined α} (h : ∃ a, r = .ok a) (e : Undefined) :
    r ≠ .error e := by
  rcases h with ⟨a, rfl⟩
  exact fun hc => nomatch hc

-- A desktop of the grid has a column, so the number of columns is not zero.
theorem Checked.desktopToViewport_ok (hwidth : 0 < screens.rect.width) (hheight : 0 < screens.rect.height)
    (desktop : Int) (absolute : Bool) :
    ∃ point, Checked.desktopToViewport screens p desktop absolute = .ok point := by
  unfold Checked.desktopToViewport
  simp only [div_of_ne (Int.ne_of_gt hwidth), div_of_ne (Int.ne_of_gt hheight), ok_bind]
  split
  · exact ⟨_, rfl⟩
  · rename_i hgrid
    have hxs : p.desktopGeometry.width.toInt.tdiv screens.rect.width ≠ 0 := by
      intro hzero
      rw [hzero, Int.zero_mul] at hgrid
      omega
    simp only [mod_of_ne hxs, div_of_ne hxs, ok_bind]
    split
    · exact ⟨_, rfl⟩
    · exact ⟨_, rfl⟩

theorem Checked.numberOfDesktops_ne (hwidth : 0 < screens.rect.width) (hheight : 0 < screens.rect.height) :
    Checked.numberOfDesktops screens p ≠ .error .divisionByZero := by
  unfold Checked.numberOfDesktops Checked.mul
  simp only [div_of_ne (Int.ne_of_gt hwidth), ok_bind]
  split
  · split
    · exact ne_error_of_ok ⟨_, div_of_ne (Int.ne_of_gt hheight) _⟩ _
    · exact fun hc => nomatch hc
  · exact fun hc => nomatch hc

theorem noDivisionByZero_of_ne (hwidth : 0 < screens.rect.width) (hheight : 0 < screens.rect.height)
    (hgeometry : p.desktopGeometry.width.toInt ≠ 0) (hgeometry' : p.desktopGeometry.height.toInt ≠ 0) :
    NoDivisionByZero screens p where
  numberOfDesktops := Checked.numberOfDesktops_ne p hwidth hheight
  viewportToDesktop x y := ne_error_of_ok ⟨_, Checked.viewportToDesktop_eq p hwidth hheight x y⟩ _
  viewportWindowToDesktop rect :=
    ne_error_of_ok ⟨_, Checked.viewportWindowToDesktop_eq p hwidth hheight rect⟩ _
  desktopToViewport desktop absolute :=
    ne_error_of_ok (Checked.desktopToViewport_ok p hwidth hheight desktop absolute) _
  constrainViewportRelativePosition x y :=
    ne_error_of_ok ⟨_, Checked.constrainViewportRelativePosition_eq p hgeometry hgeometry' x y⟩ _
  setOnDesktop window desktop := by
    rcases Checked.desktopToViewport_ok p hwidth hheight desktop false with ⟨target, htarget⟩
    apply ne_error_of_ok
    unfold Checked.setOnDesktop
    simp only [htarget, Checked.mod_of_ne (Int.ne_of_gt hwidth), Checked.mod_of_ne (Int.ne_of_gt hheight),
      Checked.constrainViewportRelativePosition_eq p hgeometry hgeometry', Checked.ok_bind]
    split
    · split
      · exact ⟨_, rfl⟩
      · exact ⟨_, rfl⟩
    · exact ⟨_, rfl⟩

theorem noDivisionByZero_iff (hwidth : 0 < screens.rect.width) (hheight : 0 < screens.rect.height)
    (hgeometry : p.desktopGeometry.width.toInt ≠ 0) :
    NoDivisionByZero screens p ↔ p.desktopGeometry.height.toInt ≠ 0 := by
  apply Iff.intro
  · intro h hzero
    apply h.constrainViewportRelativePosition 0 0
    unfold Checked.constrainViewportRelativePosition
    simp only [Checked.mod_of_ne hgeometry, Checked.ok_bind, hzero]
    rfl
  · exact noDivisionByZero_of_ne p hwidth hheight hgeometry

/-! ## The geometry that is read -/

/-- The words of `_NET_DESKTOP_GEOMETRY` that are read. -/
def geometryWords (atoms : Atoms) (display : Display) (root : XcbWindow) : List UInt32 :=
  getArrayReply (display.answer ⟨root, atoms.atom .netDesktopGeometry, .cardinal, 2⟩) .cardinal

/-- A width without a height. -/
def NoHeight (words : List UInt32) : Prop := ∃ width, width ≠ 0 ∧ words = [width, 0]

variable (atoms : Atoms) (display : Display)

/-- The geometry that two words stand for. -/
def geometryOf (words : List UInt32) (rootSize : NETSize) : NETSize :=
  match words with
  | [width, height] => ⟨width.toInt32, height.toInt32⟩
  | _ => rootSize

theorem geometry_update {properties properties2 : Flags}
    (hasked : (properties &&& p.clientProperties).has Property.desktopGeometry = true) :
    (p.update atoms display properties properties2).1.geometry =
      geometryOf (geometryWords atoms display p.root) p.rootSize := by
  have howned := @owned_update atoms display .desktopGeometry (by decide) (by decide) p properties
    properties2
  have hwanted : Branch.wanted (properties &&& p.clientProperties) (properties2 &&& p.clientProperties2)
      .desktopGeometry = true := hasked
  unfold stepOwned at howned
  rw [if_pos hwanted] at howned
  exact howned

theorem toInt32_toInt_ne {w : UInt32} (h : w ≠ 0) : w.toInt32.toInt ≠ 0 := by
  intro hzero
  apply h
  have hsigned : w.toInt32 = 0 := Int32.toInt.inj hzero
  rw [← UInt32.toUInt32_toInt32 w, hsigned]
  rfl

-- The default stands in for both numbers, but only if the width is zero.
theorem desktopGeometry_of_words {words : List UInt32} (h : p.geometry = geometryOf words p.rootSize)
    (hroot : 0 < p.rootSize.width.toInt) (hroot' : 0 < p.rootSize.height.toInt) :
    p.desktopGeometry.width.toInt ≠ 0 ∧ (p.desktopGeometry.height.toInt ≠ 0 ↔ ¬NoHeight words) := by
  have hdefault : p.rootSize.width.toInt ≠ 0 := by omega
  have hdefault' : p.rootSize.height.toInt ≠ 0 := by omega
  have hother : p.geometry = p.rootSize → p.desktopGeometry = p.rootSize := by
    intro hsame
    unfold NETRootInfo.desktopGeometry
    rw [hsame, ite_self]
  match words with
  | [width, height] =>
      by_cases hwidth : width = 0
      · have hzero : p.desktopGeometry = p.rootSize := by
          unfold NETRootInfo.desktopGeometry
          rw [h, hwidth]
          rfl
        have hnone : ¬NoHeight [width, height] := by
          rintro ⟨width', hne, heq⟩
          simp only [List.cons.injEq] at heq
          exact hne (heq.1.symm.trans hwidth)
        rw [hzero]
        exact ⟨hdefault, iff_of_true hdefault' hnone⟩
      · have hsize : p.desktopGeometry = ⟨width.toInt32, height.toInt32⟩ := by
          unfold NETRootInfo.desktopGeometry
          rw [h]
          exact if_pos fun hzero => toInt32_toInt_ne hwidth (congrArg Int32.toInt hzero)
        rw [hsize]
        refine ⟨toInt32_toInt_ne hwidth, ?_⟩
        apply Iff.intro
        · rintro hne ⟨width', -, heq⟩
          simp only [List.cons.injEq, and_true] at heq
          rw [heq.2] at hne
          exact hne rfl
        · intro hnone
          apply toInt32_toInt_ne
          rintro rfl
          exact hnone ⟨width, hwidth, rfl⟩
  | [] | [_] | _ :: _ :: _ :: _ =>
      rw [hother h]
      refine ⟨hdefault, iff_of_true hdefault' ?_⟩
      rintro ⟨width', -, heq⟩
      cases heq

-- After the geometry is read, a divisor is zero exactly for a width without a height.
theorem noDivisionByZero_update_iff (hwidth : 0 < screens.rect.width) (hheight : 0 < screens.rect.height)
    (hroot : 0 < p.rootSize.width.toInt) (hroot' : 0 < p.rootSize.height.toInt)
    {properties properties2 : Flags}
    (hasked : (properties &&& p.clientProperties).has Property.desktopGeometry = true) :
    NoDivisionByZero screens (p.update atoms display properties properties2).1 ↔
      ¬NoHeight (geometryWords atoms display p.root) := by
  have hsize : (p.update atoms display properties properties2).1.rootSize = p.rootSize :=
    congrArg Identity.rootSize (identity_update atoms display p properties properties2)
  have hgeometry := @geometry_update p atoms display _ properties2 hasked
  rw [← hsize] at hgeometry hroot hroot'
  have hwords := desktopGeometry_of_words _ hgeometry hroot hroot'
  rw [noDivisionByZero_iff _ hwidth hheight hwords.1]
  exact hwords.2

/-- Viewports are mapped to desktops without a division by zero unless the geometry that was read is a width
without a height. -/
theorem mapped_without_division_iff (hwidth : 0 < screens.rect.width) (hheight : 0 < screens.rect.height)
    (hroot : 0 < p.rootSize.width.toInt) (hroot' : 0 < p.rootSize.height.toInt)
    {properties properties2 : Flags}
    (hasked : (properties &&& p.clientProperties).has Property.desktopGeometry = true) :
    let q := (p.update atoms display properties properties2).1
    (mapViewport screens q = true → NoDivisionByZero screens q) ↔
      ¬(mapViewport screens q = true ∧ NoHeight (geometryWords atoms display p.root)) := by
  intro q
  have h := @noDivisionByZero_update_iff _ p atoms display hwidth hheight hroot hroot' _ properties2 hasked
  rw [not_and, h]

end Move

theorem landsOn_second_desktop :
    LandsOn oneScreen (oneDesktop ⟨3000, 800⟩ {}) ⟨100, 100, 200, 100⟩ 2 :=
  (landsOn_iff (oneDesktop ⟨3000, 800⟩ {}) (by decide) (by decide) (by decide) (by decide) (by decide)
    ⟨⟨by decide, by decide⟩, by decide, by decide⟩ ⟨100, 100, 200, 100⟩ (by decide) (by decide) (by decide)
    (by decide)).mpr (by decide)

-- A window that reaches over the left side, moved to the first of three desktops, goes to the third.
theorem leftmost_lands_elsewhere :
    mapViewport oneScreen (oneDesktop ⟨3000, 800⟩ {}) = true ∧
      oneScreen.rect.width ∣ (oneDesktop ⟨3000, 800⟩ {}).desktopGeometry.width.toInt ∧
      oneScreen.rect.height ∣ (oneDesktop ⟨3000, 800⟩ {}).desktopGeometry.height.toInt ∧
      ViewportInside (oneDesktop ⟨3000, 800⟩ {}) ∧
      1 ≤ wholeCells oneScreen (oneDesktop ⟨3000, 800⟩ {}) ∧
      ¬LandsOn oneScreen (oneDesktop ⟨3000, 800⟩ {}) ⟨-10, 0, 100, 100⟩ 1 := by
  have hset : Checked.setOnDesktop oneScreen (oneDesktop ⟨3000, 800⟩ {}) ⟨-10, 0, 100, 100⟩ 1 =
      .ok [.sticky false, .moveResizeWindow moveFlags 2990 0 100 100] := by decide
  have hnumber : Checked.viewportWindowToDesktop oneScreen (oneDesktop ⟨3000, 800⟩ {})
      (.ofSize 2990 0 100 100) = .ok 3 := by decide
  refine ⟨by decide, by decide, by decide, ⟨⟨by decide, by decide⟩, by decide, by decide⟩, by decide, ?_⟩
  rintro ⟨x, y, hrequest, hdesktop⟩
  rw [hset] at hrequest
  have hposition := request_inj hrequest
  rw [← hposition.1, ← hposition.2] at hdesktop
  change Checked.viewportWindowToDesktop oneScreen _ (.ofSize 2990 0 100 100) = _ at hdesktop
  rw [hnumber] at hdesktop
  injection hdesktop with hdesktop
  omega

/-- A root window with a geometry of the given words, whose window manager has viewports. -/
def geometryDisplay (words : List UInt32) : Display := fun window atom =>
  if window = 1 ∧ atom = Atoms.inOrder.atom .netDesktopGeometry then some ⟨.cardinal, .data32 words⟩
  else if window = 1 ∧ atom = Atoms.inOrder.atom .netSupported then
    some ⟨.atom, .data32 [Atoms.inOrder.atom .netDesktopViewport]⟩
  else none

/-- What the event filter knows after its first reading. -/
def geometryRead (words : List UInt32) : NETRootInfo :=
  ((newClient 1 ⟨1000, 800⟩ windowsProperties windowsProperties2).update .inOrder (geometryDisplay words)
    windowsProperties windowsProperties2).1

theorem wide_without_division :
    mapViewport oneScreen (geometryRead [3000, 800]) = true ∧
      NoDivisionByZero oneScreen (geometryRead [3000, 800]) := by
  have hmapped : mapViewport oneScreen (geometryRead [3000, 800]) = true := by decide
  have hheight : ¬NoHeight (geometryWords .inOrder (geometryDisplay [3000, 800]) 1) := by
    have hwords : geometryWords .inOrder (geometryDisplay [3000, 800]) 1 = [3000, 800] := by decide
    rintro ⟨width, -, h⟩
    rw [hwords] at h
    simp at h
  have h := (@mapped_without_division_iff oneScreen
    (newClient 1 ⟨1000, 800⟩ windowsProperties windowsProperties2) .inOrder (geometryDisplay [3000, 800])
    (by decide) (by decide) (by decide) (by decide) windowsProperties windowsProperties2 (by decide)).mpr
    (fun h => hheight h.2)
  exact ⟨hmapped, h hmapped⟩

-- A width without a height passes for a geometry, and the remainder by the height is taken.
theorem flat_divides_by_zero :
    mapViewport oneScreen (geometryRead [3000, 0]) = true ∧
      ¬NoDivisionByZero oneScreen (geometryRead [3000, 0]) := by
  refine ⟨by decide, fun h => h.setOnDesktop ⟨0, 0, 100, 100⟩ 1 ?_⟩
  decide

end KX11Extras

end KWindowSystem
