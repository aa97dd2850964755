import Mathlib.Data.Int.Notation

/-!
# Rectangles

`QRect` with its own arithmetic: a corner to the left of the other one counts as an inverted
rectangle, and a rectangle of no width and no height makes every intersection the default one.
Coordinates are integers, overflow of `int` being undefined.
-/

namespace Qt

/-- The coordinates of the first and the last pixel. -/
structure QRect where
  x1 : Int := 0
  y1 : Int := 0
  x2 : Int := -1
  y2 : Int := -1
deriving DecidableEq, Repr

namespace QRect

def ofSize (x y width height : Int) : QRect := ⟨x, y, x + width - 1, y + height - 1⟩

def width (r : QRect) : Int := r.x2 - r.x1 + 1

def height (r : QRect) : Int := r.y2 - r.y1 + 1

def isNull (r : QRect) : Prop := r.x2 = r.x1 - 1 ∧ r.y2 = r.y1 - 1

instance (r : QRect) : Decidable r.isNull := inferInstanceAs (Decidable (_ ∧ _))

/-- The middle of two coordinates, rounded towards zero. -/
def center (r : QRect) : Int × Int := ((r.x1 + r.x2).tdiv 2, (r.y1 + r.y2).tdiv 2)

/-- The ends of one side, swapped if the side is inverted. -/
def ordered (first last : Int) : Int × Int :=
  if last < first then (last + 1, first - 1) else (first, last)

/-- `operator&`. -/
def intersected (a b : QRect) : QRect :=
  if a.isNull ∨ b.isNull then {}
  else
    let x := ordered a.x1 a.x2
    let x' := ordered b.x1 b.x2
    if x.1 > x'.2 ∨ x'.1 > x.2 then {}
    else
      let y := ordered a.y1 a.y2
      let y' := ordered b.y1 b.y2
      if y.1 > y'.2 ∨ y'.1 > y.2 then {}
      else ⟨max x.1 x'.1, max y.1 y'.1, min x.2 x'.2, min y.2 y'.2⟩

/-! ## Inside a rectangle -/

/-- One side of a rectangle inside that of another: it may be empty, but not at an end. -/
structure SideWithin (first last first' last' : Int) : Prop where
  first_le : first ≤ first'
  le_last : last' ≤ last
  length : first' ≤ last' + 1
  first_le_last : first ≤ last'
  first'_le_last : first' ≤ last

structure Within (all a : QRect) : Prop where
  x : SideWithin all.x1 all.x2 a.x1 a.x2
  y : SideWithin all.y1 all.y2 a.y1 a.y2

theorem ordered_of_le {first last : Int} (h : first ≤ last + 1) :
    ordered first last = (first, last) := by
  unfold ordered
  split
  · have hfirst : last + 1 = first := by omega
    have hlast : first - 1 = last := by omega
    rw [hfirst, hlast]
  · rfl

theorem ordered_le (first last : Int) : (ordered first last).1 ≤ (ordered first last).2 + 1 := by
  unfold ordered
  split <;> dsimp only <;> omega

-- Cutting a side of a rectangle inside another one leaves it inside.
theorem SideWithin.cut {first last first' last' c d : Int} (h : SideWithin first last first' last')
    (hcd : c ≤ d + 1) (hleft : ¬first' > d) (hright : ¬c > last') :
    SideWithin first last (max first' c) (min last' d) := by
  have h1 := h.first_le
  have h2 := h.le_last
  have h3 := h.length
  have h4 := h.first_le_last
  have h5 := h.first'_le_last
  constructor <;> omega

theorem SideWithin.self {first last : Int} (h : first ≤ last) : SideWithin first last first last :=
  ⟨Int.le_refl _, Int.le_refl _, by omega, h, h⟩

theorem default_intersected (r : QRect) : ({} : QRect).intersected r = {} := by
  unfold intersected
  rw [if_pos (Or.inl (by decide))]

inductive Axis where
  | x
  | y
deriving DecidableEq, Repr

/-- The ends of a rectangle in one direction. -/
def side : Axis → QRect → Int × Int
  | .x, r => (r.x1, r.x2)
  | .y, r => (r.y1, r.y2)

/-- The rectangle is not empty in one direction, if it is inverted or not. -/
def Extends (axis : Axis) (r : QRect) : Prop := (r.side axis).1 ≠ (r.side axis).2 + 1

theorem ordered_le_of_ne {first last : Int} (h : first ≠ last + 1) :
    (ordered first last).1 ≤ (ordered first last).2 := by
  unfold ordered
  split <;> dsimp only <;> omega

-- An intersection is the default rectangle, or what both have in common.
theorem intersected_within {all a : QRect} (h : Within all a) (r : QRect) :
    a.intersected r = {} ∨ (Within all (a.intersected r) ∧
      ∀ axis, a.Extends axis → r.Extends axis → (a.intersected r).Extends axis) := by
  unfold intersected
  rw [ordered_of_le h.x.length, ordered_of_le h.y.length]
  have hx := ordered_le r.x1 r.x2
  have hy := ordered_le r.y1 r.y2
  have hx' : r.Extends .x → (ordered r.x1 r.x2).1 ≤ (ordered r.x1 r.x2).2 := ordered_le_of_ne
  have hy' : r.Extends .y → (ordered r.y1 r.y2).1 ≤ (ordered r.y1 r.y2).2 := ordered_le_of_ne
  generalize ordered r.x1 r.x2 = x at hx hx'
  generalize ordered r.y1 r.y2 = y at hy hy'
  dsimp only
  split
  · exact .inl rfl
  · split
    · exact .inl rfl
    · rename_i hcutx
      split
      · exact .inl rfl
      · rename_i hcuty
        rw [not_or] at hcutx hcuty
        apply Or.inr
        apply And.intro ⟨h.x.cut hx hcutx.1 hcutx.2, h.y.cut hy hcuty.1 hcuty.2⟩
        intro axis ha hr
        cases axis with
        | x =>
            have hlen := h.x.length
            have hr' := hx' hr
            unfold Extends side at ha ⊢
            dsimp only at ha ⊢
            omega
        | y =>
            have hlen := h.y.length
            have hr' := hy' hr
            unfold Extends side at ha ⊢
            dsimp only at ha ⊢
            omega

-- What lies inside is not changed by the rectangle around it, unless nothing at all is left.
theorem intersected_around {all a : QRect} (h : Within all a) (hnull : ¬a.isNull) :
    a.intersected all = a := by
  have hx := h.x
  have hy := h.y
  have hx1 := hx.first_le
  have hx2 := hx.le_last
  have hx3 := hx.first_le_last
  have hx4 := hx.first'_le_last
  have hy1 := hy.first_le
  have hy2 := hy.le_last
  have hy3 := hy.first_le_last
  have hy4 := hy.first'_le_last
  have hall : ¬all.isNull := by
    unfold isNull
    omega
  unfold intersected
  rw [if_neg (not_or.mpr ⟨hnull, hall⟩), ordered_of_le hx.length, ordered_of_le hy.length,
    ordered_of_le (by omega : all.x1 ≤ all.x2 + 1), ordered_of_le (by omega : all.y1 ≤ all.y2 + 1)]
  dsimp only
  rw [if_neg (by omega), if_neg (by omega), Int.max_eq_left hx1, Int.max_eq_left hy1,
    Int.min_eq_left hx2, Int.min_eq_left hy2]

/-- A rectangle inside another one that is not empty in the given direction, or the default one. -/
def Roomy (axis : Axis) (all a : QRect) : Prop := a = {} ∨ (Within all a ∧ a.Extends axis)

theorem Roomy.intersected {axis : Axis} {all a r : QRect} (h : Roomy axis all a)
    (hr : r.Extends axis) : Roomy axis all (a.intersected r) := by
  cases h with
  | inl hdefault => exact .inl (hdefault ▸ default_intersected r)
  | inr hinside =>
      apply (intersected_within hinside.1 r).imp_right
      intro hcut
      exact ⟨hcut.1, hcut.2 axis hinside.2 hr⟩

theorem Roomy.around {axis : Axis} {all a : QRect} (h : Roomy axis all a) : a.intersected all = a := by
  cases h with
  | inl hdefault => rw [hdefault, default_intersected]
  | inr hinside =>
      apply intersected_around hinside.1
      have hextends := hinside.2
      unfold Extends side at hextends
      unfold isNull
      cases axis with
      | x => dsimp only at hextends; omega
      | y => dsimp only at hextends; omega

-- In the default rectangle there is nothing else.
theorem Roomy.eq_default {axis : Axis} {a : QRect} (h : Roomy axis {} a) : a = {} := by
  cases h with
  | inl hdefault => exact hdefault
  | inr hinside =>
      have h1 : (0 : Int) ≤ a.x2 := hinside.1.x.first_le_last
      have h2 : a.x2 ≤ -1 := hinside.1.x.le_last
      omega

theorem Roomy.self {axis : Axis} {all : QRect}
    (h : all = {} ∨ (all.x1 ≤ all.x2 ∧ all.y1 ≤ all.y2)) : Roomy axis all all := by
  apply h.imp_right
  intro hvalid
  apply And.intro ⟨.self hvalid.1, .self hvalid.2⟩
  unfold Extends side
  cases axis with
  | x => dsimp only; omega
  | y => dsimp only; omega

end QRect

end Qt
