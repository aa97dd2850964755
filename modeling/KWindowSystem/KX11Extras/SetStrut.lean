import KWindowSystem.KWindowInfo.WindowType
import Mathlib.Algebra.Order.Round
import Mathlib.Data.Nat.Prime.Basic
import Mathlib.Data.Rat.Floor
import Mathlib.Tactic.NormNum

/-!
# Simple and extended struts

`KX11Extras::setStrut` and `KWindowInfo::extendedStrut` both make an extended strut of a simple one: the first
for the window that reserves the space, the second for whoever reads it.  Numbers of type `qreal` are exact
here; where doubles are not, an `int` has overflowed long before.
-/

namespace KWindowSystem

open NET

/-- `std::lround`, which rounds one half away from zero. -/
def lround (x : ℚ) : Int := if 0 ≤ x then ⌊x + 1 / 2⌋ else -⌊-x + 1 / 2⌋

theorem lround_intCast (n : Int) : lround n = n := by
  have hhalf : ⌊(1 / 2 : ℚ)⌋ = 0 := Int.floor_eq_iff.mpr ⟨by norm_num, by norm_num⟩
  unfold lround
  split
  · rw [Int.floor_intCast_add, hhalf, Int.add_zero]
  · rw [← Int.cast_neg, Int.floor_intCast_add, hhalf, Int.add_zero, Int.neg_neg]

namespace NETWinInfo

variable (atoms : Atoms) (p : NETWinInfo)

def setExtendedStrut (strut : NETExtendedStrut) : NETWinInfo × Option Change :=
  if p.role ≠ .client then (p, none)
  else
    ({ p with extendedStrut := strut },
      some ⟨atoms.atom .netWmStrutPartial, some ⟨.cardinal, .data32
        [strut.leftWidth.toUInt32, strut.rightWidth.toUInt32, strut.topWidth.toUInt32,
          strut.bottomWidth.toUInt32, strut.leftStart.toUInt32, strut.leftEnd.toUInt32,
          strut.rightStart.toUInt32, strut.rightEnd.toUInt32, strut.topStart.toUInt32,
          strut.topEnd.toUInt32, strut.bottomStart.toUInt32, strut.bottomEnd.toUInt32]⟩⟩)

def setStrut (strut : NETStrut) : NETWinInfo × Option Change :=
  if p.role ≠ .client then (p, none)
  else
    ({ p with strut },
      some ⟨atoms.atom .netWmStrut, some ⟨.cardinal, .data32
        [strut.left.toUInt32, strut.right.toUInt32, strut.top.toUInt32, strut.bottom.toUInt32]⟩⟩)

end NETWinInfo

/-- The screen, whose size the two functions take from the screens of the application and from the root
window. -/
abbrev ScreenSize := NETSize

namespace KWindowInfo

/-- An extended strut is built from the simple one if there is none. -/
def extendedStrut (w : KWindowInfo) (screen : ScreenSize) : NETExtendedStrut :=
  let ext := w.info.extendedStrut
  let str := w.info.strut
  if ext.leftWidth = 0 ∧ ext.rightWidth = 0 ∧ ext.topWidth = 0 ∧ ext.bottomWidth = 0 ∧
      (str.left ≠ 0 ∨ str.right ≠ 0 ∨ str.top ≠ 0 ∨ str.bottom ≠ 0) then
    let ext := if str.left ≠ 0 then
      { ext with leftWidth := str.left, leftStart := 0, leftEnd := screen.height } else ext
    let ext := if str.right ≠ 0 then
      { ext with rightWidth := str.right, rightStart := 0, rightEnd := screen.height } else ext
    let ext := if str.top ≠ 0 then
      { ext with topWidth := str.top, topStart := 0, topEnd := screen.width } else ext
    if str.bottom ≠ 0 then
      { ext with bottomWidth := str.bottom, bottomStart := 0, bottomEnd := screen.width }
    else ext
  else ext

end KWindowInfo

namespace KX11Extras

/-! ## Setting a strut -/

section Set

variable (atoms : Atoms) (root : XcbWindow) (dpr : ℚ)

/-- A coordinate in pixels of the device. -/
def scaled (x : ℚ) : Int32 := Int32.ofInt (lround (x * dpr))

/-- What a change of a window does, if there is one. -/
def performed (window : XcbWindow) (change : Option Change) (display : Display) : Display :=
  change.elim display fun c => c.apply window display

def setExtendedStrut (display : Display) (win : XcbWindow)
    (leftWidth leftStart leftEnd rightWidth rightStart rightEnd : ℚ)
    (topWidth topStart topEnd bottomWidth bottomStart bottomEnd : ℚ) : Display :=
  let info := NETWinInfo.new atoms display win root 0 0 .client
  let strut : NETExtendedStrut :=
    { leftWidth := scaled dpr leftWidth, rightWidth := scaled dpr rightWidth
      topWidth := scaled dpr topWidth, bottomWidth := scaled dpr bottomWidth
      leftStart := scaled dpr leftStart, leftEnd := scaled dpr leftEnd
      rightStart := scaled dpr rightStart, rightEnd := scaled dpr rightEnd
      topStart := scaled dpr topStart, topEnd := scaled dpr topEnd
      bottomStart := scaled dpr bottomStart, bottomEnd := scaled dpr bottomEnd }
  let extended := info.setExtendedStrut atoms strut
  let oldstrut : NETStrut :=
    ⟨scaled dpr leftWidth, scaled dpr rightWidth, scaled dpr topWidth, scaled dpr bottomWidth⟩
  let simple := extended.1.setStrut atoms oldstrut
  performed simple.1.window simple.2 (performed extended.1.window extended.2 display)

def setStrut (screen : ScreenSize) (display : Display) (win : XcbWindow) (left right top bottom : ℚ) :
    Display :=
  let w : ℚ := screen.width.toInt
  let h : ℚ := screen.height.toInt
  setExtendedStrut atoms root dpr display win
    (lround (left * dpr)) 0 (if lround (left * dpr) ≠ 0 then w else 0)
    (lround (right * dpr)) 0 (if lround (right * dpr) ≠ 0 then w else 0)
    (lround (top * dpr)) 0 (if lround (top * dpr) ≠ 0 then h else 0)
    (lround (bottom * dpr)) 0 (if lround (bottom * dpr) ≠ 0 then h else 0)

end Set

/-- The extended strut of a window, as it is read. -/
def extendedStrutOn (atoms : Atoms) (display : Display) (win : XcbWindow) : NETExtendedStrut :=
  NETWinInfo.extendedStrutOf
    (getArrayReply (display.answer ⟨win, atoms.atom .netWmStrutPartial, .cardinal, 12⟩) .cardinal)

/-! ## Whole edges -/

/-- Each side that is reserved, from the beginning of its edge to the end; the other sides are zero. -/
def wholeEdges (strut : NETStrut) (leftRight topBottom : Int32) : NETExtendedStrut where
  leftWidth := strut.left
  leftEnd := if strut.left ≠ 0 then leftRight else 0
  rightWidth := strut.right
  rightEnd := if strut.right ≠ 0 then leftRight else 0
  topWidth := strut.top
  topEnd := if strut.top ≠ 0 then topBottom else 0
  bottomWidth := strut.bottom
  bottomEnd := if strut.bottom ≠ 0 then topBottom else 0

-- What the reader builds has the height for the left and the right edge, the width for the others.
theorem extendedStrut_eq {w : KWindowInfo} (h : w.info.extendedStrut = {}) (screen : ScreenSize) :
    w.extendedStrut screen = wholeEdges w.info.strut screen.height screen.width := by
  unfold KWindowInfo.extendedStrut wholeEdges
  rw [h]
  generalize w.info.strut = strut
  by_cases hleft : strut.left = 0 <;> by_cases hright : strut.right = 0 <;>
    by_cases htop : strut.top = 0 <;> by_cases hbottom : strut.bottom = 0 <;>
    simp [hleft, hright, htop, hbottom]

section Write

variable (atoms : Atoms) (root : XcbWindow)

-- The twelve numbers are read as they were written: the simple strut is another property.
theorem extendedStrutOn_set (dpr : ℚ) (display : Display) (win : XcbWindow)
    (leftWidth leftStart leftEnd rightWidth rightStart rightEnd : ℚ)
    (topWidth topStart topEnd bottomWidth bottomStart bottomEnd : ℚ) :
    extendedStrutOn atoms
        (setExtendedStrut atoms root dpr display win leftWidth leftStart leftEnd rightWidth rightStart
          rightEnd topWidth topStart topEnd bottomWidth bottomStart bottomEnd) win =
      { leftWidth := scaled dpr leftWidth, rightWidth := scaled dpr rightWidth
        topWidth := scaled dpr topWidth, bottomWidth := scaled dpr bottomWidth
        leftStart := scaled dpr leftStart, leftEnd := scaled dpr leftEnd
        rightStart := scaled dpr rightStart, rightEnd := scaled dpr rightEnd
        topStart := scaled dpr topStart, topEnd := scaled dpr topEnd
        bottomStart := scaled dpr bottomStart, bottomEnd := scaled dpr bottomEnd } := by
  have hsame := NETWinInfo.update_sameWindow atoms
    { role := .client, window := win, root, properties := 0, properties2 := 0 } display 0 0
  have hwindow : (NETWinInfo.new atoms display win root 0 0 .client).window = win := hsame.1
  have hrole : (NETWinInfo.new atoms display win root 0 0 .client).role = .client := hsame.2.2.2
  have hother : atoms.atom .netWmStrutPartial ≠ atoms.atom .netWmStrut :=
    fun h => absurd (atoms.injective h) (by decide)
  unfold setExtendedStrut NETWinInfo.setExtendedStrut NETWinInfo.setStrut
  dsimp only
  rw [if_neg (not_not.mpr hrole)]
  dsimp only
  rw [if_neg (not_not.mpr hrole)]
  dsimp only [performed, Option.elim]
  rw [hwindow]
  unfold extendedStrutOn Display.answer Change.apply
  simp only [if_true, Function.update_of_ne hother, Function.update_self]
  rfl

theorem scaled_intCast (r : Nat) (n : Int) : scaled r n = Int32.ofInt (n * r) := by
  have hcast : (n : ℚ) * (r : ℚ) = ((n * r : Int) : ℚ) := by
    push_cast
    rfl
  unfold scaled
  rw [hcast, lround_intCast]

theorem lround_scaled (a r : Nat) : lround ((a : ℚ) * (r : ℚ)) = ((a * r : Nat) : Int) := by
  rw [← Nat.cast_mul]
  exact lround_intCast ((a * r : Nat) : Int)

/-- The numbers of a side whose width is scaled before it is handed on. -/
def sideWidth (a r : Nat) : Int32 := Int32.ofInt ((a * r * r : Nat) : Int)

def sideEnd (a r : Nat) (screen : Int32) : Int32 :=
  if a * r = 0 then 0 else Int32.ofInt (screen.toInt * r)

theorem extendedStrutOn_setStrut (r : Nat) (screen : ScreenSize) (display : Display) (win : XcbWindow)
    (left right top bottom : Nat) :
    extendedStrutOn atoms (setStrut atoms root r screen display win left right top bottom) win =
      { leftWidth := sideWidth left r, leftEnd := sideEnd left r screen.width
        rightWidth := sideWidth right r, rightEnd := sideEnd right r screen.width
        topWidth := sideWidth top r, topEnd := sideEnd top r screen.height
        bottomWidth := sideWidth bottom r, bottomEnd := sideEnd bottom r screen.height } := by
  have hzero : scaled r 0 = 0 := by
    have h := scaled_intCast r 0
    rw [Int.cast_zero, Int.zero_mul] at h
    exact h
  have hwidth : ∀ a : Nat, scaled r (lround ((a : ℚ) * (r : ℚ)) : ℚ) = sideWidth a r := by
    intro a
    rw [lround_scaled, scaled_intCast]
    unfold sideWidth
    rw [Int.natCast_mul (a * r)]
  have hend : ∀ (a : Nat) (edge : Int32),
      scaled r (if lround ((a : ℚ) * (r : ℚ)) ≠ 0 then (edge.toInt : ℚ) else 0) = sideEnd a r edge := by
    intro a edge
    rw [lround_scaled]
    unfold sideEnd
    by_cases h : a * r = 0
    · rw [if_pos h, if_neg (by omega), hzero]
    · rw [if_neg h, if_pos (by omega), scaled_intCast]
  unfold setStrut
  dsimp only
  rw [extendedStrutOn_set]
  simp only [hwidth, hend, hzero]

end Write

/-! ## One side -/

-- Of two neighbours one is odd, so the other one and the rest would have to carry all of the power of two.
theorem mul_eq_zero_of_dvd {a k : Nat} (hlt : a * (k + 1) < 2 ^ 31) (hdvd : 2 ^ 32 ∣ a * (k + 1) * k) :
    a * k = 0 := by
  have hle : a * k ≤ a * (k + 1) := Nat.mul_le_mul_left a (Nat.le_succ k)
  rcases Nat.even_or_odd k with heven | hodd
  · have hcoprime : Nat.Coprime (2 ^ 32) (k + 1) :=
      Nat.Coprime.pow_left 32 (Nat.coprime_two_left.mpr heven.add_one)
    rw [Nat.mul_right_comm] at hdvd
    exact Nat.eq_zero_of_dvd_of_lt (hcoprime.dvd_of_dvd_mul_right hdvd) (by omega)
  · have hcoprime : Nat.Coprime (2 ^ 32) k := Nat.Coprime.pow_left 32 (Nat.coprime_two_left.mpr hodd)
    have hzero := Nat.eq_zero_of_dvd_of_lt (hcoprime.dvd_of_dvd_mul_right hdvd) (by omega)
    omega

-- A product is scaled once more without harm only if that changes nothing, even where it wraps around.
theorem sideWidth_toInt_iff {a r : Nat} (hr : 0 < r) :
    (sideWidth a r).toInt = (a * r : Nat) ↔ a = 0 ∨ (r = 1 ∧ a < 2 ^ 31) := by
  have hsize : Int32.size = 2 ^ 32 := rfl
  unfold sideWidth
  rw [Int32.toInt_ofInt, hsize]
  apply Iff.intro
  · intro h
    have hdvd := @Int.dvd_bmod_sub_self ((a * r * r : Nat) : Int) (2 ^ 32)
    have hlt := @Int.bmod_lt ((a * r * r : Nat) : Int) (2 ^ 32) (by decide)
    rw [h] at hdvd hlt
    rcases r with _ | k
    · omega
    · have hproduct : a * (k + 1) * (k + 1) = a * (k + 1) * k + a * (k + 1) := Nat.mul_succ _ _
      have hnat : 2 ^ 32 ∣ a * (k + 1) * k := by
        rw [hproduct, ← Int.dvd_neg] at hdvd
        rw [← Int.natCast_dvd_natCast]
        have hneg : -(((a * (k + 1) : Nat) : Int) - ((a * (k + 1) * k + a * (k + 1) : Nat) : Int)) =
            ((a * (k + 1) * k : Nat) : Int) := by omega
        rw [hneg] at hdvd
        exact hdvd
      rcases Nat.mul_eq_zero.mp (mul_eq_zero_of_dvd (by omega) hnat) with ha | hk
      · exact .inl ha
      · rw [hk, Nat.zero_add, Nat.mul_one] at hlt
        exact .inr ⟨by omega, by omega⟩
  · rintro (rfl | ⟨rfl, hlt⟩)
    · rw [Nat.zero_mul, Nat.zero_mul]
      rfl
    · rw [Nat.mul_one, Nat.mul_one]
      exact Int.bmod_eq_of_le (by omega) (by omega)

/-! ## Both forms -/

/-- An extended strut has the widths scaled once, and without scaling it is the one that is built from the
simple strut with the same values. -/
structure StrutsAgree (e : NETExtendedStrut) (r : Nat) (screen : ScreenSize) (left right top bottom : Nat) :
    Prop where
  leftWidth : e.leftWidth.toInt = (left * r : Nat)
  rightWidth : e.rightWidth.toInt = (right * r : Nat)
  topWidth : e.topWidth.toInt = (top * r : Nat)
  bottomWidth : e.bottomWidth.toInt = (bottom * r : Nat)
  built : r = 1 → ∀ w : KWindowInfo, w.info.extendedStrut = {} →
    w.info.strut.left.toInt = left → w.info.strut.right.toInt = right →
    w.info.strut.top.toInt = top → w.info.strut.bottom.toInt = bottom → e = w.extendedStrut screen

section Agree

variable (atoms : Atoms) (root : XcbWindow) (screen : ScreenSize) (display : Display) (win : XcbWindow)
  {left right top bottom : Nat}

-- Without scaling, the widths are those of the simple strut, but each edge has the length of the others.
theorem extendedStrutOn_unscaled {strut : NETStrut} (hleft : strut.left.toInt = left)
    (hright : strut.right.toInt = right) (htop : strut.top.toInt = top)
    (hbottom : strut.bottom.toInt = bottom) :
    extendedStrutOn atoms (setStrut atoms root (1 : Nat) screen display win left right top bottom) win =
      wholeEdges strut screen.width screen.height := by
  have hwidth : ∀ {a : Nat} {x : Int32}, x.toInt = a → sideWidth a 1 = x := by
    intro a x h
    unfold sideWidth
    rw [Nat.mul_one, Nat.mul_one, ← h, Int32.ofInt_toInt]
  have hend : ∀ {a : Nat} {x : Int32}, x.toInt = a → ∀ edge,
      sideEnd a 1 edge = if x ≠ 0 then edge else 0 := by
    intro a x h edge
    have hzero : x = 0 ↔ a = 0 := by
      rw [← Int32.toInt_inj, h, Int32.toInt_zero, Int.natCast_eq_zero]
    unfold sideEnd
    simp only [Nat.mul_one, ne_eq, hzero, ite_not, Nat.cast_one, Int.mul_one, Int32.ofInt_toInt]
  rw [extendedStrutOn_setStrut]
  unfold wholeEdges
  rw [hwidth hleft, hwidth hright, hwidth htop, hwidth hbottom, hend hleft, hend hright, hend htop,
    hend hbottom]

theorem strut_eq_default {strut : NETStrut} (hleft : strut.left.toInt = 0) (hright : strut.right.toInt = 0)
    (htop : strut.top.toInt = 0) (hbottom : strut.bottom.toInt = 0) : strut = {} := by
  rcases strut with ⟨l, r, t, b⟩
  have hl : l = 0 := Int32.toInt.inj hleft
  have hr : r = 0 := Int32.toInt.inj hright
  have ht : t = 0 := Int32.toInt.inj htop
  have hb : b = 0 := Int32.toInt.inj hbottom
  rw [hl, hr, ht, hb]

theorem end_swap {x a b : Int32} (h : (if x ≠ 0 then a else 0) = if x ≠ 0 then b else 0) (hab : a ≠ b) :
    x = 0 := by
  by_contra hx
  rw [if_pos hx, if_pos hx] at h
  exact hab h

theorem wholeEdges_swap_iff (strut : NETStrut) (a b : Int32) :
    wholeEdges strut a b = wholeEdges strut b a ↔ strut = {} ∨ a = b := by
  apply Iff.intro
  · intro h
    by_cases hab : a = b
    · exact .inr hab
    · have hleft := end_swap (congrArg NETExtendedStrut.leftEnd h) hab
      have hright := end_swap (congrArg NETExtendedStrut.rightEnd h) hab
      have htop := end_swap (congrArg NETExtendedStrut.topEnd h) (Ne.symm hab)
      have hbottom := end_swap (congrArg NETExtendedStrut.bottomEnd h) (Ne.symm hab)
      cases strut
      exact .inl (by simp_all)
  · rintro (rfl | rfl)
    · rfl
    · rfl

-- The reader of a window with the same simple strut has the edges the other way round.
theorem edges_eq_of_agrees {strut : NETStrut} (hleft : strut.left.toInt = left)
    (hright : strut.right.toInt = right) (htop : strut.top.toInt = top)
    (hbottom : strut.bottom.toInt = bottom) (hstrut : strut ≠ {})
    (h : StrutsAgree (extendedStrutOn atoms
      (setStrut atoms root (1 : Nat) screen display win left right top bottom) win) 1 screen left right top
      bottom) : screen.width = screen.height := by
  let info : NETWinInfo :=
    { role := .client, window := win, root, properties := 0, properties2 := 0, strut }
  have hsame := h.built rfl ⟨info⟩ rfl hleft hright htop hbottom
  rw [@extendedStrut_eq ⟨info⟩ rfl,
    extendedStrutOn_unscaled atoms root screen display win hleft hright htop hbottom] at hsame
  exact ((wholeEdges_swap_iff strut _ _).mp hsame).resolve_left hstrut

/-- `setStrut` agrees with what is built from a simple strut exactly if there is nothing to reserve, or
nothing is scaled and the edges are all of one length. -/
theorem setStrut_agrees_iff {r : Nat} (hr : 0 < r) :
    StrutsAgree (extendedStrutOn atoms (setStrut atoms root r screen display win left right top bottom) win) r
        screen left right top bottom ↔
      (left = 0 ∧ right = 0 ∧ top = 0 ∧ bottom = 0) ∨
        (r = 1 ∧ screen.width = screen.height ∧ left < 2 ^ 31 ∧ right < 2 ^ 31 ∧ top < 2 ^ 31 ∧
          bottom < 2 ^ 31) := by
  have hwritten := extendedStrutOn_setStrut atoms root r screen display win left right top bottom
  apply Iff.intro
  · intro h
    have hleft := h.leftWidth
    have hright := h.rightWidth
    have htop := h.topWidth
    have hbottom := h.bottomWidth
    rw [hwritten] at hleft hright htop hbottom
    have hleft' := (sideWidth_toInt_iff hr).mp hleft
    have hright' := (sideWidth_toInt_iff hr).mp hright
    have htop' := (sideWidth_toInt_iff hr).mp htop
    have hbottom' := (sideWidth_toInt_iff hr).mp hbottom
    by_cases hzero : left = 0 ∧ right = 0 ∧ top = 0 ∧ bottom = 0
    · exact .inl hzero
    · have hone : r = 1 := by
        by_contra hscaled
        have hnothing : ∀ {a : Nat}, (a = 0 ∨ (r = 1 ∧ a < 2 ^ 31)) → a = 0 :=
          fun ha => ha.resolve_right fun h => hscaled h.1
        exact hzero ⟨hnothing hleft', hnothing hright', hnothing htop', hnothing hbottom'⟩
      have hlt : ∀ {a : Nat}, (a = 0 ∨ (r = 1 ∧ a < 2 ^ 31)) → a < 2 ^ 31 := by
        intro a ha
        omega
      have hsmall := And.intro (hlt hleft') (And.intro (hlt hright') (And.intro (hlt htop') (hlt hbottom')))
      subst hone
      rw [Nat.mul_one] at hleft hright htop hbottom
      have hnone : ∀ {a : Nat} {x : Int32}, x.toInt = a → x = 0 → a = 0 := by
        rintro a x hx rfl
        exact Int.natCast_eq_zero.mp hx.symm
      have hstrut : (⟨sideWidth left 1, sideWidth right 1, sideWidth top 1, sideWidth bottom 1⟩ :
          NETStrut) ≠ {} := by
        intro h
        injection h with h1 h2 h3 h4
        exact hzero ⟨hnone hleft h1, hnone hright h2, hnone htop h3, hnone hbottom h4⟩
      exact .inr ⟨rfl, edges_eq_of_agrees atoms root screen display win hleft hright htop hbottom hstrut h,
        hsmall⟩
  · intro h
    have hside : ∀ a : Nat, (left = 0 ∧ right = 0 ∧ top = 0 ∧ bottom = 0 → a = 0) →
        (left < 2 ^ 31 ∧ right < 2 ^ 31 ∧ top < 2 ^ 31 ∧ bottom < 2 ^ 31 → a < 2 ^ 31) →
        (sideWidth a r).toInt = (a * r : Nat) := by
      intro a hzero hlt
      apply (sideWidth_toInt_iff hr).mpr
      exact h.imp hzero fun h => ⟨h.1, hlt h.2.2⟩
    constructor
    case leftWidth =>
      rw [hwritten]
      exact hside left (fun h => h.1) fun h => h.1
    case rightWidth =>
      rw [hwritten]
      exact hside right (fun h => h.2.1) fun h => h.2.1
    case topWidth =>
      rw [hwritten]
      exact hside top (fun h => h.2.2.1) fun h => h.2.2.1
    case bottomWidth =>
      rw [hwritten]
      exact hside bottom (fun h => h.2.2.2) fun h => h.2.2.2
    case built =>
      rintro rfl w hnone hleft hright htop hbottom
      rw [extendedStrutOn_unscaled atoms root screen display win hleft hright htop hbottom,
        extendedStrut_eq hnone, wholeEdges_swap_iff]
      rcases h with ⟨rfl, rfl, rfl, rfl⟩ | ⟨-, hedges, -⟩
      · exact .inl (strut_eq_default hleft hright htop hbottom)
      · exact .inr hedges

end Agree

theorem square_agrees :
    StrutsAgree (extendedStrutOn .inOrder
      (setStrut .inOrder 1 (1 : Nat) ⟨800, 800⟩ (fun _ _ => none) 5 (10 : Nat) (0 : Nat) (24 : Nat) (0 : Nat))
      5) 1 ⟨800, 800⟩ 10 0 24 0 :=
  (setStrut_agrees_iff .inOrder 1 ⟨800, 800⟩ (fun _ _ => none) 5 (by decide)).mpr (.inr (by decide))

-- The left edge of a wide screen gets its width, and a ratio of two is applied twice.
theorem wide_disagrees :
    ¬StrutsAgree (extendedStrutOn .inOrder
      (setStrut .inOrder 1 (1 : Nat) ⟨1000, 800⟩ (fun _ _ => none) 5 (10 : Nat) (0 : Nat) (0 : Nat) (0 : Nat))
      5) 1 ⟨1000, 800⟩ 10 0 0 0 ∧
    ¬StrutsAgree (extendedStrutOn .inOrder
      (setStrut .inOrder 1 (2 : Nat) ⟨800, 800⟩ (fun _ _ => none) 5 (10 : Nat) (0 : Nat) (0 : Nat) (0 : Nat))
      5) 2 ⟨800, 800⟩ 10 0 0 0 := by
  apply And.intro
  · intro h
    have hedges := @edges_eq_of_agrees .inOrder 1 ⟨1000, 800⟩ (fun _ _ => none) 5 10 0 0 0 ⟨10, 0, 0, 0⟩
      (by decide) (by decide) (by decide) (by decide) (by decide) h
    exact absurd hedges (by decide)
  · intro h
    have hwidth := h.leftWidth
    rw [extendedStrutOn_setStrut] at hwidth
    exact absurd hwidth (by decide)

end KX11Extras

end KWindowSystem
