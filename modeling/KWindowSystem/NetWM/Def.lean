import Mathlib.Tactic.Basic

/-!
# The NET types

The enumerations and the small structures of `netwm_def.h`.  A set of flags is a 32-bit word in which
every enumerator has its bit.
-/

namespace KWindowSystem

/-- A `QFlags` value. -/
abbrev Flags := BitVec 32

/-- An enumeration whose values are bits of a flag set. -/
class Flag (α : Type) where
  bit : α → Nat

variable {α : Type} [Flag α]

/-- `flags & a`, as a condition. -/
def Flags.has (flags : Flags) (a : α) : Bool := flags.getLsbD (Flag.bit a)

/-- The flag set of one enumerator. -/
def mask (a : α) : Flags := BitVec.twoPow 32 (Flag.bit a)

@[simp] theorem Flags.has_and (s t : Flags) (a : α) : (s &&& t).has a = (s.has a && t.has a) := by
  simp [Flags.has]

@[simp] theorem Flags.has_or (s t : Flags) (a : α) : (s ||| t).has a = (s.has a || t.has a) := by
  simp [Flags.has]

@[simp] theorem Flags.has_zero (a : α) : Flags.has 0 a = false := by
  simp [Flags.has]

namespace NET

inductive Role where
  | client
  | windowManager
deriving DecidableEq, Repr

/-- `NET::Property`. -/
inductive Property where
  | supported | clientList | clientListStacking | numberOfDesktops | desktopGeometry
  | desktopViewport | currentDesktop | desktopNames | activeWindow | workArea
  | supportingWMCheck | virtualRoots | closeWindow | wmMoveResize
  | wmName | wmVisibleName | wmDesktop | wmWindowType | wmState | wmStrut | wmIconGeometry | wmIcon
  | wmPid | wmHandledIcons | wmPing | xawmState | wmFrameExtents
  | wmIconName | wmVisibleIconName | wmGeometry
deriving DecidableEq, Repr

def Property.bit : Property → Nat
  | .supported => 0
  | .clientList => 1
  | .clientListStacking => 2
  | .numberOfDesktops => 3
  | .desktopGeometry => 4
  | .desktopViewport => 5
  | .currentDesktop => 6
  | .desktopNames => 7
  | .activeWindow => 8
  | .workArea => 9
  | .supportingWMCheck => 10
  | .virtualRoots => 11
  | .closeWindow => 13
  | .wmMoveResize => 14
  | .wmName => 15
  | .wmVisibleName => 16
  | .wmDesktop => 17
  | .wmWindowType => 18
  | .wmState => 19
  | .wmStrut => 20
  | .wmIconGeometry => 21
  | .wmIcon => 22
  | .wmPid => 23
  | .wmHandledIcons => 24
  | .wmPing => 25
  | .xawmState => 27
  | .wmFrameExtents => 28
  | .wmIconName => 29
  | .wmVisibleIconName => 30
  | .wmGeometry => 31

instance : Flag Property := ⟨Property.bit⟩

/-- `NET::Property2`. -/
inductive Property2 where
  | userTime | startupId | transientFor | groupLeader | allowedActions | restackWindow
  | moveResizeWindow | extendedStrut | kdeTemporaryRules | windowClass | windowRole | clientMachine
  | showingDesktop | opacity | desktopLayout | fullPlacement | fullscreenMonitors | frameOverlap
  | activities | blockCompositing | kdeShadow | urgency | input | protocols | initialMappingState
  | iconPixmap | opaqueRegion | desktopFileName | gtkFrameExtents | appMenuServiceName
  | appMenuObjectPath | gtkApplicationId | gtkShowWindowMenu
deriving DecidableEq, Repr

/-- `WM2IconPixmap` and `WM2OpaqueRegion` are one bit. -/
def Property2.bit : Property2 → Nat
  | .userTime => 0
  | .startupId => 1
  | .transientFor => 2
  | .groupLeader => 3
  | .allowedActions => 4
  | .restackWindow => 5
  | .moveResizeWindow => 6
  | .extendedStrut => 7
  | .kdeTemporaryRules => 8
  | .windowClass => 9
  | .windowRole => 10
  | .clientMachine => 11
  | .showingDesktop => 12
  | .opacity => 13
  | .desktopLayout => 14
  | .fullPlacement => 15
  | .fullscreenMonitors => 16
  | .frameOverlap => 17
  | .activities => 18
  | .blockCompositing => 19
  | .kdeShadow => 20
  | .urgency => 21
  | .input => 22
  | .protocols => 23
  | .initialMappingState => 24
  | .iconPixmap => 25
  | .opaqueRegion => 25
  | .desktopFileName => 26
  | .gtkFrameExtents => 27
  | .appMenuServiceName => 28
  | .appMenuObjectPath => 29
  | .gtkApplicationId => 30
  | .gtkShowWindowMenu => 31

instance : Flag Property2 := ⟨Property2.bit⟩

/-- `NET::WindowType` with the bit of its `NET::WindowTypeMask`; `unknown` has none. -/
inductive WindowType where
  | unknown | normal | desktop | dock | toolbar | menu | dialog | override | topMenu | utility
  | splash | dropdownMenu | popupMenu | tooltip | notification | comboBox | dndIcon
  | onScreenDisplay | criticalNotification | appletPopup
deriving DecidableEq, Repr

def WindowType.maskBit : WindowType → Nat
  | .unknown => 32
  | .normal => 0
  | .desktop => 1
  | .dock => 2
  | .toolbar => 3
  | .menu => 4
  | .dialog => 5
  | .override => 6
  | .topMenu => 7
  | .utility => 8
  | .splash => 9
  | .dropdownMenu => 10
  | .popupMenu => 11
  | .tooltip => 12
  | .notification => 13
  | .comboBox => 14
  | .dndIcon => 15
  | .onScreenDisplay => 16
  | .criticalNotification => 17
  | .appletPopup => 18

instance : Flag WindowType := ⟨WindowType.maskBit⟩

/-- `NET::State`. -/
inductive State where
  | modal | sticky | maxVert | maxHoriz | shaded | skipTaskbar | keepAbove | skipPager | hidden
  | fullScreen | keepBelow | demandsAttention | skipSwitcher | focused
deriving DecidableEq, Repr

def State.bit : State → Nat
  | .modal => 0
  | .sticky => 1
  | .maxVert => 2
  | .maxHoriz => 3
  | .shaded => 4
  | .skipTaskbar => 5
  | .keepAbove => 6
  | .skipPager => 7
  | .hidden => 8
  | .fullScreen => 9
  | .keepBelow => 10
  | .demandsAttention => 11
  | .skipSwitcher => 12
  | .focused => 13

instance : Flag State := ⟨State.bit⟩

/-- `NET::Max`. -/
def State.max : Flags := mask State.maxVert ||| mask State.maxHoriz

/-- `NET::Action`. -/
inductive Action where
  | move | resize | minimize | shade | stick | maxVert | maxHoriz | fullScreen | changeDesktop
  | close
deriving DecidableEq, Repr

def Action.bit : Action → Nat
  | .move => 0
  | .resize => 1
  | .minimize => 2
  | .shade => 3
  | .stick => 4
  | .maxVert => 5
  | .maxHoriz => 6
  | .fullScreen => 7
  | .changeDesktop => 8
  | .close => 9

instance : Flag Action := ⟨Action.bit⟩

/-- `NET::Protocol`. -/
inductive Protocol where
  | takeFocus | deleteWindow | ping | syncRequest | contextHelp
deriving DecidableEq, Repr

def Protocol.bit : Protocol → Nat
  | .takeFocus => 0
  | .deleteWindow => 1
  | .ping => 2
  | .syncRequest => 3
  | .contextHelp => 4

instance : Flag Protocol := ⟨Protocol.bit⟩

inductive MappingState where
  | visible
  | withdrawn
  | iconic
deriving DecidableEq, Repr

inductive RequestSource where
  | fromUnknown
  | fromApplication
  | fromTool
deriving DecidableEq, Repr

inductive Orientation where
  | horizontal
  | vertical
deriving DecidableEq, Repr

inductive DesktopLayoutCorner where
  | topLeft
  | topRight
  | bottomLeft
  | bottomRight
deriving DecidableEq, Repr

end NET

/-! ## Points, sizes and struts -/

structure NETPoint where
  x : Int32 := 0
  y : Int32 := 0
deriving DecidableEq, Repr

structure NETSize where
  width : Int32 := 0
  height : Int32 := 0
deriving DecidableEq, Repr

structure NETRect where
  pos : NETPoint := {}
  size : NETSize := {}
deriving DecidableEq, Repr

structure NETStrut where
  left : Int32 := 0
  right : Int32 := 0
  top : Int32 := 0
  bottom : Int32 := 0
deriving DecidableEq, Repr

structure NETExtendedStrut where
  leftWidth : Int32 := 0
  leftStart : Int32 := 0
  leftEnd : Int32 := 0
  rightWidth : Int32 := 0
  rightStart : Int32 := 0
  rightEnd : Int32 := 0
  topWidth : Int32 := 0
  topStart : Int32 := 0
  topEnd : Int32 := 0
  bottomWidth : Int32 := 0
  bottomStart : Int32 := 0
  bottomEnd : Int32 := 0
deriving DecidableEq, Repr

/-- A top of −1 means that no topology is set. -/
structure NETFullscreenMonitors where
  top : Int32 := -1
  bottom : Int32 := 0
  left : Int32 := 0
  right : Int32 := 0
deriving DecidableEq, Repr

/-! ## Words of a property -/

/-- Pairs of words as points, up to an odd one. -/
def points : List UInt32 → List NETPoint
  | x :: y :: rest => ⟨x.toInt32, y.toInt32⟩ :: points rest
  | _ => []

/-- Groups of four words as rectangles, up to an incomplete one. -/
def rects : List UInt32 → List NETRect
  | x :: y :: width :: height :: rest =>
      ⟨⟨x.toInt32, y.toInt32⟩, ⟨width.toInt32, height.toInt32⟩⟩ :: rects rest
  | _ => []

end KWindowSystem
