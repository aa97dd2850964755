import KWindowSystem.Xcb.Property

/-!
# Atoms

The atom names of `atoms_p.h`, and the numbers that `Atoms::init` has the server intern them as.
-/

namespace KWindowSystem

/-- `KwsAtom`, in the order of `atoms_p.h`: `netWmState` is `_NET_WM_STATE`, `wmState` is `WM_STATE`. -/
inductive KwsAtom where
  | utf8String | netSupported | netSupportingWmCheck | netClientList | netClientListStacking
  | netNumberOfDesktops | netDesktopGeometry | netDesktopViewport | netCurrentDesktop
  | netDesktopNames | netActiveWindow | netWorkarea | netVirtualRoots | netDesktopLayout
  | netShowingDesktop | netCloseWindow | netRestackWindow | netWmMoveresize | netMoveresizeWindow
  | netWmName | netWmVisibleName | netWmIconName | netWmVisibleIconName | netWmDesktop
  | netWmWindowType | netWmState | netWmStrut | netWmStrutPartial | netWmIconGeometry | netWmIcon
  | netWmPid | netWmUserTime | netWmHandledIcons | netStartupId | netWmAllowedActions
  | wmWindowRole | netFrameExtents | netWmWindowOpacity | netWmFullscreenMonitors
  | netWmOpaqueRegion | kdeNetWmDesktopFile | wmState | netWmWindowTypeNormal
  | netWmWindowTypeDesktop | netWmWindowTypeDock | netWmWindowTypeToolbar | netWmWindowTypeMenu
  | netWmWindowTypeDialog | netWmWindowTypeUtility | netWmWindowTypeSplash
  | netWmWindowTypeDropdownMenu | netWmWindowTypePopupMenu | netWmWindowTypeTooltip
  | netWmWindowTypeNotification | netWmWindowTypeCombo | netWmWindowTypeDnd | netWmStateModal
  | netWmStateSticky | netWmStateMaximizedVert | netWmStateMaximizedHorz | netWmStateShaded
  | netWmStateSkipTaskbar | netWmStateSkipPager | netWmStateHidden | netWmStateFullscreen
  | netWmStateAbove | netWmStateBelow | netWmStateDemandsAttention | netWmStateFocused
  | kdeNetWmStateSkipSwitcher | netWmActionMove | netWmActionResize | netWmActionMinimize
  | netWmActionShade | netWmActionStick | netWmActionMaximizeVert | netWmActionMaximizeHorz
  | netWmActionFullscreen | netWmActionChangeDesktop | netWmActionClose | kdeNetWmFrameStrut
  | kdeNetWmWindowTypeOverride | kdeNetWmWindowTypeTopmenu | kdeNetWmWindowTypeOnScreenDisplay
  | kdeNetWmWindowTypeCriticalNotification | kdeNetWmWindowTypeAppletPopup
  | kdeNetWmTemporaryRules | netWmFrameOverlap | kdeNetWmAppmenuServiceName
  | kdeNetWmAppmenuObjectPath | netWmStateStaysOnTop | gtkFrameExtents | gtkApplicationId
  | gtkShowWindowMenu | wmProtocols | wmTakeFocus | wmDeleteWindow | netWmPing | netWmSyncRequest
  | netWmContextHelp | netWmFullPlacement | netWmBypassCompositor | kdeNetWmActivities
  | kdeNetWmBlockCompositing | kdeNetWmShadow
deriving DecidableEq, Repr

/-! ## The predefined atoms -/

namespace XcbAtom

def none : XcbAtom := 0
def atom : XcbAtom := 4
def cardinal : XcbAtom := 6
def string : XcbAtom := 31
def window : XcbAtom := 33
def wmHints : XcbAtom := 35
def wmClientMachine : XcbAtom := 36
def wmIconName : XcbAtom := 37
def wmName : XcbAtom := 39
def wmClass : XcbAtom := 67
def wmTransientFor : XcbAtom := 68

end XcbAtom

/-- What a server interns the names as: different names get different atoms, and none of the names is
predefined. -/
structure Atoms where
  atom : KwsAtom → XcbAtom
  injective : Function.Injective atom
  interned : ∀ name, XcbAtom.wmTransientFor < atom name

namespace Atoms

@[simp] theorem atom_inj (atoms : Atoms) {a b : KwsAtom} : atoms.atom a = atoms.atom b ↔ a = b :=
  atoms.injective.eq_iff

theorem ne_predefined (atoms : Atoms) {p : XcbAtom} (hp : p ≤ XcbAtom.wmTransientFor)
    (name : KwsAtom) : atoms.atom name ≠ p :=
  fun h => absurd (atoms.interned name) (not_lt.mpr (h ▸ hp))

/-- A server that has just been started interns the names one after the other. -/
def inOrder : Atoms where
  atom name := 69 + UInt32.ofNat name.ctorIdx
  injective := by
    intro a b h
    have hlt : ∀ name : KwsAtom, name.ctorIdx < 105 := by
      intro name
      cases name <;> decide
    have hidx : a.ctorIdx = b.ctorIdx := by
      have := congrArg UInt32.toNat ((UInt32.add_right_inj 69).mp h)
      rw [UInt32.toNat_ofNat', UInt32.toNat_ofNat'] at this
      have ha := hlt a
      have hb := hlt b
      omega
    rw [← KwsAtom.ofNat_ctorIdx a, hidx, KwsAtom.ofNat_ctorIdx]
  interned := by
    intro name
    cases name <;> decide

end Atoms

/-! ## Names of properties -/

/-- The predefined atoms among the names of window properties. -/
inductive Predefined where
  | wmHints
  | wmTransientFor
  | wmClass
  | wmClientMachine
deriving DecidableEq, Repr

def Predefined.value : Predefined → XcbAtom
  | .wmHints => .wmHints
  | .wmTransientFor => .wmTransientFor
  | .wmClass => .wmClass
  | .wmClientMachine => .wmClientMachine

theorem Predefined.value_injective : Function.Injective Predefined.value := by
  intro a b
  cases a <;> cases b <;> decide

/-- The name of a window property. -/
inductive AtomName where
  | kws (name : KwsAtom)
  | predefined (name : Predefined)
deriving DecidableEq, Repr

namespace Atoms

def value (atoms : Atoms) : AtomName → XcbAtom
  | .kws name => atoms.atom name
  | .predefined name => name.value

theorem predefined_le (name : Predefined) : name.value ≤ XcbAtom.wmTransientFor := by
  cases name <;> decide

theorem value_injective (atoms : Atoms) : Function.Injective atoms.value := by
  intro a b h
  cases a with
  | kws a =>
      cases b with
      | kws b => exact congrArg AtomName.kws (atoms.injective h)
      | predefined b => exact absurd h (atoms.ne_predefined (predefined_le b) a)
  | predefined a =>
      cases b with
      | kws b => exact absurd h.symm (atoms.ne_predefined (predefined_le a) b)
      | predefined b => exact congrArg AtomName.predefined (Predefined.value_injective h)

end Atoms

/-! ## Chains -/

section Chain

variable {ν γ : Type}

/-- The first entry of an `else if` chain over atoms that the atom meets. -/
def lookupAtom (value : ν → XcbAtom) (chain : List (ν × γ)) (atom : XcbAtom) : Option γ :=
  (chain.find? fun entry => atom = value entry.1).map (·.2)

theorem lookupAtom_cons (value : ν → XcbAtom) (entry : ν × γ) (chain : List (ν × γ))
    (atom : XcbAtom) :
    lookupAtom value (entry :: chain) atom =
      if atom = value entry.1 then some entry.2 else lookupAtom value chain atom := by
  unfold lookupAtom
  rw [List.find?_cons]
  by_cases h : atom = value entry.1
  · rw [decide_eq_true h, if_pos h]
    rfl
  · rw [decide_eq_false h, if_neg h]

theorem mem_of_lookupAtom {value : ν → XcbAtom} {chain : List (ν × γ)} {atom : XcbAtom} {v : γ}
    (h : lookupAtom value chain atom = some v) :
    ∃ name, (name, v) ∈ chain ∧ atom = value name := by
  unfold lookupAtom at h
  cases hfind : chain.find? fun entry => atom = value entry.1 with
  | none => rw [hfind] at h; nomatch h
  | some entry =>
      have hatom := List.find?_some hfind
      have hmem := List.mem_of_find?_eq_some hfind
      rw [hfind] at h
      exact ⟨entry.1, Option.some.inj h ▸ hmem, of_decide_eq_true hatom⟩

-- A chain looks an atom up by its name.
theorem lookupAtom_value [DecidableEq ν] {value : ν → XcbAtom} (hinj : Function.Injective value)
    (chain : List (ν × γ)) (name : ν) :
    lookupAtom value chain (value name) =
      (chain.find? fun entry => name = entry.1).map (·.2) := by
  unfold lookupAtom
  congr 2
  funext entry
  exact decide_eq_decide.mpr hinj.eq_iff

end Chain

end KWindowSystem
