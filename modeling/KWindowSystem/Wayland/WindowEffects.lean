import KWindowSystem.Lib.Machine
import KWindowSystem.Lib.SortedMap
import KWindowSystem.Qt.Rect

/-!
# WindowEffects

The Wayland implementation of the window effects, with the part of Qt that it depends on: which windows
exist, their platform windows and surfaces, and what is connected to them.
-/

open Qt

namespace KWindowSystem

/-- A `QWindow` is known by its address, which a later window may get again. -/
abbrev QWindow := Nat

/-- Every `wl_surface` has its own number, also after it is gone. -/
abbrev WlSurface := Nat

/-- The rectangles of a region. -/
abbrev QRegion := List QRect

/-- `qreal`. -/
abbrev QReal := Float

structure QWaylandWindow where
  id : Nat
  surface : Option WlSurface
deriving DecidableEq, Repr

/-- What Qt keeps for a window that exists. -/
structure WindowData where
  platform : Option QWaylandWindow := none
  exposed : Bool := false
  /-- Whether `WindowEffects` is installed as an event filter. -/
  filtered : Bool := false
deriving DecidableEq, Repr

namespace WindowEffects

inductive SlideFromLocation where
  | noEdge
  | topEdge
  | rightEdge
  | bottomEdge
  | leftEdge
deriving DecidableEq, Repr

structure SlideData where
  location : SlideFromLocation
  offset : Int
deriving DecidableEq, Repr

structure BackgroundContrastData where
  contrast : QReal := 1
  intensity : QReal := 1
  saturation : QReal := 1
  region : QRegion
deriving BEq

/-- An `ext_background_effect_surface_v1` and the surface it was made for. -/
structure BackgroundEffect where
  surface : WlSurface
deriving DecidableEq, Repr

/-- What is asked of the compositor. -/
inductive Request where
  | getBackgroundEffect (surface : WlSurface)
  /-- The surface is the one that the window has when the request is made. -/
  | setBlurRegion (effect : BackgroundEffect) (surface : WlSurface) (region : Option QRegion)
  | createBlur (surface : WlSurface) (region : QRegion)
  | unsetBlur (surface : WlSurface)
  | createContrast (surface : WlSurface) (data : BackgroundContrastData)
  | unsetContrast (surface : WlSurface)
  | createSlide (surface : WlSurface) (data : SlideData)
  | unsetSlide (surface : WlSurface)

end WindowEffects

open WindowEffects

structure WindowEffects where
  windows : QWindow → Option WindowData := fun _ => none
  /-- The number of the next platform window or surface. -/
  fresh : Nat := 0
  compositor : Bool := true
  blurManager : Bool := false
  contrastManager : Bool := false
  slideManager : Bool := false
  backgroundEffectManager : Bool := false
  supportsBlur : Bool := false
  /-- The windows whose `destroyed` is connected. -/
  windowDestroyedWatchers : QWindow → Bool := fun _ => false
  /-- The platform window whose `surfaceDestroyed` is connected. -/
  surfaceDestroyedWatchers : QWindow → Option Nat := fun _ => none
  blurRegions : SortedMap QWindow QRegion := .empty
  backgroundContrastRegions : SortedMap QWindow BackgroundContrastData := .empty
  slideMap : SortedMap QWindow SlideData := .empty
  /-- The surface that the `Blur` was made for. -/
  blurs : QWindow → Option WlSurface := fun _ => none
  contrasts : QWindow → Option WlSurface := fun _ => none
  backgroundEffects : QWindow → Option BackgroundEffect := fun _ => none

namespace WindowEffects

def platform (s : WindowEffects) (window : QWindow) : Option QWaylandWindow :=
  (s.windows window).bind (·.platform)

/-- `surfaceForWindow`. -/
def surfaceForWindow (s : WindowEffects) (window : QWindow) : Option WlSurface :=
  (s.platform window).bind (·.surface)

/-- A window that exists is changed. -/
def setWindow (s : WindowEffects) (window : QWindow) (f : WindowData → WindowData) : WindowEffects :=
  { s with windows := Function.update s.windows window ((s.windows window).map f) }

/-! ## Tracking -/

def watchWindow (s : WindowEffects) (window : QWindow) : WindowEffects :=
  if s.windowDestroyedWatchers window then s
  else
    { s.setWindow window fun data => { data with filtered := true } with
      windowDestroyedWatchers := Function.update s.windowDestroyedWatchers window true }

def watchSurface (s : WindowEffects) (window : QWindow) : WindowEffects :=
  if (s.surfaceDestroyedWatchers window).isSome then s
  else match s.platform window with
    | some waylandWindow =>
        { s with surfaceDestroyedWatchers :=
            Function.update s.surfaceDestroyedWatchers window (some waylandWindow.id) }
    | none => s

def trackWindow (s : WindowEffects) (window : QWindow) : WindowEffects :=
  (s.watchWindow window).watchSurface window

/-- Some effect is wanted for the window. -/
def wanted (s : WindowEffects) (window : QWindow) : Bool :=
  s.blurRegions.contains window || s.backgroundContrastRegions.contains window ||
    s.slideMap.contains window

def releaseWindow (s : WindowEffects) (window : QWindow) : WindowEffects :=
  if s.wanted window then s
  else
    { s.setWindow window fun data => { data with filtered := false } with
      windowDestroyedWatchers := Function.update s.windowDestroyedWatchers window false
      surfaceDestroyedWatchers := Function.update s.surfaceDestroyedWatchers window none }

def resetBlur (s : WindowEffects) (window : QWindow) (blur : Option WlSurface) : WindowEffects :=
  { s with
    backgroundEffects := Function.update s.backgroundEffects window none
    blurs := Function.update s.blurs window blur }

def resetContrast (s : WindowEffects) (window : QWindow) (contrast : Option WlSurface) :
    WindowEffects :=
  { s with contrasts := Function.update s.contrasts window contrast }

/-- The slot connected to `destroyed`. -/
def windowDestroyed (s : WindowEffects) (window : QWindow) : WindowEffects :=
  let s := (s.resetBlur window none).resetContrast window none
  { s with
    blurRegions := s.blurRegions.erase window
    backgroundContrastRegions := s.backgroundContrastRegions.erase window
    slideMap := s.slideMap.erase window
    windowDestroyedWatchers := Function.update s.windowDestroyedWatchers window false
    surfaceDestroyedWatchers := Function.update s.surfaceDestroyedWatchers window none }

/-- The slot connected to `surfaceDestroyed`. -/
def surfaceDestroyed (s : WindowEffects) (window : QWindow) : WindowEffects :=
  (s.resetBlur window none).resetContrast window none

/-! ## Installing -/

def createRegion (s : WindowEffects) (region : QRegion) : Option QRegion :=
  if s.compositor then some region else none

/-- From half the least `int` on, and as large as an `int` can say. -/
def wholeWindow : QRect := .ofSize (-1073741824) (-1073741824) 2147483647 2147483647

def installBlur (s : WindowEffects) (window : QWindow) (enable : Bool) (region : QRegion) :
    WindowEffects × List Request :=
  match s.surfaceForWindow window with
  | none => (s, [])
  | some surface =>
      if s.backgroundEffectManager then
        let s := { s with blurs := Function.update s.blurs window none }
        if s.supportsBlur then
          let effect := (s.backgroundEffects window).getD ⟨surface⟩
          let made := if (s.backgroundEffects window).isSome then [] else [.getBackgroundEffect surface]
          -- An empty region covers the whole window.
          let wlRegion :=
            if enable then s.createRegion (if region = [] then [wholeWindow] else region) else none
          ({ s with backgroundEffects := Function.update s.backgroundEffects window (some effect) },
            made ++ [.setBlurRegion effect surface wlRegion])
        else (s, [])
      else if s.blurManager then
        if enable then
          match s.createRegion region with
          | none => (s, [])
          | some wlRegion => (s.resetBlur window (some surface), [.createBlur surface wlRegion])
        else (s.resetBlur window none, [.unsetBlur surface])
      else (s, [])

def installContrast (s : WindowEffects) (window : QWindow) (enable : Bool)
    (data : BackgroundContrastData) : WindowEffects × List Request :=
  if s.contrastManager then
    match s.surfaceForWindow window with
    | none => (s, [])
    | some surface =>
        if enable then
          match s.createRegion data.region with
          | none => (s, [])
          | some _ => (s.resetContrast window (some surface), [.createContrast surface data])
        else (s.resetContrast window none, [.unsetContrast surface])
  else (s, [])

def installSlide (s : WindowEffects) (window : QWindow) (data : SlideData) :
    WindowEffects × List Request :=
  if s.slideManager then
    match s.surfaceForWindow window with
    | none => (s, [])
    | some surface =>
        if data.location ≠ .noEdge then (s, [.createSlide surface data])
        else (s, [.unsetSlide surface])
  else (s, [])

/-- Something is installed for every entry of a map. -/
def installAll {ν : Type} (install : WindowEffects → QWindow → ν → WindowEffects × List Request)
    (entries : List (QWindow × ν)) (s : WindowEffects) : WindowEffects × List Request :=
  Machine.run (fun s entry => install s entry.1 entry.2) s entries

/-! ## The calls -/

def enableBlurBehind (s : WindowEffects) (window : QWindow) (enable : Bool) (region : QRegion) :
    WindowEffects × List Request :=
  if enable then
    let s := s.trackWindow window
    if s.blurRegions.find? window = some region then (s, [])
    else installBlur { s with blurRegions := s.blurRegions.insert window region } window true region
  else if s.blurRegions.contains window then
    let s := { s with blurRegions := s.blurRegions.erase window }
    installBlur ((s.resetBlur window none).releaseWindow window) window false region
  else (s, [])

def enableBackgroundContrast (s : WindowEffects) (window : QWindow) (enable : Bool)
    (data : BackgroundContrastData) : WindowEffects × List Request :=
  if enable then
    let s := s.trackWindow window
    if s.backgroundContrastRegions.find? window == some data then (s, [])
    else
      installContrast
        { s with backgroundContrastRegions := s.backgroundContrastRegions.insert window data }
        window true data
  else if s.backgroundContrastRegions.contains window then
    let s := { s with backgroundContrastRegions := s.backgroundContrastRegions.erase window }
    installContrast ((s.resetContrast window none).releaseWindow window) window false data
  else (s, [])

def slideWindow (s : WindowEffects) (window : QWindow) (data : SlideData) :
    WindowEffects × List Request :=
  if data.location ≠ .noEdge then
    let s := s.trackWindow window
    if s.slideMap.find? window = some data then (s, [])
    else installSlide { s with slideMap := s.slideMap.insert window data } window data
  else if s.slideMap.contains window then
    let s := { s with slideMap := s.slideMap.erase window }
    installSlide (s.releaseWindow window) window data
  else (s, [])

/-! ## Events -/

/-- Something is installed again if the map has an entry for the window. -/
def reinstall {ν : Type} (s : WindowEffects) (entries : SortedMap QWindow ν) (window : QWindow)
    (install : ν → WindowEffects × List Request) : WindowEffects × List Request :=
  match entries.find? window with
  | some v => install v
  | none => (s, [])

/-- The branch of `eventFilter` for an expose event. -/
def exposeEvent (s : WindowEffects) (window : QWindow) : WindowEffects × List Request :=
  let blurred := s.reinstall s.blurRegions window (s.installBlur window true)
  let contrasted := blurred.1.reinstall blurred.1.backgroundContrastRegions window
    (blurred.1.installContrast window true)
  let slid := contrasted.1.reinstall contrasted.1.slideMap window (contrasted.1.installSlide window)
  (slid.1, blurred.2 ++ contrasted.2 ++ slid.2)

/-- The branch for a platform surface that was created. -/
def surfaceCreatedEvent (s : WindowEffects) (window : QWindow) : WindowEffects :=
  match s.platform window with
  | some waylandWindow =>
      { s with surfaceDestroyedWatchers :=
          Function.update s.surfaceDestroyedWatchers window (some waylandWindow.id) }
  | none => s

def filtered (s : WindowEffects) (window : QWindow) : Bool :=
  ((s.windows window).map (·.filtered)).getD false

inductive Event where
  | createWindow (window : QWindow)
  /-- The platform window is created, perhaps with a surface at once. -/
  | createPlatform (window : QWindow) (withSurface : Bool)
  | createSurface (window : QWindow)
  | destroySurface (window : QWindow)
  | destroyPlatform (window : QWindow)
  | expose (window : QWindow) (exposed : Bool)
  | destroyWindow (window : QWindow)
  | enableBlurBehind (window : QWindow) (enable : Bool) (region : QRegion)
  | enableBackgroundContrast (window : QWindow) (enable : Bool) (data : BackgroundContrastData)
  | slideWindow (window : QWindow) (data : SlideData)
  | blurManager (active : Bool)
  | contrastManager (active : Bool)
  | slideManager (active : Bool)
  | backgroundEffectManager (active : Bool)
  | capabilities (flags : UInt32)

/-- `EXT_BACKGROUND_EFFECT_MANAGER_V1_CAPABILITY_BLUR`. -/
def capabilityBlur : UInt32 := 1

/-- The surface of a window goes, which only a connected platform window tells. -/
def dropSurface (s : WindowEffects) (window : QWindow) : WindowEffects :=
  match s.platform window with
  | some ⟨id, some _⟩ =>
      let s := s.setWindow window fun data => { data with platform := some ⟨id, none⟩ }
      if s.surfaceDestroyedWatchers window = some id then s.surfaceDestroyed window else s
  | _ => s

def dropPlatform (s : WindowEffects) (window : QWindow) : WindowEffects :=
  (s.dropSurface window).setWindow window fun data => { data with platform := none }

def blurActiveChanged (s : WindowEffects) : WindowEffects × List Request :=
  if s.backgroundEffectManager then (s, [])
  else installAll (fun s window region => s.installBlur window s.blurManager region) s.blurRegions.entries s

def contrastActiveChanged (s : WindowEffects) : WindowEffects × List Request :=
  installAll (fun s window data =>
      if s.contrastManager then s.installContrast window true data
      else s.installContrast window false { region := [] })
    s.backgroundContrastRegions.entries s

def slideActiveChanged (s : WindowEffects) : WindowEffects × List Request :=
  installAll (fun s window data =>
      if s.slideManager then s.installSlide window data else s.installSlide window ⟨.noEdge, 0⟩)
    s.slideMap.entries s

def step (s : WindowEffects) : Event → WindowEffects × List Request
  | .createWindow window =>
      if (s.windows window).isSome then (s, [])
      else ({ s with windows := Function.update s.windows window (some {}) }, [])
  | .createPlatform window withSurface =>
      if (s.windows window).isSome && (s.platform window).isNone then
        let waylandWindow : QWaylandWindow := ⟨s.fresh, if withSurface then some (s.fresh + 1) else none⟩
        let s := { s.setWindow window fun data => { data with platform := some waylandWindow } with
          fresh := s.fresh + 2 }
        (if s.filtered window then s.surfaceCreatedEvent window else s, [])
      else (s, [])
  | .createSurface window =>
      match s.platform window with
      | some ⟨id, none⟩ =>
          ({ s.setWindow window fun data => { data with platform := some ⟨id, some s.fresh⟩ } with
            fresh := s.fresh + 1 }, [])
      | _ => (s, [])
  | .destroySurface window => (s.dropSurface window, [])
  | .destroyPlatform window => (s.dropPlatform window, [])
  | .expose window exposed =>
      let s := s.setWindow window fun data => { data with exposed }
      if s.filtered window && exposed then s.exposeEvent window else (s, [])
  | .destroyWindow window =>
      let s := s.dropPlatform window
      let s := { s with windows := Function.update s.windows window none }
      (if s.windowDestroyedWatchers window then s.windowDestroyed window else s, [])
  -- The caller's window exists.
  | .enableBlurBehind window enable region =>
      if (s.windows window).isSome then s.enableBlurBehind window enable region else (s, [])
  | .enableBackgroundContrast window enable data =>
      if (s.windows window).isSome then s.enableBackgroundContrast window enable data else (s, [])
  | .slideWindow window data => if (s.windows window).isSome then s.slideWindow window data else (s, [])
  | .blurManager active =>
      if active = s.blurManager then (s, []) else { s with blurManager := active }.blurActiveChanged
  | .contrastManager active =>
      if active = s.contrastManager then (s, [])
      else { s with contrastManager := active }.contrastActiveChanged
  | .slideManager active =>
      if active = s.slideManager then (s, [])
      else { s with slideManager := active }.slideActiveChanged
  | .backgroundEffectManager active =>
      if active = s.backgroundEffectManager then (s, [])
      else
        let s := { s with backgroundEffectManager := active }
        (if active then s else { s with backgroundEffects := fun _ => none }, [])
  | .capabilities flags =>
      let s := { s with supportsBlur := flags &&& capabilityBlur ≠ 0 }
      installAll (fun s window region => s.installBlur window s.supportsBlur region) s.blurRegions.entries s

end WindowEffects

end KWindowSystem
