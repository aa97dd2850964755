import KWindowSystem.Lib.ObjectPool
import KWindowSystem.Wayland.WindowEffects

/-!
# The protocol objects of the window effects

`WindowEffects` once more, with the objects themselves: every `Blur`, `Contrast` and `Slide` that was made
for a window and is not scheduled for deletion, and the region that each of them and the background
effect carries.  All functions of `WindowEffects` are about one window and the globals, so here they
work on what there is about that window.
-/

open Qt

namespace KWindowSystem

namespace WindowEffects

/-- What the compositor offers. -/
structure Globals where
  compositor : Bool := true
  blurManager : Bool := false
  contrastManager : Bool := false
  slideManager : Bool := false
  backgroundEffectManager : Bool := false
  supportsBlur : Bool := false

/-- `KWindowEffects::Effect`. -/
inductive Effect where
  | slide
  | blurBehind
  | backgroundContrast
deriving DecidableEq, Repr

def Globals.isEffectAvailable (g : Globals) : Effect → Bool
  | .backgroundContrast => g.contrastManager
  | .blurBehind => if g.backgroundEffectManager then g.supportsBlur else g.blurManager
  | .slide => g.slideManager

def Globals.createRegion (g : Globals) (region : QRegion) : Option QRegion :=
  if g.compositor then some region else none

/-- A protocol object, the surface it was made for and what was committed on it. -/
structure EffectObject (α : Type) where
  surface : WlSurface
  sent : α
deriving DecidableEq, Repr

/-- The objects of one kind that are children of a window, and the entry of the map for them. -/
abbrev EffectObjects (α : Type) := ObjectPool (EffectObject α)

/-- A background effect with the blur region that was last set on it. -/
structure RegionEffect extends BackgroundEffect where
  region : Option QRegion := none
deriving DecidableEq, Repr

/-- What there is about one window: its entries in the maps, its own data and its children. -/
structure WindowRecord where
  data : Option WindowData := none
  windowDestroyedWatcher : Bool := false
  surfaceDestroyedWatcher : Option Nat := none
  blurRegion : Option QRegion := none
  backgroundContrastRegion : Option BackgroundContrastData := none
  slide : Option SlideData := none
  blurs : EffectObjects QRegion := {}
  contrasts : EffectObjects BackgroundContrastData := {}
  /-- No map has an entry for these. -/
  slides : EffectObjects SlideData := {}
  backgroundEffect : Option RegionEffect := none
  /-- Whether the window was exposed since its surface was created.  Nothing in the code looks at it. -/
  shown : Bool := false

namespace WindowRecord

def platform (v : WindowRecord) : Option QWaylandWindow := v.data.bind (·.platform)

/-- `surfaceForWindow`. -/
def surface (v : WindowRecord) : Option WlSurface := v.platform.bind (·.surface)

/-- A window that exists is changed. -/
def setData (v : WindowRecord) (f : WindowData → WindowData) : WindowRecord :=
  { v with data := v.data.map f }

def filtered (v : WindowRecord) : Bool := (v.data.map (·.filtered)).getD false

/-! ## Tracking -/

def watchWindow (v : WindowRecord) : WindowRecord :=
  if v.windowDestroyedWatcher then v
  else { v.setData fun data => { data with filtered := true } with windowDestroyedWatcher := true }

def watchSurface (v : WindowRecord) : WindowRecord :=
  if v.surfaceDestroyedWatcher.isSome then v
  else match v.platform with
    | some waylandWindow => { v with surfaceDestroyedWatcher := some waylandWindow.id }
    | none => v

def trackWindow (v : WindowRecord) : WindowRecord := v.watchWindow.watchSurface

/-- Some effect is wanted for the window. -/
def wanted (v : WindowRecord) : Bool :=
  v.blurRegion.isSome || v.backgroundContrastRegion.isSome || v.slide.isSome

def releaseWindow (v : WindowRecord) : WindowRecord :=
  if v.wanted then v
  else
    { v.setData fun data => { data with filtered := false } with
      windowDestroyedWatcher := false
      surfaceDestroyedWatcher := none }

def resetBlur (v : WindowRecord) (blur : Option (Nat × EffectObject QRegion)) : WindowRecord :=
  { v with backgroundEffect := none, blurs := v.blurs.replace blur }

def resetContrast (v : WindowRecord) (contrast : Option (Nat × EffectObject BackgroundContrastData)) :
    WindowRecord :=
  { v with contrasts := v.contrasts.replace contrast }

/-- The slot connected to `destroyed`. -/
def windowDestroyed (v : WindowRecord) : WindowRecord :=
  { (v.resetBlur none).resetContrast none with
    blurRegion := none
    backgroundContrastRegion := none
    slide := none
    windowDestroyedWatcher := false
    surfaceDestroyedWatcher := none }

/-- The slot connected to `surfaceDestroyed`. -/
def surfaceDestroyed (v : WindowRecord) : WindowRecord := (v.resetBlur none).resetContrast none

/-! ## Installing -/

/-- `set_blur_region` on the background effect of the window, which is made if there is none. -/
def setBlurRegion (v : WindowRecord) (surface : WlSurface) (wlRegion : Option QRegion) : WindowRecord :=
  let effect := v.backgroundEffect.getD { surface }
  { v with backgroundEffect := some { effect with region := wlRegion } }

def installBlur (v : WindowRecord) (g : Globals) (enable : Bool) (region : QRegion) : WindowRecord :=
  match v.surface with
  | none => v
  | some surface =>
      if g.backgroundEffectManager then
        let v := { v with blurs := v.blurs.replace none }
        if g.supportsBlur then
          -- An empty region covers the whole window.
          v.setBlurRegion surface
            (if enable then g.createRegion (if region = [] then [wholeWindow] else region) else none)
        else v
      else if g.blurManager then
        if enable then
          match g.createRegion region with
          | none => v
          | some wlRegion =>
              let blur : EffectObject QRegion := ⟨surface, wlRegion⟩
              { v with blurs := v.blurs.new blur }.resetBlur (some (v.blurs.made, blur))
        else v.resetBlur none
      else v

def installContrast (v : WindowRecord) (g : Globals) (enable : Bool) (data : BackgroundContrastData) :
    WindowRecord :=
  if g.contrastManager then
    match v.surface with
    | none => v
    | some surface =>
        if enable then
          match g.createRegion data.region with
          | none => v
          | some _ =>
              let contrast : EffectObject BackgroundContrastData := ⟨surface, data⟩
              { v with contrasts := v.contrasts.new contrast }.resetContrast
                (some (v.contrasts.made, contrast))
        else v.resetContrast none
  else v

/-- Nothing is kept of the new `Slide`, and `unset` is only a request. -/
def installSlide (v : WindowRecord) (g : Globals) (data : SlideData) : WindowRecord :=
  if g.slideManager then
    match v.surface with
    | none => v
    | some surface =>
        if data.location ≠ .noEdge then { v with slides := v.slides.new ⟨surface, data⟩ } else v
  else v

/-! ## The calls -/

def enableBlurBehind (v : WindowRecord) (g : Globals) (enable : Bool) (region : QRegion) :
    WindowRecord :=
  if enable then
    let v := v.trackWindow
    if v.blurRegion = some region then v
    else { v with blurRegion := some region }.installBlur g true region
  else if v.blurRegion.isSome then
    ({ v with blurRegion := none }.resetBlur none).releaseWindow.installBlur g false region
  else v

def enableBackgroundContrast (v : WindowRecord) (g : Globals) (enable : Bool)
    (data : BackgroundContrastData) : WindowRecord :=
  if enable then
    let v := v.trackWindow
    if v.backgroundContrastRegion == some data then v
    else { v with backgroundContrastRegion := some data }.installContrast g true data
  else if v.backgroundContrastRegion.isSome then
    ({ v with backgroundContrastRegion := none }.resetContrast none).releaseWindow.installContrast g
      false data
  else v

def slideWindow (v : WindowRecord) (g : Globals) (data : SlideData) : WindowRecord :=
  if data.location ≠ .noEdge then
    let v := v.trackWindow
    if v.slide = some data then v
    else { v with slide := some data }.installSlide g data
  else if v.slide.isSome then
    { v with slide := none }.releaseWindow.installSlide g data
  else v

/-! ## Events -/

/-- Something is done for the window if it has an entry. -/
def forEntry {ν : Type} (v : WindowRecord) (entry : Option ν) (f : ν → WindowRecord) : WindowRecord :=
  match entry with
  | some value => f value
  | none => v

/-- The branch of `eventFilter` for an expose event. -/
def exposeEvent (v : WindowRecord) (g : Globals) : WindowRecord :=
  let v := v.forEntry v.blurRegion (v.installBlur g true)
  let v := v.forEntry v.backgroundContrastRegion (v.installContrast g true)
  v.forEntry v.slide (v.installSlide g)

/-- The branch for a platform surface that was created. -/
def surfaceCreatedEvent (v : WindowRecord) : WindowRecord :=
  match v.platform with
  | some waylandWindow => { v with surfaceDestroyedWatcher := some waylandWindow.id }
  | none => v

/-- The surface of the window goes, which only a connected platform window tells. -/
def dropSurface (v : WindowRecord) : WindowRecord :=
  match v.platform with
  | some ⟨id, some _⟩ =>
      let v := v.setData fun data => { data with platform := some ⟨id, none⟩ }
      if v.surfaceDestroyedWatcher = some id then v.surfaceDestroyed else v
  | _ => v

def dropPlatform (v : WindowRecord) : WindowRecord :=
  v.dropSurface.setData fun data => { data with platform := none }

/-- What a destructor deletes after it has emitted `destroyed`. -/
def deleteChildren (v : WindowRecord) : WindowRecord :=
  { v with blurs := v.blurs.deleteAll, contrasts := v.contrasts.deleteAll, slides := v.slides.deleteAll }

def createWindow (v : WindowRecord) : WindowRecord := { v with data := some {}, shown := false }

def createPlatform (v : WindowRecord) (fresh : Nat) (withSurface : Bool) : WindowRecord :=
  let waylandWindow : QWaylandWindow := ⟨fresh, if withSurface then some (fresh + 1) else none⟩
  let v := { v.setData fun data => { data with platform := some waylandWindow } with shown := false }
  if v.filtered then v.surfaceCreatedEvent else v

def createSurface (v : WindowRecord) (id : Nat) (surface : WlSurface) : WindowRecord :=
  { v.setData fun data => { data with platform := some ⟨id, some surface⟩ } with shown := false }

def setExposed (v : WindowRecord) (exposed : Bool) : WindowRecord :=
  { v.setData fun data => { data with exposed } with shown := exposed || v.shown }

def expose (v : WindowRecord) (g : Globals) (exposed : Bool) : WindowRecord :=
  let v := v.setExposed exposed
  if v.filtered && exposed then v.exposeEvent g else v

def destroyWindow (v : WindowRecord) : WindowRecord :=
  let v := { v.dropPlatform with data := none }
  (if v.windowDestroyedWatcher then v.windowDestroyed else v).deleteChildren

def blurActiveChanged (v : WindowRecord) (g : Globals) : WindowRecord :=
  if g.backgroundEffectManager then v
  else v.forEntry v.blurRegion (v.installBlur g g.blurManager)

def contrastActiveChanged (v : WindowRecord) (g : Globals) : WindowRecord :=
  v.forEntry v.backgroundContrastRegion fun data =>
    if g.contrastManager then v.installContrast g true data
    else v.installContrast g false { region := [] }

def slideActiveChanged (v : WindowRecord) (g : Globals) : WindowRecord :=
  v.forEntry v.slide fun data =>
    if g.slideManager then v.installSlide g data else v.installSlide g ⟨.noEdge, 0⟩

def backgroundEffectActiveChanged (v : WindowRecord) (g : Globals) : WindowRecord :=
  if g.backgroundEffectManager then v else { v with backgroundEffect := none }

def capabilitiesChanged (v : WindowRecord) (g : Globals) : WindowRecord :=
  v.forEntry v.blurRegion (v.installBlur g g.supportsBlur)

end WindowRecord

/-- All windows, by their addresses. -/
structure Scene where
  globals : Globals := {}
  /-- The number of the next platform window or surface. -/
  fresh : Nat := 0
  windows : QWindow → WindowRecord := fun _ => {}

namespace Scene

/-- One window is changed. -/
def update (t : Scene) (window : QWindow) (f : WindowRecord → WindowRecord) : Scene :=
  { t with windows := Function.update t.windows window (f (t.windows window)) }

/-- A signal of a global reaches every window, with what the globals are now. -/
def broadcast (t : Scene) (g : Globals) (f : WindowRecord → Globals → WindowRecord) : Scene :=
  { t with globals := g, windows := fun window => f (t.windows window) g }

def next (t : Scene) : Event → Scene
  | .createWindow window =>
      if (t.windows window).data.isSome then t
      else t.update window (·.createWindow)
  | .createPlatform window withSurface =>
      if (t.windows window).data.isSome && (t.windows window).platform.isNone then
        { t.update window (·.createPlatform t.fresh withSurface) with fresh := t.fresh + 2 }
      else t
  | .createSurface window =>
      match (t.windows window).platform with
      | some ⟨id, none⟩ =>
          { t.update window (·.createSurface id t.fresh) with fresh := t.fresh + 1 }
      | _ => t
  | .destroySurface window => t.update window (·.dropSurface)
  | .destroyPlatform window => t.update window (·.dropPlatform)
  | .expose window exposed => t.update window (·.expose t.globals exposed)
  | .destroyWindow window => t.update window (·.destroyWindow)
  -- The caller's window exists.
  | .enableBlurBehind window enable region =>
      if (t.windows window).data.isSome then
        t.update window (·.enableBlurBehind t.globals enable region)
      else t
  | .enableBackgroundContrast window enable data =>
      if (t.windows window).data.isSome then
        t.update window (·.enableBackgroundContrast t.globals enable data)
      else t
  | .slideWindow window data =>
      if (t.windows window).data.isSome then t.update window (·.slideWindow t.globals data) else t
  | .blurManager active =>
      if active = t.globals.blurManager then t
      else t.broadcast { t.globals with blurManager := active } WindowRecord.blurActiveChanged
  | .contrastManager active =>
      if active = t.globals.contrastManager then t
      else t.broadcast { t.globals with contrastManager := active } WindowRecord.contrastActiveChanged
  | .slideManager active =>
      if active = t.globals.slideManager then t
      else t.broadcast { t.globals with slideManager := active } WindowRecord.slideActiveChanged
  | .backgroundEffectManager active =>
      if active = t.globals.backgroundEffectManager then t
      else t.broadcast { t.globals with backgroundEffectManager := active }
        WindowRecord.backgroundEffectActiveChanged
  | .capabilities flags =>
      t.broadcast { t.globals with supportsBlur := flags &&& capabilityBlur ≠ 0 }
        WindowRecord.capabilitiesChanged

/-! ## What an event does -/

/-- The client does not take the event: there is no window for it, or nothing changes. -/
def Refuses (t : Scene) : Event → Prop
  | .createWindow window => (t.windows window).data ≠ none
  | .createPlatform window _ => (t.windows window).data = none ∨ (t.windows window).platform ≠ none
  | .createSurface window => ∀ id, (t.windows window).platform ≠ some ⟨id, none⟩
  | .enableBlurBehind window _ _ => (t.windows window).data = none
  | .enableBackgroundContrast window _ _ => (t.windows window).data = none
  | .slideWindow window _ => (t.windows window).data = none
  | .blurManager active => active = t.globals.blurManager
  | .contrastManager active => active = t.globals.contrastManager
  | .slideManager active => active = t.globals.slideManager
  | .backgroundEffectManager active => active = t.globals.backgroundEffectManager
  | _ => False

/-- An event leads to a scene, with what is known when the client takes it. -/
inductive Takes (t : Scene) : Event → Scene → Prop
  | refused {e : Event} (hrefuses : t.Refuses e) : t.Takes e t
  | createWindow {window : QWindow} (hdata : (t.windows window).data = none) :
      t.Takes (.createWindow window) (t.update window (·.createWindow))
  | createPlatform {window : QWindow} {withSurface : Bool}
      (hplatform : (t.windows window).platform = none) :
      t.Takes (.createPlatform window withSurface)
        { t.update window (·.createPlatform t.fresh withSurface) with fresh := t.fresh + 2 }
  | createSurface {window : QWindow} {id : Nat}
      (hplatform : (t.windows window).platform = some ⟨id, none⟩) :
      t.Takes (.createSurface window)
        { t.update window (·.createSurface id t.fresh) with fresh := t.fresh + 1 }
  | destroySurface (window : QWindow) :
      t.Takes (.destroySurface window) (t.update window (·.dropSurface))
  | destroyPlatform (window : QWindow) :
      t.Takes (.destroyPlatform window) (t.update window (·.dropPlatform))
  | expose (window : QWindow) (exposed : Bool) :
      t.Takes (.expose window exposed) (t.update window (·.expose t.globals exposed))
  | destroyWindow (window : QWindow) :
      t.Takes (.destroyWindow window) (t.update window (·.destroyWindow))
  | enableBlurBehind {window : QWindow} {enable : Bool} {region : QRegion}
      (hdata : (t.windows window).data.isSome = true) :
      t.Takes (.enableBlurBehind window enable region)
        (t.update window (·.enableBlurBehind t.globals enable region))
  | enableBackgroundContrast {window : QWindow} {enable : Bool} {data : BackgroundContrastData}
      (hdata : (t.windows window).data.isSome = true) :
      t.Takes (.enableBackgroundContrast window enable data)
        (t.update window (·.enableBackgroundContrast t.globals enable data))
  | slideWindow {window : QWindow} {data : SlideData} (hdata : (t.windows window).data.isSome = true) :
      t.Takes (.slideWindow window data) (t.update window (·.slideWindow t.globals data))
  | blurManager {active : Bool} (hchanged : active ≠ t.globals.blurManager) :
      t.Takes (.blurManager active)
        (t.broadcast { t.globals with blurManager := active } WindowRecord.blurActiveChanged)
  | contrastManager {active : Bool} (hchanged : active ≠ t.globals.contrastManager) :
      t.Takes (.contrastManager active)
        (t.broadcast { t.globals with contrastManager := active } WindowRecord.contrastActiveChanged)
  | slideManager {active : Bool} (hchanged : active ≠ t.globals.slideManager) :
      t.Takes (.slideManager active)
        (t.broadcast { t.globals with slideManager := active } WindowRecord.slideActiveChanged)
  | backgroundEffectManager {active : Bool} (hchanged : active ≠ t.globals.backgroundEffectManager) :
      t.Takes (.backgroundEffectManager active)
        (t.broadcast { t.globals with backgroundEffectManager := active }
          WindowRecord.backgroundEffectActiveChanged)
  | capabilities (flags : UInt32) :
      t.Takes (.capabilities flags)
        (t.broadcast { t.globals with supportsBlur := flags &&& capabilityBlur ≠ 0 }
          WindowRecord.capabilitiesChanged)

theorem takes_next (t : Scene) (e : Event) : t.Takes e (t.next e) := by
  unfold next
  cases e with
  | createWindow window =>
      dsimp only
      split
      · rename_i hdata
        exact .refused (Option.isSome_iff_ne_none.mp hdata)
      · rename_i hdata
        exact .createWindow (Option.not_isSome_iff_eq_none.mp hdata)
  | createPlatform window withSurface =>
      dsimp only
      split
      · rename_i hok
        rw [Bool.and_eq_true, Option.isNone_iff_eq_none] at hok
        exact .createPlatform hok.2
      · rename_i hno
        rw [Bool.and_eq_true, Option.isNone_iff_eq_none, not_and_or, Option.not_isSome_iff_eq_none]
          at hno
        exact .refused hno
  | createSurface window =>
      dsimp only
      split
      · rename_i hplatform
        exact .createSurface hplatform
      · rename_i hno
        exact .refused hno
  | destroySurface window => exact .destroySurface window
  | destroyPlatform window => exact .destroyPlatform window
  | expose window exposed => exact .expose window exposed
  | destroyWindow window => exact .destroyWindow window
  | enableBlurBehind window enable region =>
      dsimp only
      split
      · exact .enableBlurBehind (by assumption)
      · exact .refused (Option.not_isSome_iff_eq_none.mp (by assumption))
  | enableBackgroundContrast window enable data =>
      dsimp only
      split
      · exact .enableBackgroundContrast (by assumption)
      · exact .refused (Option.not_isSome_iff_eq_none.mp (by assumption))
  | slideWindow window data =>
      dsimp only
      split
      · exact .slideWindow (by assumption)
      · exact .refused (Option.not_isSome_iff_eq_none.mp (by assumption))
  | blurManager active =>
      dsimp only
      split
      · exact .refused (by assumption)
      · exact .blurManager (by assumption)
  | contrastManager active =>
      dsimp only
      split
      · exact .refused (by assumption)
      · exact .contrastManager (by assumption)
  | slideManager active =>
      dsimp only
      split
      · exact .refused (by assumption)
      · exact .slideManager (by assumption)
  | backgroundEffectManager active =>
      dsimp only
      split
      · exact .refused (by assumption)
      · exact .backgroundEffectManager (by assumption)
  | capabilities flags => exact .capabilities flags

/-- Before anything has happened. -/
def start (compositor : Bool) : Scene := { globals := { compositor } }

/-- What there is after the events. -/
def after (compositor : Bool) (es : List Event) : Scene := es.foldl next (start compositor)

end Scene

end WindowEffects

end KWindowSystem
