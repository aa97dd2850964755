import KWindowSystem.NetWM.WinInfo

/-!
# A long-lived NETWinInfo and a fresh one

Every getter reads what one branch of `update` writes (`Getter.source`), and no other branch touches
it (`get_frame`).  A branch that overwrites all of it from the replies makes the old object agree with
a new one; that of `WM_HINTS` leaves what the value does not carry, so that an old object goes on
returning a hint that the window no longer has.
-/

open Machine

namespace KWindowSystem

open NET

namespace NETWinInfo

/-! ## Getters -/

/-- `iconInternal`. -/
def iconInternal (icons : NETRArray NETIcon) (iconCount : Nat) (width height : Int32) : NETIcon :=
  if iconCount = 0 then {}
  else
    let largest := icons.toList.tail.foldl (fun (result icon : NETIcon) =>
      if icon.size.width ≥ result.size.width ∧ icon.size.height ≥ result.size.height then icon
      else result) (icons.get 0)
    if width = -1 ∧ height = -1 then largest
    else icons.toList.foldl (fun (result icon : NETIcon) =>
      if (icon.size.width ≥ width ∧ icon.size.width < result.size.width) ∧
        (icon.size.height ≥ height ∧ icon.size.height < result.size.height) then icon
      else result) largest

def icon (p : NETWinInfo) (width height : Int32) : NETIcon :=
  iconInternal p.icons p.iconCount width height

/-- The zero-terminated list of sizes, computed when it is asked for first. -/
def getIconSizes (p : NETWinInfo) : List Int32 :=
  p.iconSizes.getD
    (((List.range p.iconCount).flatMap fun i =>
      [(p.icons.get i).size.width, (p.icons.get i).size.height]) ++ [0, 0])

/-- The first type that is supported. -/
def windowType (p : NETWinInfo) (supportedTypes : Flags) : WindowType :=
  (p.types.toList.find? fun type => supportedTypes.has type).getD .unknown

/-- The getters of what `update` reads from a property. -/
inductive Getter where
  | mappingState | state | desktop | name | visibleName | iconName | visibleIconName | windowType
  | hasWindowType | hasNETSupport | strut | extendedStrut | fullscreenMonitors | iconGeometry | icon
  | iconSizes | frameExtents | frameOverlap | activities | isBlockingCompositing | pid | startupId
  | opacity | allowedActions | userTime | transientFor | input | initialMappingState
  | icccmIconPixmap | icccmIconPixmapMask | groupLeader | urgency | windowClassName
  | windowClassClass | windowRole | clientMachine | protocols | opaqueRegion | desktopFileName
  | gtkApplicationId | gtkFrameExtents | appMenuObjectPath | appMenuServiceName
deriving DecidableEq, Repr

namespace Getter

def Value : Getter → Type
  | .mappingState | .initialMappingState => MappingState
  | .state | .allowedActions | .protocols => Flags
  | .desktop | .pid => Int32
  | .windowType => Flags → WindowType
  | .hasWindowType | .hasNETSupport | .isBlockingCompositing | .input | .urgency => Bool
  | .strut | .frameExtents | .frameOverlap | .gtkFrameExtents => NETStrut
  | .extendedStrut => NETExtendedStrut
  | .fullscreenMonitors => NETFullscreenMonitors
  | .iconGeometry => NETRect
  | .icon => Int32 → Int32 → NETIcon
  | .iconSizes => List Int32
  | .opacity => UInt64
  | .userTime | .transientFor | .icccmIconPixmap | .icccmIconPixmapMask | .groupLeader => UInt32
  | .opaqueRegion => List NETRect
  | .name | .visibleName | .iconName | .visibleIconName | .activities | .startupId
  | .windowClassName | .windowClassClass | .windowRole | .clientMachine | .desktopFileName
  | .gtkApplicationId | .appMenuObjectPath | .appMenuServiceName => CharPtr

def get : (g : Getter) → NETWinInfo → g.Value
  | .mappingState, p => p.mappingState
  | .state, p => p.state
  | .desktop, p => p.desktop
  | .name, p => p.name
  | .visibleName, p => p.visibleName
  | .iconName, p => p.iconName
  | .visibleIconName, p => p.visibleIconName
  | .windowType, p => p.windowType
  | .hasWindowType, p => decide (p.types.size > 0)
  | .hasNETSupport, p => p.hasNetSupport
  | .strut, p => p.strut
  | .extendedStrut, p => p.extendedStrut
  | .fullscreenMonitors, p => p.fullscreenMonitors
  | .iconGeometry, p => p.iconGeom
  | .icon, p => p.icon
  | .iconSizes, p => p.getIconSizes
  | .frameExtents, p => p.frameStrut
  | .frameOverlap, p => p.frameOverlap
  | .activities, p => p.activities
  | .isBlockingCompositing, p => p.blockCompositing
  | .pid, p => p.pid
  | .startupId, p => p.startupId
  | .opacity, p => p.opacity
  | .allowedActions, p => p.allowedActions
  | .userTime, p => p.userTime
  | .transientFor, p => p.transientFor
  | .input, p => p.input
  | .initialMappingState, p => p.initialMappingState
  | .icccmIconPixmap, p => p.iconPixmap
  | .icccmIconPixmapMask, p => p.iconMask
  | .groupLeader, p => p.windowGroup
  | .urgency, p => p.urgency
  | .windowClassName, p => p.className
  | .windowClassClass, p => p.classClass
  | .windowRole, p => p.windowRole
  | .clientMachine, p => p.clientMachine
  | .protocols, p => p.protocols
  | .opaqueRegion, p => p.opaqueRegion
  | .desktopFileName, p => p.desktopFile
  | .gtkApplicationId, p => p.gtkApplicationId
  | .gtkFrameExtents, p => p.gtkFrameExtents
  | .appMenuObjectPath, p => p.appmenuObjectPath
  | .appMenuServiceName, p => p.appmenuServiceName

/-- The branch of `update` that writes what the getter reads. -/
def source : Getter → Branch
  | .mappingState => .xawmState
  | .state => .wmState
  | .desktop => .wmDesktop
  | .name => .wmName
  | .visibleName => .wmVisibleName
  | .iconName => .wmIconName
  | .visibleIconName => .wmVisibleIconName
  | .windowType | .hasWindowType | .hasNETSupport => .wmWindowType
  | .strut => .wmStrut
  | .extendedStrut => .extendedStrut
  | .fullscreenMonitors => .fullscreenMonitors
  | .iconGeometry => .wmIconGeometry
  | .icon | .iconSizes => .wmIcon
  | .frameExtents => .wmFrameExtents
  | .frameOverlap => .frameOverlap
  | .activities => .activities
  | .isBlockingCompositing => .blockCompositing
  | .pid => .wmPid
  | .startupId => .startupId
  | .opacity => .opacity
  | .allowedActions => .allowedActions
  | .userTime => .userTime
  | .transientFor => .transientFor
  | .input | .initialMappingState | .icccmIconPixmap | .icccmIconPixmapMask | .groupLeader
  | .urgency => .hints
  | .windowClassName | .windowClassClass => .windowClass
  | .windowRole => .windowRole
  | .clientMachine => .clientMachine
  | .protocols => .protocols
  | .opaqueRegion => .opaqueRegion
  | .desktopFileName => .desktopFileName
  | .gtkApplicationId => .gtkApplicationId
  | .gtkFrameExtents => .gtkFrameExtents
  | .appMenuObjectPath => .appMenuObjectPath
  | .appMenuServiceName => .appMenuServiceName

/-- The flag by which the getter's value is asked for. -/
def flag : Getter → Property ⊕ Property2
  | .mappingState => .inl .xawmState
  | .state => .inl .wmState
  | .desktop => .inl .wmDesktop
  | .name => .inl .wmName
  | .visibleName => .inl .wmVisibleName
  | .iconName => .inl .wmIconName
  | .visibleIconName => .inl .wmVisibleIconName
  | .windowType | .hasWindowType | .hasNETSupport => .inl .wmWindowType
  | .strut => .inl .wmStrut
  | .extendedStrut => .inr .extendedStrut
  | .fullscreenMonitors => .inr .fullscreenMonitors
  | .iconGeometry => .inl .wmIconGeometry
  | .icon | .iconSizes => .inl .wmIcon
  | .frameExtents => .inl .wmFrameExtents
  | .frameOverlap => .inr .frameOverlap
  | .activities => .inr .activities
  | .isBlockingCompositing => .inr .blockCompositing
  | .pid => .inl .wmPid
  | .startupId => .inr .startupId
  | .opacity => .inr .opacity
  | .allowedActions => .inr .allowedActions
  | .userTime => .inr .userTime
  | .transientFor => .inr .transientFor
  | .input => .inr .input
  | .initialMappingState => .inr .initialMappingState
  | .icccmIconPixmap | .icccmIconPixmapMask => .inr .iconPixmap
  | .groupLeader => .inr .groupLeader
  | .urgency => .inr .urgency
  | .windowClassName | .windowClassClass => .inr .windowClass
  | .windowRole => .inr .windowRole
  | .clientMachine => .inr .clientMachine
  | .protocols => .inr .protocols
  | .opaqueRegion => .inr .opaqueRegion
  | .desktopFileName => .inr .desktopFileName
  | .gtkApplicationId => .inr .gtkApplicationId
  | .gtkFrameExtents => .inr .gtkFrameExtents
  | .appMenuObjectPath => .inr .appMenuObjectPath
  | .appMenuServiceName => .inr .appMenuServiceName

end Getter

/-- A flag of either set. -/
def flagged (properties properties2 : Flags) : Property ⊕ Property2 → Bool
  | .inl f => properties.has f
  | .inr f => properties2.has f

/-! ## What a branch writes -/

/-- The requests of a branch. -/
def Branch.names : Branch → List AtomName
  | .xawmState => [.kws .wmState]
  | .wmState => [.kws .netWmState]
  | .wmDesktop => [.kws .netWmDesktop]
  | .wmName => [.kws .netWmName]
  | .wmVisibleName => [.kws .netWmVisibleName]
  | .wmIconName => [.kws .netWmIconName]
  | .wmVisibleIconName => [.kws .netWmVisibleIconName]
  | .wmWindowType => [.kws .netWmWindowType]
  | .wmStrut => [.kws .netWmStrut]
  | .extendedStrut => [.kws .netWmStrutPartial]
  | .fullscreenMonitors => [.kws .netWmFullscreenMonitors]
  | .wmIconGeometry => [.kws .netWmIconGeometry]
  | .wmIcon => [.kws .netWmIcon]
  | .wmFrameExtents => [.kws .netFrameExtents, .kws .kdeNetWmFrameStrut]
  | .frameOverlap => [.kws .netWmFrameOverlap]
  | .activities => [.kws .kdeNetWmActivities]
  | .blockCompositing => [.kws .kdeNetWmBlockCompositing, .kws .netWmBypassCompositor]
  | .wmPid => [.kws .netWmPid]
  | .startupId => [.kws .netStartupId]
  | .opacity => [.kws .netWmWindowOpacity]
  | .allowedActions => [.kws .netWmAllowedActions]
  | .userTime => [.kws .netWmUserTime]
  | .transientFor => [.predefined .wmTransientFor]
  | .hints => [.predefined .wmHints]
  | .windowClass => [.predefined .wmClass]
  | .windowRole => [.kws .wmWindowRole]
  | .clientMachine => [.predefined .wmClientMachine]
  | .protocols => [.kws .wmProtocols]
  | .opaqueRegion => [.kws .netWmOpaqueRegion]
  | .desktopFileName => [.kws .kdeNetWmDesktopFile]
  | .gtkApplicationId => [.kws .gtkApplicationId]
  | .gtkFrameExtents => [.kws .gtkFrameExtents]
  | .appMenuObjectPath => [.kws .kdeNetWmAppmenuObjectPath]
  | .appMenuServiceName => [.kws .kdeNetWmAppmenuServiceName]

/-- The type and the length that a branch asks for. -/
def Branch.format (atoms : Atoms) : Branch → XcbAtom × Nat
  | .xawmState => (atoms.atom .wmState, 1)
  | .wmState | .wmWindowType | .allowedActions | .protocols => (.atom, 2048)
  | .wmDesktop | .blockCompositing | .wmPid | .opacity | .userTime => (.cardinal, 1)
  | .wmName | .wmVisibleName | .wmIconName | .wmVisibleIconName | .startupId | .desktopFileName
  | .gtkApplicationId => (atoms.atom .utf8String, maxPropSize)
  | .wmStrut | .fullscreenMonitors | .wmIconGeometry | .wmFrameExtents | .frameOverlap
  | .gtkFrameExtents => (.cardinal, 4)
  | .extendedStrut => (.cardinal, 12)
  | .wmIcon => (.cardinal, 0xffffffff)
  | .activities | .windowClass | .windowRole | .clientMachine | .appMenuObjectPath
  | .appMenuServiceName => (.string, maxPropSize)
  | .transientFor => (.window, 1)
  | .hints => (.wmHints, 9)
  | .opaqueRegion => (.cardinal, maxPropSize)

def Branch.requests (atoms : Atoms) (window : XcbWindow) (b : Branch) : List PropertyRequest :=
  b.names.map fun name => ⟨window, atoms.value name, (b.format atoms).1, (b.format atoms).2⟩

section Update

variable (atoms : Atoms)

theorem sent_eq (p : NETWinInfo) (dirty dirty2 : Flags) :
    p.sent atoms dirty dirty2 =
      readOrder.map fun b => (b.wanted dirty dirty2, b.requests atoms p.window) := rfl

theorem update_eq_run (p : NETWinInfo) (display : Display) (properties properties2 : Flags) :
    let dirty := dirtyFlags properties p.properties
    let dirty2 := properties2 &&& p.properties2
    p.update atoms display properties properties2 =
      run ((reader atoms dirty dirty2).step (Branch.requests atoms p.window) display.answer) p
        readOrder := by
  unfold update
  dsimp only
  rw [sent_eq]
  apply Batch.Reader.receive_send (reader atoms _ _)
  intro b
  cases b <;> rfl

-- No branch but its own touches what a getter reads.
theorem get_frame (g : Getter) {b : Branch} (hb : b ≠ g.source) (replies : List Reply)
    (p : NETWinInfo) : g.get (b.read atoms replies p).1 = g.get p := by
  cases b with
  | xawmState | hints | windowClass =>
      -- These read nothing of a property that is missing or too short.
      unfold Branch.read
      dsimp only
      split <;> cases g <;> first | rfl | exact absurd rfl hb
  | _ => cases g <;> first | rfl | exact absurd rfl hb

end Update

/-! ## The hints -/

/-- The parts of `WM_HINTS` that are kept. -/
inductive Hint where
  | input | initialMappingState | iconPixmap | iconMask | windowGroup | urgency
deriving DecidableEq, Repr

namespace Hint

def flag : Hint → Property2
  | .input => .input
  | .initialMappingState => .initialMappingState
  | .iconPixmap | .iconMask => .iconPixmap
  | .windowGroup => .groupLeader
  | .urgency => .urgency

/-- Whether a well-formed value has the part; it always says whether it is urgent. -/
def carriedBy (hints : WMHints) : Hint → Bool
  | .input => hints.has 0
  | .initialMappingState => hints.has 1
  | .iconPixmap => hints.has 2
  | .iconMask => hints.has 5
  | .windowGroup => hints.has 6
  | .urgency => true

/-- Whether the part has the value that the constructor sets. -/
def isDefault (hints : WMHints) : Hint → Bool
  | .input => hints.input ≠ 0
  | .initialMappingState => mappingStateOf hints.initialState = .withdrawn
  | .iconPixmap => hints.iconPixmap = 0
  | .iconMask => hints.iconMask = 0
  | .windowGroup => hints.windowGroup = 0
  | .urgency => !hints.has 8

def getter : Hint → Getter
  | .input => .input
  | .initialMappingState => .initialMappingState
  | .iconPixmap => .icccmIconPixmap
  | .iconMask => .icccmIconPixmapMask
  | .windowGroup => .groupLeader
  | .urgency => .urgency

/-- Whether `WM_HINTS`, well-formed or not, has the part. -/
def carried (hints : Option WMHints) (hint : Hint) : Bool :=
  match hints with
  | some value => hint.carriedBy value
  | none => false

end Hint

namespace Getter

def hint : Getter → Option Hint
  | .input => some .input
  | .initialMappingState => some .initialMappingState
  | .icccmIconPixmap => some .iconPixmap
  | .icccmIconPixmapMask => some .iconMask
  | .groupLeader => some .windowGroup
  | .urgency => some .urgency
  | _ => none

/-- Whether the replies determine what the getter returns. -/
def carried (g : Getter) (replies : List Reply) : Bool :=
  match g.hint with
  | some hint => hint.carried (hints? (replies.getD 0 none))
  | none => true

end Getter

theorem Getter.eq_getter {g : Getter} {hint : Hint} (h : g.hint = some hint) : g = hint.getter := by
  cases g <;> cases h <;> rfl

theorem readHints_carried (hint : Hint) {value : WMHints} (h : hint.carriedBy value = true)
    (p q : NETWinInfo) :
    hint.getter.get (p.readHints value) = hint.getter.get (q.readHints value) := by
  cases hint with
  | urgency => rfl
  | _ => exact (if_pos h).trans (if_pos h).symm

theorem readHints_kept (hint : Hint) {value : WMHints} (h : hint.carriedBy value = false)
    (p : NETWinInfo) : hint.getter.get (p.readHints value) = hint.getter.get p := by
  cases hint with
  | urgency => nomatch h
  | _ => exact if_neg (Bool.eq_false_iff.mp h)

section Read

variable (atoms : Atoms)

theorem read_hints (replies : List Reply) (p : NETWinInfo) :
    (Branch.hints.read atoms replies p).1 =
      match hints? (replies.getD 0 none) with
      | some value => p.readHints value
      | none => p := by
  unfold Branch.read
  dsimp only
  cases hints? (replies.getD 0 none) <;> rfl

-- A value that the replies carry does not depend on what was there before.
theorem get_carried (g : Getter) {replies : List Reply} (h : g.carried replies = true)
    (p q : NETWinInfo) :
    g.get (g.source.read atoms replies p).1 = g.get (g.source.read atoms replies q).1 := by
  cases hhint : g.hint with
  | some hint =>
      unfold Getter.carried at h
      rw [hhint] at h
      rw [Getter.eq_getter hhint]
      have hsource : hint.getter.source = .hints := by cases hint <;> rfl
      rw [hsource, read_hints, read_hints]
      cases hvalue : hints? (replies.getD 0 none) with
      | none => rw [hvalue] at h; nomatch h
      | some value =>
          rw [hvalue] at h
          exact readHints_carried hint h p q
  | none =>
      cases g with
      | mappingState =>
          show Getter.get _ (Branch.read atoms .xawmState replies p).1 =
            Getter.get _ (Branch.read atoms .xawmState replies q).1
          unfold Branch.read
          dsimp only
          split <;> rfl
      | windowClassName =>
          show Getter.get _ (Branch.read atoms .windowClass replies p).1 =
            Getter.get _ (Branch.read atoms .windowClass replies q).1
          unfold Branch.read
          dsimp only
          split <;> rfl
      | windowClassClass =>
          show Getter.get _ (Branch.read atoms .windowClass replies p).1 =
            Getter.get _ (Branch.read atoms .windowClass replies q).1
          unfold Branch.read
          dsimp only
          split <;> rfl
      | _ => first | rfl | cases hhint

-- A hint that the reply does not carry stays as it was.
theorem get_kept (g : Getter) {replies : List Reply} (h : g.carried replies = false)
    (p : NETWinInfo) : g.get (g.source.read atoms replies p).1 = g.get p := by
  cases hhint : g.hint with
  | none =>
      unfold Getter.carried at h
      rw [hhint] at h
      nomatch h
  | some hint =>
      unfold Getter.carried at h
      rw [hhint] at h
      rw [Getter.eq_getter hhint]
      have hsource : hint.getter.source = .hints := by cases hint <;> rfl
      rw [hsource, read_hints]
      cases hvalue : hints? (replies.getD 0 none) with
      | none => rfl
      | some value =>
          rw [hvalue] at h
          exact readHints_kept hint h p

-- What a getter returns after an update: what its branch reads, if the branch is read at all.
theorem get_update (g : Getter) (p : NETWinInfo) (display : Display) (properties properties2 : Flags) :
    g.get (p.update atoms display properties properties2).1 =
      if g.source.wanted (dirtyFlags properties p.properties) (properties2 &&& p.properties2)
      then g.get (g.source.read atoms
        ((g.source.requests atoms p.window).map display.answer) p).1
      else g.get p := by
  rw [update_eq_run]
  have hrun := Batch.Reader.view_run
    (reader atoms (dirtyFlags properties p.properties) (properties2 &&& p.properties2))
    (Branch.requests atoms p.window) display.answer g.get g.source
    (fun b replies q hb => get_frame atoms g hb replies q)
  rw [hrun]
  · exact apply_ite (fun q : NETWinInfo × List WinSignal => g.get q.1) _ _ _
  · intro replies q q' hq
    cases h : g.carried replies with
    | true => exact get_carried atoms g h q q'
    | false => exact (get_kept atoms g h q).trans (hq.trans (get_kept atoms g h q').symm)
  · decide
  · cases g.source <;> decide

/-- What an update never changes. -/
def SameWindow (p q : NETWinInfo) : Prop :=
  q.window = p.window ∧ q.properties = p.properties ∧ q.properties2 = p.properties2 ∧ q.role = p.role

theorem read_sameWindow (b : Branch) (replies : List Reply) (p : NETWinInfo) :
    SameWindow p (b.read atoms replies p).1 := by
  cases b with
  | xawmState =>
      unfold Branch.read
      dsimp only
      split <;> exact ⟨rfl, rfl, rfl, rfl⟩
  | hints =>
      unfold Branch.read
      dsimp only
      split <;> exact ⟨rfl, rfl, rfl, rfl⟩
  | windowClass =>
      unfold Branch.read
      dsimp only
      split <;> exact ⟨rfl, rfl, rfl, rfl⟩
  | _ => exact ⟨rfl, rfl, rfl, rfl⟩

theorem update_sameWindow (p : NETWinInfo) (display : Display) (properties properties2 : Flags) :
    SameWindow p (p.update atoms display properties properties2).1 := by
  rw [update_eq_run]
  apply run_invariant (SameWindow p) _ ⟨rfl, rfl, rfl, rfl⟩ (along_true p readOrder)
  intro q b hq _
  unfold Batch.Reader.step
  split
  · have hread := read_sameWindow atoms b
      ((Branch.requests atoms p.window b).map display.answer) q
    exact ⟨hread.1.trans hq.1, hread.2.1.trans hq.2.1, hread.2.2.1.trans hq.2.2.1,
      hread.2.2.2.trans hq.2.2.2⟩
  · exact hq

end Read

/-! ## Flags -/

theorem wanted_of_flagged (g : Getter) {dirty dirty2 : Flags}
    (h : flagged dirty dirty2 g.flag = true) : g.source.wanted dirty dirty2 = true := by
  cases hhint : g.hint with
  | none => cases g <;> first | exact h | cases hhint
  | some hint =>
      rw [Getter.eq_getter hhint] at h ⊢
      cases hint <;>
        simp_all [Hint.getter, Getter.flag, Getter.source, flagged, Branch.wanted, hasHints]

theorem flagged_dirtyFlags {f : Property ⊕ Property2} {dirty dirty2 properties properties2 : Flags}
    (hdirty : flagged dirty dirty2 f = true) (hasked : flagged properties properties2 f = true) :
    flagged (dirtyFlags dirty properties) (dirty2 &&& properties2) f = true := by
  cases f with
  | inl f =>
      replace hdirty : dirty.has f = true := hdirty
      replace hasked : properties.has f = true := hasked
      show (dirtyFlags dirty properties).has f = true
      unfold dirtyFlags
      dsimp only
      split <;> simp [hdirty, hasked]
  | inr f =>
      show (dirty2 &&& properties2).has f = true
      rw [Flags.has_and, show dirty2.has f = true from hdirty,
        show properties2.has f = true from hasked]
      rfl

-- The notification about a property that a branch reads marks everything that the branch writes.
theorem notify_flagged (atoms : Atoms) (g : Getter) {name : AtomName} (hname : name ∈ g.source.names) :
    let dirty := (lookupAtom atoms.value notifyChain (atoms.value name)).getD {}
    flagged dirty.properties dirty.properties2 g.flag = true := by
  rw [lookupAtom_value atoms.value_injective]
  revert name
  cases g <;> decide

/-! ## Changes of the window -/

/-- A change and the delivery of its notification. -/
def changeStep (atoms : Atoms) (window : XcbWindow) (s : Display × NETWinInfo) (c : Change) :
    (Display × NETWinInfo) × List WinSignal :=
  let display := c.apply window s.1
  let now := (s.2.event atoms display (.propertyNotify c.atom)).1
  ((display, now.1), now.2)

/-- `WM_HINTS` as it is read from a property. -/
def hintsAt (property : Option XProperty) : Option WMHints := hints? (getProperty property .wmHints 9)

/-- Every hint asked for that the old value of `WM_HINTS` has, and not just at its default, is one
that the new value has too. -/
def HintsCovered (properties2 : Flags) (old new : Option WMHints) : Prop :=
  ∀ hint : Hint, properties2.has hint.flag = true →
    hint.carried new = true ∨
      ∀ value, old = some value → hint.carriedBy value = true → hint.isDefault value = true

section Agreement

variable (atoms : Atoms) (root : XcbWindow) (properties properties2 : Flags) (role : Role)

/-- Every getter whose value is asked for returns what that of a new object would. -/
def Agrees (s : Display × NETWinInfo) : Prop :=
  ∀ g : Getter, flagged properties properties2 g.flag = true →
    g.get s.2 = g.get (new atoms s.1 s.2.window root properties properties2 role)

/-- An object that has read nothing. -/
def unread (window : XcbWindow) : NETWinInfo :=
  { role, window, root, properties, properties2 }

variable {root properties properties2 role}

theorem get_new (g : Getter) (hasked : flagged properties properties2 g.flag = true)
    (display : Display) (window : XcbWindow) :
    g.get (new atoms display window root properties properties2 role) =
      g.get (g.source.read atoms ((g.source.requests atoms window).map display.answer)
        (unread root properties properties2 role window)).1 := by
  show g.get ((unread root properties properties2 role window).update atoms display properties
    properties2).1 = _
  rw [get_update]
  exact if_pos (wanted_of_flagged g (flagged_dirtyFlags hasked hasked))

-- The default of a hint is what an object that has read nothing has.
theorem isDefault_iff (hint : Hint) {value : WMHints} (h : hint.carriedBy value = true)
    (window : XcbWindow) :
    hint.getter.get ((unread root properties properties2 role window).readHints value) =
        hint.getter.get (unread root properties properties2 role window) ↔
      hint.isDefault value = true := by
  cases hint with
  | urgency =>
      show value.has 8 = false ↔ (!value.has 8) = true
      cases value.has 8 <;> decide
  | input =>
      replace h : value.has 0 = true := h
      show (if value.has 0 then decide (value.input ≠ 0) else true) = true ↔ _
      rw [if_pos h]
      exact Iff.rfl
  | initialMappingState =>
      replace h : value.has 1 = true := h
      show (if value.has 1 then mappingStateOf value.initialState else .withdrawn) = .withdrawn ↔
        decide (mappingStateOf value.initialState = .withdrawn) = true
      rw [if_pos h, decide_eq_true_iff]
  | iconPixmap =>
      replace h : value.has 2 = true := h
      show (if value.has 2 then value.iconPixmap else 0) = 0 ↔ decide (value.iconPixmap = 0) = true
      rw [if_pos h, decide_eq_true_iff]
  | iconMask =>
      replace h : value.has 5 = true := h
      show (if value.has 5 then value.iconMask else 0) = 0 ↔ decide (value.iconMask = 0) = true
      rw [if_pos h, decide_eq_true_iff]
  | windowGroup =>
      replace h : value.has 6 = true := h
      show (if value.has 6 then value.windowGroup else 0) = 0 ↔ decide (value.windowGroup = 0) = true
      rw [if_pos h, decide_eq_true_iff]

-- The answers to a branch's requests do not depend on properties that it does not name.
theorem answers_apply (window : XcbWindow) (display : Display) (c : Change) {b : Branch}
    (hatom : c.atom ∉ b.names.map atoms.value) :
    (b.requests atoms window).map (c.apply window display).answer =
      (b.requests atoms window).map display.answer := by
  unfold Branch.requests
  rw [List.map_map, List.map_map]
  apply List.map_congr_left
  intro name hname
  have hne : atoms.value name ≠ c.atom := fun h => hatom (h ▸ List.mem_map_of_mem hname)
  have happly : c.apply window display window (atoms.value name) =
      display window (atoms.value name) := by
    unfold Change.apply
    rw [if_pos rfl, Function.update_of_ne hne]
  show getProperty (c.apply window display window (atoms.value name)) _ _ = _
  rw [happly]
  rfl

-- One getter after a change.
theorem agrees_getter {p : NETWinInfo} (hproperties : p.properties = properties)
    (hproperties2 : p.properties2 = properties2) (g : Getter)
    (hasked : flagged properties properties2 g.flag = true) (display : Display) (c : Change)
    (hagree : g.get p = g.get (new atoms display p.window root properties properties2 role)) :
    let after := c.apply p.window display
    let answers := (g.source.requests atoms p.window).map after.answer
    let fresh := unread root properties properties2 role p.window
    g.get (p.event atoms after (.propertyNotify c.atom)).1.1 =
        g.get (new atoms after p.window root properties properties2 role) ↔
      (c.atom ∈ g.source.names.map atoms.value → g.carried answers = true ∨
        g.get (new atoms display p.window root properties properties2 role) = g.get fresh) := by
  dsimp only
  generalize hreplies :
    (g.source.requests atoms p.window).map (c.apply p.window display).answer = replies
  have hevent : g.get (p.event atoms (c.apply p.window display) (.propertyNotify c.atom)).1.1 =
      if g.source.wanted (dirtyFlags ((lookupAtom atoms.value notifyChain c.atom).getD {}).properties
          properties)
        (((lookupAtom atoms.value notifyChain c.atom).getD {}).properties2 &&& properties2)
      then g.get (g.source.read atoms replies p).1 else g.get p := by
    rw [← hreplies, ← hproperties, ← hproperties2]
    exact get_update atoms g p _ _ _
  have hnew : g.get (new atoms (c.apply p.window display) p.window root properties properties2 role) =
      g.get (g.source.read atoms replies (unread root properties properties2 role p.window)).1 := by
    rw [get_new atoms g hasked, hreplies]
  rw [hevent, hnew]
  by_cases hatom : c.atom ∈ g.source.names.map atoms.value
  · -- The property that the getter comes from: it is read again.
    rcases List.mem_map.mp hatom with ⟨name, hname, hvalue⟩
    have hflag := flagged_dirtyFlags (notify_flagged atoms g hname) hasked
    rw [hvalue] at hflag
    rw [if_pos (wanted_of_flagged g hflag)]
    cases hcarried : g.carried replies with
    | true => simp [get_carried atoms g hcarried p (unread root properties properties2 role p.window)]
    | false =>
        rw [get_kept atoms g hcarried, get_kept atoms g hcarried, hagree]
        simp [hatom]
  · -- Another property: if the getter's is read again, then to the same value.
    have hsame : g.get p = g.get (g.source.read atoms replies
        (unread root properties properties2 role p.window)).1 := by
      rw [hagree, get_new atoms g hasked, ← hreplies, answers_apply atoms p.window display c hatom]
    have hread : g.get (g.source.read atoms replies p).1 = g.get (g.source.read atoms replies
        (unread root properties properties2 role p.window)).1 := by
      cases hcarried : g.carried replies with
      | true => exact get_carried atoms g hcarried _ _
      | false => rw [get_kept atoms g hcarried, hsame]
    have hnotify : (c.atom ∈ g.source.names.map atoms.value → g.carried replies = true ∨
        g.get (new atoms display p.window root properties properties2 role) =
          g.get (unread root properties properties2 role p.window)) := fun h => absurd h hatom
    apply iff_of_true _ hnotify
    split
    · exact hread
    · exact hsame

-- What a new object makes of a hint is its default exactly if the window has no other value.
theorem fresh_hint_iff (hint : Hint) (hasked : properties2.has hint.flag = true) (display : Display)
    (window : XcbWindow) :
    hint.getter.get (new atoms display window root properties properties2 role) =
        hint.getter.get (unread root properties properties2 role window) ↔
      ∀ value, hintsAt (display window .wmHints) = some value → hint.carriedBy value = true →
        hint.isDefault value = true := by
  have hflag : flagged properties properties2 hint.getter.flag = true := by cases hint <;> exact hasked
  have hsource : hint.getter.source = .hints := by cases hint <;> rfl
  rw [get_new atoms hint.getter hflag, hsource, read_hints]
  show hint.getter.get (match hintsAt (display window .wmHints) with
    | some value => (unread root properties properties2 role window).readHints value
    | none => unread root properties properties2 role window) = _ ↔ _
  cases hintsAt (display window .wmHints) with
  | none => exact iff_of_true rfl fun value h => nomatch h
  | some value =>
      dsimp only
      cases h : hint.carriedBy value with
      | true =>
          rw [isDefault_iff hint h]
          apply Iff.intro
          · intro hdefault v hv _
            exact Option.some.inj hv ▸ hdefault
          · intro hall
            exact hall value rfl h
      | false =>
          apply iff_of_true (readHints_kept hint h _)
          intro v hv hcarried
          rw [← Option.some.inj hv, h] at hcarried
          nomatch hcarried

-- One change keeps the agreement exactly if it does not take a hint away.
theorem agrees_step {s : Display × NETWinInfo} (hproperties : s.2.properties = properties)
    (hproperties2 : s.2.properties2 = properties2)
    (hagree : Agrees atoms root properties properties2 role s) (c : Change) :
    Agrees atoms root properties properties2 role (changeStep atoms s.2.window s c).1 ↔
      (c.atom = .wmHints →
        HintsCovered properties2 (hintsAt (s.1 s.2.window .wmHints)) (hintsAt c.value)) := by
  have hwindow : (changeStep atoms s.2.window s c).1.2.window = s.2.window :=
    (update_sameWindow atoms s.2 _ _ _).1
  have hgetter := fun g hasked =>
    agrees_getter atoms hproperties hproperties2 g hasked s.1 c (hagree g hasked)
  have hnew : c.atom = .wmHints → hints? ((c.apply s.2.window s.1).answer
      ⟨s.2.window, .wmHints, .wmHints, 9⟩) = hintsAt c.value := by
    intro hatom
    show hints? (getProperty (c.apply s.2.window s.1 s.2.window .wmHints) _ _) = _
    unfold Change.apply
    rw [if_pos rfl, ← hatom, Function.update_self, hatom]
    rfl
  unfold Agrees
  rw [hwindow]
  apply Iff.intro
  · intro hafter hatom hint hasked
    have hflag : flagged properties properties2 hint.getter.flag = true := by
      cases hint <;> exact hasked
    have hmem : c.atom ∈ hint.getter.source.names.map atoms.value := by
      cases hint <;> exact List.mem_singleton.mpr hatom
    have hkept := (hgetter hint.getter hflag).mp (hafter hint.getter hflag) hmem
    rw [fresh_hint_iff atoms hint hasked] at hkept
    rw [← hnew hatom]
    cases hint <;> exact hkept
  · intro hcovered g hasked
    apply (hgetter g hasked).mpr
    intro hmem
    cases hhint : g.hint with
    | none =>
        apply Or.inl
        unfold Getter.carried
        rw [hhint]
    | some hint =>
        rw [Getter.eq_getter hhint] at hmem hasked ⊢
        have hatom : c.atom = .wmHints := by cases hint <;> exact List.mem_singleton.mp hmem
        have hflag : properties2.has hint.flag = true := by cases hint <;> exact hasked
        have hkept := hcovered hatom hint hflag
        rw [← hnew hatom] at hkept
        rw [fresh_hint_iff atoms hint hflag]
        cases hint <;> exact hkept

/-- The run of changes from a new object on. -/
def lifeOf (atoms : Atoms) (root : XcbWindow) (properties properties2 : Flags) (role : Role)
    (window : XcbWindow) (display : Display) (changes : List Change) : Display × NETWinInfo :=
  (run (changeStep atoms window)
    (display, new atoms display window root properties properties2 role) changes).1

theorem new_sameWindow (window : XcbWindow) (display : Display) :
    SameWindow (unread root properties properties2 role window)
      (new atoms display window root properties properties2 role) :=
  update_sameWindow atoms (unread root properties properties2 role window) display properties
    properties2

theorem agrees_new (window : XcbWindow) (display : Display) :
    Agrees atoms root properties properties2 role
      (display, new atoms display window root properties properties2 role) := by
  intro g _
  show g.get (new atoms display window root properties properties2 role) = _
  rw [show (new atoms display window root properties properties2 role).window = window from
    (new_sameWindow atoms window display).1]

/-- A long-lived object agrees with a fresh one in every state of a run exactly if no change of
`WM_HINTS` on the way leaves out a hint asked for that the window had. -/
theorem agrees_iff_hintsCovered (window : XcbWindow) (display : Display) (changes : List Change) :
    (∀ n, Agrees atoms root properties properties2 role
        (lifeOf atoms root properties properties2 role window display (changes.take n))) ↔
      Along (changeStep atoms window)
        (fun s c => c.atom = .wmHints →
          HintsCovered properties2 (hintsAt (s.1 window .wmHints)) (hintsAt c.value))
        (display, new atoms display window root properties properties2 role) changes := by
  apply always_iff_along (fun s : Display × NETWinInfo => s.2.window = window ∧
    s.2.properties = properties ∧ s.2.properties2 = properties2)
  · intro s c h
    have hstep := update_sameWindow atoms s.2 (c.apply window s.1)
      ((lookupAtom atoms.value notifyChain c.atom).getD {}).properties
      ((lookupAtom atoms.value notifyChain c.atom).getD {}).properties2
    exact ⟨hstep.1.trans h.1, hstep.2.1.trans h.2.1, hstep.2.2.1.trans h.2.2⟩
  · intro s c h hagree
    rw [← h.1]
    exact agrees_step atoms h.2.1 h.2.2 hagree c
  · have hnew : SameWindow (unread root properties properties2 role window) _ :=
      new_sameWindow atoms window display
    exact ⟨hnew.1, hnew.2.1, hnew.2.2.1⟩
  · exact agrees_new atoms window display

-- The first change of a new object.
theorem agrees_first (window : XcbWindow) (display : Display) (c : Change) :
    Agrees atoms root properties properties2 role
        (lifeOf atoms root properties properties2 role window display [c]) ↔
      (c.atom = .wmHints →
        HintsCovered properties2 (hintsAt (display window .wmHints)) (hintsAt c.value)) := by
  have hsame : SameWindow (unread root properties properties2 role window)
      (new atoms display window root properties properties2 role) :=
    new_sameWindow atoms window display
  have hstep := agrees_step atoms hsame.2.1 hsame.2.2.1 (agrees_new atoms window display) c
  rw [hsame.1] at hstep
  exact hstep

/-- A window that says that it takes no input. -/
def noInput : Display := fun w atom =>
  if w = 1 ∧ atom = .wmHints then some ⟨.wmHints, .data32 [1, 0, 0, 0, 0, 0, 0, 0, 0]⟩ else none

/-- When its hints are deleted, the old object still says so. -/
theorem hints_left_behind :
    ¬ Agrees .inOrder 2 0 (mask Property2.input) .client
      (lifeOf .inOrder 2 0 (mask Property2.input) .client 1 noInput [⟨.wmHints, none⟩]) := by
  rw [agrees_first]
  intro hcovered
  have hinput := hcovered rfl .input (by decide)
  have hvalue := hinput.resolve_left (by decide) ⟨1, 0, 0, 0, 0, 0, 0, 0, 0⟩ rfl (by decide)
  exact absurd hvalue (by decide)

end Agreement

end NETWinInfo

end KWindowSystem
