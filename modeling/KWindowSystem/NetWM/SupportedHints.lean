import KWindowSystem.NetWM.RootCache

/-!
# The supported hints

What a window manager writes to `_NET_SUPPORTED`, and which of its hints a client has when it has read the
list.  `updateSupportedProperties` knows the atoms of the two application menu properties, but
`setSupported` never writes them.
-/

open Machine Qt

namespace KWindowSystem

open NET

namespace NETRootInfo

namespace Supported

/-- The property whose branch of `setSupported` an item is in. -/
def group : Supported → Option Supported
  | .windowType _ => some (.property .wmWindowType)
  | .state _ => some (.property .wmState)
  | .action _ => some (.property2 .allowedActions)
  | _ => none

end Supported

def isSupported (p : NETRootInfo) : Supported → Bool
  | .property q => p.properties.has q
  | .property2 q => p.properties2.has q
  | .windowType t => p.windowTypes.has t
  | .state s => p.states.has s
  | .action a => p.actions.has a

/-- A type, a state or an action counts only if the property it is a value of is supported. -/
def counts (p : NETRootInfo) (x : Supported) : Bool :=
  p.isSupported x && x.group.all p.isSupported

/-! ## The window manager's side -/

/-- The branches of `setSupported` up to the window types, each with the atoms it adds. -/
def rootAndWindowEntries : List (Supported × List KwsAtom) :=
  [(.property .clientList, [.netClientList]),
    (.property .clientListStacking, [.netClientListStacking]),
    (.property .numberOfDesktops, [.netNumberOfDesktops]),
    (.property .desktopGeometry, [.netDesktopGeometry]),
    (.property .desktopViewport, [.netDesktopViewport]),
    (.property .currentDesktop, [.netCurrentDesktop]),
    (.property .desktopNames, [.netDesktopNames]),
    (.property .activeWindow, [.netActiveWindow]),
    (.property .workArea, [.netWorkarea]),
    (.property .virtualRoots, [.netVirtualRoots]),
    (.property2 .desktopLayout, [.netDesktopLayout]),
    (.property .closeWindow, [.netCloseWindow]),
    (.property2 .restackWindow, [.netRestackWindow]),
    (.property2 .showingDesktop, [.netShowingDesktop]),
    (.property .wmMoveResize, [.netWmMoveresize]),
    (.property2 .moveResizeWindow, [.netMoveresizeWindow]),
    (.property .wmName, [.netWmName]),
    (.property .wmVisibleName, [.netWmVisibleName]),
    (.property .wmIconName, [.netWmIconName]),
    (.property .wmVisibleIconName, [.netWmVisibleIconName]),
    (.property .wmDesktop, [.netWmDesktop])]

def windowTypeEntries : List (Supported × List KwsAtom) :=
  [(.windowType .normal, [.netWmWindowTypeNormal]),
    (.windowType .desktop, [.netWmWindowTypeDesktop]),
    (.windowType .dock, [.netWmWindowTypeDock]),
    (.windowType .toolbar, [.netWmWindowTypeToolbar]),
    (.windowType .menu, [.netWmWindowTypeMenu]),
    (.windowType .dialog, [.netWmWindowTypeDialog]),
    (.windowType .utility, [.netWmWindowTypeUtility]),
    (.windowType .splash, [.netWmWindowTypeSplash]),
    (.windowType .dropdownMenu, [.netWmWindowTypeDropdownMenu]),
    (.windowType .popupMenu, [.netWmWindowTypePopupMenu]),
    (.windowType .tooltip, [.netWmWindowTypeTooltip]),
    (.windowType .notification, [.netWmWindowTypeNotification]),
    (.windowType .comboBox, [.netWmWindowTypeCombo]),
    (.windowType .dndIcon, [.netWmWindowTypeDnd]),
    (.windowType .override, [.kdeNetWmWindowTypeOverride]),
    (.windowType .topMenu, [.kdeNetWmWindowTypeTopmenu]),
    (.windowType .onScreenDisplay, [.kdeNetWmWindowTypeOnScreenDisplay]),
    (.windowType .criticalNotification, [.kdeNetWmWindowTypeCriticalNotification]),
    (.windowType .appletPopup, [.kdeNetWmWindowTypeAppletPopup])]

def stateEntries : List (Supported × List KwsAtom) :=
  [(.state .modal, [.netWmStateModal]),
    (.state .sticky, [.netWmStateSticky]),
    (.state .maxVert, [.netWmStateMaximizedVert]),
    (.state .maxHoriz, [.netWmStateMaximizedHorz]),
    (.state .shaded, [.netWmStateShaded]),
    (.state .skipTaskbar, [.netWmStateSkipTaskbar]),
    (.state .skipPager, [.netWmStateSkipPager]),
    (.state .skipSwitcher, [.kdeNetWmStateSkipSwitcher]),
    (.state .hidden, [.netWmStateHidden]),
    (.state .fullScreen, [.netWmStateFullscreen]),
    -- The second is the deprecated variant.
    (.state .keepAbove, [.netWmStateAbove, .netWmStateStaysOnTop]),
    (.state .keepBelow, [.netWmStateBelow]),
    (.state .demandsAttention, [.netWmStateDemandsAttention]),
    (.state .focused, [.netWmStateFocused])]

/-- The branches between those of the states and of the actions. -/
def windowEntries : List (Supported × List KwsAtom) :=
  [(.property .wmStrut, [.netWmStrut]),
    (.property2 .extendedStrut, [.netWmStrutPartial]),
    (.property .wmIconGeometry, [.netWmIconGeometry]),
    (.property .wmIcon, [.netWmIcon]),
    (.property .wmPid, [.netWmPid]),
    (.property .wmHandledIcons, [.netWmHandledIcons]),
    (.property .wmPing, [.netWmPing]),
    (.property2 .userTime, [.netWmUserTime]),
    (.property2 .startupId, [.netStartupId]),
    (.property2 .opacity, [.netWmWindowOpacity]),
    (.property2 .fullscreenMonitors, [.netWmFullscreenMonitors])]

def actionEntries : List (Supported × List KwsAtom) :=
  [(.action .move, [.netWmActionMove]),
    (.action .resize, [.netWmActionResize]),
    (.action .minimize, [.netWmActionMinimize]),
    (.action .shade, [.netWmActionShade]),
    (.action .stick, [.netWmActionStick]),
    (.action .maxVert, [.netWmActionMaximizeVert]),
    (.action .maxHoriz, [.netWmActionMaximizeHorz]),
    (.action .fullScreen, [.netWmActionFullscreen]),
    (.action .changeDesktop, [.netWmActionChangeDesktop]),
    (.action .close, [.netWmActionClose])]

/-- The branches behind the actions. -/
def frameEntries : List (Supported × List KwsAtom) :=
  [(.property .wmFrameExtents, [.netFrameExtents, .kdeNetWmFrameStrut]),
    (.property2 .frameOverlap, [.netWmFrameOverlap]),
    (.property2 .kdeTemporaryRules, [.kdeNetWmTemporaryRules]),
    (.property2 .fullPlacement, [.netWmFullPlacement]),
    (.property2 .activities, [.kdeNetWmActivities]),
    (.property2 .blockCompositing, [.kdeNetWmBlockCompositing, .netWmBypassCompositor]),
    (.property2 .kdeShadow, [.kdeNetWmShadow]),
    (.property2 .opaqueRegion, [.netWmOpaqueRegion]),
    (.property2 .gtkFrameExtents, [.gtkFrameExtents]),
    (.property2 .gtkShowWindowMenu, [.gtkShowWindowMenu])]

section Write

variable (atoms : Atoms) (p : NETRootInfo)

/-- The branches in a row: each adds its atoms if its item is supported. -/
def offer (entries : List (Supported × List KwsAtom)) : List KwsAtom :=
  entries.flatMap fun e => if p.isSupported e.1 then e.2 else []

/-- A branch with further branches inside. -/
def offerGroup (property : Supported) (atom : KwsAtom) (entries : List (Supported × List KwsAtom)) :
    List KwsAtom :=
  if p.isSupported property then atom :: p.offer entries else []

/-- The array that `setSupported` fills. -/
def supportedAtoms : List KwsAtom :=
  [.netSupported, .netSupportingWmCheck] ++
    (p.offer rootAndWindowEntries ++
    (p.offerGroup (.property .wmWindowType) .netWmWindowType windowTypeEntries ++
    (p.offerGroup (.property .wmState) .netWmState stateEntries ++
    (p.offer windowEntries ++
    (p.offerGroup (.property2 .allowedActions) .netWmAllowedActions actionEntries ++
    p.offer frameEntries)))))

/-- `setSupported()`: the properties that it sets, each with its window. -/
def setSupported : List (XcbWindow × Change) :=
  if p.role ≠ .windowManager then []
  else
    let check : Change :=
      ⟨atoms.atom .netSupportingWmCheck, some ⟨.window, .data32 [p.supportwindow]⟩⟩
    [(p.root, ⟨atoms.atom .netSupported, some ⟨.atom, .data32 (p.supportedAtoms.map atoms.atom)⟩⟩),
      (p.root, check), (p.supportwindow, check),
      (p.supportwindow,
        ⟨atoms.atom .netWmName, some ⟨atoms.atom .utf8String, .data8 (p.name.getD [])⟩⟩)]

/-- `|=` of the flag of an item. -/
def addSupported : Supported → NETRootInfo
  | .property q => { p with properties := p.properties ||| mask q }
  | .property2 q => { p with properties2 := p.properties2 ||| mask q }
  | .windowType t => { p with windowTypes := p.windowTypes ||| mask t }
  | .state s => { p with states := p.states ||| mask s }
  | .action a => { p with actions := p.actions ||| mask a }

/-- `&= ~` of the flag of an item. -/
def removeSupported : Supported → NETRootInfo
  | .property q => { p with properties := p.properties &&& ~~~mask q }
  | .property2 q => { p with properties2 := p.properties2 &&& ~~~mask q }
  | .windowType t => { p with windowTypes := p.windowTypes &&& ~~~mask t }
  | .state s => { p with states := p.states &&& ~~~mask s }
  | .action a => { p with actions := p.actions &&& ~~~mask a }

/-- `setSupported(item, on)`, which writes the list again when it changes something. -/
def setSupportedItem (x : Supported) (on : Bool) : NETRootInfo × List (XcbWindow × Change) :=
  if p.role ≠ .windowManager then (p, [])
  else if on ∧ ¬p.isSupported x then (p.addSupported x, (p.addSupported x).setSupported atoms)
  else if ¬on ∧ p.isSupported x then (p.removeSupported x, (p.removeSupported x).setSupported atoms)
  else (p, [])

end Write

/-! ## A window manager at its display -/

/-- A window manager, the display, and the list of hints that is on the root window. -/
structure Hints where
  display : Display
  manager : NETRootInfo

/-- What `setSupported(item, on)` is called with. -/
structure HintCall where
  item : Supported
  on : Bool

namespace Hints

variable (atoms : Atoms)

def write (changes : List (XcbWindow × Change)) (display : Display) : Display :=
  changes.foldl (fun display change => change.2.apply change.1 display) display

def call (s : Hints) (c : HintCall) : Hints :=
  let set := s.manager.setSupportedItem atoms c.item c.on
  { manager := set.1, display := write set.2 s.display }

/-- A window manager is constructed and activated. -/
def start (display : Display) (root supportWindow : XcbWindow) (wmName : QByteArray)
    (properties windowTypes states properties2 actions : Flags) : Hints :=
  let manager :=
    newWindowManager root supportWindow wmName properties windowTypes states properties2 actions
  let display := write (manager.setSupported atoms) display
  let updated := manager.update atoms display manager.clientProperties manager.clientProperties2
  { manager := updated.1, display }

/-! ## What the list says -/

end Hints

/-- All branches of `setSupported`, those inside others with their atoms alone. -/
def encoded : List (Supported × List KwsAtom) :=
  rootAndWindowEntries ++ ((.property .wmWindowType, [.netWmWindowType]) :: windowTypeEntries ++
    ((.property .wmState, [.netWmState]) :: stateEntries ++ (windowEntries ++
      ((.property2 .allowedActions, [.netWmAllowedActions]) :: actionEntries ++ frameEntries))))

/-- The items that `setSupported` has a branch for. -/
def Supported.Written (x : Supported) : Prop := ∃ e ∈ encoded, e.1 = x

instance : DecidablePred Supported.Written := fun _ => inferInstanceAs (Decidable (∃ e ∈ encoded, _))

/-- The items that `updateSupportedProperties` has a branch for. -/
def Supported.Recognised (x : Supported) : Prop := ∃ e ∈ supportedChain, e.2 = x

instance : DecidablePred Supported.Recognised :=
  fun _ => inferInstanceAs (Decidable (∃ e ∈ supportedChain, _))

/-- The two items whose atoms are in every list. -/
def Supported.Forced (x : Supported) : Prop :=
  x = .property .supported ∨ x = .property .supportingWMCheck

instance : DecidablePred Supported.Forced := fun _ => inferInstanceAs (Decidable (_ ∨ _))

section Members

variable (p : NETRootInfo)

theorem mem_offer (entries : List (Supported × List KwsAtom)) (name : KwsAtom) :
    name ∈ p.offer entries ↔ ∃ e ∈ entries, p.isSupported e.1 = true ∧ name ∈ e.2 := by
  unfold offer
  rw [List.mem_flatMap]
  apply exists_congr
  intro e
  apply and_congr_right
  intro _
  split <;> simp_all

-- Entries that stand in no other branch count when they are supported.
theorem mem_offer_single {entries : List (Supported × List KwsAtom)}
    (h : ∀ e ∈ entries, e.1.group = none) (name : KwsAtom) :
    name ∈ p.offer entries ↔ ∃ e ∈ entries, p.counts e.1 = true ∧ name ∈ e.2 := by
  rw [mem_offer]
  apply exists_congr
  intro e
  apply and_congr_right
  intro he
  simp [counts, h e he]

-- Entries inside a branch count when the property of the branch is supported as well.
theorem mem_offerGroup {property : Supported} (hproperty : property.group = none)
    {entries : List (Supported × List KwsAtom)} (h : ∀ e ∈ entries, e.1.group = some property)
    (atom name : KwsAtom) :
    name ∈ p.offerGroup property atom entries ↔
      ∃ e ∈ (property, [atom]) :: entries, p.counts e.1 = true ∧ name ∈ e.2 := by
  have hentries : ∀ e ∈ entries, p.counts e.1 = (p.isSupported e.1 && p.isSupported property) := by
    intro e he
    simp [counts, h e he]
  unfold offerGroup
  by_cases hsupported : p.isSupported property = true
  · rw [if_pos hsupported, List.mem_cons, mem_offer]
    simp only [List.mem_cons, exists_eq_or_imp, List.not_mem_nil, or_false]
    apply or_congr
    · simp [counts, hproperty, hsupported]
    · apply exists_congr
      intro e
      apply and_congr_right
      intro he
      rw [hentries e he, hsupported, Bool.and_true]
  · rw [if_neg hsupported]
    apply iff_of_false List.not_mem_nil
    intro hmem
    rcases hmem with ⟨e, he, hcounts, -⟩
    rcases List.mem_cons.mp he with rfl | he
    · simp [counts, hsupported] at hcounts
    · rw [hentries e he] at hcounts
      simp [hsupported] at hcounts

-- The list holds the first two atoms and those of the items that count.
theorem mem_supportedAtoms (name : KwsAtom) :
    name ∈ p.supportedAtoms ↔ (name = .netSupported ∨ name = .netSupportingWmCheck) ∨
      ∃ e ∈ encoded, p.counts e.1 = true ∧ name ∈ e.2 := by
  unfold supportedAtoms encoded
  simp only [List.mem_append, or_and_right, exists_or]
  rw [mem_offer_single p (by decide), mem_offerGroup p rfl (by decide), mem_offerGroup p rfl (by decide),
    mem_offer_single p (by decide), mem_offerGroup p rfl (by decide), mem_offer_single p (by decide)]
  simp

theorem offer_length (entries : List (Supported × List KwsAtom)) :
    (p.offer entries).length ≤ (entries.flatMap (·.2)).length := by
  induction entries with
  | nil => exact Nat.le_refl 0
  | cons e entries ih =>
      show ((if p.isSupported e.1 then e.2 else []) ++ p.offer entries).length ≤ _
      rw [List.flatMap_cons, List.length_append, List.length_append]
      split
      · omega
      · show 0 + _ ≤ _
        omega

theorem offerGroup_length (property : Supported) (atom : KwsAtom)
    (entries : List (Supported × List KwsAtom)) :
    (p.offerGroup property atom entries).length ≤ 1 + (entries.flatMap (·.2)).length := by
  have h := offer_length p entries
  unfold offerGroup
  split
  · rw [List.length_cons]
    omega
  · exact Nat.zero_le _

-- The list fits in what a client asks for.
theorem supportedAtoms_length : p.supportedAtoms.length ≤ maxPropSize := by
  have hroot := offer_length p rootAndWindowEntries
  have htypes := offerGroup_length p (.property .wmWindowType) .netWmWindowType windowTypeEntries
  have hstates := offerGroup_length p (.property .wmState) .netWmState stateEntries
  have hwindow := offer_length p windowEntries
  have hactions := offerGroup_length p (.property2 .allowedActions) .netWmAllowedActions actionEntries
  have hframe := offer_length p frameEntries
  unfold supportedAtoms
  simp only [List.length_append, List.length_cons, List.length_nil]
  have hsize : (2 + (rootAndWindowEntries.flatMap (·.2)).length +
      (1 + (windowTypeEntries.flatMap (·.2)).length) + (1 + (stateEntries.flatMap (·.2)).length) +
      (windowEntries.flatMap (·.2)).length + (1 + (actionEntries.flatMap (·.2)).length) +
      (frameEntries.flatMap (·.2)).length) ≤ maxPropSize := by decide
  omega

end Members

/-! ## Reading the list -/

/-- The flag word of an item, and its bit. -/
def Supported.slot : Supported → Nat × Nat
  | .property q => (0, q.bit)
  | .property2 q => (1, q.bit)
  | .windowType t => (2, t.maskBit)
  | .state s => (3, s.bit)
  | .action a => (4, a.bit)

theorem has_mask {α : Type} [Flag α] (a b : α) :
    (mask a).has b = decide (Flag.bit a < 32 ∧ Flag.bit a = Flag.bit b) := by
  simp [mask, Flags.has, BitVec.getLsbD_twoPow]

theorem isSupported_addSupported (p : NETRootInfo) (y x : Supported) :
    (p.addSupported y).isSupported x =
      (p.isSupported x || decide (y.slot.2 < 32 ∧ y.slot = x.slot)) := by
  cases y with
  | property q => cases x <;> simp [addSupported, isSupported, Supported.slot, has_mask, Flag.bit]
  | property2 q => cases x <;> simp [addSupported, isSupported, Supported.slot, has_mask, Flag.bit]
  | windowType t => cases x <;> simp [addSupported, isSupported, Supported.slot, has_mask, Flag.bit]
  | state t => cases x <;> simp [addSupported, isSupported, Supported.slot, has_mask, Flag.bit]
  | action a => cases x <;> simp [addSupported, isSupported, Supported.slot, has_mask, Flag.bit]

section Read

variable (atoms : Atoms)

theorem updateSupportedProperties_eq (p : NETRootInfo) (atom : XcbAtom) :
    updateSupportedProperties atoms p atom =
      ((lookupAtom atoms.atom supportedChain atom).map p.addSupported).getD p := by
  unfold updateSupportedProperties
  cases lookupAtom atoms.atom supportedChain atom with
  | none => rfl
  | some y => cases y <;> rfl

-- Every entry of the chain is found under its name.
theorem lookup_supportedChain {e : KwsAtom × Supported} (he : e ∈ supportedChain) :
    lookupAtom atoms.atom supportedChain (atoms.atom e.1) = some e.2 := by
  have hfind : ∀ e ∈ supportedChain, supportedChain.find? (fun f => e.1 = f.1) = some e := by
    decide +kernel
  rw [lookupAtom_value atoms.injective, hfind e he]
  rfl

-- No two items of the chain share a flag.
theorem slot_supportedChain {e f : KwsAtom × Supported} (he : e ∈ supportedChain)
    (hf : f ∈ supportedChain) (h : e.2.slot = f.2.slot) : e.2 = f.2 := by
  have hfirst : ∀ e ∈ supportedChain,
      (supportedChain.find? fun f => f.2.slot = e.2.slot).map (·.2) = some e.2 := by
    decide +kernel
  have hslot := hfirst e he
  rw [h, hfirst f hf] at hslot
  exact (Option.some.inj hslot).symm

-- One atom of the list adds the item it stands for.
theorem isSupported_update {x : Supported} (hx : x.Recognised) (p : NETRootInfo) (name : KwsAtom) :
    (updateSupportedProperties atoms p (atoms.atom name)).isSupported x = true ↔
      p.isSupported x = true ∨ (name, x) ∈ supportedChain := by
  rcases hx with ⟨f, hf, rfl⟩
  rw [updateSupportedProperties_eq]
  cases hlookup : lookupAtom atoms.atom supportedChain (atoms.atom name) with
  | none =>
      apply (or_iff_left _).symm
      intro hmem
      rw [lookup_supportedChain atoms hmem] at hlookup
      nomatch hlookup
  | some y =>
      rcases mem_of_lookupAtom hlookup with ⟨name', hmem, hname⟩
      have hname : name' = name := (atoms.injective hname).symm
      rw [hname] at hmem
      have hbit : ∀ e ∈ supportedChain, e.2.slot.2 < 32 := by decide
      show (p.addSupported y).isSupported f.2 = true ↔ _
      rw [isSupported_addSupported, Bool.or_eq_true, decide_eq_true_iff]
      apply or_congr_right
      apply Iff.intro
      · intro h
        have hy : y = f.2 := slot_supportedChain hmem hf h.2
        rw [← hy]
        exact hmem
      · intro h
        have hy := lookup_supportedChain atoms h
        rw [hlookup] at hy
        rw [Option.some.inj hy]
        exact ⟨hbit f hf, rfl⟩

-- After the whole list the items of its atoms are added.
theorem isSupported_foldl {x : Supported} (hx : x.Recognised) (names : List KwsAtom) (p : NETRootInfo) :
    isSupported ((names.map atoms.atom).foldl (updateSupportedProperties atoms) p) x = true ↔
      p.isSupported x = true ∨ ∃ name ∈ names, (name, x) ∈ supportedChain := by
  induction names generalizing p with
  | nil => simp
  | cons name names ih =>
      rw [List.map_cons, List.foldl_cons, ih, isSupported_update atoms hx]
      simp [or_assoc]

-- Of the list of a window manager a client makes the items that count, if they have a branch.
theorem isSupported_read {x : Supported} (hx : x.Recognised) (manager p : NETRootInfo)
    (hp : p.isSupported x = false) :
    isSupported ((manager.supportedAtoms.map atoms.atom).foldl (updateSupportedProperties atoms) p) x =
        true ↔
      x.Forced ∨ x.Written ∧ manager.counts x = true := by
  have hforced : ∀ e ∈ supportedChain,
      (e.1 = .netSupported ∨ e.1 = .netSupportingWmCheck) ↔ e.2.Forced := by decide
  have hencoded : ∀ e ∈ encoded, e.2 ≠ [] ∧ ∀ name ∈ e.2, (name, e.1) ∈ supportedChain := by
    decide +kernel
  rw [isSupported_foldl atoms hx, hp]
  simp only [mem_supportedAtoms, Bool.false_eq_true, false_or]
  apply Iff.intro
  · intro h
    rcases h with ⟨name, hname | ⟨e, he, hcounts, hname⟩, hmem⟩
    · exact Or.inl ((hforced _ hmem).mp hname)
    · have hsame : e.1 = x := by
        have h := lookup_supportedChain atoms ((hencoded e he).2 name hname)
        rw [lookup_supportedChain atoms hmem] at h
        exact (Option.some.inj h).symm
      rw [← hsame]
      exact Or.inr ⟨⟨e, he, rfl⟩, hcounts⟩
  · intro h
    rcases h with hx' | ⟨⟨e, he, rfl⟩, hcounts⟩
    · rcases hx with ⟨f, hf, rfl⟩
      exact ⟨f.1, Or.inl ((hforced f hf).mpr hx'), hf⟩
    · rcases List.exists_mem_of_ne_nil e.2 (hencoded e he).1 with ⟨name, hname⟩
      exact ⟨name, Or.inr ⟨e, he, hcounts, hname⟩, (hencoded e he).2 name hname⟩

end Read

/-! ## The list on the root window -/

theorem supportedAtoms_congr {p q : NETRootInfo} (h : p.supportedFlags = q.supportedFlags) :
    p.isSupported = q.isSupported ∧ p.supportedAtoms = q.supportedAtoms := by
  have hsupported : p.isSupported = q.isSupported := by
    injection h with h1 h2 h3 h4 h5
    funext x
    cases x <;> simp [isSupported, h1, h2, h3, h4, h5]
  apply And.intro hsupported
  unfold supportedAtoms offerGroup offer
  rw [hsupported]

namespace Hints

variable (atoms : Atoms)

/-- The list on the root window is the one that the window manager's flags make. -/
structure Current (root : XcbWindow) (s : Hints) : Prop where
  role : s.manager.role = .windowManager
  root_eq : s.manager.root = root
  list : s.display root (atoms.atom .netSupported) =
    some ⟨.atom, .data32 (s.manager.supportedAtoms.map atoms.atom)⟩

-- Writing the list makes it current, also when the supporting window is the root window.
theorem current_write {manager : NETRootInfo} (hrole : manager.role = .windowManager)
    (display : Display) : Current atoms manager.root ⟨write (manager.setSupported atoms) display, manager⟩ where
  role := hrole
  root_eq := rfl
  list := by
    unfold setSupported
    rw [if_neg (not_not_intro hrole)]
    show (Change.apply _ manager.supportwindow _) manager.root _ = _
    by_cases h : manager.root = manager.supportwindow
    · simp [Change.apply, ← h]
    · simp [Change.apply, h]

theorem setSupportedItem_role (p : NETRootInfo) (x : Supported) (on : Bool) :
    (p.setSupportedItem atoms x on).1.role = p.role ∧ (p.setSupportedItem atoms x on).1.root = p.root := by
  have hadd : (p.addSupported x).role = p.role ∧ (p.addSupported x).root = p.root := by
    cases x <;> exact ⟨rfl, rfl⟩
  have hremove : (p.removeSupported x).role = p.role ∧ (p.removeSupported x).root = p.root := by
    cases x <;> exact ⟨rfl, rfl⟩
  unfold setSupportedItem
  split
  · exact ⟨rfl, rfl⟩
  · split
    · exact hadd
    · split
      · exact hremove
      · exact ⟨rfl, rfl⟩

theorem current_call {root : XcbWindow} {s : Hints} (hs : s.Current atoms root) (c : HintCall) :
    (s.call atoms c).Current atoms root := by
  have hrole := setSupportedItem_role atoms s.manager c.item c.on
  -- Either nothing changes, or the list is written for the manager as it is then.
  have hset : s.manager.setSupportedItem atoms c.item c.on = (s.manager, []) ∨
      (s.manager.setSupportedItem atoms c.item c.on).2 =
        (s.manager.setSupportedItem atoms c.item c.on).1.setSupported atoms := by
    unfold setSupportedItem
    rw [if_neg (not_not_intro hs.role)]
    split
    · exact Or.inr rfl
    · split
      · exact Or.inr rfl
      · exact Or.inl rfl
  unfold call
  rcases hset with h | h
  · rw [h]
    exact hs
  · dsimp only
    rw [h]
    have hwritten := current_write atoms (hrole.1.trans hs.role) s.display
    rw [hrole.2, hs.root_eq] at hwritten
    exact hwritten

-- Activation reads nothing back that is in the list.
theorem current_start (display : Display) (root supportWindow : XcbWindow) (wmName : QByteArray)
    (properties windowTypes states properties2 actions : Flags) :
    (start atoms display root supportWindow wmName properties windowTypes states properties2
      actions).Current atoms root := by
  unfold start
  dsimp only
  generalize hmanager : newWindowManager root supportWindow wmName properties windowTypes states
    properties2 actions = manager
  have hrole : manager.role = .windowManager := by rw [← hmanager]; rfl
  have hroot : manager.root = root := by rw [← hmanager]; rfl
  have hasked : Branch.supported.asked manager = false := by
    rw [← hmanager]
    show (mask Property.desktopNames ||| mask Property.wmPing).has Property.supported = false
    decide
  have hwritten := current_write atoms hrole display
  generalize write (manager.setSupported atoms) display = display' at hwritten
  have hidentity := identity_update atoms display' manager manager.clientProperties
    manager.clientProperties2
  have hflags := owned_update atoms display' (b := .supported) (fun h => nomatch h) (fun h => nomatch h)
    manager manager.clientProperties manager.clientProperties2
  have hskip : stepOwned atoms display' (manager.clientProperties &&& manager.clientProperties)
      (manager.clientProperties2 &&& manager.clientProperties2) .supported manager =
        manager.supportedFlags := by
    unfold stepOwned
    rw [wanted_and, if_neg]
    · rfl
    · show ¬(Branch.supported.asked manager && _) = true
      rw [hasked]
      exact Bool.false_ne_true
  have hatoms := (supportedAtoms_congr (hflags.trans hskip)).2
  constructor
  · exact (congrArg Identity.role hidentity).trans hrole
  · exact (congrArg Identity.root hidentity).trans hroot
  · rw [hatoms, ← hroot]
    exact hwritten.list

theorem current_calls {root : XcbWindow} (calls : List HintCall) {s : Hints}
    (hs : s.Current atoms root) : (calls.foldl (call atoms) s).Current atoms root := by
  induction calls generalizing s with
  | nil => exact hs
  | cons c calls ih => exact ih (current_call atoms hs c)

-- What a client has of an item when it has read a current list.
theorem client_isSupported {root : XcbWindow} {s : Hints} (hs : s.Current atoms root)
    {client : NETRootInfo} (hroot : client.root = root) {asked : Flags} (asked2 : Flags)
    (hasked : (asked &&& client.clientProperties).has Property.supported = true) {x : Supported}
    (hx : x.Recognised) :
    (client.update atoms s.display asked asked2).1.isSupported x = true ↔
      x.Forced ∨ x.Written ∧ s.manager.counts x = true := by
  have hflags := owned_update atoms s.display (b := .supported) (fun h => nomatch h)
    (fun h => nomatch h) client asked asked2
  unfold stepOwned at hflags
  rw [if_pos (show Branch.supported.wanted _ _ = true from hasked)] at hflags
  have hlist : getArrayReply (s.display.answer ⟨client.root, atoms.atom .netSupported, .atom, maxPropSize⟩)
      .atom = s.manager.supportedAtoms.map atoms.atom := by
    unfold Display.answer
    rw [getArrayReply_getProperty (show XcbAtom.atom ≠ anyPropertyType by decide), hroot, hs.list]
    show List.take maxPropSize _ = _
    apply List.take_of_length_le
    rw [List.length_map]
    exact supportedAtoms_length s.manager
  rw [(supportedAtoms_congr hflags).1]
  show isSupported ((getArrayReply (s.display.answer _) .atom).foldl _ _) x = true ↔ _
  rw [hlist]
  apply isSupported_read atoms hx
  cases x <;> exact Flags.has_zero _

end Hints

/-! ## Agreement -/

/-- The window manager has not turned off one of the two items that are always in the list, nor does it
support one of the two that never are. -/
def Supported.Conveyed (manager : NETRootInfo) (x : Supported) : Prop :=
  (x.Forced → manager.isSupported x = true) ∧
    (x = .property2 .appMenuObjectPath ∨ x = .property2 .appMenuServiceName →
      manager.isSupported x = false)

-- The items that `setSupported` forgets are the two of the application menu.
theorem written_iff {x : Supported} (hx : x.Recognised) :
    x.Written ↔ ¬x.Forced ∧ ¬(x = .property2 .appMenuObjectPath ∨ x = .property2 .appMenuServiceName) := by
  have h : ∀ e ∈ supportedChain, e.2.Written ↔ ¬e.2.Forced ∧
      ¬(e.2 = .property2 .appMenuObjectPath ∨ e.2 = .property2 .appMenuServiceName) := by decide +kernel
  rcases hx with ⟨e, he, rfl⟩
  exact h e he

/-- Whatever hints a window manager was constructed with and has turned on and off since, a client that
reads the list agrees with it on the items that are conveyed, and on no other. -/
theorem supported_agrees_iff (atoms : Atoms) (display : Display) (root supportWindow : XcbWindow)
    (wmName : QByteArray) (properties windowTypes states properties2 actions : Flags)
    (calls : List HintCall) (client : NETRootInfo) (hroot : client.root = root) (asked asked2 : Flags)
    (hasked : (asked &&& client.clientProperties).has Property.supported = true) (x : Supported)
    (hx : x.Recognised) :
    let s := calls.foldl (Hints.call atoms) (Hints.start atoms display root supportWindow wmName
      properties windowTypes states properties2 actions)
    (client.update atoms s.display asked asked2).1.isSupported x = s.manager.counts x ↔
      x.Conveyed s.manager := by
  intro s
  have hs : s.Current atoms root := Hints.current_calls atoms calls
    (Hints.current_start atoms display root supportWindow wmName properties windowTypes states
      properties2 actions)
  have hclient := Hints.client_isSupported atoms hs hroot asked2 hasked hx
  rw [Bool.eq_iff_iff, hclient, written_iff hx]
  unfold Supported.Conveyed
  have hforced : x.Forced → s.manager.counts x = s.manager.isSupported x := by
    intro h
    rcases h with rfl | rfl <;> exact Bool.and_true _
  have hmenu : x = .property2 .appMenuObjectPath ∨ x = .property2 .appMenuServiceName →
      s.manager.counts x = s.manager.isSupported x ∧ ¬x.Forced := by
    intro h
    rcases h with rfl | rfl <;> exact ⟨Bool.and_true _, by decide⟩
  by_cases h : x.Forced
  · have hother : ¬(x = .property2 .appMenuObjectPath ∨ x = .property2 .appMenuServiceName) :=
      fun h' => (hmenu h').2 h
    simp [h, hother, hforced h]
  · by_cases h' : x = .property2 .appMenuObjectPath ∨ x = .property2 .appMenuServiceName
    · simp [h, h', (hmenu h').1]
    · simp [h, h']

/-- A client of a window manager with every hint, once it has stopped to support the bypassing of the
compositor. -/
theorem bypassCompositor_agrees :
    let calls : List HintCall := [⟨.property2 .blockCompositing, false⟩]
    let s := calls.foldl (Hints.call .inOrder)
      (Hints.start .inOrder (fun _ _ => none) 1 2 [] (~~~0) (~~~0) (~~~0) (~~~0) (~~~0))
    let client := newClient 1 {} (mask Property.supported) 0
    (client.update .inOrder s.display client.clientProperties 0).1.isSupported
        (.property2 .blockCompositing) = s.manager.counts (.property2 .blockCompositing) :=
  (supported_agrees_iff .inOrder (fun _ _ => none) 1 2 [] (~~~0) (~~~0) (~~~0) (~~~0) (~~~0)
    [⟨.property2 .blockCompositing, false⟩] (newClient 1 {} (mask Property.supported) 0) rfl
    (mask Property.supported) 0 (by decide) (.property2 .blockCompositing) (by decide)).mpr
    ⟨fun h => absurd h (by decide), fun h => absurd h (by decide)⟩

/-- A window manager is constructed with the object path of application menus, and no client sees it. -/
theorem appMenuObjectPath_dropped :
    let s := Hints.start .inOrder (fun _ _ => none) 1 2 [] 0 0 0 (mask Property2.appMenuObjectPath) 0
    let client := newClient 1 {} (mask Property.supported) 0
    Supported.Recognised (.property2 .appMenuObjectPath) ∧
      s.manager.counts (.property2 .appMenuObjectPath) = true ∧
      (client.update .inOrder s.display client.clientProperties 0).1.isSupported
        (.property2 .appMenuObjectPath) = false := by
  decide +kernel

end NETRootInfo

end KWindowSystem
