import KWindowSystem.Lib.FlagTable
import KWindowSystem.Lib.History
import KWindowSystem.NetWM.DesktopNames
import KWindowSystem.NetWM.WinSetters

/-!
# What is read of a window that setters write

Clients and the window manager call the setters of their objects, each of which may be behind.  What a new
object reads of a window is then what was last written by a call of a role that it is for
(`stored_history`); no call changes what is read of another window, or by another getter.
-/

open Machine History Qt

namespace KWindowSystem

open NET

/-! ## What the calls write -/

/-- A text as it is read: null when it is empty, and cut at `MAX_PROP_SIZE`. -/
def textRead (copy : QByteArray) : CharPtr := if copy = [] then none else some (copy.take (4 * maxPropSize))

/-- The types that are read where a type was set. -/
def typesRead : WindowType → List WindowType
  | .override => [.override, .normal]
  | .topMenu => [.topMenu, .dock]
  | .utility => [.utility, .dialog]
  | .splash => [.splash, .dock]
  | .onScreenDisplay => [.onScreenDisplay, .notification]
  | .criticalNotification => [.criticalNotification, .notification]
  | .unknown => [.normal]
  | type => [type]

/-- The flags that have an atom in the table. -/
def flagsRead {α : Type} [Flag α] (table : List (α × List KwsAtom)) (flags : Flags) : Flags :=
  flags &&& FlagTable.union (fun e => mask e.1) table

namespace NETWinInfo

/-- A getter with the value that it returns then. -/
abbrev Write := (g : Getter) × g.Value

def iconsRead (icons : List NETIcon) : List Write :=
  [⟨.icon, iconInternal (NETRArray.new.setFrom 0 icons) icons.length⟩,
    ⟨.iconSizes, (icons.flatMap fun icon => [icon.size.width, icon.size.height]) ++ [0, 0]⟩]

end NETWinInfo

namespace WinCall

open NETWinInfo

variable (atoms : Atoms) (scale : Int32 → Int32)

/-- What a call on an object writes, as it is read. -/
def writes (display : Display) (p : NETWinInfo) (call : WinCall) : List Write :=
  let client (ws : List Write) : List Write := if p.role = .client then ws else []
  let windowManager (ws : List Write) : List Write := if p.role = .windowManager then ws else []
  match call with
  | .setIcon icon replace => (p.setIcon atoms icon replace).2.toList.flatMap fun c => iconsRead (readIcon c.value)
  | .setIconGeometry geometry =>
      let geometry : NETRect :=
        ⟨⟨scale geometry.pos.x, scale geometry.pos.y⟩, ⟨scale geometry.size.width, scale geometry.size.height⟩⟩
      client [⟨.iconGeometry, if geometry.size.width = 0 then {} else geometry⟩]
  | .setExtendedStrut strut => client [⟨.extendedStrut, strut⟩]
  | .setStrut strut => client [⟨.strut, strut⟩]
  | .setFullscreenMonitors topology => windowManager [⟨.fullscreenMonitors, topology⟩]
  | .setState state mask =>
      let p := readState atoms display p
      if p.role = .client ∧ p.mappingState ≠ .withdrawn then []
      else [⟨.state, flagsRead writtenAtoms (p.state &&& ~~~mask ||| state)⟩]
  | .setWindowType type =>
      client [⟨.windowType, fun supported => ((typesRead type).find? fun t => supported.has t).getD .unknown⟩,
        ⟨.hasWindowType, true⟩, ⟨.hasNETSupport, true⟩]
  | .setName name => client [⟨.name, textRead (cString name)⟩]
  | .setVisibleName name => windowManager [⟨.visibleName, textRead (cString name)⟩]
  | .setIconName name => client [⟨.iconName, textRead (cString name)⟩]
  | .setVisibleIconName name => windowManager [⟨.visibleIconName, textRead (cString name)⟩]
  | .setDesktop desktop =>
      let p := withMappingState atoms display p
      if p.role = .client ∧ p.mappingState ≠ .withdrawn then [] else [⟨.desktop, desktop⟩]
  | .setPid pid => client [⟨.pid, pid⟩]
  | .setHandledIcons _ => []
  | .setStartupId id => client [⟨.startupId, textRead (cString id)⟩]
  | .setOpacity opacity => [⟨.opacity, opacity.toUInt32.toUInt64⟩]
  | .setAllowedActions actions => windowManager [⟨.allowedActions, flagsRead actionAtoms actions⟩]
  | .setFrameExtents strut => windowManager [⟨.frameExtents, strut⟩]
  | .setFrameOverlap strut => [⟨.frameOverlap, overlapOf strut⟩]
  | .setGtkFrameExtents strut => [⟨.gtkFrameExtents, strut⟩]
  | .setAppMenuObjectPath name => client [⟨.appMenuObjectPath, textRead (cString name)⟩]
  | .setAppMenuServiceName name => client [⟨.appMenuServiceName, textRead (cString name)⟩]
  | .setUserTime time => client [⟨.userTime, time⟩]
  | .setActivities activities => [⟨.activities, textRead (cString (activitiesText activities))⟩]
  | .setBlockingCompositing active => client [⟨.isBlockingCompositing, active⟩]
  | .setDesktopFileName name => client [⟨.desktopFileName, textRead (cString name)⟩]

end WinCall

/-! ## The display and the objects -/

/-- The display with the objects that anyone has of its windows. -/
structure Windows (ι : Type) where
  display : Display
  infos : ι → NETWinInfo

inductive WindowsEvent (ι : Type) where
  | call (i : ι) (c : WinCall)
  /-- An object handles an event. -/
  | event (i : ι) (e : NETWinInfo.Event)

/-- What is read of which window. -/
abbrev WindowWrite := (c : XcbWindow × NETWinInfo.Getter) × c.2.Value

def WindowWrite.of (window : XcbWindow) (w : NETWinInfo.Write) : WindowWrite := ⟨(window, w.1), w.2⟩

/-- One call or event, with what is written. -/
def Windows.step {ι : Type} [DecidableEq ι] (atoms : Atoms) (scale : Int32 → Int32) (s : Windows ι) :
    WindowsEvent ι → Windows ι × List WindowWrite
  | .call i c =>
      let set := c.perform atoms scale s.display (s.infos i)
      ({ display := set.2.foldl Outgoing.apply s.display, infos := Function.update s.infos i set.1 },
        (c.writes atoms scale s.display (s.infos i)).map (WindowWrite.of (s.infos i).window))
  | .event i e =>
      ({ s with infos := Function.update s.infos i ((s.infos i).event atoms s.display e).1.1 }, [])

/-! ## Reading -/

namespace NETWinInfo

section Reading

variable (atoms : Atoms)

/-- What a new object that asks for everything has of a window. -/
def stored (display : Display) (c : XcbWindow × Getter) : c.2.Value :=
  c.2.get (new atoms display c.1 0 (.allOnes 32) (.allOnes 32) .client)

/-- An object that has not read anything. -/
def blank (window : XcbWindow) : NETWinInfo := unread 0 (.allOnes 32) (.allOnes 32) .client window

theorem asked_all (g : Getter) : flagged (.allOnes 32) (.allOnes 32) g.flag = true := by
  cases g <;> decide

theorem stored_eq (display : Display) (c : XcbWindow × Getter) :
    stored atoms display c =
      c.2.get (c.2.source.read atoms ((c.2.source.requests atoms c.1).map display.answer) (blank c.1)).1 :=
  get_new atoms c.2 (asked_all c.2) display c.1

-- A new object that asks for less has the same of what it asks for.
theorem get_new_stored {root : XcbWindow} {properties properties2 : Flags} {role : Role} (g : Getter)
    (hasked : flagged properties properties2 g.flag = true) (display : Display) (window : XcbWindow) :
    g.get (new atoms display window root properties properties2 role) = stored atoms display (window, g) := by
  rw [stored_eq, get_new atoms g hasked]
  cases hcarried : g.carried ((g.source.requests atoms window).map display.answer) with
  | true => exact get_carried atoms g hcarried _ _
  | false =>
      rw [get_kept atoms g hcarried, get_kept atoms g hcarried]
      cases g <;> rfl

/-! ### One branch -/

/-- The branch that reads a property. -/
def AtomName.reader (name : AtomName) : Option Branch := readOrder.find? fun b => name ∈ b.names

theorem reader_of_mem {b : Branch} {name : AtomName} (h : name ∈ b.names) : AtomName.reader name = some b := by
  revert name
  cases b <;> decide

/-- The getter of a branch that has only one. -/
def Branch.sole : Branch → Option Getter
  | .xawmState => some .mappingState
  | .wmState => some .state
  | .wmDesktop => some .desktop
  | .wmName => some .name
  | .wmVisibleName => some .visibleName
  | .wmIconName => some .iconName
  | .wmVisibleIconName => some .visibleIconName
  | .wmStrut => some .strut
  | .extendedStrut => some .extendedStrut
  | .fullscreenMonitors => some .fullscreenMonitors
  | .wmIconGeometry => some .iconGeometry
  | .wmFrameExtents => some .frameExtents
  | .frameOverlap => some .frameOverlap
  | .activities => some .activities
  | .blockCompositing => some .isBlockingCompositing
  | .wmPid => some .pid
  | .startupId => some .startupId
  | .opacity => some .opacity
  | .allowedActions => some .allowedActions
  | .userTime => some .userTime
  | .transientFor => some .transientFor
  | .windowRole => some .windowRole
  | .clientMachine => some .clientMachine
  | .protocols => some .protocols
  | .opaqueRegion => some .opaqueRegion
  | .desktopFileName => some .desktopFileName
  | .gtkApplicationId => some .gtkApplicationId
  | .gtkFrameExtents => some .gtkFrameExtents
  | .appMenuObjectPath => some .appMenuObjectPath
  | .appMenuServiceName => some .appMenuServiceName
  | .wmWindowType | .wmIcon | .hints | .windowClass => none

theorem eq_of_sole {b : Branch} {g g' : Getter} (h : b.sole = some g) (hg : g'.source = b) : g' = g := by
  subst hg
  cases g' <;> first | exact Option.some.inj h | nomatch h

/-- The properties of a window, set or deleted one after the other. -/
def changeAll (window : XcbWindow) (changes : List (KwsAtom × Option XProperty)) (display : Display) : Display :=
  changes.foldl (fun display c => Change.apply ⟨atoms.atom c.1, c.2⟩ window display) display

theorem changeAll_other {window other : XcbWindow} (h : other ≠ window)
    (changes : List (KwsAtom × Option XProperty)) (display : Display) :
    changeAll atoms window changes display other = display other := by
  induction changes generalizing display with
  | nil => rfl
  | cons c changes ih => exact (ih _).trans (if_neg h)

theorem changeAll_of_notMem {window : XcbWindow} {changes : List (KwsAtom × Option XProperty)} {atom : XcbAtom}
    (h : ∀ c ∈ changes, atom ≠ atoms.atom c.1) (display : Display) :
    changeAll atoms window changes display window atom = display window atom := by
  induction changes generalizing display with
  | nil => rfl
  | cons c changes ih =>
      rw [List.forall_mem_cons] at h
      show changeAll atoms window changes (Change.apply _ window display) window atom = _
      rw [ih h.2]
      unfold Change.apply
      rw [if_pos rfl, Function.update_of_ne h.1]

theorem changeAll_of_mem {window : XcbWindow} {changes : List (KwsAtom × Option XProperty)}
    (hnodup : (changes.map (·.1)).Nodup) {c : KwsAtom × Option XProperty} (hc : c ∈ changes)
    (display : Display) : changeAll atoms window changes display window (atoms.atom c.1) = c.2 := by
  induction changes generalizing display with
  | nil => nomatch hc
  | cons c' changes ih =>
      rw [List.map_cons, List.nodup_cons] at hnodup
      rcases List.mem_cons.mp hc with rfl | hc
      · show changeAll atoms window changes (Change.apply _ window display) window _ = _
        rw [changeAll_of_notMem atoms]
        · unfold Change.apply
          rw [if_pos rfl, Function.update_self]
        · intro c' hc' heq
          rw [Atoms.atom_inj] at heq
          exact hnodup.1 (heq ▸ List.mem_map_of_mem hc')
      · exact ih hnodup.2 hc _

/-- The properties that a branch reads are set, and the writes are what it makes of them. -/
structure Publishes (b : Branch) (changes : List (KwsAtom × Option XProperty)) (ws : List Write) : Prop where
  names : b.names = changes.map fun c => .kws c.1
  nodup : (changes.map (·.1)).Nodup
  source : ∀ w ∈ ws, w.1.source = b
  read : ∀ (g : Getter), g.source = b → ∀ (window : XcbWindow) (store : (g : Getter) → g.Value),
    after ws store g = g.get (b.read atoms
      (changes.map fun c => getProperty c.2 (b.format atoms).1 (b.format atoms).2) (blank window)).1

theorem stored_congr {display display' : Display} {w : XcbWindow} {g : Getter}
    (h : ∀ name ∈ g.source.names, display w (atoms.value name) = display' w (atoms.value name)) :
    stored atoms display (w, g) = stored atoms display' (w, g) := by
  have hanswers : (g.source.requests atoms w).map display.answer =
      (g.source.requests atoms w).map display'.answer := by
    unfold Branch.requests
    rw [List.map_map, List.map_map]
    apply List.map_congr_left
    intro name hname
    exact congrArg (getProperty · (g.source.format atoms).1 (g.source.format atoms).2) (h name hname)
  rw [stored_eq, stored_eq]
  show g.get (g.source.read atoms ((g.source.requests atoms w).map display.answer) (blank w)).1 = _
  rw [hanswers]

-- What the changes are read as is written to the window, and nothing else is read otherwise.
theorem Publishes.stored_changeAll {b : Branch} {changes : List (KwsAtom × Option XProperty)} {ws : List Write}
    (h : Publishes atoms b changes ws) (window : XcbWindow) (display : Display) :
    stored atoms (changeAll atoms window changes display) =
      after (ws.map (WindowWrite.of window)) (stored atoms display) := by
  funext ⟨w, g⟩
  by_cases hw : w = window
  · subst hw
    have hafter := after_map (f := fun g : Getter => (w, g)) (V := fun c : XcbWindow × Getter => c.2.Value)
      (fun _ _ h => (Prod.mk.inj h).2) ws (stored atoms display) g
    refine Eq.trans ?_ hafter.symm
    by_cases hg : g.source = b
    · subst hg
      have hanswers : (g.source.requests atoms w).map (changeAll atoms w changes display).answer =
          changes.map fun c => getProperty c.2 (g.source.format atoms).1 (g.source.format atoms).2 := by
        unfold Branch.requests
        rw [h.names, List.map_map, List.map_map]
        apply List.map_congr_left
        intro c hc
        exact congrArg (getProperty · (g.source.format atoms).1 (g.source.format atoms).2)
          (changeAll_of_mem atoms h.nodup hc display)
      rw [h.read g rfl w, stored_eq, ← hanswers]
    · rw [after_of_notMem]
      · apply stored_congr
        intro name hname
        apply changeAll_of_notMem
        intro c hc heq
        have hmem : .kws c.1 ∈ b.names := h.names ▸ List.mem_map_of_mem hc
        rw [atoms.value_injective (show atoms.value name = atoms.value (.kws c.1) from heq)] at hname
        exact hg (Option.some.inj ((reader_of_mem hname).symm.trans (reader_of_mem hmem)))
      · intro hmem
        rcases List.mem_map.mp hmem with ⟨write, hwrite, rfl⟩
        exact hg (h.source write hwrite)
  · rw [after_of_notMem]
    · apply stored_congr
      intro name _
      rw [changeAll_other atoms hw]
    · intro hmem
      rcases List.mem_map.mp hmem with ⟨write, hwrite, heq⟩
      rcases List.mem_map.mp hwrite with ⟨write', -, rfl⟩
      exact hw (Prod.mk.inj heq).1.symm

-- Where the branch has one getter, one value is to be read.
theorem publishes_of_sole {changes : List (KwsAtom × Option XProperty)} {g : Getter} {v : g.Value}
    (hsole : g.source.sole = some g) (hnames : g.source.names = changes.map fun c => .kws c.1)
    (hnodup : (changes.map (·.1)).Nodup)
    (hread : ∀ window, g.get (g.source.read atoms
      (changes.map fun c => getProperty c.2 (g.source.format atoms).1 (g.source.format atoms).2)
      (blank window)).1 = v) :
    Publishes atoms g.source changes [⟨g, v⟩] where
  names := hnames
  nodup := hnodup
  source := List.forall_mem_singleton.mpr rfl
  read g' hg' window store := by
    have heq := eq_of_sole hsole hg'
    subst heq
    rw [hread]
    exact Function.update_self ..

/-! ### What is read back -/

theorem readString_text (type : XcbAtom) {copy : QByteArray} (hcopy : 0 ∉ copy) :
    readString (getProperty (some ⟨type, .data8 copy⟩) type maxPropSize) type = textRead copy := by
  have htake : 0 ∉ List.take (4 * maxPropSize) copy := fun h => hcopy (List.mem_of_mem_take h)
  have hdrop : dropNul (List.take (4 * maxPropSize) copy) = List.take (4 * maxPropSize) copy := by
    unfold dropNul
    rw [if_neg]
    intro hlast
    exact htake (List.mem_of_getLast? hlast)
  have hreply : getStringReply (getProperty (some ⟨type, .data8 copy⟩) type maxPropSize) type =
      List.take (4 * maxPropSize) copy := by
    unfold getProperty
    rw [Option.map_some, if_pos (Or.inr rfl)]
    show (if type = type then dropNul (List.take (4 * maxPropSize) copy) else []) = _
    rw [if_pos rfl, hdrop]
  unfold readString textRead
  dsimp only
  rw [hreply]
  cases copy with
  | nil => rfl
  | cons c copy =>
      have hcons : List.take (4 * maxPropSize) (c :: copy) ≠ [] := by
        simp [maxPropSize]
      rw [if_pos (List.length_pos_iff.mpr hcons), if_neg (List.cons_ne_nil c copy)]
      unfold nstrndup
      rw [if_neg hcons, cString_of_nul htake]

theorem desktop_word {desktop : Int32} (h : desktop ≠ 0) :
    (if desktopWord desktop ≠ 0xffffffff then (desktopWord desktop + 1).toInt32 else -1) = desktop := by
  have hword := Desktop.changeDesktop_word h
  by_cases hall : desktopWord desktop = 0xffffffff
  · rw [if_pos hall] at hword
    rw [if_neg (not_not.mpr hall)]
    exact WinSignal.changeDesktop.inj (List.cons.inj hword).1
  · rw [if_neg hall] at hword
    rw [if_pos hall]
    exact WinSignal.changeDesktop.inj (List.cons.inj hword).1

section Flags

variable {α : Type} [Flag α]

/-- Every atom of an entry names its flag. -/
def NamesFlag (chain : List (KwsAtom × α)) (e : α × List KwsAtom) : Prop :=
  e.2 ≠ [] ∧ ∀ name ∈ e.2, (chain.find? fun entry => name = entry.1).map (·.2) = some e.1

instance [DecidableEq α] (chain : List (KwsAtom × α)) (e : α × List KwsAtom) : Decidable (NamesFlag chain e) :=
  inferInstanceAs (Decidable (_ ∧ _))

-- The names of one flag add it, however many they are.
theorem collectFlags_names {chain : List (KwsAtom × α)} {e : α × List KwsAtom} (he : NamesFlag chain e)
    (flags : Flags) : collectFlags atoms chain flags (e.2.map atoms.atom) = flags ||| mask e.1 := by
  have hall : ∀ (names : List KwsAtom) (flags : Flags), (∀ name ∈ names, name ∈ e.2) → names ≠ [] →
      collectFlags atoms chain flags (names.map atoms.atom) = flags ||| mask e.1 := by
    intro names
    induction names with
    | nil => exact fun _ _ h => absurd rfl h
    | cons name names ih =>
        intro flags hnames _
        rw [List.forall_mem_cons] at hnames
        have hadd : addFlag atoms chain flags (atoms.atom name) = flags ||| mask e.1 := by
          unfold addFlag
          rw [lookupAtom_value atoms.injective, he.2 name hnames.1]
        show collectFlags atoms chain (addFlag atoms chain flags (atoms.atom name)) (names.map atoms.atom) = _
        rw [hadd]
        by_cases hnil : names = []
        · rw [hnil]
          rfl
        · rw [ih _ hnames.2 hnil, BitVec.or_assoc, BitVec.or_self]
  exact hall e.2 flags (fun _ h => h) he.1

-- The atoms of a table say which of its flags are set.
theorem collectFlags_flagAtoms {chain : List (KwsAtom × α)} {table : List (α × List KwsAtom)}
    (htable : ∀ e ∈ table, NamesFlag chain e) (flags : Flags) :
    collectFlags atoms chain 0 (flagAtoms atoms table flags) = flagsRead table flags := by
  have hfold : ∀ (table : List (α × List KwsAtom)) (start : Flags), (∀ e ∈ table, NamesFlag chain e) →
      collectFlags atoms chain start (flagAtoms atoms table flags) = start ||| flagsRead table flags := by
    intro table
    induction table with
    | nil =>
        intro start _
        show start = start ||| (flags &&& 0#32)
        rw [BitVec.and_zero, BitVec.or_zero]
    | cons e table ih =>
        intro start htable
        rw [List.forall_mem_cons] at htable
        have hentry : collectFlags atoms chain start (if flags.has e.1 then e.2.map atoms.atom else []) =
            start ||| (flags &&& mask e.1) := by
          unfold mask Flags.has
          rw [BitVec.and_twoPow]
          split
          · exact collectFlags_names atoms htable.1 start
          · exact (BitVec.or_zero).symm
        have hsplit : collectFlags atoms chain start (flagAtoms atoms (e :: table) flags) =
            collectFlags atoms chain (start ||| (flags &&& mask e.1)) (flagAtoms atoms table flags) := by
          rw [← hentry]
          exact List.foldl_append
        rw [hsplit, ih _ htable.2, BitVec.or_assoc]
        congr 1
        exact (BitVec.and_or_distrib_left).symm
  exact (hfold table 0 htable).trans BitVec.zero_or

theorem length_flagAtoms (table : List (α × List KwsAtom)) (flags : Flags) :
    (flagAtoms atoms table flags).length ≤ (table.flatMap (·.2)).length := by
  induction table with
  | nil => exact Nat.le_refl _
  | cons e table ih =>
      unfold flagAtoms at ih ⊢
      rw [List.flatMap_cons, List.flatMap_cons, List.length_append, List.length_append]
      have hhead : (if flags.has e.1 then e.2.map atoms.atom else []).length ≤ e.2.length := by
        split <;> simp
      omega

theorem getArrayReply_atoms {list : List XcbAtom} (h : list.length ≤ 2048) :
    getArrayReply (getProperty (some ⟨.atom, .data32 list⟩) .atom 2048) .atom = list := by
  rw [getArrayReply_getProperty (by decide)]
  exact List.take_of_length_le h

end Flags

/-! ### Setters -/

/-- What the requests of a call do to the display is what its writes do to what is read of it. -/
def Stores (display : Display) (p : NETWinInfo) (set : NETWinInfo × List Outgoing) (ws : List Write) : Prop :=
  stored atoms (set.2.foldl Outgoing.apply display) = after (ws.map (WindowWrite.of p.window)) (stored atoms display)

variable {display : Display} {p : NETWinInfo}

theorem stores_nothing (q : NETWinInfo) : Stores atoms display p (q, []) [] := rfl

theorem Stores.ofRole {set : NETWinInfo × List Outgoing} {ws : List Write} (h : Stores atoms display p set ws)
    (role : Role) : Stores atoms display p (ofRole p role set) (if p.role = role then ws else []) := by
  unfold NETWinInfo.ofRole
  by_cases hrole : p.role = role
  · rw [if_neg (not_not.mpr hrole), if_pos hrole]
    exact h
  · rw [if_pos hrole, if_neg hrole]
    exact stores_nothing atoms p

theorem Publishes.stores {b : Branch} {changes : List (KwsAtom × Option XProperty)} {ws : List Write}
    (h : Publishes atoms b changes ws) {set : NETWinInfo × List Outgoing}
    (hset : set.2 = changes.map fun c => .property p.window ⟨atoms.atom c.1, c.2⟩) :
    Stores atoms display p set ws := by
  unfold Stores
  rw [hset, List.foldl_map]
  exact h.stored_changeAll atoms p.window display

-- A setter of one property that one getter reads.
theorem stores_one {g : Getter} {v : g.Value} {property : KwsAtom} {value : Option XProperty}
    {set : NETWinInfo × List Outgoing} (hset : set.2 = [.property p.window ⟨atoms.atom property, value⟩])
    (hsole : g.source.sole = some g) (hnames : g.source.names = [.kws property])
    (hread : ∀ window, g.get (g.source.read atoms
      [getProperty value (g.source.format atoms).1 (g.source.format atoms).2] (blank window)).1 = v) :
    Stores atoms display p set [⟨g, v⟩] :=
  have hpublishes : Publishes atoms g.source [(property, value)] [⟨g, v⟩] :=
    publishes_of_sole atoms hsole hnames (List.nodup_singleton _) hread
  hpublishes.stores atoms hset

theorem stores_setText {g : Getter} {v : g.Value} {property : KwsAtom} {type : XcbAtom} {text : QByteArray}
    (hsole : g.source.sole = some g) (hnames : g.source.names = [.kws property])
    (hformat : g.source.format atoms = (type, maxPropSize))
    (hread : ∀ reply window, readString reply type = textRead (cString text) →
      g.get (g.source.read atoms [reply] (blank window)).1 = v) (kept : CharPtr → NETWinInfo) :
    Stores atoms display p (setText atoms p property type kept text) [⟨g, v⟩] := by
  apply stores_one atoms rfl hsole hnames
  intro window
  rw [hformat]
  exact hread _ _ (readString_text type (NETRootInfo.zero_notMem_cString text))

-- An empty name is read as nothing whether it is there or not.
theorem stores_setNameText {g : Getter} {v : g.Value} {property : KwsAtom} {text : QByteArray}
    (hsole : g.source.sole = some g) (hnames : g.source.names = [.kws property])
    (hformat : g.source.format atoms = (atoms.atom .utf8String, maxPropSize))
    (hread : ∀ reply window, readString reply (atoms.atom .utf8String) = textRead (cString text) →
      g.get (g.source.read atoms [reply] (blank window)).1 = v) (kept : CharPtr → NETWinInfo) :
    Stores atoms display p (setNameText atoms p property kept text) [⟨g, v⟩] := by
  by_cases hempty : cString text = []
  · have hset : (setNameText atoms p property kept text).2 = [deleteProperty atoms p property] := by
      unfold setNameText
      dsimp only
      rw [if_neg (not_not.mpr hempty)]
    apply stores_one atoms hset hsole hnames
    intro window
    rw [hformat]
    apply hread
    rw [hempty]
    rfl
  · have hset : (setNameText atoms p property kept text).2 =
        (setText atoms p property (atoms.atom .utf8String) kept text).2 := by
      unfold setNameText
      dsimp only
      rw [if_pos hempty]
      rfl
    have htext : Stores atoms display p (setText atoms p property (atoms.atom .utf8String) kept text) [⟨g, v⟩] :=
      stores_setText atoms hsole hnames hformat hread kept
    unfold Stores at htext ⊢
    rw [hset]
    exact htext

/-! ### The type and the icons -/

theorem typesRead_eq (type : WindowType) :
    ((typeAtoms type).map atoms.atom).filterMap (lookupAtom atoms.atom typeChain) = typesRead type := by
  rw [List.filterMap_map]
  have hlookup : ∀ name : KwsAtom, (lookupAtom atoms.atom typeChain ∘ atoms.atom) name =
      (typeChain.find? fun entry => name = entry.1).map (·.2) :=
    fun name => lookupAtom_value atoms.injective typeChain name
  rw [funext hlookup]
  cases type <;> decide

theorem publishes_type (type : WindowType) :
    Publishes atoms .wmWindowType
      [(.netWmWindowType, some ⟨.atom, .data32 ((typeAtoms type).map atoms.atom)⟩)]
      [⟨.windowType, fun supported => ((typesRead type).find? fun t => supported.has t).getD .unknown⟩,
        ⟨.hasWindowType, true⟩, ⟨.hasNETSupport, true⟩] where
  names := rfl
  nodup := List.nodup_singleton _
  source := by
    rw [List.forall_mem_cons, List.forall_mem_cons, List.forall_mem_singleton]
    exact ⟨rfl, rfl, rfl⟩
  read g hg window store := by
    have hlength : ((typeAtoms type).map atoms.atom).length ≤ 2048 := by
      rw [List.length_map]
      cases type <;> decide
    have harray := getArrayReply_atoms hlength
    have htypes : typeAtoms type ≠ [] := by cases type <;> decide
    show _ = g.get (Branch.wmWindowType.read atoms [getProperty (some ⟨.atom, _⟩) .atom 2048] (blank window)).1
    generalize getProperty (some ⟨.atom, .data32 ((typeAtoms type).map atoms.atom)⟩) .atom 2048 = reply at harray
    cases g with
    | windowType =>
        show (fun supported => ((typesRead type).find? fun t => supported.has t).getD .unknown) =
          (Branch.wmWindowType.read atoms [reply] (blank window)).1.windowType
        funext supported
        rw [KWindowInfo.windowType_read, harray]
        unfold KWindowInfo.firstSupported
        rw [typesRead_eq]
    | hasWindowType => exact (KWindowInfo.hasWindowType_read atoms reply (blank window)).symm
    | hasNETSupport =>
        show true = decide (getArrayReply reply .atom ≠ [])
        rw [harray]
        simpa using htypes
    | _ => nomatch hg

theorem getIconSizes_setFrom (icons : List NETIcon) :
    (List.range icons.length).flatMap (fun i =>
      [((NETRArray.new.setFrom 0 icons).get i).size.width, ((NETRArray.new.setFrom 0 icons).get i).size.height]) =
      icons.flatMap fun icon => [icon.size.width, icon.size.height] := by
  have hlist := NETRArray.toList_new_setFrom icons
  rw [NETRArray.toList_eq] at hlist
  have hsize : (NETRArray.new.setFrom 0 icons).size = icons.length := by
    rw [← hlist, List.length_map, List.length_range, hlist]
  rw [hsize] at hlist
  conv_rhs => rw [← hlist]
  rw [List.flatMap_map]

theorem publishes_icons {words : List UInt32} (h : words.length ≤ 0xffffffff) :
    Publishes atoms .wmIcon [(.netWmIcon, some ⟨.cardinal, .data32 words⟩)]
      (iconsRead (readIcon (some ⟨.cardinal, .data32 words⟩))) where
  names := rfl
  nodup := List.nodup_singleton _
  source := by
    unfold iconsRead
    rw [List.forall_mem_cons, List.forall_mem_singleton]
    exact ⟨rfl, rfl⟩
  read g hg window store := by
    have hreply : getProperty (some ⟨.cardinal, .data32 words⟩) .cardinal 0xffffffff =
        some ⟨.cardinal, .data32 words⟩ := by
      show some (XProperty.mk _ (.data32 (words.take 0xffffffff))) = _
      rw [List.take_of_length_le h]
    show _ = g.get (Branch.wmIcon.read atoms [getProperty (some ⟨.cardinal, _⟩) .cardinal 0xffffffff]
      (blank window)).1
    rw [hreply]
    generalize hicons : readIcon (some ⟨.cardinal, .data32 words⟩) = icons
    have hread : (Branch.wmIcon.read atoms [some ⟨.cardinal, .data32 words⟩] (blank window)).1 =
        { blank window with
          icons := NETRArray.new.setFrom 0 icons, iconCount := icons.length, iconSizes := none } := by
      rw [← hicons]
      rfl
    rw [hread]
    cases g with
    | icon => rfl
    | iconSizes => exact congrArg (· ++ [0, 0]) (getIconSizes_setFrom icons).symm
    | _ => nomatch hg

theorem setIcon_cases (icon : NETIcon) (replace : Bool) :
    (p.setIcon atoms icon replace).2 = none ∨ ∃ words : List UInt32, words.length ≤ 0xffffffff ∧
      (p.setIcon atoms icon replace).2 = some ⟨atoms.atom .netWmIcon, some ⟨.cardinal, .data32 words⟩⟩ := by
  unfold NETWinInfo.setIcon setIconInternal
  split
  · exact .inl rfl
  · refine .inr ⟨_, ?_, rfl⟩
    have hclamp : ∀ n : Int32, n.toNatClampNeg ≤ 0xffffffff := by
      intro n
      have := Int32.toInt_lt n
      rw [← Int32.toNat_toInt]
      omega
    exact (List.length_take_le ..).trans (hclamp _)

theorem stores_setIcon (icon : NETIcon) (replace : Bool) :
    Stores atoms display p (p.ofChange (p.setIcon atoms icon replace))
      ((p.setIcon atoms icon replace).2.toList.flatMap fun c => iconsRead (readIcon c.value)) := by
  rcases setIcon_cases atoms (p := p) icon replace with hnone | ⟨words, hwords, hsome⟩
  · unfold ofChange
    rw [hnone]
    exact stores_nothing atoms _
  · have hicons := publishes_icons atoms hwords
    rw [hsome]
    show Stores atoms display p _ (iconsRead _ ++ [])
    rw [List.append_nil]
    apply hicons.stores
    unfold ofChange
    rw [hsome]
    rfl

theorem stores_setState (scale : Int32 → Int32) (state flags : Flags) :
    Stores atoms display p ((WinCall.setState state flags).perform atoms scale display p)
      ((WinCall.setState state flags).writes atoms scale display p) := by
  unfold WinCall.perform WinCall.writes
  dsimp only
  unfold NETWinInfo.setState
  dsimp only
  split
  · unfold Stores
    rw [List.map_map, List.foldl_map]
    have hmessages : ∀ (messages : List (Vector UInt32 5)) (d : Display),
        messages.foldl (fun d data32 => Outgoing.apply d (stateRequest atoms p (.message data32))) d = d := by
      intro messages
      induction messages with
      | nil => exact fun _ => rfl
      | cons m messages ih => exact fun d => ih d
    exact congrArg (stored atoms) (hmessages _ display)
  · generalize (readState atoms display p).state &&& ~~~flags ||| state = new
    have hlength := length_stateAtoms atoms new
    apply stores_one atoms rfl rfl rfl
    intro window
    show collectFlags atoms stateChain 0 (getArrayReply (getProperty (some ⟨.atom, _⟩) .atom 2048) .atom) = _
    rw [getArrayReply_atoms (by omega)]
    exact collectFlags_flagAtoms atoms (by decide) new

theorem stores_setDesktop (scale : Int32 → Int32) (desktop : Int32) :
    Stores atoms display p ((WinCall.setDesktop desktop).perform atoms scale display p)
      ((WinCall.setDesktop desktop).writes atoms scale display p) := by
  have hwindow : (withMappingState atoms display p).window = p.window := by
    unfold withMappingState
    split
    · exact (update_sameWindow atoms p display _ _).1
    · rfl
  unfold WinCall.perform WinCall.writes
  dsimp only
  unfold NETWinInfo.setDesktop
  dsimp only
  split
  · by_cases hzero : desktop = 0
    · rw [if_pos hzero]
      exact stores_nothing atoms _
    · rw [if_neg hzero, if_neg (by simp)]
      rfl
  · rw [hwindow]
    apply stores_one atoms rfl rfl rfl
    intro window
    by_cases hzero : desktop = 0
    · rw [if_pos hzero, hzero]
      rfl
    · rw [if_neg hzero]
      show (if desktopWord desktop ≠ 0xffffffff then (desktopWord desktop + 1).toInt32 else -1) = desktop
      exact desktop_word hzero

theorem stores_setIconGeometry (scale : Int32 → Int32) (geometry : NETRect) :
    Stores atoms display p ((WinCall.setIconGeometry geometry).perform atoms scale display p)
      ((WinCall.setIconGeometry geometry).writes atoms scale display p) := by
  apply Stores.ofRole
  dsimp only
  by_cases hwidth : scale geometry.size.width = 0
  · rw [if_pos hwidth]
    exact stores_one atoms (g := .iconGeometry) rfl rfl rfl fun _ => (if_pos hwidth).symm
  · rw [if_neg hwidth]
    exact stores_one atoms (g := .iconGeometry) rfl rfl rfl fun _ => (if_neg hwidth).symm

-- The frame and its older property are read as the strut that both are set to.
theorem stores_setFrameExtents (strut : NETStrut) :
    Stores atoms display p (p.setFrameExtents atoms strut)
      (if p.role = .windowManager then [⟨.frameExtents, strut⟩] else []) := by
  apply Stores.ofRole
  have hpublishes : Publishes atoms .wmFrameExtents
      [(.netFrameExtents, some ⟨.cardinal, .data32 strut.words⟩),
        (.kdeNetWmFrameStrut, some ⟨.cardinal, .data32 strut.words⟩)] [⟨.frameExtents, strut⟩] :=
    publishes_of_sole atoms (g := .frameExtents) rfl rfl
      (by decide : [KwsAtom.netFrameExtents, .kdeNetWmFrameStrut].Nodup) fun _ => rfl
  exact hpublishes.stores atoms rfl

theorem stores_setBlockingCompositing (active : Bool) :
    Stores atoms display p (p.setBlockingCompositing atoms active)
      (if p.role = .client then [⟨.isBlockingCompositing, active⟩] else []) := by
  apply Stores.ofRole
  have hpublishes : Publishes atoms .blockCompositing
      [(.kdeNetWmBlockCompositing, if active then some ⟨.cardinal, .data32 [1]⟩ else none),
        (.netWmBypassCompositor, if active then some ⟨.cardinal, .data32 [1]⟩ else none)]
      [⟨.isBlockingCompositing, active⟩] := by
    apply publishes_of_sole atoms (g := .isBlockingCompositing) rfl rfl
    · exact (by decide : [KwsAtom.kdeNetWmBlockCompositing, .netWmBypassCompositor].Nodup)
    · intro _
      cases active <;> rfl
  apply hpublishes.stores
  cases active <;> rfl

-- Nothing reads `_NET_WM_HANDLED_ICONS`.
theorem stores_setHandledIcons (handled : Bool) :
    Stores atoms display p (p.setHandledIcons atoms handled) [] := by
  have hset : Stores atoms display p ({ p with handledIcons := handled },
      [replaceCardinals atoms p .netWmHandledIcons [if handled then 1 else 0]]) [] := by
    funext ⟨w, g⟩
    show stored atoms (changeAll atoms p.window
      [(.netWmHandledIcons, some ⟨.cardinal, .data32 [if handled then 1 else 0]⟩)] display) (w, g) = _
    apply stored_congr
    intro name hname
    by_cases hw : w = p.window
    · subst hw
      apply changeAll_of_notMem
      rw [List.forall_mem_singleton]
      intro heq
      rw [atoms.value_injective (show atoms.value name = atoms.value (.kws .netWmHandledIcons) from heq)] at hname
      have hnobody : AtomName.reader (.kws .netWmHandledIcons) = none := by decide
      rw [reader_of_mem hname] at hnobody
      nomatch hnobody
    · rw [changeAll_other atoms hw]
  have hrole := hset.ofRole atoms .client
  rw [ite_self] at hrole
  exact hrole

theorem ofChange_eq (role : Role) (q : NETWinInfo) (change : Change) :
    p.ofChange (if p.role ≠ role then (p, none) else (q, some change)) =
      ofRole p role (q, [.property p.window change]) := by
  unfold NETWinInfo.ofRole
  split <;> rfl

theorem stores_setStrut (strut : NETStrut) :
    Stores atoms display p (p.ofChange (p.setStrut atoms strut))
      (if p.role = .client then [⟨.strut, strut⟩] else []) := by
  unfold NETWinInfo.setStrut
  rw [ofChange_eq]
  apply Stores.ofRole
  exact stores_one atoms rfl rfl rfl fun _ => rfl

theorem stores_setExtendedStrut (strut : NETExtendedStrut) :
    Stores atoms display p (p.ofChange (p.setExtendedStrut atoms strut))
      (if p.role = .client then [⟨.extendedStrut, strut⟩] else []) := by
  unfold NETWinInfo.setExtendedStrut
  rw [ofChange_eq]
  apply Stores.ofRole
  exact stores_one atoms rfl rfl rfl fun _ => rfl

theorem stores_setFullscreenMonitors (topology : NETFullscreenMonitors) :
    Stores atoms display p (p.setFullscreenMonitors atoms topology)
      (if p.role = .windowManager then [⟨.fullscreenMonitors, topology⟩] else []) := by
  unfold NETWinInfo.setFullscreenMonitors
  cases p.role with
  | client => rfl
  | windowManager => exact stores_one atoms rfl rfl rfl fun _ => rfl

theorem stores_setAllowedActions (actions : Flags) :
    Stores atoms display p (p.setAllowedActions atoms actions)
      (if p.role = .windowManager then [⟨.allowedActions, flagsRead actionAtoms actions⟩] else []) := by
  apply Stores.ofRole
  apply stores_one atoms rfl rfl rfl
  intro window
  have hlength := length_flagAtoms atoms actionAtoms actions
  have hmax : (actionAtoms.flatMap (·.2)).length ≤ 2048 := by decide
  show collectFlags atoms actionChain 0 (getArrayReply (getProperty (some ⟨.atom, _⟩) .atom 2048) .atom) = _
  rw [getArrayReply_atoms (hlength.trans hmax)]
  exact collectFlags_flagAtoms atoms (by decide) actions

-- Every call does to what is read what its writes say.
theorem stores_perform (scale : Int32 → Int32) (call : WinCall) :
    Stores atoms display p (call.perform atoms scale display p)
      (call.writes atoms scale display p) := by
  cases call with
  | setIcon icon replace => exact stores_setIcon atoms icon replace
  | setIconGeometry geometry => exact stores_setIconGeometry atoms scale geometry
  | setExtendedStrut strut => exact stores_setExtendedStrut atoms strut
  | setStrut strut => exact stores_setStrut atoms strut
  | setFullscreenMonitors topology => exact stores_setFullscreenMonitors atoms topology
  | setState state flags => exact stores_setState atoms scale state flags
  | setWindowType type => exact ((publishes_type atoms type).stores atoms rfl).ofRole atoms .client
  | setName name =>
      exact (stores_setNameText atoms (g := .name) rfl rfl rfl (fun _ _ h => h) _).ofRole atoms .client
  | setVisibleName name =>
      exact (stores_setNameText atoms (g := .visibleName) rfl rfl rfl (fun _ _ h => h) _).ofRole atoms .windowManager
  | setIconName name =>
      exact (stores_setNameText atoms (g := .iconName) rfl rfl rfl (fun _ _ h => h) _).ofRole atoms .client
  | setVisibleIconName name =>
      exact (stores_setNameText atoms (g := .visibleIconName) rfl rfl rfl (fun _ _ h => h) _).ofRole atoms
        .windowManager
  | setDesktop desktop => exact stores_setDesktop atoms scale desktop
  | setPid pid =>
      apply Stores.ofRole
      exact stores_one atoms (g := .pid) rfl rfl rfl fun _ => rfl
  | setHandledIcons handled => exact stores_setHandledIcons atoms handled
  | setStartupId id =>
      exact (stores_setText atoms (g := .startupId) rfl rfl rfl (fun _ _ h => h) _).ofRole atoms .client
  | setOpacity opacity => exact stores_one atoms (g := .opacity) rfl rfl rfl fun _ => rfl
  | setAllowedActions actions => exact stores_setAllowedActions atoms actions
  | setFrameExtents strut => exact stores_setFrameExtents atoms strut
  | setFrameOverlap strut => exact stores_one atoms (g := .frameOverlap) rfl rfl rfl fun _ => rfl
  | setGtkFrameExtents strut => exact stores_one atoms (g := .gtkFrameExtents) rfl rfl rfl fun _ => rfl
  | setAppMenuObjectPath name =>
      exact (stores_setText atoms (g := .appMenuObjectPath) rfl rfl rfl (fun _ _ h => h) _).ofRole atoms .client
  | setAppMenuServiceName name =>
      exact (stores_setText atoms (g := .appMenuServiceName) rfl rfl rfl (fun _ _ h => h) _).ofRole atoms .client
  | setUserTime time =>
      apply Stores.ofRole
      exact stores_one atoms (g := .userTime) rfl rfl rfl fun _ => rfl
  | setActivities activities => exact stores_setText atoms (g := .activities) rfl rfl rfl (fun _ _ h => h) _
  | setBlockingCompositing active => exact stores_setBlockingCompositing atoms active
  | setDesktopFileName name =>
      exact (stores_setText atoms (g := .desktopFileName) rfl rfl rfl (fun _ _ h => h) _).ofRole atoms .client

end Reading

end NETWinInfo

/-! ## Whole runs -/

namespace Windows

open NETWinInfo

variable {ι : Type} [DecidableEq ι] (atoms : Atoms) (scale : Int32 → Int32)

theorem stored_step (s : Windows ι) (e : WindowsEvent ι) :
    stored atoms (s.step atoms scale e).1.display =
      after (s.step atoms scale e).2 (stored atoms s.display) := by
  cases e with
  | call i c => exact stores_perform atoms scale c
  | event i e => rfl

theorem stored_run (s : Windows ι) (es : List (WindowsEvent ι)) :
    stored atoms (run (step atoms scale) s es).1.display =
      after (run (step atoms scale) s es).2 (stored atoms s.display) :=
  run_after (fun _ => True) (fun s : Windows ι => stored atoms s.display)
    (fun s e _ => ⟨trivial, stored_step atoms scale s e⟩) trivial es

/-- Whoever calls which setters in what order, and whatever the objects have missed, a new object has of each
window what was written last, by a call of the role that it is for, and otherwise what was there before. -/
theorem stored_history (s : Windows ι) (es : List (WindowsEvent ι)) (root : XcbWindow)
    (properties properties2 : Flags) (role : Role) (window : XcbWindow) (g : Getter)
    (hasked : flagged properties properties2 g.flag = true) :
    g.get (new atoms (run (step atoms scale) s es).1.display window root properties properties2 role) =
      after (run (step atoms scale) s es).2 (stored atoms s.display) (window, g) := by
  rw [get_new_stored atoms g hasked, stored_run]

/-! ## Who writes what -/

end Windows

namespace NETWinInfo

/-- The roles of the objects whose calls can change what a getter returns. -/
def Getter.writers : Getter → List Role
  | .visibleName | .visibleIconName | .allowedActions | .frameExtents | .fullscreenMonitors => [.windowManager]
  | .icon | .iconSizes | .iconGeometry | .extendedStrut | .strut | .windowType | .hasWindowType
  | .hasNETSupport | .name | .iconName | .pid | .startupId | .userTime | .appMenuObjectPath
  | .appMenuServiceName | .isBlockingCompositing | .desktopFileName => [.client]
  | .state | .desktop | .opacity | .frameOverlap | .gtkFrameExtents | .activities => [.client, .windowManager]
  | _ => []

section Writers

variable (atoms : Atoms)

theorem mem_anyone (role : Role) : role ∈ [Role.client, .windowManager] := by cases role <;> decide

theorem mem_writers_ofRole {role role' : Role} {g : Getter} {v : g.Value} (hg : g.writers = [role']) :
    ∀ w ∈ (if role = role' then [(⟨g, v⟩ : Write)] else []), role ∈ w.1.writers := by
  split
  · rename_i h
    rw [List.forall_mem_singleton]
    exact hg ▸ List.mem_singleton.mpr h
  · exact List.forall_mem_nil _

theorem mem_writers_anyone {role : Role} {g : Getter} {v : g.Value} (hg : g.writers = [.client, .windowManager]) :
    ∀ w ∈ [(⟨g, v⟩ : Write)], role ∈ w.1.writers := by
  rw [List.forall_mem_singleton]
  exact hg ▸ mem_anyone role

theorem mem_writers_icons {p : NETWinInfo} (icon : NETIcon) (replace : Bool) :
    ∀ w ∈ (p.setIcon atoms icon replace).2.toList.flatMap (fun c => iconsRead (readIcon c.value)),
      p.role ∈ w.1.writers := by
  by_cases hrole : p.role = .client
  · have hicons : ∀ icons, ∀ w ∈ iconsRead icons, p.role ∈ w.1.writers := by
      intro icons
      unfold iconsRead
      rw [hrole, List.forall_mem_cons, List.forall_mem_singleton]
      exact ⟨List.mem_singleton.mpr rfl, List.mem_singleton.mpr rfl⟩
    intro w hw
    rcases List.mem_flatMap.mp hw with ⟨c, -, hw⟩
    exact hicons _ w hw
  · have hset : (p.setIcon atoms icon replace).2 = none := congrArg Prod.snd (if_pos hrole)
    rw [hset]
    exact List.forall_mem_nil _

-- A call writes only what objects of its role may.
theorem mem_writers (scale : Int32 → Int32) (display : Display) (p : NETWinInfo) (call : WinCall) :
    ∀ w ∈ call.writes atoms scale display p, p.role ∈ w.1.writers := by
  cases call with
  | setIcon icon replace => exact mem_writers_icons atoms icon replace
  | setState state flags =>
      unfold WinCall.writes
      dsimp only
      split
      · exact List.forall_mem_nil _
      · exact mem_writers_anyone rfl
  | setDesktop desktop =>
      unfold WinCall.writes
      dsimp only
      split
      · exact List.forall_mem_nil _
      · exact mem_writers_anyone rfl
  | setWindowType type =>
      unfold WinCall.writes
      dsimp only
      split
      · rename_i hrole
        rw [hrole, List.forall_mem_cons, List.forall_mem_cons, List.forall_mem_singleton]
        exact ⟨List.mem_singleton.mpr rfl, List.mem_singleton.mpr rfl, List.mem_singleton.mpr rfl⟩
      · exact List.forall_mem_nil _
  | setHandledIcons handled => exact List.forall_mem_nil _
  | setOpacity opacity => exact mem_writers_anyone rfl
  | setFrameOverlap strut => exact mem_writers_anyone rfl
  | setGtkFrameExtents strut => exact mem_writers_anyone rfl
  | setActivities activities => exact mem_writers_anyone rfl
  | _ => exact mem_writers_ofRole rfl

/-! ### What no call changes -/

theorem SameWindow.refl (p : NETWinInfo) : SameWindow p p := ⟨rfl, rfl, rfl, rfl⟩

theorem SameWindow.trans {p q r : NETWinInfo} (h : SameWindow p q) (h' : SameWindow q r) : SameWindow p r :=
  ⟨h'.1.trans h.1, h'.2.1.trans h.2.1, h'.2.2.1.trans h.2.2.1, h'.2.2.2.trans h.2.2.2⟩

theorem sameWindow_ofRole {p : NETWinInfo} {set : NETWinInfo × List Outgoing} (h : SameWindow p set.1)
    (role : Role) : SameWindow p (ofRole p role set).1 := by
  unfold ofRole
  split
  · exact .refl p
  · exact h

theorem withMappingState_sameWindow (display : Display) (p : NETWinInfo) :
    SameWindow p (withMappingState atoms display p) := by
  unfold withMappingState
  split
  · exact update_sameWindow atoms p display _ _
  · exact .refl p

/-- The second half of `readState`. -/
def withState (display : Display) (p : NETWinInfo) : NETWinInfo :=
  if p.properties.has Property.wmState then p
  else
    let p := { p with properties := p.properties ||| mask Property.wmState }
    let p := (p.update atoms display (mask Property.wmState) 0).1
    { p with properties := p.properties &&& ~~~mask Property.wmState }

theorem readState_eq (display : Display) (p : NETWinInfo) :
    readState atoms display p = withState atoms display (withMappingState atoms display p) := rfl

-- The flag that is added for the time of the reading is taken away again.
theorem withState_sameWindow (display : Display) (p : NETWinInfo) : SameWindow p (withState atoms display p) := by
  unfold withState
  split
  · exact .refl p
  · rename_i hasked
    have hread := update_sameWindow atoms
      { p with properties := p.properties ||| mask Property.wmState } display (mask Property.wmState) 0
    refine ⟨hread.1, ?_, hread.2.2.1, hread.2.2.2⟩
    show (NETWinInfo.update atoms _ display _ _).1.properties &&& ~~~mask Property.wmState = p.properties
    rw [hread.2.1]
    show (p.properties ||| mask Property.wmState) &&& ~~~mask Property.wmState = p.properties
    apply BitVec.eq_of_getLsbD_eq
    intro i hi
    have hmask : (mask Property.wmState).getLsbD i = decide (i = 19) := by
      show (BitVec.twoPow 32 19).getLsbD i = _
      rw [BitVec.getLsbD_twoPow]
      simp [eq_comm]
    rw [BitVec.getLsbD_and, BitVec.getLsbD_or, BitVec.getLsbD_not, hmask, decide_eq_true hi, Bool.true_and]
    by_cases h : i = 19
    · subst h
      have hbit : p.properties.getLsbD 19 = false := Bool.eq_false_iff.mpr hasked
      rw [hbit]
      rfl
    · simp [h]

theorem readState_sameWindow (display : Display) (p : NETWinInfo) : SameWindow p (readState atoms display p) := by
  rw [readState_eq]
  exact (withMappingState_sameWindow atoms display p).trans (withState_sameWindow atoms display _)

theorem perform_sameWindow (scale : Int32 → Int32) (display : Display) (p : NETWinInfo) (call : WinCall) :
    SameWindow p (call.perform atoms scale display p).1 := by
  cases call with
  | setIcon icon replace =>
      show SameWindow p (p.setIcon atoms icon replace).1
      unfold NETWinInfo.setIcon setIconInternal
      split
      · exact .refl p
      · exact ⟨rfl, rfl, rfl, rfl⟩
  | setExtendedStrut strut =>
      show SameWindow p (p.setExtendedStrut atoms strut).1
      unfold NETWinInfo.setExtendedStrut
      split
      · exact .refl p
      · exact ⟨rfl, rfl, rfl, rfl⟩
  | setStrut strut =>
      show SameWindow p (p.setStrut atoms strut).1
      unfold NETWinInfo.setStrut
      split
      · exact .refl p
      · exact ⟨rfl, rfl, rfl, rfl⟩
  | setFullscreenMonitors topology =>
      show SameWindow p (p.setFullscreenMonitors atoms topology).1
      unfold NETWinInfo.setFullscreenMonitors
      dsimp only
      split
      · exact .refl p
      · exact ⟨rfl, rfl, rfl, rfl⟩
  | setState state flags =>
      have hread := readState_sameWindow atoms display p
      show SameWindow p (p.setState atoms display state flags).1
      rcases setState_cases atoms p display state flags with ⟨-, hset⟩ | hset
      · rw [hset]
        exact hread
      · rw [hset]
        exact hread
  | setDesktop desktop =>
      have hmapped := withMappingState_sameWindow atoms display p
      show SameWindow p (p.setDesktop atoms display false desktop false).1
      unfold NETWinInfo.setDesktop
      dsimp only
      split
      · split
        · exact hmapped
        · exact hmapped
      · exact hmapped
  | setOpacity opacity => exact ⟨rfl, rfl, rfl, rfl⟩
  | setFrameOverlap strut => exact ⟨rfl, rfl, rfl, rfl⟩
  | setGtkFrameExtents strut => exact ⟨rfl, rfl, rfl, rfl⟩
  | setActivities activities => exact ⟨rfl, rfl, rfl, rfl⟩
  | _ =>
      apply sameWindow_ofRole
      exact ⟨rfl, rfl, rfl, rfl⟩

end Writers

end NETWinInfo

namespace Windows

open NETWinInfo

variable {ι : Type} [DecidableEq ι] (atoms : Atoms) (scale : Int32 → Int32)

theorem event_sameWindow (display : Display) (p : NETWinInfo) (e : Event) :
    SameWindow p (p.event atoms display e).1.1 := by
  cases e with
  | clientMessage format type data32 =>
      unfold NETWinInfo.event
      dsimp only
      split <;> exact .refl p
  | propertyNotify atom => exact update_sameWindow atoms p display _ _
  | configureNotify x y width height => exact ⟨rfl, rfl, rfl, rfl⟩

-- The objects keep their roles.
theorem role_step (s : Windows ι) (e : WindowsEvent ι) (i : ι) :
    ((s.step atoms scale e).1.infos i).role = (s.infos i).role := by
  cases e with
  | call j c =>
      show (Function.update s.infos j _ i).role = _
      by_cases h : i = j
      · subst h
        rw [Function.update_self]
        exact (perform_sameWindow atoms scale s.display (s.infos i) c).2.2.2
      · rw [Function.update_of_ne h]
  | event j e =>
      show (Function.update s.infos j _ i).role = _
      by_cases h : i = j
      · subst h
        rw [Function.update_self]
        exact (event_sameWindow atoms s.display (s.infos i) e).2.2.2
      · rw [Function.update_of_ne h]

/-- What a getter returns for a window is never changed by calls on objects of a role that does not write it. -/
theorem unwritten_unchanged (s : Windows ι) (es : List (WindowsEvent ι)) (window : XcbWindow) (g : Getter)
    (h : ∀ i c, .call i c ∈ es → (s.infos i).role ∉ g.writers) :
    stored atoms (run (step atoms scale) s es).1.display (window, g) = stored atoms s.display (window, g) := by
  have hstep : ∀ (t : Windows ι) (e : WindowsEvent ι),
      (∀ i, (t.infos i).role = (s.infos i).role) → e ∈ es →
      (∀ i, ((t.step atoms scale e).1.infos i).role = (s.infos i).role) ∧
        ∀ w ∈ (t.step atoms scale e).2, w.1.2 ≠ g := by
    intro t e ht he
    refine ⟨fun i => (role_step atoms scale t e i).trans (ht i), fun w hw heq => ?_⟩
    cases e with
    | event i e => nomatch hw
    | call i c =>
        rcases List.mem_map.mp hw with ⟨write, hwrite, rfl⟩
        have hrole := mem_writers atoms scale t.display (t.infos i) c write hwrite
        rw [ht i, show write.1 = g from heq] at hrole
        exact h i c he hrole
  have hes : Along (step atoms scale) (fun _ e => e ∈ es) s es := along_of_forall s fun _ he => he
  have hout := run_emits _ hstep (fun _ => rfl) hes
  rw [stored_run, after_of_notMem]
  intro hmem
  rcases List.mem_map.mp hmem with ⟨w, hw, heq⟩
  exact hout w hw (congrArg Prod.snd heq)

/-! A window manager shows a name of its own, which a client cannot. -/

/-- A client and the window manager, each with an object of window 7. -/
def twoObjects : Windows Role where
  display := fun _ _ => none
  infos role := unread 0 0 0 role 7

def namesSet : List (WindowsEvent Role) :=
  [.call .client (.setName [97]), .call .windowManager (.setVisibleName [98]), .call .client (.setVisibleName [99])]

theorem stored_history_names :
    Getter.visibleName.get (new .inOrder (run (step .inOrder id) twoObjects namesSet).1.display 7 0
      (mask Property.wmVisibleName) 0 .client) = some [98] :=
  (stored_history .inOrder id twoObjects namesSet 0 _ 0 .client 7 .visibleName (by decide)).trans
    (after_last (V := fun c : XcbWindow × Getter => c.2.Value) [⟨(7, .name), some [97]⟩] (7, .visibleName)
      (some [98]) List.not_mem_nil _)

theorem unwritten_unchanged_name :
    stored .inOrder (run (step .inOrder id) twoObjects [.call .client (.setVisibleName [99])]).1.display
      (7, .visibleName) = stored .inOrder twoObjects.display (7, .visibleName) := by
  apply unwritten_unchanged
  intro i c hmem
  cases List.mem_singleton.mp hmem
  decide

end Windows

end KWindowSystem
