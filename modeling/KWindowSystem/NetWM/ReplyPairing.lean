import KWindowSystem.NetWM.RootCache
import KWindowSystem.NetWM.WinCache

/-!
# Requests and replies of update

Both `update` functions send their requests under one row of conditions and count through the replies
under another.  Here the replies are numbered and arbitrary: that the k-th is about the k-th request says
something about the two rows alone.
-/

open Batch

namespace KWindowSystem

open NET

/-! ## NETWinInfo -/

namespace NETWinInfo

/-- The parts of `WM_HINTS` that are kept. -/
structure HintFields where
  input : Bool
  initialMappingState : MappingState
  iconPixmap : UInt32
  iconMask : UInt32
  windowGroup : XcbWindow
  urgency : Bool

/-- What no `update` changes. -/
structure Identity where
  role : Role
  window : XcbWindow
  root : XcbWindow
  winGeom : NETRect
  handledIcons : Bool
  properties : Flags
  properties2 : Flags

def identity (p : NETWinInfo) : Identity :=
  ⟨p.role, p.window, p.root, p.winGeom, p.handledIcons, p.properties, p.properties2⟩

namespace Branch

def Owned : Branch → Type
  | .xawmState => MappingState × Bool
  | .wmState | .allowedActions | .protocols => Flags
  | .wmDesktop | .wmPid => Int32
  | .wmName | .wmVisibleName | .wmIconName | .wmVisibleIconName | .activities | .startupId | .windowRole
  | .clientMachine | .desktopFileName | .gtkApplicationId | .appMenuObjectPath | .appMenuServiceName =>
      CharPtr
  | .wmWindowType => NETRArray WindowType × Bool
  | .wmStrut | .wmFrameExtents | .frameOverlap | .gtkFrameExtents => NETStrut
  | .extendedStrut => NETExtendedStrut
  | .fullscreenMonitors => NETFullscreenMonitors
  | .wmIconGeometry => NETRect
  | .wmIcon => NETRArray NETIcon × Nat × Option (List Int32)
  | .blockCompositing => Bool
  | .opacity => UInt64
  | .userTime | .transientFor => UInt32
  | .hints => HintFields
  | .windowClass => CharPtr × CharPtr
  | .opaqueRegion => List NETRect

/-- The part of the object that a branch writes. -/
def owned : (b : Branch) → NETWinInfo → b.Owned
  | .xawmState, p => (p.mappingState, p.mappingStateDirty)
  | .wmState, p => p.state
  | .wmDesktop, p => p.desktop
  | .wmName, p => p.name
  | .wmVisibleName, p => p.visibleName
  | .wmIconName, p => p.iconName
  | .wmVisibleIconName, p => p.visibleIconName
  | .wmWindowType, p => (p.types, p.hasNetSupport)
  | .wmStrut, p => p.strut
  | .extendedStrut, p => p.extendedStrut
  | .fullscreenMonitors, p => p.fullscreenMonitors
  | .wmIconGeometry, p => p.iconGeom
  | .wmIcon, p => (p.icons, p.iconCount, p.iconSizes)
  | .wmFrameExtents, p => p.frameStrut
  | .frameOverlap, p => p.frameOverlap
  | .activities, p => p.activities
  | .blockCompositing, p => p.blockCompositing
  | .wmPid, p => p.pid
  | .startupId, p => p.startupId
  | .opacity, p => p.opacity
  | .allowedActions, p => p.allowedActions
  | .userTime, p => p.userTime
  | .transientFor, p => p.transientFor
  | .hints, p =>
      ⟨p.input, p.initialMappingState, p.iconPixmap, p.iconMask, p.windowGroup, p.urgency⟩
  | .windowClass, p => (p.className, p.classClass)
  | .windowRole, p => p.windowRole
  | .clientMachine, p => p.clientMachine
  | .protocols, p => p.protocols
  | .opaqueRegion, p => p.opaqueRegion
  | .desktopFileName, p => p.desktopFile
  | .gtkApplicationId, p => p.gtkApplicationId
  | .gtkFrameExtents, p => p.gtkFrameExtents
  | .appMenuObjectPath, p => p.appmenuObjectPath
  | .appMenuServiceName, p => p.appmenuServiceName

end Branch

section Update

variable (atoms : Atoms)

theorem read_frame {b c : Branch} (h : b ≠ c) (replies : List Reply) (p : NETWinInfo) :
    c.owned (b.read atoms replies p).1 = c.owned p := by
  cases b with
  | xawmState | hints | windowClass =>
      unfold Branch.read
      dsimp only
      split <;> cases c <;> first | rfl | exact absurd rfl h
  | _ => cases c <;> first | rfl | exact absurd rfl h

theorem read_identity (b : Branch) (replies : List Reply) (p : NETWinInfo) :
    (b.read atoms replies p).1.identity = p.identity := by
  cases b with
  | xawmState | hints | windowClass =>
      unfold Branch.read
      dsimp only
      split <;> rfl
  | _ => rfl

variable (p : NETWinInfo) (answer : Nat → Reply) (dirtyProperties dirtyProperties2 : Flags)

/-- The requests that `update` sends. -/
def requestsSent : List PropertyRequest :=
  send (p.sent atoms (dirtyFlags dirtyProperties p.properties) (dirtyProperties2 &&& p.properties2))

/-- The blocks of `update`, or the first of them, on the replies that have come. -/
def readBlocks (bs : List Branch) : Reader.Reading Branch NETWinInfo WinSignal :=
  (reader atoms (dirtyFlags dirtyProperties p.properties)
    (dirtyProperties2 &&& p.properties2)).readFrom answer bs 0 p

theorem length_requests (window : XcbWindow) (dirty dirty2 : Flags) (b : Branch) :
    (b.requests atoms window).length = (reader atoms dirty dirty2).arity b := by
  cases b <;> rfl

-- With the replies of the display it is `update`.
theorem readBlocks_display {display : Display}
    (hanswer : ∀ k request,
      (p.requestsSent atoms dirtyProperties dirtyProperties2)[k]? = some request →
        answer k = display.answer request) :
    let reading := p.readBlocks atoms answer dirtyProperties dirtyProperties2 readOrder
    p.update atoms display dirtyProperties dirtyProperties2 = (reading.state, reading.signals) := by
  have hreplies := Reader.map_answer hanswer
  dsimp only
  unfold readBlocks
  rw [Reader.readFrom_eq_receive _ _ (length_requests atoms p.window _ _)]
  unfold update
  dsimp only
  unfold requestsSent at hreplies
  rw [sent_eq] at hreplies ⊢
  rw [← hreplies, List.range_eq_range']
  rfl

/-- The replies are paired with the requests, and a part of the object is what its block makes of its own
replies, or what it was. -/
structure UpdatePaired : Prop where
  replies : (p.readBlocks atoms answer dirtyProperties dirtyProperties2 readOrder).Paired
    (p.requestsSent atoms dirtyProperties dirtyProperties2) (Branch.requests atoms p.window)
  counter : (p.readBlocks atoms answer dirtyProperties dirtyProperties2 readOrder).counter =
    (p.requestsSent atoms dirtyProperties dirtyProperties2).length
  owned : ∀ b : Branch,
    let reading := p.readBlocks atoms answer dirtyProperties dirtyProperties2 readOrder
    let before := p.readBlocks atoms answer dirtyProperties dirtyProperties2
      (readOrder.takeWhile fun c => decide (c ≠ b))
    b.owned reading.state =
      if b.wanted (dirtyFlags dirtyProperties p.properties) (dirtyProperties2 &&& p.properties2) then
        b.owned (b.read atoms (reading.own answer b) before.state).1
      else b.owned p
  identity :
    (p.readBlocks atoms answer dirtyProperties dirtyProperties2 readOrder).state.identity = p.identity
  display : ∀ display : Display,
    (∀ k request, (p.requestsSent atoms dirtyProperties dirtyProperties2)[k]? = some request →
      answer k = display.answer request) →
    let reading := p.readBlocks atoms answer dirtyProperties dirtyProperties2 readOrder
    p.update atoms display dirtyProperties dirtyProperties2 = (reading.state, reading.signals)

theorem updatePaired : UpdatePaired atoms p answer dirtyProperties dirtyProperties2 := by
  have harity := length_requests atoms p.window (dirtyFlags dirtyProperties p.properties)
    (dirtyProperties2 &&& p.properties2)
  constructor
  case replies => exact Reader.paired_readFrom _ answer harity readOrder p
  case counter => exact (Reader.counter_readFrom _ answer harity readOrder 0 p).1.trans (Nat.zero_add _)
  case owned =>
    intro b
    exact Reader.view_readFrom _ answer b.owned
      (fun c replies q hc => read_frame atoms hc replies q) (by decide) (by cases b <;> decide) 0 p
  case identity =>
    exact Reader.view_readFrom_of_frame _ answer identity
      (fun b _ _ replies q => read_identity atoms b replies q) 0 p
  case display =>
    intro display hanswer
    exact readBlocks_display atoms p answer dirtyProperties dirtyProperties2 hanswer

/-- A window of the group 7. -/
def groupHints : Nat → Reply := fun _ => some ⟨.wmHints, .data32 [64, 0, 0, 0, 0, 0, 0, 0, 7]⟩

/-- Who has asked only whether the window takes input gets the group of the window too: the flags of the
five fields of `WM_HINTS` are one block. -/
theorem hints_read_together :
    ¬∀ (p : NETWinInfo) (answer : Nat → Reply) (dirtyProperties dirtyProperties2 : Flags) (g : Getter),
      flagged (dirtyFlags dirtyProperties p.properties) (dirtyProperties2 &&& p.properties2) g.flag = false →
        g.get (p.readBlocks .inOrder answer dirtyProperties dirtyProperties2 readOrder).state = g.get p := by
  intro h
  let p := unread 2 0 (mask Property2.input) .client 1
  have hread :
      (p.readBlocks .inOrder groupHints 0 (mask Property2.input) readOrder).state.windowGroup = 7 := by
    decide
  have hkept : (p.readBlocks .inOrder groupHints 0 (mask Property2.input) readOrder).state.windowGroup = 0 :=
    h p groupHints 0 (mask Property2.input) .groupLeader (by decide)
  rw [hread] at hkept
  exact absurd hkept (by decide)

end Update

end NETWinInfo

/-! ## NETRootInfo -/

namespace NETRootInfo

section Update

variable (atoms : Atoms) (p : NETRootInfo) (answer : Nat → Reply) (properties properties2 : Flags)

/-- The blocks up to that of the supporting window. -/
def checked : List Branch := readOrder.take 11

/-- The blocks that count their replies; the one at the end has a cookie of its own. -/
def counted : List Branch := checked ++ [.virtualRoots, .desktopLayout, .showingDesktop]

/-- The requests of the first half of `update`. -/
def requestsCounted : List PropertyRequest :=
  send (p.sent atoms (properties &&& p.clientProperties) (properties2 &&& p.clientProperties2))

/-- Some of the counted blocks of `update` on the replies that have come; they read nothing else. -/
def readBlocks (bs : List Branch) : Reader.Reading Branch NETRootInfo RootSignal :=
  (reader atoms (properties &&& p.clientProperties) (properties2 &&& p.clientProperties2)
    fun _ _ => none).readFrom answer bs 0 p

/-- The request about the name of the supporting window, if there is one. -/
def nameRequest : List PropertyRequest :=
  if p.supportwindow ≠ 0 then
    [⟨p.supportwindow, atoms.atom .netWmName, atoms.atom .utf8String, maxPropSize⟩]
  else []

/-- The block at the end with the reply that its cookie stands for. -/
def readName (reply : Reply) : NETRootInfo :=
  if p.supportwindow ≠ 0 then
    let ba := getStringReply reply (atoms.atom .utf8String)
    if ba.length > 0 then { p with name := nstrndup ba } else p
  else p

/-- What the block of the supporting window sends when it has read its reply. -/
def nameSent : List PropertyRequest :=
  if (properties &&& p.clientProperties).has Property.supportingWMCheck then
    nameRequest atoms (p.readBlocks atoms answer properties properties2 checked).state
  else []

/-- All the requests that `update` sends. -/
def requestsSent : List PropertyRequest :=
  p.requestsCounted atoms properties properties2 ++ p.nameSent atoms answer properties properties2

/-- The second half of `update`; the block at the end takes the reply to the last request. -/
def readAll : Reader.Reading Branch NETRootInfo RootSignal :=
  let reading := p.readBlocks atoms answer properties properties2 counted
  let last := (p.requestsCounted atoms properties properties2).length
  if (properties &&& p.clientProperties).has Property.supportingWMCheck ∧
      reading.state.supportwindow ≠ 0 then
    { reading with
      taken := reading.taken ++ [⟨.wmName, 0, last⟩]
      state := reading.state.readName atoms (answer last) }
  else reading

/-- The requests of a block, and what it makes of the replies to them. -/
def Branch.requestsSent : Branch → List PropertyRequest
  | .wmName => p.nameSent atoms answer properties properties2
  | b => b.requests atoms p.root

def Branch.readOwn (b : Branch) (replies : List Reply) : NETRootInfo :=
  match b with
  | .wmName => p.readName atoms (replies.headD none)
  | b => (b.read atoms (fun _ _ => none) replies p).1

theorem length_requests (root : XcbWindow) (dirty dirty2 : Flags) (display : Display) (b : Branch) :
    (b.requests atoms root).length = (reader atoms dirty dirty2 display).arity b := by
  cases b <;> rfl

-- The window that the name is asked from is the one that the block at the end looks at.
theorem supportwindow_readBlocks :
    (p.readBlocks atoms answer properties properties2 counted).state.supportwindow =
      (p.readBlocks atoms answer properties properties2 checked).state.supportwindow := by
  unfold readBlocks counted
  rw [Reader.readFrom_append]
  apply Reader.view_readFrom_of_frame _ answer supportwindow
  intro b hb _ replies q
  have hne : b ≠ .supportingWMCheck := by
    intro h
    rw [h] at hb
    exact absurd hb (by decide)
  exact (read_frame atoms (fun _ _ => none) hne (fun h => nomatch h) replies q).2

theorem nameSent_eq :
    p.nameSent atoms answer properties properties2 =
      if (properties &&& p.clientProperties).has Property.supportingWMCheck then
        nameRequest atoms (p.readBlocks atoms answer properties properties2 counted).state
      else [] := by
  unfold nameSent nameRequest
  rw [supportwindow_readBlocks]

theorem readAll_eq :
    p.readAll atoms answer properties properties2 =
      let reading := p.readBlocks atoms answer properties properties2 counted
      let last := (p.requestsCounted atoms properties properties2).length
      if p.nameSent atoms answer properties properties2 = [] then reading
      else { reading with
        taken := reading.taken ++ [⟨.wmName, 0, last⟩]
        state := reading.state.readName atoms (answer last) } := by
  rw [nameSent_eq]
  unfold readAll nameRequest
  dsimp only
  by_cases hcheck : (properties &&& p.clientProperties).has Property.supportingWMCheck = true
  · by_cases hwindow :
        (p.readBlocks atoms answer properties properties2 counted).state.supportwindow = 0
    · rw [if_pos hcheck, if_neg (fun h => h.2 hwindow), if_neg (not_not.mpr hwindow), if_pos rfl]
    · rw [if_pos hcheck, if_pos ⟨hcheck, hwindow⟩, if_pos hwindow, if_neg (List.cons_ne_nil _ _)]
  · rw [if_neg hcheck, if_neg (fun h => hcheck h.1), if_pos rfl]

theorem read_wmName (display : Display) (replies : List Reply) :
    Branch.wmName.read atoms display replies p =
      (p.readName atoms (display.answer
        ⟨p.supportwindow, atoms.atom .netWmName, atoms.atom .utf8String, maxPropSize⟩), []) := by
  unfold Branch.read readName
  dsimp only
  split
  · split <;> rfl
  · rfl

theorem readFrom_wmName {dirty dirty2 : Flags} (hcheck : dirty.has Property.supportingWMCheck = true)
    (display : Display) (c : Nat) :
    (reader atoms dirty dirty2 display).readFrom answer [.wmName] c p =
      ⟨c, [], p.readName atoms (display.answer
        ⟨p.supportwindow, atoms.atom .netWmName, atoms.atom .utf8String, maxPropSize⟩), []⟩ := by
  have hread : (reader atoms dirty dirty2 display).read .wmName [] p = _ :=
    read_wmName atoms p display []
  have hwanted : (reader atoms dirty dirty2 display).wanted .wmName = true := hcheck
  rw [Reader.readFrom, if_pos hwanted]
  show Reader.Reading.mk c [] ((reader atoms dirty dirty2 display).read .wmName [] p).1
    (((reader atoms dirty dirty2 display).read .wmName [] p).2 ++ []) = _
  rw [hread]
  rfl

-- With the replies of the display it is `update`.
theorem readAll_display {display : Display}
    (hanswer : ∀ k request, (p.requestsSent atoms answer properties properties2)[k]? = some request →
      answer k = display.answer request) :
    let reading := p.readAll atoms answer properties properties2
    p.update atoms display properties properties2 = (reading.state, reading.signals) := by
  have hreplies := Reader.map_answer fun k request hk => hanswer k request (by
    unfold requestsSent
    rw [List.getElem?_append_left (List.getElem?_eq_some_iff.mp hk).1]
    exact hk)
  dsimp only
  generalize hdirty : properties &&& p.clientProperties = dirty
  generalize hdirty2 : properties2 &&& p.clientProperties2 = dirty2
  -- The blocks that count do not look at the display.
  have hcounted : (reader atoms dirty dirty2 display).readFrom answer counted 0 p =
      p.readBlocks atoms answer properties properties2 counted := by
    unfold readBlocks
    rw [hdirty, hdirty2]
    apply Reader.readFrom_congr
    intro b hb
    refine ⟨rfl, rfl, ?_⟩
    cases b <;> first | rfl | exact absurd hb (by decide)
  have harity := length_requests atoms p.root dirty dirty2 display
  have hall := Reader.readFrom_eq_receive (reader atoms dirty dirty2 display) answer harity readOrder 0 p
  have hsent := sent_eq atoms p dirty dirty2
  unfold requestsCounted at hreplies
  rw [hdirty, hdirty2] at hreplies
  unfold update
  dsimp only at hall ⊢
  rw [hdirty, hdirty2, ← hreplies, hsent, List.range_eq_range']
  refine Eq.trans hall.symm ?_
  have horder : readOrder = counted ++ [.wmName] := rfl
  rw [horder, Reader.readFrom_append, hcounted, readAll_eq]
  have hname := nameSent_eq atoms p answer properties properties2
  have hlast := hanswer (p.requestsCounted atoms properties properties2).length
  unfold requestsSent at hlast
  rw [hdirty] at hname
  generalize p.readBlocks atoms answer properties properties2 counted = reading at hname ⊢
  generalize p.requestsCounted atoms properties properties2 = requests at hlast ⊢
  by_cases hcheck : dirty.has Property.supportingWMCheck = true
  · rw [readFrom_wmName atoms reading.state answer hcheck]
    rw [if_pos hcheck] at hname
    unfold nameRequest at hname
    dsimp only
    rw [List.append_nil]
    by_cases hwindow : reading.state.supportwindow = 0
    · -- There is no window to ask.
      rw [if_neg (not_not.mpr hwindow)] at hname
      rw [if_pos hname]
      unfold readName
      rw [if_neg (not_not.mpr hwindow)]
    · rw [if_pos hwindow] at hname
      rw [hname, List.getElem?_append_right (Nat.le_refl _), Nat.sub_self] at hlast
      rw [if_neg (hname ▸ List.cons_ne_nil _ _), ← hlast _ rfl]
  · have hunwanted : ¬(reader atoms dirty dirty2 display).wanted .wmName = true := hcheck
    rw [if_neg hcheck] at hname
    rw [if_pos hname, Reader.readFrom, if_neg hunwanted, Reader.readFrom]
    dsimp only
    rw [List.append_nil]

theorem requestsSent_of_ne {b : Branch} (hb : b ≠ .wmName) :
    b.requestsSent atoms p answer properties properties2 = b.requests atoms p.root := by
  cases b <;> first | rfl | exact absurd rfl hb

theorem readOwn_of_ne {b : Branch} (hb : b ≠ .wmName) (replies : List Reply) :
    b.readOwn atoms p replies = (b.read atoms (fun _ _ => none) replies p).1 := by
  cases b <;> first | rfl | exact absurd rfl hb

theorem readName_frame (reply : Reply) {b : Branch} (hb : b ≠ .wmName) :
    b.owned (p.readName atoms reply) = b.owned p ∧ (p.readName atoms reply).identity = p.identity := by
  unfold readName
  dsimp only
  split
  · split <;> cases b <;> first | exact ⟨rfl, rfl⟩ | exact absurd rfl hb
  · exact ⟨rfl, rfl⟩

theorem paired_counted :
    (p.readBlocks atoms answer properties properties2 counted).Paired
      (p.requestsCounted atoms properties properties2)
      (Branch.requestsSent atoms p answer properties properties2) := by
  have hpaired := Reader.paired_readFrom _ answer (length_requests atoms p.root
    (properties &&& p.clientProperties) (properties2 &&& p.clientProperties2) fun _ _ => none) counted p
  apply Reader.Reading.Paired.mk hpaired.numbers
  intro t ht
  rw [requestsSent_of_ne]
  · exact hpaired.requested t ht
  · intro h
    have hmem := Reader.branch_of_taken _ answer counted 0 p t ht
    rw [h] at hmem
    exact absurd hmem (by decide)

-- The part of a counted block.
theorem owned_counted {b : Branch} (hb : b ≠ .wmName) :
    let reading := p.readBlocks atoms answer properties properties2 counted
    b.owned reading.state =
      if b.wanted (properties &&& p.clientProperties) (properties2 &&& p.clientProperties2) then
        b.owned (b.readOwn atoms (p.readBlocks atoms answer properties properties2
          (counted.takeWhile fun c => decide (c ≠ b))).state (reading.own answer b))
      else b.owned p := by
  dsimp only
  rw [readOwn_of_ne atoms _ hb]
  exact Reader.view_readFrom _ answer b.owned
    (fun c replies q hc => (read_frame atoms (fun _ _ => none) hc (fun h => absurd h hb) replies q).2)
    (by decide) (by cases b <;> first | decide | exact absurd rfl hb) 0 p

-- The name is left to the block at the end.
theorem name_counted
    (hcheck : (properties &&& p.clientProperties).has Property.supportingWMCheck = false) :
    (p.readBlocks atoms answer properties properties2 counted).state.name = p.name := by
  apply Reader.view_readFrom_of_frame _ answer name
  intro b hb hwanted replies q
  have hne : b ≠ .wmName := by
    intro h
    rw [h] at hb
    exact absurd hb (by decide)
  have hne' : b ≠ .supportingWMCheck := by
    intro h
    rw [h] at hwanted
    exact Bool.eq_false_iff.mp hcheck hwanted
  exact (read_frame atoms (fun _ _ => none) hne (fun _ => hne') replies q).2

theorem paired_readAll :
    (p.readAll atoms answer properties properties2).Paired
      (p.requestsSent atoms answer properties properties2)
      (Branch.requestsSent atoms p answer properties properties2) := by
  have hpaired := paired_counted atoms p answer properties properties2
  rw [readAll_eq]
  unfold requestsSent
  dsimp only
  by_cases hnone : p.nameSent atoms answer properties properties2 = []
  · rw [hnone, if_pos rfl, List.append_nil]
    exact hpaired
  · rw [if_neg hnone]
    have hone : ∃ request, p.nameSent atoms answer properties properties2 = [request] := by
      rw [nameSent_eq] at hnone ⊢
      unfold nameRequest at hnone ⊢
      split
      · split
        · exact ⟨_, rfl⟩
        · simp_all
      · simp_all
    rcases hone with ⟨request, hrequest⟩
    rw [hrequest]
    exact hpaired.concat (b := .wmName) hrequest _

theorem counter_readAll :
    (p.readAll atoms answer properties properties2).counter =
      (p.requestsCounted atoms properties properties2).length := by
  have hcounter := (Reader.counter_readFrom _ answer (length_requests atoms p.root
    (properties &&& p.clientProperties) (properties2 &&& p.clientProperties2) fun _ _ => none)
      counted 0 p).1.trans (Nat.zero_add _)
  unfold readAll
  dsimp only
  split <;> exact hcounter

theorem own_readAll (b : Branch) :
    (p.readAll atoms answer properties properties2).own answer b =
      (p.readBlocks atoms answer properties properties2 counted).own answer b ++
        if b = .wmName ∧ p.nameSent atoms answer properties properties2 ≠ [] then
          [answer (p.requestsCounted atoms properties properties2).length]
        else [] := by
  rw [readAll_eq]
  dsimp only
  by_cases hnone : p.nameSent atoms answer properties properties2 = []
  · rw [if_pos hnone, if_neg (fun h => h.2 hnone), List.append_nil]
  · rw [if_neg hnone]
    unfold Reader.Reading.own
    rw [List.filterMap_append]
    by_cases hb : b = .wmName
    · rw [if_pos ⟨hb, hnone⟩, hb]
      rfl
    · rw [if_neg (fun h => hb h.1)]
      exact congrArg _ (List.filterMap_cons_none (if_neg (Ne.symm hb)))

-- What the block at the end does comes last.
theorem state_readAll :
    (p.readAll atoms answer properties properties2).state =
      if (properties &&& p.clientProperties).has Property.supportingWMCheck then
        (p.readBlocks atoms answer properties properties2 counted).state.readName atoms
          (answer (p.requestsCounted atoms properties properties2).length)
      else (p.readBlocks atoms answer properties properties2 counted).state := by
  unfold readAll
  dsimp only
  by_cases hcheck : (properties &&& p.clientProperties).has Property.supportingWMCheck = true
  · rw [if_pos hcheck]
    split
    · rfl
    · rename_i h
      unfold readName
      rw [if_neg fun hwindow => h ⟨hcheck, hwindow⟩]
  · rw [if_neg hcheck, if_neg fun h => hcheck h.1]

-- Where no name is asked for, none is read.
theorem readName_requested (reply : Reply) :
    p.readName atoms reply =
      Branch.readOwn atoms p .wmName
        (if Branch.wmName = .wmName ∧ nameRequest atoms p ≠ [] then [reply] else []) := by
  by_cases hwindow : p.supportwindow = 0
  · unfold Branch.readOwn readName
    rw [if_neg (not_not.mpr hwindow), if_neg (not_not.mpr hwindow)]
  · have hname : nameRequest atoms p ≠ [] := by
      unfold nameRequest
      rw [if_pos hwindow]
      exact List.cons_ne_nil _ _
    rw [if_pos ⟨rfl, hname⟩]
    rfl

theorem owned_readAll (b : Branch) :
    let reading := p.readAll atoms answer properties properties2
    b.owned reading.state =
      if b.wanted (properties &&& p.clientProperties) (properties2 &&& p.clientProperties2) then
        b.owned (b.readOwn atoms (p.readBlocks atoms answer properties properties2
          (counted.takeWhile fun c => decide (c ≠ b))).state (reading.own answer b))
      else b.owned p := by
  dsimp only
  rw [own_readAll, state_readAll]
  by_cases hb : b = .wmName
  · have hnone : (p.readBlocks atoms answer properties properties2 counted).own answer .wmName = [] :=
      Reader.own_of_notMem _ answer (by decide) 0 p
    have hbefore : (counted.takeWhile fun c => decide (c ≠ .wmName)) = counted := by decide
    have hsent := nameSent_eq atoms p answer properties properties2
    rw [hb, hnone, hbefore, List.nil_append]
    by_cases hcheck : (properties &&& p.clientProperties).has Property.supportingWMCheck = true
    · rw [if_pos hcheck] at hsent ⊢
      rw [if_pos (show Branch.wmName.wanted _ _ = true from hcheck), hsent]
      exact congrArg Branch.wmName.owned (readName_requested atoms _ _)
    · have hunwanted : ¬Branch.wmName.wanted (properties &&& p.clientProperties)
        (properties2 &&& p.clientProperties2) = true := hcheck
      rw [if_neg hcheck, if_neg hunwanted]
      exact name_counted atoms p answer properties properties2 (Bool.eq_false_iff.mpr hcheck)
  · rw [if_neg fun h : b = .wmName ∧ p.nameSent atoms answer properties properties2 ≠ [] => hb h.1,
      List.append_nil, ← owned_counted atoms p answer properties properties2 hb]
    split
    · exact (readName_frame atoms _ _ hb).1
    · rfl

/-- The replies are paired with the requests, that of the name being the last, and a part of the object is
what its block makes of its own replies, or what it was. -/
structure UpdatePaired : Prop where
  replies : (p.readAll atoms answer properties properties2).Paired
    (p.requestsSent atoms answer properties properties2)
    (Branch.requestsSent atoms p answer properties properties2)
  counter : (p.readAll atoms answer properties properties2).counter +
      (p.nameSent atoms answer properties properties2).length =
    (p.requestsSent atoms answer properties properties2).length
  owned : ∀ b : Branch,
    let reading := p.readAll atoms answer properties properties2
    let before := p.readBlocks atoms answer properties properties2
      (counted.takeWhile fun c => decide (c ≠ b))
    b.owned reading.state =
      if b.wanted (properties &&& p.clientProperties) (properties2 &&& p.clientProperties2) then
        b.owned (b.readOwn atoms before.state (reading.own answer b))
      else b.owned p
  identity : (p.readAll atoms answer properties properties2).state.identity = p.identity
  display : ∀ display : Display,
    (∀ k request, (p.requestsSent atoms answer properties properties2)[k]? = some request →
      answer k = display.answer request) →
    let reading := p.readAll atoms answer properties properties2
    p.update atoms display properties properties2 = (reading.state, reading.signals)

theorem updatePaired : UpdatePaired atoms p answer properties properties2 := by
  constructor
  case replies => exact paired_readAll atoms p answer properties properties2
  case counter =>
    rw [counter_readAll]
    exact List.length_append.symm
  case owned => exact owned_readAll atoms p answer properties properties2
  case identity =>
    have hidentity : (p.readBlocks atoms answer properties properties2 counted).state.identity =
        p.identity := Reader.view_readFrom_of_frame _ answer identity
      (fun b _ _ replies q => read_identity atoms (fun _ _ => none) b replies q) 0 p
    rw [state_readAll]
    split
    · exact (readName_frame atoms _ _ (fun h : Branch.supported = .wmName => nomatch h)).2.trans hidentity
    · exact hidentity
  case display =>
    intro display hanswer
    exact readAll_display atoms p answer properties properties2 hanswer

end Update

end NETRootInfo

/-- For all the flags and whatever the replies say, both functions pair them with their requests. -/
theorem replies_paired (atoms : Atoms) (answer : Nat → Reply) (properties properties2 : Flags) :
    (∀ p : NETRootInfo, NETRootInfo.UpdatePaired atoms p answer properties properties2) ∧
      ∀ p : NETWinInfo, NETWinInfo.UpdatePaired atoms p answer properties properties2 :=
  ⟨fun p => NETRootInfo.updatePaired atoms p answer properties properties2,
    fun p => NETWinInfo.updatePaired atoms p answer properties properties2⟩

end KWindowSystem
