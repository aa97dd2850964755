import KWindowSystem.NetWM.WinCache

/-!
# The type of a window

`KWindowInfo::windowType` and what it goes by: the list of types, which has an entry also where the window
has none, and the window that it is transient for.
-/

namespace KWindowSystem

open NET

structure KWindowInfo where
  info : NETWinInfo

namespace NETWinInfo

def hasWindowType (p : NETWinInfo) : Bool := p.types.size > 0

end NETWinInfo

namespace KWindowInfo

/-- The properties that the constructor reads for those that it is asked for. -/
def forced (mapViewport : Bool) (properties properties2 : Flags) : Flags × Flags :=
  let properties := if properties.has Property.wmVisibleIconName then
    properties ||| (mask Property.wmIconName ||| mask Property.wmVisibleName) else properties
  let properties := if properties.has Property.wmVisibleName then
    properties ||| mask Property.wmName else properties
  let properties := if properties2.has Property2.extendedStrut then
    properties ||| mask Property.wmStrut else properties
  let properties2 := if properties.has Property.wmWindowType then
    properties2 ||| mask Property2.transientFor else properties2
  let properties := if properties.has Property.wmDesktop && mapViewport then
    properties ||| mask Property.wmGeometry else properties
  (properties ||| mask Property.xawmState, properties2)

/-- The constructor on X11, as far as its `NETWinInfo`. -/
def new (atoms : Atoms) (display : Display) (mapViewport : Bool) (window root : XcbWindow)
    (properties properties2 : Flags) : KWindowInfo :=
  let passed := forced mapViewport properties properties2
  ⟨NETWinInfo.new atoms display window root passed.1 passed.2 .client⟩

def transientFor (w : KWindowInfo) : XcbWindow := w.info.transientFor

def windowType (w : KWindowInfo) (supportedTypes : Flags) : WindowType :=
  if w.info.hasWindowType then w.info.windowType supportedTypes
  -- fallback, per spec recommendation
  else if w.transientFor ≠ 0 then
    if supportedTypes.has WindowType.dialog then .dialog else w.info.windowType supportedTypes
  else if supportedTypes.has WindowType.normal then .normal
  else w.info.windowType supportedTypes

/-! ## The type that a window has -/

/-- The atoms that the property lists. -/
def listedTypes (property : Option XProperty) : List XcbAtom :=
  match property with
  | some ⟨type, .data32 words⟩ => if type = .atom then words else []
  | _ => []

/-- The window that `WM_TRANSIENT_FOR` names. -/
def transientWindow (property : Option XProperty) : XcbWindow :=
  match property with
  | some ⟨type, .data32 (window :: _)⟩ => if type = .window then window else 0
  | _ => 0

/-- The first listed type that is supported. -/
def firstSupported (atoms : Atoms) (list : List XcbAtom) (supportedTypes : Flags) : Option WindowType :=
  (list.filterMap (lookupAtom atoms.atom NETWinInfo.typeChain)).find? fun type => supportedTypes.has type

/-- The type of a window that lists none. -/
def fallbackType (transientFor : XcbWindow) : WindowType := if transientFor ≠ 0 then .dialog else .normal

/-- The type that a window has for someone who supports some of them. -/
def expectedType (atoms : Atoms) (list : List XcbAtom) (transientFor : XcbWindow)
    (supportedTypes : Flags) : WindowType :=
  if list = [] then
    if supportedTypes.has (fallbackType transientFor) then fallbackType transientFor else .unknown
  else (firstSupported atoms list supportedTypes).getD .unknown

/-- An atom for a type that is supported. -/
def Recognised (atoms : Atoms) (supportedTypes : Flags) (atom : XcbAtom) : Prop :=
  ∃ type, lookupAtom atoms.atom NETWinInfo.typeChain atom = some type ∧ supportedTypes.has type = true

section Lists

variable {atoms : Atoms} {supportedTypes : Flags}

theorem firstSupported_append (list list' : List XcbAtom) :
    firstSupported atoms (list ++ list') supportedTypes =
      (firstSupported atoms list supportedTypes).or (firstSupported atoms list' supportedTypes) := by
  unfold firstSupported
  rw [List.filterMap_append, List.find?_append]

theorem firstSupported_eq_none_iff {list : List XcbAtom} :
    firstSupported atoms list supportedTypes = none ↔
      ¬∃ atom ∈ list, Recognised atoms supportedTypes atom := by
  unfold firstSupported Recognised
  rw [List.find?_eq_none]
  apply Iff.intro
  · rintro h ⟨atom, hatom, type, hlookup, htype⟩
    exact h type (List.mem_filterMap.mpr ⟨atom, hatom, hlookup⟩) htype
  · intro h type hmem htype
    rcases List.mem_filterMap.mp hmem with ⟨atom, hatom, hlookup⟩
    exact h ⟨atom, hatom, type, hlookup, htype⟩

theorem ne_unknown_of_firstSupported {list : List XcbAtom} {type : WindowType}
    (h : firstSupported atoms list supportedTypes = some type) : type ≠ .unknown := by
  intro hunknown
  have htype := List.find?_some h
  rw [hunknown] at htype
  exact absurd htype (by simp [Flags.has, Flag.bit, WindowType.maskBit])

-- The beginning of a list is enough if it has a type that is supported, or the whole list has none.
theorem firstSupported_take_iff (list : List XcbAtom) (n : Nat) :
    (firstSupported atoms (list.take n) supportedTypes).getD .unknown =
        (firstSupported atoms list supportedTypes).getD .unknown ↔
      ((∃ atom ∈ list, Recognised atoms supportedTypes atom) →
        ∃ atom ∈ list.take n, Recognised atoms supportedTypes atom) := by
  have hsplit : firstSupported atoms list supportedTypes =
      (firstSupported atoms (list.take n) supportedTypes).or
        (firstSupported atoms (list.drop n) supportedTypes) := by
    rw [← firstSupported_append, List.take_append_drop]
  cases htake : firstSupported atoms (list.take n) supportedTypes with
  | some type =>
      have hfound : ∃ atom ∈ list.take n, Recognised atoms supportedTypes atom := by
        by_contra hnone
        rw [firstSupported_eq_none_iff.mpr hnone] at htake
        nomatch htake
      rw [hsplit, htake]
      exact iff_of_true rfl fun _ => hfound
  | none =>
      have hnone := firstSupported_eq_none_iff.mp htake
      apply Iff.intro
      · intro heq hall
        cases hlist : firstSupported atoms list supportedTypes with
        | none => exact absurd hall (firstSupported_eq_none_iff.mp hlist)
        | some type =>
            rw [hlist] at heq
            exact absurd heq.symm (ne_unknown_of_firstSupported hlist)
      · intro h
        have hall : firstSupported atoms list supportedTypes = none :=
          firstSupported_eq_none_iff.mpr fun hfound => hnone (h hfound)
        rw [hall]

end Lists

/-! ## What the object reads -/

section WindowType

variable (atoms : Atoms) (display : Display) (mapViewport : Bool) (window root : XcbWindow)
  {properties : Flags} (properties2 : Flags)

theorem has_forced (hasked : properties.has Property.wmWindowType = true) :
    (forced mapViewport properties properties2).1.has Property.wmWindowType = true := by
  unfold forced
  dsimp only
  split_ifs <;> simp [hasked]

-- The list of types has an entry in any case.
theorem types_read (reply : Reply) (p : NETWinInfo) :
    let read := (NETWinInfo.Branch.wmWindowType.read atoms [reply] p).1
    let found := (getArrayReply reply .atom).filterMap (lookupAtom atoms.atom NETWinInfo.typeChain)
    read.types.toList = if found = [] then [.unknown] else found := by
  dsimp only
  generalize hfound :
    (getArrayReply reply .atom).filterMap (lookupAtom atoms.atom NETWinInfo.typeChain) = found
  have hread : (NETWinInfo.Branch.wmWindowType.read atoms [reply] p).1.types =
      (NETRArray.new.set 0 .unknown).setFrom 0 found := by
    rw [← hfound]
    rfl
  rw [hread]
  cases found with
  | nil => exact NETRArray.toList_set_size NETRArray.new WindowType.unknown
  | cons type found =>
      rw [if_neg (List.cons_ne_nil _ _)]
      exact NETRArray.toList_setFrom_zero (Nat.succ_le_succ (Nat.zero_le _))

theorem windowType_read (reply : Reply) (p : NETWinInfo) (supportedTypes : Flags) :
    (NETWinInfo.Branch.wmWindowType.read atoms [reply] p).1.windowType supportedTypes =
      (firstSupported atoms (getArrayReply reply .atom) supportedTypes).getD .unknown := by
  have htypes := types_read atoms reply p
  unfold NETWinInfo.windowType firstSupported
  dsimp only at htypes
  rw [htypes]
  split
  · rename_i hnone
    rw [hnone, List.find?_cons_of_neg (by simp [Flags.has, Flag.bit, WindowType.maskBit])]
  · rfl

theorem hasWindowType_read (reply : Reply) (p : NETWinInfo) :
    (NETWinInfo.Branch.wmWindowType.read atoms [reply] p).1.hasWindowType = true := by
  have htypes := congrArg List.length (types_read atoms reply p)
  rw [NETRArray.length_toList] at htypes
  unfold NETWinInfo.hasWindowType
  rw [decide_eq_true_iff, htypes]
  split
  · exact Nat.zero_lt_one
  · exact List.length_pos_iff.mpr ‹_›

theorem listedTypes_reply (property : Option XProperty) (n : Nat) :
    getArrayReply (getProperty property .atom n) .atom = (listedTypes property).take n := by
  rw [getArrayReply_getProperty (by decide)]
  rcases property with _ | ⟨type, bytes | shorts | words⟩
  · exact List.take_nil.symm
  · exact List.take_nil.symm
  · exact List.take_nil.symm
  · unfold XProperty.words listedTypes
    by_cases h : type = .atom <;> simp [h]

-- The fallback is never taken.
theorem windowType_new (hasked : properties.has Property.wmWindowType = true) (supportedTypes : Flags) :
    (new atoms display mapViewport window root properties properties2).windowType supportedTypes =
      (firstSupported atoms ((listedTypes (display window (atoms.atom .netWmWindowType))).take 2048)
        supportedTypes).getD .unknown := by
  have hforced := has_forced mapViewport properties2 hasked
  unfold new
  generalize forced mapViewport properties properties2 = passed at hforced
  let p := NETWinInfo.unread root passed.1 passed.2 .client window
  let property := display window (atoms.atom .netWmWindowType)
  have hhas : (NETWinInfo.new atoms display window root passed.1 passed.2 .client).hasWindowType = true :=
    (NETWinInfo.get_new atoms .hasWindowType hforced display window).trans
      (hasWindowType_read atoms (getProperty property .atom 2048) p)
  have htype : (NETWinInfo.new atoms display window root passed.1 passed.2 .client).windowType
      supportedTypes = _ :=
    (congrFun (NETWinInfo.get_new atoms .windowType hforced display window) supportedTypes).trans
      (windowType_read atoms (getProperty property .atom 2048) p supportedTypes)
  unfold windowType
  dsimp only
  rw [if_pos hhas, htype, listedTypes_reply]

/-- The type is the one that the window has exactly if it lists some or none is expected of it, and if a
supported type is among the 2048 that are read when there is one. -/
theorem windowType_iff (hasked : properties.has Property.wmWindowType = true) (supportedTypes : Flags) :
    let list := listedTypes (display window (atoms.atom .netWmWindowType))
    let transientFor := transientWindow (display window .wmTransientFor)
    (new atoms display mapViewport window root properties properties2).windowType supportedTypes =
        expectedType atoms list transientFor supportedTypes ↔
      (list = [] → supportedTypes.has (fallbackType transientFor) = false) ∧
        ((∃ atom ∈ list, Recognised atoms supportedTypes atom) →
          ∃ atom ∈ list.take 2048, Recognised atoms supportedTypes atom) := by
  dsimp only
  rw [windowType_new atoms display mapViewport window root properties2 hasked]
  generalize listedTypes (display window (atoms.atom .netWmWindowType)) = list
  generalize transientWindow (display window .wmTransientFor) = transientFor
  unfold expectedType
  by_cases hlist : list = []
  · have hfallback : fallbackType transientFor ≠ .unknown := by
      unfold fallbackType
      split <;> exact fun h => nomatch h
    rw [if_pos hlist, hlist]
    show WindowType.unknown = _ ↔ _
    by_cases hsupported : supportedTypes.has (fallbackType transientFor) = true
    · rw [if_pos hsupported, hsupported]
      exact iff_of_false (Ne.symm hfallback) fun h => absurd (h.1 rfl) (by decide)
    · rw [if_neg hsupported]
      apply iff_of_true rfl
      exact ⟨fun _ => Bool.eq_false_iff.mpr hsupported, fun ⟨_, hmem, _⟩ => absurd hmem List.not_mem_nil⟩
  · rw [if_neg hlist, firstSupported_take_iff]
    exact ⟨fun h => ⟨fun hnil => absurd hnil hlist, h⟩, fun h => h.2⟩

end WindowType

/-- A dock. -/
def dock : Display := fun window atom =>
  if window = 5 ∧ atom = Atoms.inOrder.atom .netWmWindowType then
    some ⟨.atom, .data32 [Atoms.inOrder.atom .netWmWindowTypeDock]⟩
  else none

theorem windowType_dock :
    (new .inOrder dock false 5 1 (mask Property.wmWindowType) 0).windowType (BitVec.allOnes 32) = .dock :=
  ((windowType_iff .inOrder dock false 5 1 0 (by decide) (BitVec.allOnes 32)).mpr
    ⟨by decide, fun h => h⟩).trans (by decide)

/-- A window without any properties has no type, and not the normal one. -/
theorem windowType_bare :
    let bare : Display := fun _ _ => none
    (new .inOrder bare false 5 1 (mask Property.wmWindowType) 0).windowType (BitVec.allOnes 32) ≠
      expectedType .inOrder (listedTypes (bare 5 (Atoms.inOrder.atom .netWmWindowType)))
        (transientWindow (bare 5 .wmTransientFor)) (BitVec.allOnes 32) := by
  intro bare
  rw [windowType_new .inOrder bare false 5 1 0 (by decide)]
  decide

end KWindowInfo

end KWindowSystem
