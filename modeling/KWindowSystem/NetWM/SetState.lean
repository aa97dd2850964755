import KWindowSystem.NetWM.WinCache
import Mathlib.Data.List.Forall2
import Mathlib.Tactic.SplitIfs

/-!
# setState

`NETWinInfo::setState` on both of its paths: the client messages of a client whose window is managed,
which the window manager's object decodes and applies, and the property written directly.  Whichever
path a call takes, the states of the window end as the old ones with those of the mask replaced
(`setState_windowState`).
-/

open Machine

namespace KWindowSystem

open NET

namespace NETWinInfo

/-- What `setState` asks the server for. -/
inductive StateRequest where
  /-- A `_NET_WM_STATE` message of format 32 about the window, sent to the root window. -/
  | message (data32 : Vector UInt32 5)
  /-- `_NET_WM_STATE` replaced by a list of atoms. -/
  | property (atoms : List XcbAtom)

section SetState

variable (atoms : Atoms)

/-- The message that sets or clears the states of up to two atoms. -/
def stateData (on : Bool) (first second : XcbAtom) : Vector UInt32 5 :=
  #v[if on then 1 else 0, first, second, 0, 0]

/-- The block of one state, sent under each of its atoms if it is to change. -/
def stateMessages (p : NETWinInfo) (state mask : Flags) (s : State) (names : List KwsAtom) :
    List (Vector UInt32 5) :=
  if mask.has s ∧ p.state.has s ≠ state.has s then
    names.map fun name => stateData (state.has s) (atoms.atom name) 0
  else []

/-- The block of the two maximised states, which share one message when both change alike. -/
def maxMessages (p : NETWinInfo) (state mask : Flags) : List (Vector UInt32 5) :=
  let horz := atoms.atom .netWmStateMaximizedHorz
  let vert := atoms.atom .netWmStateMaximizedVert
  if mask &&& State.max ≠ 0 ∧ p.state &&& mask &&& State.max ≠ state &&& State.max then
    let wishstate := p.state &&& ~~~mask ||| state &&& mask
    if wishstate.has State.maxHoriz ≠ p.state.has State.maxHoriz ∧
        wishstate.has State.maxVert ≠ p.state.has State.maxVert then
      if wishstate &&& State.max = State.max then [stateData true horz vert]
      else if wishstate &&& State.max = 0 then [stateData false horz vert]
      else
        [stateData (wishstate.has State.maxHoriz) horz 0,
          stateData (wishstate.has State.maxVert) vert 0]
    else if wishstate.has State.maxVert ≠ p.state.has State.maxVert then
      [stateData (wishstate.has State.maxVert) vert 0]
    else if wishstate.has State.maxHoriz ≠ p.state.has State.maxHoriz then
      [stateData (wishstate.has State.maxHoriz) horz 0]
    else []
  else []

/-- The blocks of the client messages before and after that of the maximised states. -/
def firstBlocks : List (State × List KwsAtom) :=
  [(.modal, [.netWmStateModal]), (.sticky, [.netWmStateSticky])]

def laterBlocks : List (State × List KwsAtom) :=
  [(.shaded, [.netWmStateShaded]), (.skipTaskbar, [.netWmStateSkipTaskbar]),
    (.skipPager, [.netWmStateSkipPager]), (.skipSwitcher, [.kdeNetWmStateSkipSwitcher]),
    (.hidden, [.netWmStateHidden]), (.fullScreen, [.netWmStateFullscreen]),
    (.keepAbove, [.netWmStateAbove, .netWmStateStaysOnTop]), (.keepBelow, [.netWmStateBelow]),
    (.demandsAttention, [.netWmStateDemandsAttention])]

def clientMessages (p : NETWinInfo) (state mask : Flags) : List (Vector UInt32 5) :=
  (firstBlocks.flatMap fun b => stateMessages atoms p state mask b.1 b.2) ++
    maxMessages atoms p state mask ++
    laterBlocks.flatMap fun b => stateMessages atoms p state mask b.1 b.2

/-- The atoms under which each state is written, in order. -/
def writtenAtoms : List (State × List KwsAtom) :=
  [(.modal, [.netWmStateModal]), (.maxVert, [.netWmStateMaximizedVert]),
    (.maxHoriz, [.netWmStateMaximizedHorz]), (.shaded, [.netWmStateShaded]),
    (.hidden, [.netWmStateHidden]), (.fullScreen, [.netWmStateFullscreen]),
    (.demandsAttention, [.netWmStateDemandsAttention]), (.focused, [.netWmStateFocused]),
    (.keepAbove, [.netWmStateAbove, .netWmStateStaysOnTop]), (.keepBelow, [.netWmStateBelow]),
    (.sticky, [.netWmStateSticky]), (.skipTaskbar, [.netWmStateSkipTaskbar]),
    (.skipPager, [.netWmStateSkipPager]), (.skipSwitcher, [.kdeNetWmStateSkipSwitcher])]

def stateAtoms (state : Flags) : List XcbAtom :=
  writtenAtoms.flatMap fun e => if state.has e.1 then e.2.map atoms.atom else []

def updateWMState (display : Display) (p : NETWinInfo) : NETWinInfo :=
  (p.update atoms display (mask Property.xawmState) 0).1

/-- The current state, read even if it is not asked for. -/
def readState (display : Display) (p : NETWinInfo) : NETWinInfo :=
  let p := if p.mappingStateDirty then updateWMState atoms display p else p
  if p.properties.has Property.wmState then p
  else
    let p := { p with properties := p.properties ||| mask Property.wmState }
    let p := (p.update atoms display (mask Property.wmState) 0).1
    { p with properties := p.properties &&& ~~~mask Property.wmState }

def setState (display : Display) (p : NETWinInfo) (state mask : Flags) :
    NETWinInfo × List StateRequest :=
  let p := readState atoms display p
  if p.role = .client ∧ p.mappingState ≠ .withdrawn then
    (p, (clientMessages atoms p state mask).map .message)
  else
    let p := { p with state := p.state &&& ~~~mask ||| state }
    (p, [.property (stateAtoms atoms p.state)])

end SetState

/-! ## The two parties -/

/-- A window with the objects of a client and of the window manager for it. -/
structure Parties where
  display : Display
  client : NETWinInfo
  manager : NETWinInfo

inductive Caller where
  | client
  | manager

structure StateCall where
  caller : Caller
  state : Flags
  mask : Flags

section Parties

variable (atoms : Atoms)

/-- The atoms as the new value of `_NET_WM_STATE`. -/
def writeState (display : Display) (window : XcbWindow) (list : List XcbAtom) : Display :=
  Change.apply ⟨atoms.atom .netWmState, some ⟨.atom, .data32 list⟩⟩ window display

/-- The window manager's `changeState`: the states of the mask are replaced and published. -/
def changeState (s : Display × NETWinInfo) (state mask : Flags) : Display × NETWinInfo :=
  let set := s.2.setState atoms s.1 state mask
  (set.2.foldl (fun display request => match request with
    | .property list => writeState atoms display s.2.window list
    | .message _ => display) s.1, set.1)

/-- The window manager receives a message that was sent about its window. -/
def receiveMessage (s : Display × NETWinInfo) (data32 : Vector UInt32 5) : Display × NETWinInfo :=
  (s.2.event atoms s.1 (.clientMessage 32 (atoms.atom .netWmState) data32)).1.2.foldl
    (fun s call => match call with
      | .changeState state mask => changeState atoms s state mask
      | _ => s) s

/-- The client's requests reach the server and, as messages, the window manager. -/
def performRequest (window : XcbWindow) (s : Display × NETWinInfo) (request : StateRequest) :
    Display × NETWinInfo :=
  match request with
  | .message data32 => receiveMessage atoms s data32
  | .property list => (writeState atoms s.1 window list, s.2)

/-- Both objects handle what they have been notified of, then one of them is called. -/
def Parties.step (s : Parties) (call : StateCall) : Parties :=
  let notify (p : NETWinInfo) : NETWinInfo :=
    (p.event atoms s.display (.propertyNotify (atoms.atom .netWmState))).1.1
  let client := notify s.client
  let manager := notify s.manager
  match call.caller with
  | .client =>
      let set := client.setState atoms s.display call.state call.mask
      let result := set.2.foldl (performRequest atoms client.window) (s.display, manager)
      ⟨result.1, set.1, result.2⟩
  | .manager =>
      let result := changeState atoms (s.display, manager) call.state call.mask
      ⟨result.1, client, result.2⟩

/-- The states of a window: what `update` makes of `_NET_WM_STATE`. -/
def windowState (display : Display) (window : XcbWindow) : Flags :=
  collectFlags atoms stateChain 0
    (getArrayReply (display.answer ⟨window, atoms.atom .netWmState, .atom, 2048⟩) .atom)

end Parties

/-! ## Reading and writing the states -/

section States

variable (atoms : Atoms)

@[simp] theorem mask_has_state (y x : State) : (mask y).has x = decide (y = x) := by
  cases y <;> cases x <;> decide

theorem has_not_state (flags : Flags) (x : State) : (~~~flags : Flags).has x = !flags.has x := by
  have hbit : State.bit x < 32 := by cases x <;> decide
  show (~~~flags).getLsbD (State.bit x) = _
  rw [BitVec.getLsbD_not, decide_eq_true hbit, Bool.true_and]
  rfl

/-- The state that an atom names. -/
def stateOf (atom : XcbAtom) : Option State := lookupAtom atoms.atom stateChain atom

theorem stateOf_atom (name : KwsAtom) :
    stateOf atoms (atoms.atom name) =
      (stateChain.find? fun entry => name = entry.1).map (·.2) :=
  lookupAtom_value atoms.injective stateChain name

theorem stateOf_zero : stateOf atoms 0 = none := by
  cases h : stateOf atoms 0 with
  | none => rfl
  | some s =>
      rcases mem_of_lookupAtom h with ⟨name, -, hatom⟩
      exact absurd hatom.symm (atoms.ne_predefined (by decide) name)

theorem has_collectStates (flags : Flags) (list : List XcbAtom) (x : State) :
    (collectFlags atoms stateChain flags list).has x =
      (flags.has x || list.any fun atom => stateOf atoms atom = some x) := by
  induction list generalizing flags with
  | nil => exact (Bool.or_false _).symm
  | cons atom list ih =>
      show (collectFlags atoms stateChain (addFlag atoms stateChain flags atom) list).has x = _
      rw [ih, List.any_cons]
      unfold addFlag stateOf
      cases lookupAtom atoms.atom stateChain atom with
      | none => simp
      | some s => simp [Bool.or_assoc]

/-- Every atom of an entry names its state. -/
def NamesState (e : State × List KwsAtom) : Prop :=
  e.2 ≠ [] ∧ ∀ name ∈ e.2, (stateChain.find? fun entry => name = entry.1).map (·.2) = some e.1

instance (e : State × List KwsAtom) : Decidable (NamesState e) :=
  inferInstanceAs (Decidable (_ ∧ _))

theorem any_names {e : State × List KwsAtom} (he : NamesState e) (x : State) :
    ((e.2.map atoms.atom).any fun atom => stateOf atoms atom = some x) = decide (e.1 = x) := by
  rw [List.any_map]
  by_cases hx : e.1 = x
  · rw [decide_eq_true hx, List.any_eq_true]
    rcases List.exists_mem_of_ne_nil _ he.1 with ⟨name, hname⟩
    refine ⟨name, hname, decide_eq_true ?_⟩
    rw [stateOf_atom, he.2 name hname, hx]
  · rw [decide_eq_false hx, List.any_eq_false]
    intro name hname
    rw [Function.comp_apply, stateOf_atom, he.2 name hname]
    simpa using hx

-- What is written is read back.
theorem has_stateAtoms (state : Flags) (x : State) :
    (collectFlags atoms stateChain 0 (stateAtoms atoms state)).has x = state.has x := by
  have hnames : ∀ e ∈ writtenAtoms, NamesState e := by decide
  have hentry : ∀ e ∈ writtenAtoms,
      ((if state.has e.1 then e.2.map atoms.atom else []).any fun atom => stateOf atoms atom = some x) =
        (state.has e.1 && decide (e.1 = x)) := by
    intro e he
    cases state.has e.1 with
    | true => exact any_names atoms (hnames e he) x
    | false => rfl
  have hany : (writtenAtoms.any fun e => state.has e.1 && decide (e.1 = x)) = state.has x := by
    cases x <;> simp [writtenAtoms]
  rw [has_collectStates, Flags.has_zero, Bool.false_or, stateAtoms, List.any_flatMap, ← hany,
    Bool.eq_iff_iff, List.any_eq_true, List.any_eq_true]
  exact exists_congr fun e => and_congr_right fun he => by rw [hentry e he]

theorem length_stateAtoms (state : Flags) : (stateAtoms atoms state).length ≤ 15 := by
  have hflat : ∀ l : List (State × List KwsAtom),
      (l.flatMap fun e => if state.has e.1 then e.2.map atoms.atom else []).length ≤
        (l.flatMap fun e => e.2).length := by
    intro l
    induction l with
    | nil => exact Nat.le_refl _
    | cons e l ih =>
        rw [List.flatMap_cons, List.flatMap_cons, List.length_append, List.length_append]
        have hhead : (if state.has e.1 then e.2.map atoms.atom else []).length ≤ e.2.length := by
          split <;> simp
        omega
  exact hflat writtenAtoms

theorem windowState_writeState (display : Display) (window : XcbWindow) (state : Flags) (x : State) :
    (windowState atoms (writeState atoms display window (stateAtoms atoms state)) window).has x =
      state.has x := by
  have hlength := length_stateAtoms atoms state
  have hread : getArrayReply ((writeState atoms display window (stateAtoms atoms state)).answer
      ⟨window, atoms.atom .netWmState, .atom, 2048⟩) .atom = stateAtoms atoms state := by
    show getArrayReply (getProperty (writeState atoms display window _ window _) .atom 2048) .atom = _
    unfold writeState Change.apply
    rw [if_pos rfl, Function.update_self, getArrayReply_getProperty (by decide)]
    exact List.take_of_length_le (by omega)
  unfold windowState
  rw [hread, has_stateAtoms]

end States

/-! ## What the messages ask for -/

/-- A message as the states that it sets or clears. -/
abbrev Toggle := Bool × List State

def Toggle.apply (states : State → Bool) (t : Toggle) : State → Bool := fun x =>
  if x ∈ t.2 then t.1 else states x

/-- A block that is to change its state asks for that, once or more often. -/
def blockToggles (p : NETWinInfo) (state mask : Flags) (b : State × List KwsAtom) : List Toggle :=
  if mask.has b.1 ∧ p.state.has b.1 ≠ state.has b.1 then b.2.map fun _ => (state.has b.1, [b.1])
  else []

def maxToggles (p : NETWinInfo) (state mask : Flags) : List Toggle :=
  if mask &&& State.max ≠ 0 ∧ p.state &&& mask &&& State.max ≠ state &&& State.max then
    let wishstate := p.state &&& ~~~mask ||| state &&& mask
    if wishstate.has State.maxHoriz ≠ p.state.has State.maxHoriz ∧
        wishstate.has State.maxVert ≠ p.state.has State.maxVert then
      if wishstate &&& State.max = State.max then [(true, [.maxHoriz, .maxVert])]
      else if wishstate &&& State.max = 0 then [(false, [.maxHoriz, .maxVert])]
      else
        [(wishstate.has State.maxHoriz, [.maxHoriz]), (wishstate.has State.maxVert, [.maxVert])]
    else if wishstate.has State.maxVert ≠ p.state.has State.maxVert then
      [(wishstate.has State.maxVert, [.maxVert])]
    else if wishstate.has State.maxHoriz ≠ p.state.has State.maxHoriz then
      [(wishstate.has State.maxHoriz, [.maxHoriz])]
    else []
  else []

def toggles (p : NETWinInfo) (state mask : Flags) : List Toggle :=
  firstBlocks.flatMap (blockToggles p state mask) ++ maxToggles p state mask ++
    laterBlocks.flatMap (blockToggles p state mask)

/-- The state of a window as `setState` wants it, where the client thinks that it has to act. -/
def wanted (p : NETWinInfo) (state mask : Flags) (old : Bool) (x : State) : Bool :=
  if mask.has x ∧ p.state.has x ≠ state.has x then state.has x else old

theorem wanted_wanted (p : NETWinInfo) (state mask : Flags) (old : Bool) (x : State) :
    p.wanted state mask (p.wanted state mask old x) x = p.wanted state mask old x := by
  unfold wanted
  split <;> rfl

theorem foldl_block (p : NETWinInfo) (state mask : Flags) {b : State × List KwsAtom}
    (hb : b.2 ≠ []) (states : State → Bool) (x : State) :
    (blockToggles p state mask b).foldl Toggle.apply states x =
      if x = b.1 then wanted p state mask (states x) x else states x := by
  have hmap : ∀ (names : List KwsAtom) (states : State → Bool), names ≠ [] →
      (names.map fun _ => (state.has b.1, [b.1])).foldl Toggle.apply states x =
        if x = b.1 then state.has x else states x := by
    intro names
    induction names with
    | nil => exact fun _ h => absurd rfl h
    | cons name names ih =>
        intro states _
        rw [List.map_cons, List.foldl_cons]
        cases names with
        | nil =>
            show (if x ∈ [b.1] then state.has b.1 else states x) = _
            by_cases hx : x = b.1 <;> simp [hx]
        | cons name' names =>
            rw [ih _ (List.cons_ne_nil _ _)]
            apply ite_congr rfl (fun _ => rfl)
            intro hx
            exact if_neg (fun h => hx (List.mem_singleton.mp h))
  unfold blockToggles wanted
  by_cases hx : x = b.1
  · rw [if_pos hx, hx]
    split
    · rw [hx] at hmap
      rw [hmap b.2 states hb, if_pos rfl]
    · rfl
  · rw [if_neg hx]
    split
    · rw [hmap b.2 states hb, if_neg hx]
    · rfl

theorem foldl_blocks (p : NETWinInfo) (state mask : Flags) {bs : List (State × List KwsAtom)}
    (hbs : ∀ b ∈ bs, b.2 ≠ []) (states : State → Bool) (x : State) :
    (bs.flatMap (blockToggles p state mask)).foldl Toggle.apply states x =
      if x ∈ bs.map (·.1) then wanted p state mask (states x) x else states x := by
  induction bs generalizing states with
  | nil => rfl
  | cons b bs ih =>
      rw [List.flatMap_cons, List.foldl_append, ih fun c hc => hbs c (List.mem_cons_of_mem b hc),
        foldl_block p state mask (hbs b List.mem_cons_self), List.map_cons]
      by_cases hx : x = b.1
      · simp only [List.mem_cons, hx, if_true, true_or, wanted_wanted, ite_self]
      · simp only [List.mem_cons, hx, if_false, false_or]

-- Two flag sets have the same maximised states.
theorem max_eq_iff (f g : Flags) :
    f &&& State.max = g &&& State.max ↔
      f.has State.maxVert = g.has State.maxVert ∧ f.has State.maxHoriz = g.has State.maxHoriz := by
  have hmax : ∀ i, State.max.getLsbD i = (decide (i = 2) || decide (i = 3)) := by
    intro i
    have h2 : (mask State.maxVert).getLsbD i = decide (i = 2) := by
      show (BitVec.twoPow 32 2).getLsbD i = _
      rw [BitVec.getLsbD_twoPow]
      simp [eq_comm]
    have h3 : (mask State.maxHoriz).getLsbD i = decide (i = 3) := by
      show (BitVec.twoPow 32 3).getLsbD i = _
      rw [BitVec.getLsbD_twoPow]
      simp [eq_comm]
    rw [State.max, BitVec.getLsbD_or, h2, h3]
  apply Iff.intro
  · intro h
    have hbit : ∀ i, (f &&& State.max).getLsbD i = (g &&& State.max).getLsbD i := fun i => by rw [h]
    have h2 := hbit 2
    have h3 := hbit 3
    rw [BitVec.getLsbD_and, BitVec.getLsbD_and, hmax] at h2 h3
    replace h2 : (f.has State.maxVert && true) = (g.has State.maxVert && true) := h2
    replace h3 : (f.has State.maxHoriz && true) = (g.has State.maxHoriz && true) := h3
    rw [Bool.and_true, Bool.and_true] at h2 h3
    exact ⟨h2, h3⟩
  · intro h
    apply BitVec.eq_of_getLsbD_eq
    intro i _
    rw [BitVec.getLsbD_and, BitVec.getLsbD_and, hmax]
    by_cases h2 : i = 2
    · rw [h2]
      exact congrArg (· && _) h.1
    · by_cases h3 : i = 3
      · rw [h3]
        exact congrArg (· && _) h.2
      · simp [h2, h3]

theorem has_wishstate (p : NETWinInfo) (state mask : Flags) (x : State) :
    (p.state &&& ~~~mask ||| state &&& mask : Flags).has x =
      (p.state.has x && !mask.has x || state.has x && mask.has x) := by
  rw [Flags.has_or, Flags.has_and, Flags.has_and, has_not_state]

-- The block of the maximised states does for each of the two what a block of its own would.
theorem foldl_max (p : NETWinInfo) {state mask : Flags}
    (hsub : ∀ x : State, state.has x = true → mask.has x = true) (states : State → Bool) (x : State) :
    (maxToggles p state mask).foldl Toggle.apply states x =
      if x = .maxVert ∨ x = .maxHoriz then p.wanted state mask (states x) x else states x := by
  have hzero : ∀ f : Flags, f &&& State.max = 0 ↔
      f.has State.maxVert = false ∧ f.has State.maxHoriz = false := by
    intro f
    have h := max_eq_iff f 0
    rw [Flags.has_zero, Flags.has_zero, show (0 &&& State.max : Flags) = 0 by decide] at h
    exact h
  have hmax : ∀ f : Flags, f &&& State.max = State.max ↔
      f.has State.maxVert = true ∧ f.has State.maxHoriz = true := by
    intro f
    have h := max_eq_iff f State.max
    rw [BitVec.and_self] at h
    exact h
  have hv := hsub .maxVert
  have hh := hsub .maxHoriz
  unfold maxToggles wanted
  dsimp only
  simp only [ne_eq, hzero, hmax, max_eq_iff, has_wishstate, Flags.has_and]
  -- Only six bits are left: those of the mask, of the new and of the old state.
  by_cases hvert : x = .maxVert
  · rw [hvert]
    revert hv hh
    generalize mask.has State.maxVert = mv, mask.has State.maxHoriz = mh,
      state.has State.maxVert = sv, state.has State.maxHoriz = sh,
      p.state.has State.maxVert = pv, p.state.has State.maxHoriz = ph
    cases mv <;> cases sv <;> cases pv <;> cases mh <;> cases sh <;> cases ph <;>
      simp [Toggle.apply]
  · by_cases hhoriz : x = .maxHoriz
    · rw [hhoriz]
      revert hv hh
      generalize mask.has State.maxVert = mv, mask.has State.maxHoriz = mh,
        state.has State.maxVert = sv, state.has State.maxHoriz = sh,
        p.state.has State.maxVert = pv, p.state.has State.maxHoriz = ph
      cases mv <;> cases sv <;> cases pv <;> cases mh <;> cases sh <;> cases ph <;>
        simp [Toggle.apply]
    · rw [if_neg (not_or.mpr ⟨hvert, hhoriz⟩)]
      split
      · split
        · split
          · simp [Toggle.apply, hvert, hhoriz]
          · split <;> simp [Toggle.apply, hvert, hhoriz]
        · split
          · simp [Toggle.apply, hvert]
          · split <;> simp [Toggle.apply, hhoriz]
      · rfl

-- All blocks together replace the states of the mask.
theorem foldl_toggles (p : NETWinInfo) {state mask : Flags}
    (hsub : ∀ x : State, state.has x = true → mask.has x = true)
    (hfocused : mask.has State.focused = false) (states : State → Bool)
    (hcurrent : ∀ x, states x = p.state.has x) (x : State) :
    (toggles p state mask).foldl Toggle.apply states x =
      if mask.has x then state.has x else states x := by
  have hfirst : ∀ b ∈ firstBlocks, b.2 ≠ [] := by decide
  have hlater : ∀ b ∈ laterBlocks, b.2 ≠ [] := by decide
  have hwanted : p.wanted state mask (states x) x = if mask.has x then state.has x else states x := by
    unfold wanted
    rw [hcurrent x]
    cases mask.has x <;> cases p.state.has x <;> cases state.has x <;> rfl
  rw [toggles, List.foldl_append, List.foldl_append, foldl_blocks p state mask hlater,
    foldl_max p hsub, foldl_blocks p state mask hfirst]
  cases x with
  | focused => rw [hfocused]; rfl
  | _ => exact hwanted

/-! ## Delivery -/

section Delivery

variable {atoms : Atoms}

/-- A message is what its two atoms say. -/
def Represents (atoms : Atoms) (data : Vector UInt32 5) (t : Toggle) : Prop :=
  ∃ first second, data = stateData t.1 first second ∧
    ∀ x, x ∈ t.2 ↔ stateOf atoms first = some x ∨ stateOf atoms second = some x

theorem represents_one {name : KwsAtom} {s : State}
    (hname : (stateChain.find? fun entry => name = entry.1).map (·.2) = some s) (on : Bool) :
    Represents atoms (stateData on (atoms.atom name) 0) (on, [s]) := by
  refine ⟨_, _, rfl, fun x => ?_⟩
  rw [stateOf_atom, hname, stateOf_zero]
  simp [eq_comm]

theorem represents_both (on : Bool) :
    Represents atoms (stateData on (atoms.atom .netWmStateMaximizedHorz)
      (atoms.atom .netWmStateMaximizedVert)) (on, [.maxHoriz, .maxVert]) := by
  refine ⟨_, _, rfl, fun x => ?_⟩
  rw [stateOf_atom, stateOf_atom]
  show x ∈ [State.maxHoriz, State.maxVert] ↔ _
  cases x <;> decide

theorem stateMessages_represent (p : NETWinInfo) (state mask : Flags) {b : State × List KwsAtom}
    (hb : NamesState b) :
    List.Forall₂ (Represents atoms) (stateMessages atoms p state mask b.1 b.2)
      (blockToggles p state mask b) := by
  unfold stateMessages blockToggles
  split
  · rw [List.forall₂_map_left_iff, List.forall₂_map_right_iff]
    exact List.forall₂_same.mpr fun name hname => represents_one (hb.2 name hname) _
  · exact .nil

theorem maxMessages_represent (p : NETWinInfo) (state mask : Flags) :
    List.Forall₂ (Represents atoms) (maxMessages atoms p state mask) (maxToggles p state mask) := by
  have hhoriz : (stateChain.find? fun entry => KwsAtom.netWmStateMaximizedHorz = entry.1).map (·.2) =
      some .maxHoriz := by decide
  have hvert : (stateChain.find? fun entry => KwsAtom.netWmStateMaximizedVert = entry.1).map (·.2) =
      some .maxVert := by decide
  unfold maxMessages maxToggles
  dsimp only
  split_ifs
  · exact .cons (represents_both true) .nil
  · exact .cons (represents_both false) .nil
  · exact .cons (represents_one hhoriz _) (.cons (represents_one hvert _) .nil)
  · exact .cons (represents_one hvert _) .nil
  · exact .cons (represents_one hhoriz _) .nil
  · exact .nil
  · exact .nil

theorem blocks_represent (p : NETWinInfo) (state mask : Flags) {bs : List (State × List KwsAtom)}
    (hbs : ∀ b ∈ bs, NamesState b) :
    List.Forall₂ (Represents atoms) (bs.flatMap fun b => stateMessages atoms p state mask b.1 b.2)
      (bs.flatMap (blockToggles p state mask)) := by
  induction bs with
  | nil => exact .nil
  | cons b bs ih =>
      rw [List.flatMap_cons, List.flatMap_cons]
      exact List.rel_append (stateMessages_represent p state mask (hbs b List.mem_cons_self))
        (ih fun c hc => hbs c (List.mem_cons_of_mem b hc))

theorem clientMessages_represent (p : NETWinInfo) (state mask : Flags) :
    List.Forall₂ (Represents atoms) (clientMessages atoms p state mask) (toggles p state mask) :=
  List.rel_append
    (List.rel_append (blocks_represent p state mask (by decide)) (maxMessages_represent p state mask))
    (blocks_represent p state mask (by decide))

/-- What an object knows of the states of its window is up to date, if it is asked for at all. -/
def Current (atoms : Atoms) (display : Display) (p : NETWinInfo) : Prop :=
  p.properties.has Property.wmState = true →
    ∀ x : State, p.state.has x = (windowState atoms display p.window).has x

theorem state_update (atoms : Atoms) (p : NETWinInfo) (display : Display) (properties : Flags) :
    (p.update atoms display properties 0).1.state =
      if (dirtyFlags properties p.properties).has Property.wmState
      then windowState atoms display p.window else p.state :=
  get_update atoms .state p display properties 0

theorem state_updateWMState (p : NETWinInfo) (display : Display) :
    (updateWMState atoms display p).state = p.state := by
  unfold updateWMState
  rw [state_update, if_neg]
  unfold dirtyFlags
  rw [if_pos (by decide), Flags.has_or, Flags.has_and,
    show (mask Property.xawmState).has Property.wmState = false by decide]
  simp

-- `setState` acts on the current states, whether they are asked for or not.
theorem readState_spec {p : NETWinInfo} {display : Display} (h : Current atoms display p) :
    (∀ x : State, (readState atoms display p).state.has x =
      (windowState atoms display p.window).has x) ∧
    (readState atoms display p).role = p.role ∧ (readState atoms display p).window = p.window ∧
    ((readState atoms display p).properties.has Property.wmState =
      p.properties.has Property.wmState) := by
  -- The mapping state comes first, if it is not known yet.
  have hmapped : ∃ q : NETWinInfo, SameWindow p q ∧ q.state = p.state ∧
      readState atoms display p = if q.properties.has Property.wmState then q
        else
          let r := { q with properties := q.properties ||| mask Property.wmState }
          let r := (r.update atoms display (mask Property.wmState) 0).1
          { r with properties := r.properties &&& ~~~mask Property.wmState } := by
    unfold readState
    by_cases hdirty : p.mappingStateDirty = true
    · rw [if_pos hdirty]
      exact ⟨_, update_sameWindow atoms p display _ _, state_updateWMState p display, rfl⟩
    · rw [if_neg hdirty]
      exact ⟨p, ⟨rfl, rfl, rfl, rfl⟩, rfl, rfl⟩
  rcases hmapped with ⟨q, hq, hstate, hread⟩
  rw [hread]
  by_cases hasked : q.properties.has Property.wmState = true
  · rw [if_pos hasked, hstate, ← hq.2.1]
    exact ⟨h (hq.2.1 ▸ hasked), hq.2.2.2, hq.1, rfl⟩
  · rw [if_neg hasked]
    dsimp only
    have hsame := update_sameWindow atoms
      { q with properties := q.properties ||| mask Property.wmState } display (mask Property.wmState) 0
    have hvalue := state_update atoms
      { q with properties := q.properties ||| mask Property.wmState } display (mask Property.wmState)
    generalize NETWinInfo.update _ _ _ _ _ = r at hsame hvalue
    have hwanted : (dirtyFlags (mask Property.wmState)
        (q.properties ||| mask Property.wmState)).has Property.wmState = true := by
      unfold dirtyFlags
      rw [if_neg (by decide), Flags.has_and, Flags.has_or,
        show (mask Property.wmState).has Property.wmState = true by decide]
      simp
    rw [if_pos hwanted] at hvalue
    refine ⟨fun x => ?_, hsame.2.2.2.trans hq.2.2.2, hsame.1.trans hq.1, ?_⟩
    · rw [hvalue, ← hq.1]
    · rw [← hq.2.1, Bool.eq_false_iff.mpr hasked, Flags.has_and,
        show (~~~mask Property.wmState).has Property.wmState = false by decide, Bool.and_false]

/-! ## One call -/

/-- The window manager's object for the window, on the display. -/
structure Managed (atoms : Atoms) (window : XcbWindow) (s : Display × NETWinInfo) : Prop where
  role : s.2.role = .windowManager
  window : s.2.window = window
  current : Current atoms s.1 s.2

-- The two paths of `setState`; only a client sends messages.
theorem setState_cases (atoms : Atoms) (p : NETWinInfo) (display : Display) (state mask : Flags) :
    let q := readState atoms display p
    let new := q.state &&& ~~~mask ||| state
    (q.role = .client ∧
      p.setState atoms display state mask = (q, (clientMessages atoms q state mask).map .message)) ∨
    p.setState atoms display state mask =
      ({ q with state := new }, [.property (stateAtoms atoms new)]) := by
  dsimp only
  unfold setState
  dsimp only
  split
  · rename_i hclient
    exact .inl ⟨hclient.1, rfl⟩
  · exact .inr rfl

-- The states of a window after those of the mask were replaced.
theorem has_replaced (old state mask : Flags) (x : State) :
    (old &&& ~~~mask ||| state : Flags).has x = (old.has x && !mask.has x || state.has x) := by
  rw [Flags.has_or, Flags.has_and, has_not_state]

theorem changeState_spec {window : XcbWindow} {s : Display × NETWinInfo}
    (h : Managed atoms window s) (state mask : Flags) :
    Managed atoms window (changeState atoms s state mask) ∧
    ∀ x : State, (windowState atoms (changeState atoms s state mask).1 window).has x =
      (windowState atoms s.1 window &&& ~~~mask ||| state).has x := by
  have hread := readState_spec h.current
  have hdirect := (setState_cases atoms s.2 s.1 state mask).resolve_left (fun hclient => by
    have hrole := hread.2.1.symm.trans hclient.1
    rw [h.role] at hrole
    cases hrole)
  have hstates : ∀ x : State, ((readState atoms s.1 s.2).state &&& ~~~mask ||| state).has x =
      (windowState atoms s.1 window &&& ~~~mask ||| state).has x := by
    intro x
    rw [has_replaced, has_replaced, hread.1, h.window]
  unfold changeState
  rw [hdirect]
  generalize readState atoms s.1 s.2 = q at hread hstates
  show Managed atoms window (writeState atoms s.1 s.2.window _, _) ∧
    ∀ x : State, (windowState atoms (writeState atoms s.1 s.2.window _) window).has x = _
  rw [h.window]
  apply And.intro
  · apply Managed.mk (hread.2.1.trans h.role) (hread.2.2.1.trans h.window)
    intro _ x
    show _ = (windowState atoms _ q.window).has x
    rw [hread.2.2.1, h.window, windowState_writeState]
  · intro x
    rw [windowState_writeState, hstates]

-- The mask that the window manager takes from a message.
theorem has_messageMask {first second : XcbAtom} (x : State) :
    (collectFlags atoms stateChain 0 [first, second]).has x =
      decide (stateOf atoms first = some x ∨ stateOf atoms second = some x) := by
  rw [has_collectStates, Flags.has_zero, Bool.false_or]
  simp

-- The window manager does what the message asks for.
theorem receiveMessage_spec {window : XcbWindow} {s : Display × NETWinInfo}
    (h : Managed atoms window s) {data : Vector UInt32 5} {t : Toggle}
    (ht : Represents atoms data t) :
    Managed atoms window (receiveMessage atoms s data) ∧
    ∀ x : State, (windowState atoms (receiveMessage atoms s data).1 window).has x =
      t.apply (windowState atoms s.1 window).has x := by
  rcases ht with ⟨first, second, hdata, hmem⟩
  let m := collectFlags atoms stateChain 0 [first, second]
  have hreceive : receiveMessage atoms s data = changeState atoms s (if t.1 then m else 0) m := by
    unfold receiveMessage event
    dsimp only
    rw [if_pos ⟨h.role, rfl⟩, hdata]
    unfold clientMessage
    rw [if_pos rfl]
    cases t.1 <;> rfl
  have hchange := changeState_spec h (if t.1 then m else 0) m
  rw [hreceive]
  apply And.intro hchange.1
  intro x
  have hm : m.has x = decide (x ∈ t.2) := (has_messageMask x).trans (decide_eq_decide.mpr (hmem x).symm)
  have hvalue : (if t.1 then m else 0 : Flags).has x = (t.1 && decide (x ∈ t.2)) := by
    cases t.1 with
    | true => exact hm
    | false => exact Flags.has_zero x
  rw [hchange.2, has_replaced, hm, hvalue]
  unfold Toggle.apply
  by_cases hx : x ∈ t.2 <;> simp [hx]

theorem receiveMessages_spec {window : XcbWindow} {s : Display × NETWinInfo}
    (h : Managed atoms window s) {messages : List (Vector UInt32 5)} {ts : List Toggle}
    (hts : List.Forall₂ (Represents atoms) messages ts) (x : State) :
    (windowState atoms (messages.foldl (receiveMessage atoms) s).1 window).has x =
      ts.foldl Toggle.apply (windowState atoms s.1 window).has x ∧
    Managed atoms window (messages.foldl (receiveMessage atoms) s) := by
  induction hts generalizing s with
  | nil => exact ⟨rfl, h⟩
  | @cons data t messages ts ht _ ih =>
      have hstep := receiveMessage_spec h ht
      have hstates : (windowState atoms (receiveMessage atoms s data).1 window).has =
          t.apply (windowState atoms s.1 window).has := funext hstep.2
      rw [List.foldl_cons, List.foldl_cons, ← hstates]
      exact ih hstep.1

/-- Both objects have been told about the window by the role they have for it. -/
structure Parties.At (window : XcbWindow) (s : Parties) : Prop where
  clientRole : s.client.role = .client
  clientWindow : s.client.window = window
  managerRole : s.manager.role = .windowManager
  managerWindow : s.manager.window = window

-- An object that is notified of the states reads them, if they are asked for.
theorem current_notify (atoms : Atoms) (p : NETWinInfo) (display : Display) :
    SameWindow p (p.event atoms display (.propertyNotify (atoms.atom .netWmState))).1.1 ∧
    Current atoms display (p.event atoms display (.propertyNotify (atoms.atom .netWmState))).1.1 := by
  have hdirty : (lookupAtom atoms.value notifyChain (atoms.atom .netWmState)).getD {} =
      { properties := mask Property.wmState } := by
    rw [show atoms.atom .netWmState = atoms.value (.kws .netWmState) from rfl,
      lookupAtom_value atoms.value_injective]
    rfl
  unfold event
  dsimp only
  rw [hdirty]
  have hsame := update_sameWindow atoms p display (mask Property.wmState) 0
  apply And.intro hsame
  intro hasked x
  have hwanted : (dirtyFlags (mask Property.wmState) p.properties).has Property.wmState = true := by
    unfold dirtyFlags
    rw [if_neg (by decide), Flags.has_and, ← hsame.2.1, hasked,
      show (mask Property.wmState).has Property.wmState = true by decide]
    rfl
  rw [state_update, if_pos hwanted, hsame.1]

-- What a call of the client does, by messages or directly.
theorem client_setState {window : XcbWindow} {display : Display} {client manager : NETWinInfo}
    (hclient : client.window = window) (hcurrent : Current atoms display client)
    (hmanager : Managed atoms window (display, manager)) {state mask : Flags}
    (hsub : ∀ x : State, state.has x = true → mask.has x = true)
    (hfocused : mask.has State.focused = false) (x : State) :
    (windowState atoms ((client.setState atoms display state mask).2.foldl
      (performRequest atoms client.window) (display, manager)).1 window).has x =
      (windowState atoms display window &&& ~~~mask ||| state).has x := by
  have hread := readState_spec hcurrent
  rw [has_replaced]
  rcases setState_cases atoms client display state mask with ⟨-, hset⟩ | hset
  · rw [hset, List.foldl_map]
    show (windowState atoms ((clientMessages atoms _ state mask).foldl
      (receiveMessage atoms) (display, manager)).1 window).has x = _
    rw [(receiveMessages_spec hmanager
      (clientMessages_represent (readState atoms display client) state mask) x).1,
      foldl_toggles _ hsub hfocused _ (fun y => by rw [hread.1, hclient])]
    -- A state that is set is in the mask.
    have hx := hsub x
    revert hx
    cases mask.has x <;> cases state.has x <;> simp
  · rw [hset]
    show (windowState atoms (writeState atoms display client.window _) window).has x = _
    rw [hclient, windowState_writeState, has_replaced, hread.1, hclient]

-- The window manager's object stays the one for the window, whatever a client asks for.
theorem managed_requests {window : XcbWindow} {display : Display} (client : NETWinInfo)
    {manager : NETWinInfo} (hmanager : Managed atoms window (display, manager)) (state mask : Flags) :
    let s := (client.setState atoms display state mask).2.foldl
      (performRequest atoms client.window) (display, manager)
    s.2.role = .windowManager ∧ s.2.window = window := by
  dsimp only
  rcases setState_cases atoms client display state mask with ⟨-, hset⟩ | hset
  · rw [hset, List.foldl_map]
    have hreceived := receiveMessages_spec hmanager
      (clientMessages_represent (readState atoms display client) state mask) .modal
    exact ⟨hreceived.2.role, hreceived.2.window⟩
  · rw [hset]
    exact ⟨hmanager.role, hmanager.window⟩

theorem setState_keeps {p : NETWinInfo} {display : Display} (h : Current atoms display p)
    (state mask : Flags) :
    (p.setState atoms display state mask).1.role = p.role ∧
      (p.setState atoms display state mask).1.window = p.window := by
  have hread := readState_spec h
  rcases setState_cases atoms p display state mask with ⟨-, hset⟩ | hset
  · rw [hset]
    exact ⟨hread.2.1, hread.2.2.1⟩
  · rw [hset]
    exact ⟨hread.2.1, hread.2.2.1⟩

/-! ## Every call of a run -/

-- The window manager's object after it was notified.
theorem managed_notify (atoms : Atoms) {window : XcbWindow} {s : Parties} (h : s.At window) :
    Managed atoms window (s.display,
      (s.manager.event atoms s.display (.propertyNotify (atoms.atom .netWmState))).1.1) := by
  have hnotify := current_notify atoms s.manager s.display
  exact ⟨hnotify.1.2.2.2.trans h.managerRole, hnotify.1.1.trans h.managerWindow, hnotify.2⟩

-- The parties keep their roles, whatever they call.
theorem at_step {window : XcbWindow} {s : Parties} (h : s.At window) (call : StateCall) :
    (s.step atoms call).At window := by
  have hclient := current_notify atoms s.client s.display
  have hmanager := managed_notify atoms h
  unfold Parties.step
  dsimp only
  cases call.caller with
  | client =>
      have hkeeps := setState_keeps hclient.2 call.state call.mask
      have hmanaged := managed_requests
        (s.client.event atoms s.display (.propertyNotify (atoms.atom .netWmState))).1.1 hmanager
        call.state call.mask
      exact ⟨(hkeeps.1.trans hclient.1.2.2.2).trans h.clientRole,
        (hkeeps.2.trans hclient.1.1).trans h.clientWindow, hmanaged.1, hmanaged.2⟩
  | manager =>
      have hchange := (changeState_spec hmanager call.state call.mask).1
      exact ⟨hclient.1.2.2.2.trans h.clientRole, hclient.1.1.trans h.clientWindow, hchange.role,
        hchange.window⟩

theorem windowState_step {window : XcbWindow} {s : Parties} (h : s.At window) {call : StateCall}
    (hsub : ∀ x : State, call.state.has x = true → call.mask.has x = true)
    (hfocused : call.mask.has State.focused = false) (x : State) :
    (windowState atoms (s.step atoms call).display window).has x =
      (windowState atoms s.display window &&& ~~~call.mask ||| call.state).has x := by
  have hclient := current_notify atoms s.client s.display
  have hmanager := managed_notify atoms h
  unfold Parties.step
  dsimp only
  cases call.caller with
  | client =>
      exact client_setState (hclient.1.1.trans h.clientWindow) hclient.2 hmanager hsub hfocused x
  | manager => exact (changeState_spec hmanager call.state call.mask).2 x

/-- After any calls, the next one replaces the states of its mask, whoever makes it and however. -/
theorem setState_windowState {window : XcbWindow} {s : Parties} (h : s.At window)
    (calls : List StateCall) {call : StateCall}
    (hsub : ∀ x : State, call.state.has x = true → call.mask.has x = true)
    (hfocused : call.mask.has State.focused = false) (x : State) :
    (windowState atoms ((calls ++ [call]).foldl (Parties.step atoms) s).display window).has x =
      (windowState atoms (calls.foldl (Parties.step atoms) s).display window &&& ~~~call.mask |||
        call.state).has x := by
  have hat : (calls.foldl (Parties.step atoms) s).At window := by
    induction calls generalizing s with
    | nil => exact h
    | cons c calls ih => exact ih (at_step h c)
  rw [List.foldl_append]
  exact windowState_step hat hsub hfocused x

/-- A mapped window, a client that has not read anything of it and its window manager. -/
def mappedWindow : Parties where
  display window atom :=
    if window = 1 ∧ atom = Atoms.inOrder.atom .wmState then
      some ⟨Atoms.inOrder.atom .wmState, .data32 [1, 0]⟩
    else none
  client := { role := .client, window := 1, root := 2, properties := 0, properties2 := 0 }
  manager :=
    { role := .windowManager, window := 1, root := 2, properties := mask Property.wmState
      properties2 := 0 }

/-- The client maximises its window by a message. -/
theorem maximized_windowState :
    (windowState .inOrder
      (([] ++ [StateCall.mk .client State.max State.max]).foldl (Parties.step .inOrder)
        mappedWindow).display 1).has State.maxVert = true := by
  have h : mappedWindow.At 1 := ⟨rfl, rfl, rfl, rfl⟩
  rw [setState_windowState h [] (fun _ hx => hx) (by decide) State.maxVert, has_replaced]
  exact Bool.or_true _

end Delivery

end NETWinInfo

end KWindowSystem
