import KWindowSystem.Lib.FlagTable
import Mathlib.Data.List.Basic
import Mathlib.Data.List.Induction

/-!
# X modifiers of the Qt modifiers

`initializeMods` finds out which of the rows `Mod1` to `Mod5` of the server's modifier map stand for Alt and
Meta.  Several keysyms may claim a row; the cascade at the end leaves it to one of them.
-/

open FlagTable

namespace Qt

def SHIFT : BitVec 32 := 0x02000000
def CTRL : BitVec 32 := 0x04000000
def ALT : BitVec 32 := 0x08000000
def META : BitVec 32 := 0x10000000

end Qt

namespace KWindowSystem

abbrev KeySym := BitVec 32

/-- What the server says about the keyboard. -/
structure Keyboard where
  maxKeypermod : Nat
  /-- The keycodes of the modifiers, `maxKeypermod` of them for each row. -/
  modifiermap : Nat → UInt8
  keysymsPerKeycode : Nat
  /-- `xcb_key_symbols_get_keysym`. -/
  keysym : UInt8 → Nat → KeySym

structure X11ModInfo where
  modQt : BitVec 32
  modX : BitVec 32
deriving DecidableEq, Repr

def xkScrollLock : KeySym := 0xff14
def xkModeSwitch : KeySym := 0xff7e
def xkNumLock : KeySym := 0xff7f
def xkMetaL : KeySym := 0xffe7
def xkMetaR : KeySym := 0xffe8
def xkAltL : KeySym := 0xffe9
def xkAltR : KeySym := 0xffea
def xkSuperL : KeySym := 0xffeb
def xkSuperR : KeySym := 0xffec
def xkHyperL : KeySym := 0xffed
def xkHyperR : KeySym := 0xffee

def shiftMask : BitVec 32 := 1 <<< 0
def controlMask : BitVec 32 := 1 <<< 2
def mod1Mask : BitVec 32 := 1 <<< 3
def mod4Mask : BitVec 32 := 1 <<< 6

def mod1MapIndex : Nat := 3

namespace KKeyServer

structure ModMasks where
  modXNumLock : BitVec 32 := 0
  modXScrollLock : BitVec 32 := 0
  modXModeSwitch : BitVec 32 := 0
  altMask : BitVec 32 := 0
  metaMask : BitVec 32 := 0
  superMask : BitVec 32 := 0
  hyperMask : BitVec 32 := 0
deriving DecidableEq, Repr

/-- The variables of the file.  Of the table only the masks of Alt and Meta are ever written. -/
structure State where
  initializedMods : Bool
  masks : ModMasks
  altModX : BitVec 32
  metaModX : BitVec 32
deriving DecidableEq, Repr

def initial : State := ⟨false, {}, mod1Mask, mod4Mask⟩

/-- The table of the modifiers. -/
def State.rgX11ModInfo (g : State) : List X11ModInfo :=
  [⟨Qt.SHIFT, shiftMask⟩, ⟨Qt.CTRL, controlMask⟩, ⟨Qt.ALT, g.altModX⟩, ⟨Qt.META, g.metaModX⟩]

/-- The `switch` over the keysyms of a row. -/
def noteKeySym (mask : BitVec 32) (m : ModMasks) (keySymX : KeySym) : ModMasks :=
  if keySymX = xkAltL ∨ keySymX = xkAltR then { m with altMask := m.altMask ||| mask }
  else if keySymX = xkSuperL ∨ keySymX = xkSuperR then { m with superMask := m.superMask ||| mask }
  else if keySymX = xkHyperL ∨ keySymX = xkHyperR then { m with hyperMask := m.hyperMask ||| mask }
  else if keySymX = xkMetaL ∨ keySymX = xkMetaR then { m with metaMask := m.metaMask ||| mask }
  else if keySymX = xkNumLock then { m with modXNumLock := m.modXNumLock ||| mask }
  else if keySymX = xkScrollLock then { m with modXScrollLock := m.modXScrollLock ||| mask }
  else if keySymX = xkModeSwitch then { m with modXModeSwitch := m.modXModeSwitch ||| mask }
  else m

def noteKeycode (kb : Keyboard) (i : Nat) (m : ModMasks) (j : Nat) : ModMasks :=
  (List.range kb.keysymsPerKeycode).foldl
    (fun m k => noteKeySym (1 <<< i) m (kb.keysym (kb.modifiermap (kb.maxKeypermod * i + j)) k)) m

def noteRow (kb : Keyboard) (m : ModMasks) (i : Nat) : ModMasks :=
  (List.range kb.maxKeypermod).foldl (noteKeycode kb i) m

/-- The loop over the rows, from masks that are all zero. -/
def scanRows (kb : Keyboard) : ModMasks := [mod1MapIndex, 4, 5, 6, 7].foldl (noteRow kb) {}

/-- What follows the loop. -/
def resolve (m : ModMasks) : ModMasks :=
  -- Check if hyper overlaps with super or meta or alt
  let hyperMask :=
    if m.hyperMask &&& (m.superMask ||| m.metaMask ||| m.altMask) ≠ 0 then
      m.hyperMask &&& ~~~(m.superMask ||| m.metaMask ||| m.altMask)
    else m.hyperMask
  -- Check if super overlaps with meta or alt
  let superMask :=
    if m.superMask &&& (m.metaMask ||| m.altMask) ≠ 0 then
      m.superMask &&& ~~~(m.metaMask ||| m.altMask)
    else m.superMask
  -- Check if meta overlaps with alt
  let metaMask := if m.metaMask ||| m.altMask ≠ 0 then m.metaMask &&& ~~~m.altMask else m.metaMask
  let metaMask :=
    if metaMask = 0 then
      if superMask ≠ 0 then superMask
      else if hyperMask ≠ 0 then hyperMask
      else 0
    else metaMask
  { m with hyperMask, superMask, metaMask }

/-- Without a keyboard the platform is not X11. -/
def initializeMods (server : Option Keyboard) (g : State) : Bool × State :=
  match server with
  | none => (false, { g with masks := {}, initializedMods := true })
  | some kb =>
      let m := resolve (scanRows kb)
      (true, ⟨true, m, m.altMask, m.metaMask⟩)

/-- What both translations begin with. -/
def ensureMods (server : Option Keyboard) (g : State) : State :=
  if g.initializedMods then g else (initializeMods server g).2

/-- `none` if a modifier has no X equivalent. -/
def keyQtToModX (server : Option Keyboard) (g : State) (modQt : BitVec 32) : Option (BitVec 32) × State :=
  let g := ensureMods server g
  (translate? X11ModInfo.modQt X11ModInfo.modX g.rgX11ModInfo modQt, g)

def modXToQt (server : Option Keyboard) (g : State) (modX : BitVec 32) : BitVec 32 × State :=
  let g := ensureMods server g
  (translate X11ModInfo.modX X11ModInfo.modQt g.rgX11ModInfo modX, g)

/-! ## The masks -/

/-- The masks are made of the bits of rows from `Mod1` on. -/
structure InRows (m : ModMasks) : Prop where
  alt : Apart m.altMask (shiftMask ||| controlMask)
  meta_ : Apart m.metaMask (shiftMask ||| controlMask)
  super : Apart m.superMask (shiftMask ||| controlMask)
  hyper : Apart m.hyperMask (shiftMask ||| controlMask)

theorem apart_row :
    ∀ i ∈ [mod1MapIndex, 4, 5, 6, 7], Apart ((1 : BitVec 32) <<< i) (shiftMask ||| controlMask) := by
  decide

theorem inRows_noteKeySym {mask : BitVec 32} (hmask : Apart mask (shiftMask ||| controlMask))
    {m : ModMasks} (h : InRows m) (keySymX : KeySym) : InRows (noteKeySym mask m keySymX) := by
  unfold noteKeySym
  split
  · exact { h with alt := h.alt.or_left hmask }
  split
  · exact { h with super := h.super.or_left hmask }
  split
  · exact { h with hyper := h.hyper.or_left hmask }
  split
  · exact { h with meta_ := h.meta_.or_left hmask }
  -- The other keysyms have masks of their own.
  split
  · exact { h with }
  split
  · exact { h with }
  split <;> exact { h with }

theorem inRows_scanRows (kb : Keyboard) : InRows (scanRows kb) := by
  have hfold : ∀ {ι : Type} (f : ModMasks → ι → ModMasks) (l : List ι),
      (∀ m, InRows m → ∀ a ∈ l, InRows (f m a)) → ∀ m, InRows m → InRows (l.foldl f m) := by
    intro ι f l hf
    induction l with
    | nil => exact fun m h => h
    | cons a l ih =>
        intro m h
        apply ih fun m h b hb => hf m h b (List.mem_cons_of_mem _ hb)
        exact hf m h a List.mem_cons_self
  have hempty : InRows {} := ⟨rfl, rfl, rfl, rfl⟩
  apply hfold _ _ _ _ hempty
  intro m h i hi
  apply hfold _ _ _ m h
  intro m h j _
  apply hfold _ _ _ m h
  intro m h k _
  exact inRows_noteKeySym (apart_row i hi) h _

-- Meta is its own mask without Alt, or what is left of Super or Hyper.
theorem apart_metaMask_resolve {m : ModMasks} {c : BitVec 32}
    (hmeta : Apart (if m.metaMask ||| m.altMask ≠ 0 then m.metaMask &&& ~~~m.altMask else m.metaMask) c)
    (hsuper : Apart (resolve m).superMask c) (hhyper : Apart (resolve m).hyperMask c) :
    Apart (resolve m).metaMask c := by
  have hresolve : (resolve m).metaMask =
      if (if m.metaMask ||| m.altMask ≠ 0 then m.metaMask &&& ~~~m.altMask else m.metaMask) = 0 then
        if (resolve m).superMask ≠ 0 then (resolve m).superMask
        else if (resolve m).hyperMask ≠ 0 then (resolve m).hyperMask
        else 0
      else if m.metaMask ||| m.altMask ≠ 0 then m.metaMask &&& ~~~m.altMask else m.metaMask := rfl
  rw [hresolve]
  generalize (if m.metaMask ||| m.altMask ≠ 0 then m.metaMask &&& ~~~m.altMask else m.metaMask) = own
    at hmeta ⊢
  split
  · split
    · exact hsuper
    · split
      · exact hhyper
      · exact BitVec.zero_and
  · exact hmeta

theorem apart_low_resolve {m : ModMasks} (h : InRows m) :
    Apart (resolve m).metaMask (shiftMask ||| controlMask) := by
  apply apart_metaMask_resolve
  · split
    · exact h.meta_.and_left _
    · exact h.meta_
  · show Apart (if _ then _ else _) _
    split
    · exact h.super.and_left _
    · exact h.super
  · show Apart (if _ then _ else _) _
    split
    · exact h.hyper.and_left _
    · exact h.hyper

-- Whichever mask is taken for Meta, Alt has been cleared from it.
theorem apart_alt_resolve (m : ModMasks) : Apart (resolve m).metaMask (resolve m).altMask := by
  apply apart_metaMask_resolve
  · split
    · exact apart_and_not _ _
    · rename_i h
      have hzero := BitVec.or_eq_zero_iff.mp (not_not.mp h)
      show m.metaMask &&& m.altMask = 0
      rw [hzero.1]
      exact BitVec.zero_and
  · exact (apart_clear m.superMask (m.metaMask ||| m.altMask)).of_or_right.2
  · exact (apart_clear m.hyperMask (m.superMask ||| m.metaMask ||| m.altMask)).of_or_right.2

/-- The masks of two modifiers have no bit in common. -/
def State.MasksDisjoint (g : State) : Prop := g.rgX11ModInfo.Pairwise fun a b => Apart a.modX b.modX

theorem masksDisjoint_of {g : State} (halt : Apart g.altModX (shiftMask ||| controlMask))
    (hmeta : Apart g.metaModX (shiftMask ||| controlMask)) (h : Apart g.metaModX g.altModX) :
    g.MasksDisjoint := by
  have hfixed : Apart shiftMask controlMask := by decide
  unfold State.MasksDisjoint State.rgX11ModInfo
  simp only [List.pairwise_cons, List.forall_mem_cons, List.Pairwise.nil, and_true]
  exact ⟨⟨hfixed, halt.of_or_right.1.symm, hmeta.of_or_right.1.symm, List.forall_mem_nil _⟩,
    ⟨halt.of_or_right.2.symm, hmeta.of_or_right.2.symm, List.forall_mem_nil _⟩,
    ⟨h.symm, List.forall_mem_nil _⟩, List.forall_mem_nil _⟩

/-- The table before the first call has disjoint masks too, and a call without X11 leaves it alone. -/
theorem masksDisjoint_initial : initial.MasksDisjoint :=
  masksDisjoint_of (by decide) (by decide) (by decide)

theorem masksDisjoint_initializeMods {server : Option Keyboard} {g : State} (h : g.MasksDisjoint) :
    (initializeMods server g).2.MasksDisjoint := by
  cases server with
  | none => exact h
  | some kb =>
      have hrows := inRows_scanRows kb
      exact masksDisjoint_of hrows.alt (apart_low_resolve hrows) (apart_alt_resolve _)

theorem masksDisjoint_ensureMods {server : Option Keyboard} {g : State} (h : g.MasksDisjoint) :
    (ensureMods server g).MasksDisjoint := by
  unfold ensureMods
  split
  · exact h
  · exact masksDisjoint_initializeMods h

/-! ## There and back -/

-- Each Qt modifier is one bit.
theorem modQt_bit (g : State) : ∀ a ∈ g.rgX11ModInfo, ∀ m, m &&& a.modQt = 0 ∨ m &&& a.modQt = a.modQt := by
  have hpow : ∀ (i : Nat) (m : BitVec 32), m &&& BitVec.twoPow 32 i = 0 ∨
      m &&& BitVec.twoPow 32 i = BitVec.twoPow 32 i := by
    intro i m
    rw [BitVec.and_twoPow]
    split
    · exact .inr rfl
    · exact .inl rfl
  have hshift : Qt.SHIFT = BitVec.twoPow 32 25 := by decide
  have hctrl : Qt.CTRL = BitVec.twoPow 32 26 := by decide
  have halt : Qt.ALT = BitVec.twoPow 32 27 := by decide
  have hmeta : Qt.META = BitVec.twoPow 32 28 := by decide
  unfold State.rgX11ModInfo
  simp only [List.forall_mem_cons, hshift, hctrl, halt, hmeta]
  exact ⟨hpow 25, hpow 26, hpow 27, hpow 28, List.forall_mem_nil _⟩

theorem ensureMods_ensureMods (server : Option Keyboard) (g : State) :
    ensureMods server (ensureMods server g) = ensureMods server g := by
  have hset : (ensureMods server g).initializedMods = true := by
    unfold ensureMods
    split
    · assumption
    · cases server <;> rfl
  exact if_pos hset

theorem modXToQt_keyQtToModX {server : Option Keyboard} {g : State} (h : g.MasksDisjoint)
    {m x : BitVec 32} (hx : (keyQtToModX server g m).1 = some x) :
    (modXToQt server (keyQtToModX server g m).2 x).1 =
      m &&& (Qt.SHIFT ||| Qt.CTRL ||| Qt.ALT ||| Qt.META) := by
  have hround := translate_translate? (masksDisjoint_ensureMods h) (modQt_bit _) hx
  have hunion : ∀ g : State, union X11ModInfo.modQt g.rgX11ModInfo =
      Qt.SHIFT ||| Qt.CTRL ||| Qt.ALT ||| Qt.META := by
    intro g
    show Qt.SHIFT ||| (Qt.CTRL ||| (Qt.ALT ||| (Qt.META ||| 0))) = _
    decide
  show translate _ _ (ensureMods server (ensureMods server g)).rgX11ModInfo x = _
  rw [ensureMods_ensureMods, hround, hunion]

/-- After any calls of `initializeMods`, with any keyboards. -/
def afterCalls (calls : List (Option Keyboard)) : State :=
  calls.foldl (fun g server => (initializeMods server g).2) initial

theorem masksDisjoint_afterCalls (calls : List (Option Keyboard)) : (afterCalls calls).MasksDisjoint := by
  induction calls using List.reverseRecOn with
  | nil => exact masksDisjoint_initial
  | append_singleton calls server ih =>
      unfold afterCalls
      rw [List.foldl_concat]
      exact masksDisjoint_initializeMods ih

/-- Whatever the keyboards were, the four masks stay apart, and so the modifiers that have one come back from
X as they went. -/
theorem modifiers_round_trip (calls : List (Option Keyboard)) :
    (afterCalls calls).MasksDisjoint ∧
      ∀ server m x, (keyQtToModX server (afterCalls calls) m).1 = some x →
        (modXToQt server (keyQtToModX server (afterCalls calls) m).2 x).1 =
          m &&& (Qt.SHIFT ||| Qt.CTRL ||| Qt.ALT ||| Qt.META) :=
  ⟨masksDisjoint_afterCalls calls, fun _ _ _ hx => modXToQt_keyQtToModX (masksDisjoint_afterCalls calls) hx⟩

/-- Alt and Meta share `Mod1`, so that Super on `Mod4` is used for Meta. -/
def sharedRow : Keyboard where
  maxKeypermod := 2
  modifiermap n := UInt8.ofNat n
  keysymsPerKeycode := 1
  keysym code _ :=
    if code = 6 then xkAltL else if code = 7 then xkMetaL else if code = 12 then xkSuperL else 0

theorem modifiers_round_trip_sharedRow :
    (keyQtToModX none (afterCalls [some sharedRow]) (Qt.META ||| 0x41)).1 = some mod4Mask ∧
      (modXToQt none (keyQtToModX none (afterCalls [some sharedRow]) (Qt.META ||| 0x41)).2 mod4Mask).1 =
        (Qt.META ||| 0x41) &&& (Qt.SHIFT ||| Qt.CTRL ||| Qt.ALT ||| Qt.META) :=
  ⟨by decide, (modifiers_round_trip [some sharedRow]).2 none (Qt.META ||| 0x41) mod4Mask (by decide)⟩

end KKeyServer

end KWindowSystem
