import KWindowSystem.NetWM.ClientList

/-!
# What update makes of a NETRootInfo

Every branch of `update` writes a part of the object of its own (`Branch.owned`), and all but those of
the work areas and of the name write it from that part and the reply alone.  So `update` does to each part
what the branch alone does (`owned_update`); the work areas are read with the number of desktops that the
same `update` has found (`workArea_update`).
-/

open Machine Qt

namespace KWindowSystem

open NET

namespace NETRootInfo

/-- What no `update` changes. -/
structure Identity where
  role : Role
  rootSize : NETSize
  root : XcbWindow
  clientProperties : Flags
  clientProperties2 : Flags

def identity (p : NETRootInfo) : Identity :=
  ⟨p.role, p.rootSize, p.root, p.clientProperties, p.clientProperties2⟩

/-- What `_NET_SUPPORTED` says. -/
structure SupportedFlags where
  properties : Flags
  properties2 : Flags
  windowTypes : Flags
  states : Flags
  actions : Flags
deriving DecidableEq, Repr

def supportedFlags (p : NETRootInfo) : SupportedFlags :=
  ⟨p.properties, p.properties2, p.windowTypes, p.states, p.actions⟩

namespace Branch

def Owned : Branch → Type
  | .supported => SupportedFlags
  | .clientList | .clientListStacking | .virtualRoots => WindowArray × Nat
  | .numberOfDesktops | .currentDesktop => Int32
  | .desktopGeometry => NETSize
  | .desktopViewport => NETRArray NETPoint
  | .desktopNames => NETRArray (Option QByteArray)
  | .activeWindow | .supportingWMCheck => XcbWindow
  | .workArea => NETRArray NETRect
  | .desktopLayout => (Orientation × DesktopLayoutCorner) × (Int32 × Int32)
  | .showingDesktop => Bool
  | .wmName => Option QByteArray

/-- The part of the object that a branch writes. -/
def owned : (b : Branch) → NETRootInfo → b.Owned
  | .supported, p => p.supportedFlags
  | .clientList, p => (p.clients, p.clientsCount)
  | .clientListStacking, p => (p.stacking, p.stackingCount)
  | .numberOfDesktops, p => p.numberOfDesktops
  | .desktopGeometry, p => p.geometry
  | .desktopViewport, p => p.viewport
  | .currentDesktop, p => p.currentDesktop
  | .desktopNames, p => p.desktopNames
  | .activeWindow, p => p.active
  | .workArea, p => p.workarea
  | .supportingWMCheck, p => p.supportwindow
  | .virtualRoots, p => (p.virtualRoots, p.virtualRootsCount)
  | .desktopLayout, p =>
      ((p.desktopLayoutOrientation, p.desktopLayoutCorner), p.desktopLayoutColumns, p.desktopLayoutRows)
  | .showingDesktop, p => p.showingDesktop
  | .wmName, p => p.name

end Branch

section Update

variable (atoms : Atoms) (display : Display)

theorem supported_frame {c : Branch} (hc : c ≠ .supported) (list : List XcbAtom) (p : NETRootInfo) :
    identity (list.foldl (updateSupportedProperties atoms) p) = p.identity ∧
      c.owned (list.foldl (updateSupportedProperties atoms) p) = c.owned p := by
  induction list generalizing p with
  | nil => exact ⟨rfl, rfl⟩
  | cons atom list ih =>
      have hone : identity (updateSupportedProperties atoms p atom) = p.identity ∧
          c.owned (updateSupportedProperties atoms p atom) = c.owned p := by
        unfold updateSupportedProperties
        split <;> cases c <;> first | exact ⟨rfl, rfl⟩ | exact absurd rfl hc
      rw [List.foldl_cons, (ih _).1, (ih _).2]
      exact hone

theorem supported_foldl {p q : NETRootInfo} (h : p.supportedFlags = q.supportedFlags)
    (list : List XcbAtom) :
    supportedFlags (list.foldl (updateSupportedProperties atoms) p) =
      supportedFlags (list.foldl (updateSupportedProperties atoms) q) := by
  induction list generalizing p q with
  | nil => exact h
  | cons atom list ih =>
      rw [List.foldl_cons, List.foldl_cons]
      apply ih
      unfold supportedFlags at h
      injection h with h1 h2 h3 h4 h5
      unfold updateSupportedProperties
      split <;> simp [supportedFlags, h1, h2, h3, h4, h5]

-- A branch touches no part but its own; the name is touched by two.
theorem read_frame {b c : Branch} (h : b ≠ c) (hname : c = .wmName → b ≠ .supportingWMCheck)
    (replies : List Reply) (p : NETRootInfo) :
    (b.read atoms display replies p).1.identity = p.identity ∧
      c.owned (b.read atoms display replies p).1 = c.owned p := by
  cases b with
  | supported =>
      unfold Branch.read
      dsimp only
      rw [(supported_frame atoms (Ne.symm h) _ _).1, (supported_frame atoms (Ne.symm h) _ _).2]
      cases c <;> first | exact ⟨rfl, rfl⟩ | exact absurd rfl h
  | clientList =>
      unfold Branch.read updateClientList storeClients
      dsimp only
      split <;> cases c <;> first | exact ⟨rfl, rfl⟩ | exact absurd rfl h
  | workArea =>
      unfold Branch.read
      dsimp only
      split <;> cases c <;> first | exact ⟨rfl, rfl⟩ | exact absurd rfl h
  | supportingWMCheck =>
      cases c <;> first | exact ⟨rfl, rfl⟩ | exact absurd rfl h | exact absurd rfl (hname rfl)
  | desktopLayout =>
      unfold Branch.read
      dsimp only
      split <;> split <;> cases c <;> first | exact ⟨rfl, rfl⟩ | exact absurd rfl h
  | wmName =>
      unfold Branch.read
      dsimp only
      split
      · split <;> cases c <;> first | exact ⟨rfl, rfl⟩ | exact absurd rfl h
      · exact ⟨rfl, rfl⟩
  | _ => cases c <;> first | exact ⟨rfl, rfl⟩ | exact absurd rfl h

theorem read_identity (b : Branch) (replies : List Reply) (p : NETRootInfo) :
    (b.read atoms display replies p).1.identity = p.identity := by
  by_cases h : b = .numberOfDesktops
  · rw [h]
    rfl
  · exact (read_frame atoms display h (fun hc => nomatch hc) replies p).1

-- All but two branches write their part from what it was and the reply.
theorem read_owned {b : Branch} (hwork : b ≠ .workArea) (hname : b ≠ .wmName) (replies : List Reply)
    {p q : NETRootInfo} (hidentity : p.identity = q.identity) (howned : b.owned p = b.owned q) :
    b.owned (b.read atoms display replies p).1 = b.owned (b.read atoms display replies q).1 := by
  have hsize : p.rootSize = q.rootSize := congrArg Identity.rootSize hidentity
  cases b with
  | supported =>
      show supportedFlags (List.foldl _ _ _) = supportedFlags (List.foldl _ _ _)
      apply supported_foldl
      rfl
  | clientList =>
      have hcount : p.clientsCount = q.clientsCount := congrArg Prod.snd howned
      simp only [Branch.read, updateClientList, storeClients, Branch.owned]
      split
      · exact Prod.ext rfl hcount
      · rfl
  | desktopGeometry =>
      simp only [Branch.read, Branch.owned]
      split
      · rfl
      · exact hsize
  | desktopViewport =>
      have hviewport : p.viewport = q.viewport := howned
      simp only [Branch.read, Branch.owned, hviewport]
      rfl
  | desktopNames => rfl
  | workArea => exact absurd rfl hwork
  | wmName => exact absurd rfl hname
  | desktopLayout =>
      simp only [Branch.read, Branch.owned]
      split <;> split <;> rfl
  | _ => rfl

/-! ## Whole updates -/

/-- What a branch does to its part. -/
def stepOwned (dirty dirty2 : Flags) (b : Branch) (p : NETRootInfo) : b.Owned :=
  if b.wanted dirty dirty2 then
    b.owned (b.read atoms display ((b.requests atoms p.root).map display.answer) p).1
  else b.owned p

theorem owned_step (dirty dirty2 : Flags) (b : Branch) (p : NETRootInfo) :
    b.owned ((reader atoms dirty dirty2 display).step (Branch.requests atoms p.root)
      display.answer p b).1 = stepOwned atoms display dirty dirty2 b p := by
  unfold Batch.Reader.step stepOwned
  by_cases h : b.wanted dirty dirty2 = true
  · have hwanted : (reader atoms dirty dirty2 display).wanted b = true := h
    rw [if_pos h, if_pos hwanted]
    rfl
  · have hwanted : ¬(reader atoms dirty dirty2 display).wanted b = true := h
    rw [if_neg h, if_neg hwanted]

-- An update leaves a part alone if it goes through no branch that writes it.
theorem run_frame (dirty dirty2 : Flags) (requests : Branch → List PropertyRequest)
    (bs : List Branch) (c : Branch) (hbs : c ∉ bs) (hname : c = .wmName → .supportingWMCheck ∉ bs)
    (p : NETRootInfo) :
    (run ((reader atoms dirty dirty2 display).step requests display.answer) p bs).1.identity =
        p.identity ∧
      c.owned (run ((reader atoms dirty dirty2 display).step requests display.answer) p bs).1 =
        c.owned p := by
  induction bs generalizing p with
  | nil => exact ⟨rfl, rfl⟩
  | cons b bs ih =>
      rw [List.mem_cons, not_or] at hbs
      have hrest := ih hbs.2 (fun hc h => hname hc (List.mem_cons_of_mem _ h))
      have hstep : ((reader atoms dirty dirty2 display).step requests display.answer p b).1.identity =
            p.identity ∧
          c.owned ((reader atoms dirty dirty2 display).step requests display.answer p b).1 =
            c.owned p := by
        unfold Batch.Reader.step
        split
        · apply read_frame atoms display (Ne.symm hbs.1)
          intro hc hb
          exact hname hc (by rw [hb]; exact List.mem_cons_self)
        · exact ⟨rfl, rfl⟩
      rw [run_cons, (hrest _).1, (hrest _).2]
      exact hstep

theorem identity_update (p : NETRootInfo) (properties properties2 : Flags) :
    (p.update atoms display properties properties2).1.identity = p.identity := by
  rw [update_eq_run]
  apply Machine.run_invariant (fun q : NETRootInfo => q.identity = p.identity)
  · intro q b hq _
    unfold Batch.Reader.step
    split
    · exact (read_identity atoms display b _ q).trans hq
    · exact hq
  · rfl
  · exact along_true _ _

-- An update does to the part of a branch what the branch alone does.
theorem owned_update {b : Branch} (hwork : b ≠ .workArea) (hname : b ≠ .wmName) (p : NETRootInfo)
    (properties properties2 : Flags) :
    b.owned (p.update atoms display properties properties2).1 =
      stepOwned atoms display (properties &&& p.clientProperties) (properties2 &&& p.clientProperties2)
        b p := by
  rw [update_eq_run, ← owned_step]
  have hview := Batch.Reader.view_run
    (reader atoms (properties &&& p.clientProperties) (properties2 &&& p.clientProperties2) display)
    (Branch.requests atoms p.root) display.answer (fun p => (p.identity, b.owned p)) b
    (by
      intro c replies q hc
      have hframe := read_frame atoms display hc (fun h => absurd h hname) replies q
      exact Prod.ext hframe.1 hframe.2)
    (by
      intro replies q q' h
      have hidentity : q.identity = q'.identity := congrArg Prod.fst h
      apply Prod.ext
      · exact (read_identity atoms display b replies q).trans
          (hidentity.trans (read_identity atoms display b replies q').symm)
      · exact read_owned atoms display hwork hname replies hidentity (congrArg Prod.snd h))
    (by decide : readOrder.Nodup) (by cases b <;> decide) p
  exact congrArg Prod.snd hview

/-- The work areas, which are taken only if there are as many as desktops. -/
def workAreaOf (reply : Reply) (numberOfDesktops : Int32) : NETRArray NETRect :=
  let data := getArrayReply reply .cardinal
  if (data.length : Int) = numberOfDesktops.toInt * 4 then NETRArray.new.setFrom 0 (rects data)
  else .new

theorem read_workArea (replies : List Reply) (p : NETRootInfo) :
    (Branch.workArea.read atoms display replies p).1 =
      { p with workarea := workAreaOf (replies.headD none) p.numberOfDesktops } := by
  unfold Branch.read workAreaOf
  dsimp only
  split <;> rfl

-- The work areas are read with the number of desktops as the update leaves it.
theorem workArea_update (p : NETRootInfo) (properties properties2 : Flags) :
    (p.update atoms display properties properties2).1.workarea =
      if (properties &&& p.clientProperties).has Property.workArea then
        workAreaOf (display.answer ⟨p.root, atoms.atom .netWorkarea, .cardinal, maxPropSize⟩)
          (p.update atoms display properties properties2).1.numberOfDesktops
      else p.workarea := by
  rw [update_eq_run]
  generalize properties &&& p.clientProperties = dirty
  generalize properties2 &&& p.clientProperties2 = dirty2
  have horder : readOrder = readOrder.take 9 ++ .workArea :: readOrder.drop 10 := rfl
  rw [horder, run_append, run_cons]
  have hbefore := run_frame atoms display dirty dirty2 (Branch.requests atoms p.root)
    (readOrder.take 9) .workArea (by decide) (fun h => nomatch h) p
  generalize (run _ p (readOrder.take 9)).1 = q at hbefore
  have hareas : q.workarea = p.workarea := hbefore.2
  dsimp only
  -- What comes behind touches neither of the two.
  have hafter := fun c hc r => (run_frame atoms display dirty dirty2 (Branch.requests atoms p.root)
    (readOrder.drop 10) c hc (fun h => by rw [h] at hc; exact absurd hc (by decide)) r).2
  have hwork := hafter .workArea (by decide)
  have hnumber := hafter .numberOfDesktops (by decide)
  simp only [Branch.owned] at hwork hnumber
  rw [hwork, hnumber]
  let reply := display.answer ⟨p.root, atoms.atom .netWorkarea, .cardinal, maxPropSize⟩
  have hstep : ((reader atoms dirty dirty2 display).step (Branch.requests atoms p.root) display.answer q
      .workArea).1 = if dirty.has Property.workArea then
        { q with workarea := workAreaOf reply q.numberOfDesktops } else q := by
    show (if dirty.has Property.workArea then _ else _ : NETRootInfo × List RootSignal).1 = _
    split
    · exact read_workArea atoms display [reply] q
    · rfl
  rw [hstep]
  split
  · rfl
  · exact hareas

/-! ## Notifications -/

/-- The property that a branch reads; that of the name goes with the supporting window. -/
def Branch.name : Branch → KwsAtom
  | .supported => .netSupported
  | .clientList => .netClientList
  | .clientListStacking => .netClientListStacking
  | .numberOfDesktops => .netNumberOfDesktops
  | .desktopGeometry => .netDesktopGeometry
  | .desktopViewport => .netDesktopViewport
  | .currentDesktop => .netCurrentDesktop
  | .desktopNames => .netDesktopNames
  | .activeWindow => .netActiveWindow
  | .workArea => .netWorkarea
  | .supportingWMCheck | .wmName => .netSupportingWmCheck
  | .virtualRoots => .netVirtualRoots
  | .desktopLayout => .netDesktopLayout
  | .showingDesktop => .netShowingDesktop

/-- The object was constructed to keep what the branch reads. -/
def Branch.asked (b : Branch) (p : NETRootInfo) : Bool :=
  b.wanted p.clientProperties p.clientProperties2

/-- The flags that `event` finds for an atom. -/
def notified (atom : XcbAtom) : Dirty := (lookupAtom atoms.atom notifyChain atom).getD {}

theorem wanted_and (b : Branch) (dirty dirty2 asked asked2 : Flags) :
    b.wanted (dirty &&& asked) (dirty2 &&& asked2) = (b.wanted dirty dirty2 && b.wanted asked asked2) := by
  cases b <;> exact Flags.has_and _ _ _

-- An atom makes dirty what is read from its property, and nothing else.
theorem wanted_notified (b : Branch) (atom : XcbAtom) :
    b.wanted (notified atoms atom).properties (notified atoms atom).properties2 =
      decide (atom = atoms.atom b.name) := by
  unfold notified
  by_cases h : atom = atoms.atom b.name
  · rw [decide_eq_true h, h, lookupAtom_value atoms.injective]
    cases b <;> decide
  · rw [decide_eq_false h]
    have hchain : ∀ e ∈ notifyChain, e.1 ≠ b.name → b.wanted e.2.properties e.2.properties2 = false := by
      cases b <;> decide
    cases hlookup : lookupAtom atoms.atom notifyChain atom with
    | none => cases b <;> exact Flags.has_zero _
    | some dirty =>
        rcases mem_of_lookupAtom hlookup with ⟨name, hmem, hatom⟩
        exact hchain (name, dirty) hmem fun hname => h (hatom.trans (congrArg atoms.atom hname))

/-- The object once it has handled the notification of an atom. -/
def notify (p : NETRootInfo) (atom : XcbAtom) : NETRootInfo :=
  (p.event atoms display (.propertyNotify atom)).1.1

theorem notify_eq (p : NETRootInfo) (atom : XcbAtom) :
    p.notify atoms display atom =
      (p.update atoms display (notified atoms atom).properties (notified atoms atom).properties2).1 := rfl

theorem wanted_notify (b : Branch) (p : NETRootInfo) (atom : XcbAtom) :
    b.wanted ((notified atoms atom).properties &&& p.clientProperties)
        ((notified atoms atom).properties2 &&& p.clientProperties2) =
      (decide (atom = atoms.atom b.name) && b.asked p) := by
  rw [wanted_and, wanted_notified]
  rfl

theorem identity_notify (p : NETRootInfo) (atom : XcbAtom) :
    (p.notify atoms display atom).identity = p.identity :=
  identity_update atoms display p _ _

-- The part of a branch is read again when its property is notified.
theorem owned_notify {b : Branch} (hwork : b ≠ .workArea) (hname : b ≠ .wmName) (p : NETRootInfo)
    (atom : XcbAtom) :
    b.owned (p.notify atoms display atom) =
      if atom = atoms.atom b.name ∧ b.asked p = true then
        b.owned (b.read atoms display ((b.requests atoms p.root).map display.answer) p).1
      else b.owned p := by
  rw [notify_eq, owned_update atoms display hwork hname]
  unfold stepOwned
  rw [wanted_notify]
  by_cases h : atom = atoms.atom b.name ∧ b.asked p = true
  · rw [if_pos h, if_pos (by simp [h])]
  · rw [if_neg h, if_neg (by simpa using h)]

theorem workArea_notify (p : NETRootInfo) (atom : XcbAtom) :
    (p.notify atoms display atom).workarea =
      if atom = atoms.atom .netWorkarea ∧ Branch.workArea.asked p = true then
        workAreaOf (display.answer ⟨p.root, atoms.atom .netWorkarea, .cardinal, maxPropSize⟩)
          p.numberOfDesktops
      else p.workarea := by
  have hnumber := owned_notify atoms display (b := .numberOfDesktops) (fun h => nomatch h)
    (fun h => nomatch h) p atom
  have hwanted := wanted_notify atoms .workArea p atom
  have hupdate := workArea_update atoms display p (notified atoms atom).properties
    (notified atoms atom).properties2
  rw [← notify_eq] at hupdate
  rw [hupdate]
  have hwanted : ((notified atoms atom).properties &&& p.clientProperties).has Property.workArea =
      (decide (atom = atoms.atom .netWorkarea) && Branch.workArea.asked p) := hwanted
  rw [hwanted]
  by_cases h : atom = atoms.atom .netWorkarea ∧ Branch.workArea.asked p = true
  · rw [if_pos h, if_pos (by simp [h])]
    rw [if_neg (by rw [h.1, Atoms.atom_inj]; exact fun h => nomatch h.1)] at hnumber
    exact congrArg _ hnumber
  · rw [if_neg h, if_neg (by simpa using h)]

end Update

end NETRootInfo

end KWindowSystem
