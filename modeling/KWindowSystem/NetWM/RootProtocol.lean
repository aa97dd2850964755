import KWindowSystem.Lib.Replicas
import KWindowSystem.NetWM.RootReading

/-!
# The root window between its clients and the window manager

Any number of clients send requests to one window manager, which answers them as it likes and may change things
on its own; the server keeps the properties and tells everybody which of them were written.  Whatever the
order in which messages and notifications are handled, a client that has handled its notifications has what
the window manager has said last (`announced_seen`).
-/

open Machine Qt

namespace KWindowSystem

open NET KX11Extras

/-- The message that a request is. -/
def Outgoing.message? : Outgoing → Option NetMessage
  | .message m => some m
  | _ => none

namespace NETRootInfo

/-- The properties of the root window, with the messages that the window manager has not got to yet. -/
structure RootWindow where
  display : Display
  mail : List NetMessage := []

/-- The objects of the clients, and under `none` that of the window manager. -/
abbrev Objects (ι : Type) := Option ι → NETRootInfo

/-- What a client is constructed for. -/
structure Interest where
  rootSize : NETSize := {}
  properties : Flags
  properties2 : Flags := 0

/-- What the window manager is constructed for. -/
structure ManagerArguments where
  supportWindow : XcbWindow
  wmName : QByteArray
  properties : Flags
  windowTypes : Flags
  states : Flags
  properties2 : Flags
  actions : Flags

inductive RootEvent (ι : Type) where
  | call (party : Option ι) (c : RootCall)
  /-- The window manager handles the oldest message. -/
  | deliver

/-! ## What has been said -/

/-- What the window manager keeps, and what it has said of the parts of a `NETRootInfo`: of those that others
write too, and of the work areas, nothing. -/
structure Announced where
  numberOfDesktops : Int32
  currentDesktop : Int32
  viewport : Nat → NETPoint
  told : (b : Branch) → Option b.Seen := fun _ => none

namespace Announced

def write (a : Announced) (b : Branch) (v : Option b.Seen) : Announced :=
  { a with told := Function.update a.told b v }

def tell (a : Announced) (b : Branch) (v : b.Seen) : Announced := a.write b (some v)

def forget (a : Announced) (b : Branch) : Announced := a.write b none

@[simp] theorem write_self (a : Announced) (b : Branch) (v : Option b.Seen) : (a.write b v).told b = v := by
  simp [write]

@[simp] theorem write_ne (a : Announced) {b b' : Branch} (h : b' ≠ b) (v : Option b.Seen) :
    (a.write b v).told b' = a.told b' := by
  simp [write, h]

theorem write_comm (a : Announced) {b b' : Branch} (h : b ≠ b') (v : Option b.Seen) (v' : Option b'.Seen) :
    (a.write b v).write b' v' = (a.write b' v').write b v :=
  congrArg (fun told => { a with told }) (Function.update_comm h v v' a.told)

/-- A call that is not refused for the role. -/
def call (a : Announced) : RootCall → Announced
  | .setNumberOfDesktops n => { a with numberOfDesktops := n }.tell .numberOfDesktops n
  | .setCurrentDesktop desktop => { a with currentDesktop := desktop }.tell .currentDesktop desktop
  | .setDesktopGeometry geometry => a.tell .desktopGeometry geometry
  | .setDesktopViewport desktop viewport =>
      if desktop < 1 then a
      else
        let viewport := Function.update a.viewport (desktop.toInt - 1).toNat viewport
        { a with viewport }.tell .desktopViewport (shownViewport viewport a.numberOfDesktops)
  | .setActiveWindow window .. => a.tell .activeWindow window
  | .setShowingDesktop showing => a.tell .showingDesktop showing
  | .setDesktopLayout orientation columns rows corner =>
      a.tell .desktopLayout ((orientation, corner), columns, rows)
  | .setList .clientList windows =>
      a.tell .clientList (windowArray ((windows.take maxPropSize).insertionSort (· ≤ ·)))
  | .setList .clientListStacking windows =>
      let windows := windows.take maxPropSize
      a.tell .clientListStacking (windowArray windows, windows.length)
  | .setList .virtualRoots _ => a.forget .virtualRoots
  | .setDesktopName .. => a.forget .desktopNames
  | .setWorkArea .. => a.forget .workArea

end Announced

/-- A call of a client is one of the window manager, or it says nothing. -/
def Announced.note {ι : Type} (a : Announced) : Option ι × RootCall → Announced
  | (none, c) => a.call c
  | (some _, c) => if c.anyRole then a.call c else a

/-! ## Steps -/

section Steps

variable {ι : Type} [DecidableEq ι] (atoms : Atoms) (root : XcbWindow)
  (policy : NETRootInfo → RootSignal → List RootCall)

/-- A setter is called, with the properties that the server notifies of. -/
def calling (party : Option ι) (s : RootWindow × Objects ι) (c : RootCall) :
    (RootWindow × Objects ι) × List XcbAtom :=
  let done := c.perform atoms (s.2 party)
  ((⟨done.2.foldl Outgoing.apply s.1.display, s.1.mail ++ done.2.filterMap Outgoing.message?⟩,
      Function.update s.2 party done.1),
    done.2.filterMap Outgoing.atom?)

/-- What the window manager calls when it gets a message: the subclass decides. -/
def answer (s : RootWindow) (manager : NETRootInfo) (m : NetMessage) : List RootCall :=
  (manager.event atoms s.display (.clientMessage 32 m.window m.type m.data32)).1.2.flatMap (policy manager)

/-- Everybody on the root window; the outputs are the calls that were made. -/
def protocol : Replicas.System (Option ι) RootWindow NETRootInfo XcbAtom (RootEvent ι) (ι × Interest)
    (Option ι × RootCall) where
  change s objects e := match e with
    | .call party c =>
        let now := calling atoms party (s, objects) c
        ((now.1, [(party, c)]), now.2)
    | .deliver =>
        match s.mail with
        | [] => (((s, objects), []), [])
        | m :: rest =>
            let calls := answer atoms policy s (objects none) m
            let now := run (calling atoms none) ({ s with mail := rest }, objects) calls
            ((now.1, calls.map fun c => (none, c)), now.2)
  handle s p atom := p.notify atoms s.display atom
  seat v := some v.1
  construct s v :=
    ((newClient root v.2.rootSize v.2.properties v.2.properties2).update atoms s.display v.2.properties
      v.2.properties2).1

/-- Before `activate`, which writes what is supported and calls `update`. -/
def ManagerArguments.object (m : ManagerArguments) : NETRootInfo :=
  newWindowManager root m.supportWindow m.wmName m.properties m.windowTypes m.states m.properties2 m.actions

/-- A window manager and some clients, each just constructed. -/
def opened (display : Display) (manager : ManagerArguments) (interests : ι → Interest) :
    Replicas.State (Option ι) RootWindow NETRootInfo XcbAtom where
  store := { display }
  copies
    | none =>
        let manager := manager.object root
        (manager.update atoms display manager.clientProperties manager.clientProperties2).1
    | some i => (protocol atoms root policy).construct { display } (i, interests i)
  pending _ := []

end Steps

/-! ## The parties -/

/-- Whose object it is. -/
def roleOf {ι : Type} : Option ι → Role
  | none => .windowManager
  | some _ => .client

/-- What no step changes of an object; the window manager reads the names and the layout alone. -/
structure Party {ι : Type} (root : XcbWindow) (party : Option ι) (p : NETRootInfo) : Prop where
  role : p.role = roleOf party
  root_eq : p.root = root
  clean : p.viewport.Clean
  interest : party = none → p.clientProperties = mask Property.desktopNames ||| mask Property.wmPing
  interest2 : party = none → p.clientProperties2 = mask Property2.desktopLayout

section Parties

variable {ι : Type} {atoms : Atoms} {root : XcbWindow} {party : Option ι} {p : NETRootInfo}

theorem Party.of_identity (h : Party root party p) {q : NETRootInfo} (hidentity : q.identity = p.identity)
    (hclean : q.viewport.Clean) : Party root party q where
  role := (congrArg Identity.role hidentity).trans h.role
  root_eq := (congrArg Identity.root hidentity).trans h.root_eq
  clean := hclean
  interest hparty := (congrArg Identity.clientProperties hidentity).trans (h.interest hparty)
  interest2 hparty := (congrArg Identity.clientProperties2 hidentity).trans (h.interest2 hparty)

theorem Party.update (h : Party root party p) (display : Display) (properties properties2 : Flags) :
    Party root party (p.update atoms display properties properties2).1 :=
  h.of_identity (identity_update atoms display p properties properties2)
    (Branch.clean_update atoms display h.clean properties properties2)

variable (atoms) in
theorem clean_perform (h : p.viewport.Clean) (c : RootCall) : (c.perform atoms p).1.viewport.Clean := by
  by_cases hc : c.branch = .desktopViewport
  · cases c with
    | setDesktopViewport desktop viewport =>
        unfold RootCall.perform NETRootInfo.setDesktopViewport
        dsimp only
        split
        · exact h
        · split
          · show (viewportWords _ _).1.Clean
            rw [viewportWords_eq]
            exact NETRArray.clean_readTo (NETRArray.clean_set h _ _) _
          · exact h
    | setList list windows => cases list <;> cases hc
    | _ => cases hc
  · have hdone := c.done_perform atoms p
    generalize c.perform atoms p = done at hdone
    cases hdone with
    | refused => exact h
    | asked m => exact h
    | written q value _ frame =>
        have hviewport : q.viewport = p.viewport := frame .desktopViewport (Ne.symm hc)
        rw [hviewport]
        exact h

end Parties

/-! ## What is current -/

/-- A part that the object keeps is what it would read now. -/
def Current (atoms : Atoms) (b : Branch) (s : RootWindow) (p : NETRootInfo) : Prop :=
  b ≠ .workArea → b ≠ .wmName → b.asked p = true → b.seen p = b.now atoms s.display p

section Currents

variable {ι : Type} [DecidableEq ι] {atoms : Atoms} {root : XcbWindow}
  {policy : NETRootInfo → RootSignal → List RootCall}

theorem asked_congr {p q : NETRootInfo} (h : p.identity = q.identity) (b : Branch) : b.asked p = b.asked q := by
  have hproperties : p.clientProperties = q.clientProperties := congrArg Identity.clientProperties h
  have hproperties2 : p.clientProperties2 = q.clientProperties2 := congrArg Identity.clientProperties2 h
  unfold Branch.asked
  rw [hproperties, hproperties2]

/-- Nobody but the window manager hears of a call, or its own property is written and the caller keeps the
value. -/
inductive Called (atoms : Atoms) (s : RootWindow × Objects ι) (party : Option ι) (c : RootCall) :
    (RootWindow × Objects ι) × List XcbAtom → Prop where
  | quiet (mail : List NetMessage) : Called atoms s party c (({ s.1 with mail }, s.2), [])
  | written (q : NETRootInfo) (value : XProperty) (identity : q.identity = (s.2 party).identity)
      (clean : (s.2 party).viewport.Clean → q.viewport.Clean)
      (frame : ∀ b, b ≠ c.branch → b.owned q = b.owned (s.2 party)) :
      Called atoms s party c
        (({ s.1 with
            display := (Change.mk (atoms.atom c.branch.name) (some value)).apply (s.2 party).root s.1.display },
          Function.update s.2 party q), [atoms.atom c.branch.name])

variable (atoms) in
theorem called_calling (party : Option ι) (s : RootWindow × Objects ι) (c : RootCall) :
    Called atoms s party c (calling atoms party s c) := by
  have hclean := fun h => clean_perform atoms (p := s.2 party) h c
  have hdone := c.done_perform atoms (s.2 party)
  unfold calling
  generalize c.perform atoms (s.2 party) = done at hdone hclean
  cases hdone with
  | refused =>
      dsimp only
      rw [Function.update_eq_self]
      exact .quiet _
  | asked m =>
      dsimp only
      rw [Function.update_eq_self]
      exact .quiet _
  | written q value identity frame =>
      dsimp only [List.foldl_cons, List.foldl_nil, Outgoing.apply, List.filterMap_cons, List.filterMap_nil,
        Outgoing.message?, Outgoing.atom?]
      rw [List.append_nil]
      exact .written q value identity hclean frame

variable (atoms) in
theorem calling_parties {s : RootWindow × Objects ι} (hs : ∀ j, Party root j (s.2 j)) (party : Option ι)
    (c : RootCall) (j : Option ι) : Party root j ((calling atoms party s c).1.2 j) := by
  have hcalled := called_calling atoms party s c
  generalize calling atoms party s c = done at hcalled
  cases hcalled with
  | quiet mail => exact hs j
  | written q value identity clean _ =>
      dsimp only
      by_cases hj : j = party
      · subst hj
        rw [Function.update_self]
        exact (hs j).of_identity identity (clean (hs j).clean)
      · rw [Function.update_of_ne hj]
        exact hs j

-- A call leaves current what it does not write.
theorem calling_current {s : RootWindow × Objects ι} (hs : ∀ j, Party root j (s.2 j)) {party : Option ι}
    {c : RootCall} {b : Branch} (hnames : ∀ atom ∈ (calling atoms party s c).2, ¬atom = atoms.atom b.name)
    {j : Option ι} (hcurrent : Current atoms b s.1 (s.2 j)) :
    Current atoms b (calling atoms party s c).1.1 ((calling atoms party s c).1.2 j) := by
  have hcalled := called_calling atoms party s c
  generalize calling atoms party s c = done at hcalled hnames
  cases hcalled with
  | quiet mail => exact hcurrent
  | written q value identity clean frame =>
      intro hwork hname hasked
      have hatom : atoms.atom c.branch.name ≠ atoms.atom b.name := hnames _ List.mem_cons_self
      have hbranch : b ≠ c.branch := fun h => hatom (by rw [h])
      dsimp only at hasked ⊢
      rw [Branch.now_apply atoms s.1.display _ hatom hname]
      by_cases hj : j = party
      · subst hj
        have hclean := (hs j).clean
        rw [Function.update_self] at hasked ⊢
        rw [asked_congr identity] at hasked
        rw [Branch.now_congr atoms s.1.display hwork hname identity (clean hclean) hclean,
          ← hcurrent hwork hname hasked]
        unfold Branch.seen
        rw [frame b hbranch]
      · rw [Function.update_of_ne hj] at hasked ⊢
        exact hcurrent hwork hname hasked

theorem callings_current (calls : List RootCall) {s : RootWindow × Objects ι} (hs : ∀ j, Party root j (s.2 j))
    {party : Option ι} {b : Branch}
    (hnames : ∀ atom ∈ (run (calling atoms party) s calls).2, ¬atom = atoms.atom b.name) {j : Option ι}
    (hcurrent : Current atoms b s.1 (s.2 j)) :
    Current atoms b (run (calling atoms party) s calls).1.1 ((run (calling atoms party) s calls).1.2 j) := by
  induction calls generalizing s with
  | nil => exact hcurrent
  | cons c calls ih =>
      rw [run_cons] at hnames ⊢
      apply ih
      · exact calling_parties atoms hs party c
      · exact fun atom hatom => hnames atom (List.mem_append_right _ hatom)
      · exact calling_current hs (fun atom hatom => hnames atom (List.mem_append_left _ hatom)) hcurrent

variable (atoms) in
theorem callings_parties (calls : List RootCall) {s : RootWindow × Objects ι} (hs : ∀ j, Party root j (s.2 j))
    (party : Option ι) : ∀ j, Party root j ((run (calling atoms party) s calls).1.2 j) :=
  run_invariant (fun s : RootWindow × Objects ι => ∀ j, Party root j (s.2 j))
    (fun _ c hs _ => calling_parties atoms hs party c) hs (along_true s calls)

variable (atoms) in
-- An object is current when it is constructed.
theorem current_update (s : RootWindow) {p : NETRootInfo} (hclean : p.viewport.Clean) (b : Branch) :
    Current atoms b s (p.update atoms s.display p.clientProperties p.clientProperties2).1 := by
  intro hwork hname hasked
  have hidentity := identity_update atoms s.display p p.clientProperties p.clientProperties2
  rw [asked_congr hidentity] at hasked
  rw [Branch.seen_update atoms s.display hwork hname hasked]
  exact (Branch.now_congr atoms s.display hwork hname hidentity
    (Branch.clean_update atoms s.display hclean _ _) hclean).symm

omit [DecidableEq ι] in
theorem party_new (i : ι) (v : Interest) :
    Party root (some i) (newClient root v.rootSize v.properties v.properties2) where
  role := rfl
  root_eq := rfl
  clean := NETRArray.clean_new
  interest h := nomatch h
  interest2 h := nomatch h

variable (atoms root policy) in
theorem follows : Replicas.Follows (protocol (ι := ι) atoms root policy)
    (fun _ objects => ∀ j, Party root j (objects j)) (fun b atom => atom = atoms.atom b.name)
    (Current atoms) where
  inv_change s objects e hs := by
    cases e with
    | call party c => exact calling_parties atoms (s := (s, objects)) hs party c
    | deliver =>
        simp only [protocol]
        split
        · exact hs
        · exact callings_parties atoms _ hs none
  inv_handle s objects i atom hs j := by
    by_cases hj : j = i
    · subst hj
      rw [Function.update_self]
      exact (hs j).update s.display _ _
    · rw [Function.update_of_ne hj]
      exact hs j
  inv_join s objects v hs j := by
    show Party root j (Function.update objects (some v.1) _ j)
    by_cases hj : j = some v.1
    · rw [hj, Function.update_self]
      exact (party_new v.1 v.2).update s.display _ _
    · rw [Function.update_of_ne hj]
      exact hs j
  current_change s objects e i b hs hnames hcurrent := by
    cases e with
    | call party c => exact calling_current (s := (s, objects)) hs hnames hcurrent
    | deliver =>
        simp only [protocol] at hnames ⊢
        split at hnames
        · exact hcurrent
        · exact callings_current _ hs hnames hcurrent
  current_handle s objects i atom b hs hcurrent hwork hname hasked := by
    have hidentity := identity_notify atoms s.display (objects i) atom
    have hclean : ((objects i).notify atoms s.display atom).viewport.Clean :=
      Branch.clean_update atoms s.display (hs i).clean _ _
    have hasked : b.asked (objects i) = true := (asked_congr hidentity b).symm.trans hasked
    show b.seen ((objects i).notify atoms s.display atom) =
      b.now atoms s.display ((objects i).notify atoms s.display atom)
    rw [Branch.seen_notify atoms s.display hwork hname hasked,
      Branch.now_congr atoms s.display hwork hname hidentity hclean (hs i).clean]
    split
    · rfl
    · rename_i hother
      exact hcurrent.resolve_left hother hwork hname hasked
  current_join s objects v b _ := current_update atoms s NETRArray.clean_new b

end Currents

/-! ## What everybody reads -/

/-- The display says what was said. -/
def Told (atoms : Atoms) (root : XcbWindow) (a : Announced) (display : Display) : Prop :=
  ∀ (b : Branch) (v : b.Seen), a.told b = some v → b ≠ .workArea ∧ b ≠ .wmName ∧ Says atoms root display b v

section Told

variable {atoms : Atoms} {root : XcbWindow} {a : Announced} {display : Display}

theorem name_inj {b b' : Branch} (hb : b ≠ .wmName) (hb' : b' ≠ .wmName) (h : b.name = b'.name) : b = b' := by
  cases b <;> cases b' <;> first | rfl | exact absurd rfl hb | exact absurd rfl hb' | exact nomatch h

theorem branch_ne_wmName (c : RootCall) : c.branch ≠ .wmName := by
  cases c with
  | setList list windows => cases list <;> exact fun h => nomatch h
  | _ => exact fun h => nomatch h

-- What is told of the other parts stands.
theorem Told.others (h : Told atoms root a display) {b : Branch} (hb : b ≠ .wmName) (value : Option XProperty)
    {b' : Branch} {v : b'.Seen} (hne : b' ≠ b) (htold : a.told b' = some v) :
    b' ≠ .workArea ∧ b' ≠ .wmName ∧
      Says atoms root ((Change.mk (atoms.atom b.name) value).apply root display) b' v := by
  rcases h b' v htold with ⟨hwork, hname, hread⟩
  refine ⟨hwork, hname, fun p hroot hclean => ?_⟩
  have hatom : atoms.atom b.name ≠ atoms.atom b'.name :=
    fun heq => hne (name_inj hname hb (atoms.injective heq).symm)
  rw [Branch.now_apply atoms display root hatom hname]
  exact hread p hroot hclean

theorem Told.tell (h : Told atoms root a display) {b : Branch} (hwork : b ≠ .workArea) (hname : b ≠ .wmName)
    {value : Option XProperty} {v : b.Seen}
    (hread : Says atoms root ((Change.mk (atoms.atom b.name) value).apply root display) b v) :
    Told atoms root (a.tell b v) ((Change.mk (atoms.atom b.name) value).apply root display) := by
  intro b' v' htold
  by_cases hb : b' = b
  · subst hb
    rw [Announced.tell, Announced.write_self] at htold
    cases htold
    exact ⟨hwork, hname, hread⟩
  · rw [Announced.tell, Announced.write_ne a hb] at htold
    exact h.others hname value hb htold

theorem Told.forget (h : Told atoms root a display) {b : Branch} (hname : b ≠ .wmName)
    (value : Option XProperty) :
    Told atoms root (a.forget b) ((Change.mk (atoms.atom b.name) value).apply root display) := by
  intro b' v' htold
  by_cases hb : b' = b
  · subst hb
    rw [Announced.forget, Announced.write_self] at htold
    cases htold
  · rw [Announced.forget, Announced.write_ne a hb] at htold
    exact h.others hname value hb htold

theorem Told.forget_same (h : Told atoms root a display) (b : Branch) :
    Told atoms root (a.forget b) display := by
  intro b' v' htold
  by_cases hb : b' = b
  · subst hb
    rw [Announced.forget, Announced.write_self] at htold
    cases htold
  · rw [Announced.forget, Announced.write_ne a hb] at htold
    exact h b' v' htold

/-- What the window manager keeps is what it has said. -/
structure Keeps (a : Announced) (p : NETRootInfo) : Prop where
  numberOfDesktops : p.numberOfDesktops = a.numberOfDesktops
  currentDesktop : p.currentDesktop = a.currentDesktop
  viewport : p.viewport.get = a.viewport

theorem keeps_perform {p : NETRootInfo} (hrole : p.role = .windowManager) (h : Keeps a p) (c : RootCall) :
    Keeps (a.call c) (c.perform atoms p).1 := by
  cases c with
  | setNumberOfDesktops n =>
      simp only [RootCall.perform, NETRootInfo.setNumberOfDesktops, if_pos hrole]
      exact ⟨rfl, h.currentDesktop, h.viewport⟩
  | setCurrentDesktop desktop =>
      simp only [RootCall.perform, NETRootInfo.setCurrentDesktop, if_pos hrole]
      exact ⟨h.numberOfDesktops, rfl, h.viewport⟩
  | setDesktopGeometry geometry =>
      simp only [RootCall.perform, NETRootInfo.setDesktopGeometry, if_pos hrole]
      exact ⟨h.numberOfDesktops, h.currentDesktop, h.viewport⟩
  | setDesktopViewport desktop viewport =>
      simp only [RootCall.perform, NETRootInfo.setDesktopViewport, if_pos hrole, Announced.call]
      by_cases hdesktop : desktop < 1
      · rw [if_pos hdesktop, if_pos hdesktop]
        exact h
      · rw [if_neg hdesktop, if_neg hdesktop]
        refine ⟨h.numberOfDesktops, h.currentDesktop, ?_⟩
        funext i
        show (viewportWords _ _).1.get i = Function.update a.viewport _ viewport i
        rw [viewportWords_eq, NETRArray.get_readTo, NETRArray.get_set, ← h.viewport, Function.update_apply]
  | setActiveWindow window src timestamp activeWindow =>
      simp only [RootCall.perform, NETRootInfo.setActiveWindow, if_pos hrole]
      exact ⟨h.numberOfDesktops, h.currentDesktop, h.viewport⟩
  | setShowingDesktop showing =>
      simp only [RootCall.perform, NETRootInfo.setShowingDesktop, if_pos hrole]
      exact ⟨h.numberOfDesktops, h.currentDesktop, h.viewport⟩
  | setDesktopName desktop name =>
      simp only [RootCall.perform, NETRootInfo.setDesktopName, NETRootInfo.ofChange]
      split <;> exact ⟨h.numberOfDesktops, h.currentDesktop, h.viewport⟩
  | setWorkArea desktop area =>
      simp only [RootCall.perform, NETRootInfo.setWorkArea]
      split <;> exact ⟨h.numberOfDesktops, h.currentDesktop, h.viewport⟩
  | setDesktopLayout orientation columns rows corner =>
      exact ⟨h.numberOfDesktops, h.currentDesktop, h.viewport⟩
  | setList list windows =>
      cases list with
      | clientList =>
          simp only [RootCall.perform, RootList.set, NETRootInfo.ofChange, NETRootInfo.setClientList]
          split <;> exact ⟨h.numberOfDesktops, h.currentDesktop, h.viewport⟩
      | clientListStacking =>
          simp only [RootCall.perform, RootList.set, NETRootInfo.ofChange, NETRootInfo.setClientListStacking]
          split <;> exact ⟨h.numberOfDesktops, h.currentDesktop, h.viewport⟩
      | virtualRoots =>
          simp only [RootCall.perform, RootList.set, NETRootInfo.ofChange, NETRootInfo.setVirtualRoots]
          split <;> exact ⟨h.numberOfDesktops, h.currentDesktop, h.viewport⟩

theorem told_anyRole {p : NETRootInfo} (h : Told atoms p.root a display) {c : RootCall} (hc : c.anyRole = true) :
    Told atoms p.root (a.call c) ((c.perform atoms p).2.foldl Outgoing.apply display) := by
  cases c with
  | setDesktopName desktop name =>
      simp only [RootCall.perform, NETRootInfo.setDesktopName, NETRootInfo.ofChange]
      split
      · exact h.forget_same .desktopNames
      · exact Told.forget (b := .desktopNames) h (by decide) _
  | setDesktopLayout orientation columns rows corner =>
      exact Told.tell (b := .desktopLayout) h (by decide) (by decide)
        (says_desktopLayout atoms p.root display orientation columns rows corner)
  | _ => cases hc

-- What a call of the window manager writes says what the call does.
theorem told_perform {p : NETRootInfo} (hrole : p.role = .windowManager) (hkeeps : Keeps a p)
    (h : Told atoms p.root a display) (c : RootCall) :
    Told atoms p.root (a.call c) ((c.perform atoms p).2.foldl Outgoing.apply display) := by
  cases c with
  | setNumberOfDesktops n =>
      simp only [RootCall.perform, NETRootInfo.setNumberOfDesktops, if_pos hrole]
      exact Told.tell (b := .numberOfDesktops) h (by decide) (by decide)
        (says_numberOfDesktops atoms p.root display n)
  | setCurrentDesktop desktop =>
      simp only [RootCall.perform, NETRootInfo.setCurrentDesktop, if_pos hrole]
      exact Told.tell (b := .currentDesktop) h (by decide) (by decide)
        (says_currentDesktop atoms p.root display desktop)
  | setDesktopGeometry geometry =>
      simp only [RootCall.perform, NETRootInfo.setDesktopGeometry, if_pos hrole]
      exact Told.tell (b := .desktopGeometry) h (by decide) (by decide)
        (says_desktopGeometry atoms p.root display geometry)
  | setDesktopViewport desktop viewport =>
      simp only [RootCall.perform, NETRootInfo.setDesktopViewport, if_pos hrole, Announced.call]
      by_cases hdesktop : desktop < 1
      · rw [if_pos hdesktop, if_pos hdesktop]
        exact h
      · rw [if_neg hdesktop, if_neg hdesktop]
        have hread := says_desktopViewport atoms p.root display
          (p.viewport.set (desktop.toInt - 1).toNat viewport) p.numberOfDesktops
        have hviewport : (p.viewport.set (desktop.toInt - 1).toNat viewport).get =
            Function.update a.viewport (desktop.toInt - 1).toNat viewport := by
          funext i
          rw [NETRArray.get_set, hkeeps.viewport, Function.update_apply]
        rw [hviewport, hkeeps.numberOfDesktops] at hread
        rw [hkeeps.numberOfDesktops]
        exact Told.tell (b := .desktopViewport) h (by decide) (by decide) hread
  | setActiveWindow window src timestamp activeWindow =>
      simp only [RootCall.perform, NETRootInfo.setActiveWindow, if_pos hrole]
      exact Told.tell (b := .activeWindow) h (by decide) (by decide)
        (says_activeWindow atoms p.root display window)
  | setShowingDesktop showing =>
      simp only [RootCall.perform, NETRootInfo.setShowingDesktop, if_pos hrole]
      exact Told.tell (b := .showingDesktop) h (by decide) (by decide)
        (says_showingDesktop atoms p.root display showing)
  | setDesktopName desktop name => exact told_anyRole h rfl
  | setWorkArea desktop area =>
      simp only [RootCall.perform, NETRootInfo.setWorkArea]
      split
      · exact h.forget_same .workArea
      · exact Told.forget (b := .workArea) h (by decide) _
  | setDesktopLayout orientation columns rows corner => exact told_anyRole h rfl
  | setList list windows =>
      cases list with
      | clientList =>
          simp only [RootCall.perform, RootList.set, NETRootInfo.ofChange, NETRootInfo.setClientList,
            if_neg (not_not.mpr hrole)]
          exact Told.tell (b := .clientList) h (by decide) (by decide)
            (says_clientList atoms p.root display windows)
      | clientListStacking =>
          simp only [RootCall.perform, RootList.set, NETRootInfo.ofChange, NETRootInfo.setClientListStacking,
            if_neg (not_not.mpr hrole)]
          exact Told.tell (b := .clientListStacking) h (by decide) (by decide)
            (says_clientListStacking atoms p.root display windows)
      | virtualRoots =>
          simp only [RootCall.perform, RootList.set, NETRootInfo.ofChange, NETRootInfo.setVirtualRoots,
            if_neg (not_not.mpr hrole)]
          exact Told.forget (b := .virtualRoots) h (by decide) _

variable (atoms) in
-- A client changes nothing with the calls that go by the role.
theorem perform_client {p : NETRootInfo} (hp : p.role = .client) {c : RootCall} (hc : c.anyRole = false)
    (display : Display) :
    (c.perform atoms p).1 = p ∧ (c.perform atoms p).2.foldl Outgoing.apply display = display := by
  rw [c.perform_request atoms hp hc]
  cases c.request? <;> exact ⟨rfl, rfl⟩

end Told

/-! ## Whole runs -/

section Runs

variable {ι : Type} [DecidableEq ι] {atoms : Atoms} {root : XcbWindow}
  {policy : NETRootInfo → RootSignal → List RootCall}

/-- The window manager and the display go by what has been said. -/
structure Agrees (atoms : Atoms) (root : XcbWindow) (a : Announced) (s : RootWindow × Objects ι) : Prop where
  parties : ∀ j, Party root j (s.2 j)
  keeps : Keeps a (s.2 none)
  told : Told atoms root a s.1.display

theorem agrees_calling {a : Announced} {s : RootWindow × Objects ι} (h : Agrees atoms root a s)
    (party : Option ι) (c : RootCall) : Agrees atoms root (a.note (party, c)) (calling atoms party s c).1 := by
  have hparty := h.parties party
  have htold := h.told
  rw [← hparty.root_eq] at htold
  have hobject : ∀ j, (calling atoms party s c).1.2 j =
      Function.update s.2 party (c.perform atoms (s.2 party)).1 j := fun _ => rfl
  have hdisplay : (calling atoms party s c).1.1.display =
      (c.perform atoms (s.2 party)).2.foldl Outgoing.apply s.1.display := rfl
  refine ⟨calling_parties atoms h.parties party c, ?_, ?_⟩
  · rw [hobject]
    cases party with
    | none =>
        rw [Function.update_self]
        exact keeps_perform hparty.role h.keeps c
    | some i =>
        rw [Function.update_of_ne (Option.some_ne_none _).symm]
        show Keeps (if c.anyRole then a.call c else a) (s.2 none)
        split
        · rename_i hc
          cases c with
          | setDesktopName => exact ⟨h.keeps.numberOfDesktops, h.keeps.currentDesktop, h.keeps.viewport⟩
          | setDesktopLayout => exact ⟨h.keeps.numberOfDesktops, h.keeps.currentDesktop, h.keeps.viewport⟩
          | _ => cases hc
        · exact h.keeps
  · rw [hdisplay, ← hparty.root_eq]
    cases party with
    | none => exact told_perform hparty.role h.keeps htold c
    | some i =>
        show Told atoms _ (if c.anyRole then a.call c else a) _
        split
        · rename_i hc
          exact told_anyRole htold hc
        · rename_i hc
          rw [(perform_client atoms hparty.role (Bool.eq_false_of_not_eq_true hc) s.1.display).2]
          exact htold

theorem agrees_callings {a : Announced} {s : RootWindow × Objects ι} (h : Agrees atoms root a s)
    (calls : List RootCall) :
    Agrees atoms root ((calls.map fun c => ((none : Option ι), c)).foldl Announced.note a)
      (run (calling atoms none) s calls).1 := by
  induction calls generalizing a s with
  | nil => exact h
  | cons c calls ih => exact ih (agrees_calling h none c)

variable (atoms) in
omit [DecidableEq ι] in
-- The window manager reads nothing that it keeps on its own.
theorem keeps_update {a : Announced} {p : NETRootInfo} (hparty : Party root (none : Option ι) p)
    (h : Keeps a p) (display : Display) (properties properties2 : Flags) :
    Keeps a (p.update atoms display properties properties2).1 := by
  have howned : ∀ b : Branch, b = .numberOfDesktops ∨ b = .currentDesktop ∨ b = .desktopViewport →
      b.owned (p.update atoms display properties properties2).1 = b.owned p := by
    intro b hb
    have hwork : b ≠ .workArea := by rcases hb with rfl | rfl | rfl <;> exact fun h => nomatch h
    have hname : b ≠ .wmName := by rcases hb with rfl | rfl | rfl <;> exact fun h => nomatch h
    have hasked : b.wanted p.clientProperties p.clientProperties2 = false := by
      rw [hparty.interest rfl, hparty.interest2 rfl]
      rcases hb with rfl | rfl | rfl <;> decide
    rw [owned_update atoms display hwork hname]
    unfold stepOwned
    rw [wanted_and, hasked, Bool.and_false, if_neg Bool.false_ne_true]
  have hnumber := howned .numberOfDesktops (.inl rfl)
  have hcurrent := howned .currentDesktop (.inr (.inl rfl))
  have hviewport := howned .desktopViewport (.inr (.inr rfl))
  exact ⟨hnumber.trans h.numberOfDesktops, hcurrent.trans h.currentDesktop,
    (congrArg NETRArray.get hviewport).trans h.viewport⟩

theorem agrees_step {a : Announced} {s : Replicas.State (Option ι) RootWindow NETRootInfo XcbAtom}
    (h : Agrees atoms root a (s.store, s.copies))
    (e : Replicas.Event (Option ι) (RootEvent ι) (ι × Interest)) :
    Agrees atoms root (((protocol atoms root policy).step s e).2.foldl Announced.note a)
      (((protocol atoms root policy).step s e).1.store, ((protocol atoms root policy).step s e).1.copies) := by
  cases e with
  | change e =>
      cases e with
      | call party c => exact agrees_calling h party c
      | deliver =>
          simp only [Replicas.System.step, protocol]
          split
          · exact h
          · rename_i m rest hmail
            have hrest : Agrees atoms root a ({ s.store with mail := rest }, s.copies) :=
              ⟨h.parties, h.keeps, h.told⟩
            exact agrees_callings hrest _
  | handle i =>
      simp only [Replicas.System.step, protocol]
      split
      · exact h
      · rename_i atom rest hpending
        have hparties := (follows atoms root policy).inv_handle s.store s.copies i atom h.parties
        refine ⟨hparties, ?_, h.told⟩
        cases i with
        | none =>
            dsimp only
            rw [Function.update_self]
            exact keeps_update atoms (h.parties none) h.keeps s.store.display _ _
        | some i =>
            dsimp only
            rw [Function.update_of_ne (Option.some_ne_none _).symm]
            exact h.keeps
  | join v =>
      refine ⟨(follows atoms root policy).inv_join s.store s.copies v h.parties, ?_, h.told⟩
      show Keeps a (Function.update s.copies (some v.1)
        ((protocol atoms root policy).construct s.store v) none)
      rw [Function.update_of_ne (Option.some_ne_none _).symm]
      exact h.keeps

/-- What a new window manager has said. -/
def Announced.start : Announced where
  numberOfDesktops := 0
  currentDesktop := 0
  viewport := fun _ => default

variable (root) in
omit [DecidableEq ι] in
theorem party_manager (manager : ManagerArguments) : Party root (none : Option ι) (manager.object root) where
  role := rfl
  root_eq := rfl
  clean := NETRArray.clean_new
  interest _ := rfl
  interest2 _ := rfl

theorem agrees_opened (display : Display) (manager : ManagerArguments) (interests : ι → Interest) :
    Agrees atoms root Announced.start ((opened atoms root policy display manager interests).store,
      (opened atoms root policy display manager interests).copies) where
  parties
    | none => (party_manager root manager).update display _ _
    | some i => (party_new i (interests i)).update display _ _
  keeps := by
    apply keeps_update atoms (party_manager (ι := ι) root manager)
    exact ⟨rfl, rfl, funext fun i => NETRArray.get_new i⟩
  told _ _ h := nomatch h

theorem kept_opened (display : Display) (manager : ManagerArguments) (interests : ι → Interest) :
    Replicas.Kept (fun _ objects => ∀ j, Party root j (objects j))
      (fun (b : Branch) atom => atom = atoms.atom b.name) (Current atoms)
      (opened atoms root policy display manager interests) where
  inv := (agrees_opened display manager interests).parties
  due j b := by
    right
    cases j with
    | none => exact current_update atoms { display } NETRArray.clean_new b
    | some i => exact current_update atoms { display } NETRArray.clean_new b

section Session

variable (atoms root policy)

/-- A run from the start, with the calls that were made. -/
def session (display : Display) (manager : ManagerArguments) (interests : ι → Interest)
    (es : List (Replicas.Event (Option ι) (RootEvent ι) (ι × Interest))) :
    Replicas.State (Option ι) RootWindow NETRootInfo XcbAtom × List (Option ι × RootCall) :=
  run (protocol atoms root policy).step (opened atoms root policy display manager interests) es

theorem agrees_session (display : Display) (manager : ManagerArguments) (interests : ι → Interest)
    (es : List (Replicas.Event (Option ι) (RootEvent ι) (ι × Interest))) :
    Agrees atoms root
      ((session atoms root policy display manager interests es).2.foldl Announced.note Announced.start)
      ((session atoms root policy display manager interests es).1.store,
        (session atoms root policy display manager interests es).1.copies) := by
  let R := fun (s : Replicas.State (Option ι) RootWindow NETRootInfo XcbAtom) a =>
    Agrees atoms root a (s.store, s.copies)
  have hstep : ∀ s a e, R s a → R ((protocol atoms root policy).step s e).1
      (((protocol atoms root policy).step s e).2.foldl Announced.note a) := fun _ _ e h => agrees_step h e
  exact run_told R Announced.note hstep es (agrees_opened display manager interests)

variable {atoms root policy}

-- What is told is what a party has that has handled its notifications.
theorem seen_of_told {display : Display} {manager : ManagerArguments} {interests : ι → Interest}
    {es : List (Replicas.Event (Option ι) (RootEvent ι) (ι × Interest))} {j : Option ι}
    (hpending : (session atoms root policy display manager interests es).1.pending j = []) {b : Branch}
    (hasked : b.asked ((session atoms root policy display manager interests es).1.copies j) = true)
    {a : Announced} (hagrees : Agrees atoms root a
      ((session atoms root policy display manager interests es).1.store,
        (session atoms root policy display manager interests es).1.copies))
    {v : b.Seen} (htold : a.told b = some v) :
    b.seen ((session atoms root policy display manager interests es).1.copies j) = v := by
  have hcurrent := (follows atoms root policy).run_settled (kept_opened display manager interests) es
    hpending b
  rcases hagrees.told b v htold with ⟨hwork, hname, hread⟩
  have hparty := hagrees.parties j
  exact (hcurrent hwork hname hasked).trans (hread _ hparty.root_eq hparty.clean)

/-- A party that has handled its notifications has what was said last of all that it was constructed for. -/
theorem announced_seen (display : Display) (manager : ManagerArguments) (interests : ι → Interest)
    (es : List (Replicas.Event (Option ι) (RootEvent ι) (ι × Interest))) {j : Option ι}
    (hpending : (session atoms root policy display manager interests es).1.pending j = []) {b : Branch}
    (hasked : b.asked ((session atoms root policy display manager interests es).1.copies j) = true)
    {v : b.Seen}
    (htold : ((session atoms root policy display manager interests es).2.foldl Announced.note
      Announced.start).told b = some v) :
    b.seen ((session atoms root policy display manager interests es).1.copies j) = v :=
  seen_of_told hpending hasked (agrees_session atoms root policy display manager interests es) htold

end Session

end Runs

/-- The window manager of root window 1. -/
def exampleArguments : ManagerArguments := ⟨2, [], 0, 0, 0, 0, 0⟩

/-- What `NETEventFilter` asks for. -/
def exampleInterest : Interest where
  properties := windowsProperties
  properties2 := windowsProperties2

/-- One of two clients comes when there are four desktops already; the other has seen two. -/
def latecomer : List (Replicas.Event (Option Bool) (RootEvent Bool) (Bool × Interest)) :=
  [.change (.call none (.setNumberOfDesktops 2)), .handle (some true),
    .change (.call none (.setNumberOfDesktops 4)), .join (false, exampleInterest),
    .change (.call (some true) (.setNumberOfDesktops 5)), .handle (some true)]

theorem announced_seen_latecomer :
    Branch.seen .numberOfDesktops ((session .inOrder 1 (fun _ _ => []) (fun _ _ => none) exampleArguments
      (fun _ => exampleInterest) latecomer).1.copies (some false)) = (4 : Int32) :=
  announced_seen _ _ _ _ (by decide +kernel) (by decide +kernel) (by rfl)

end NETRootInfo

end KWindowSystem
