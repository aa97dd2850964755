import KWindowSystem.Lib.Notified
import KWindowSystem.NetWM.WinHistory

/-!
# An object whose window changes under it

Others write the properties of a window while its object is called, and the notifications come in late.  The
setters keep what they write before the server has it, and a notification that is handled makes the object
read what is there by then; with all of them handled it has what a new object reads (`cache_settled`), save for the
hints, and for names and icon geometries that were cleared where there were none.
-/

open Machine History Qt

namespace KWindowSystem

open NET

/-- The display with an object of one of its windows. -/
structure Watched where
  display : Display
  info : NETWinInfo

/-- Somebody else sets a property of the window, or a setter of the object is called. -/
inductive WindowChange where
  | foreign (c : Change)
  | call (c : WinCall)

namespace NETWinInfo

section Watched

variable (atoms : Atoms) (scale : Int32 → Int32)

/-- The server notifies of every property that is set and of those that are deleted while they are there, and the
object handles one notification after the other. -/
def watching : Notified.Notifier Watched WindowChange XcbAtom WinSignal where
  change s e := match e with
    | .foreign c =>
        (({ s with display := c.apply s.info.window s.display }, []),
          Outgoing.notices s.display [.property s.info.window c])
    | .call c =>
        let set := c.perform atoms scale s.display s.info
        ((⟨set.2.foldl Outgoing.apply s.display, set.1⟩, []), Outgoing.notices s.display set.2)
  handle s atom :=
    let now := s.info.event atoms s.display (.propertyNotify atom)
    ({ s with info := now.1.1 }, now.1.2)

/-- The property that a call deletes while the object keeps something that is not read without it. -/
def cleared (role : Role) : WinCall → Option KwsAtom
  | .setName name => if role = .client ∧ cString name = [] then some .netWmName else none
  | .setVisibleName name => if role = .windowManager ∧ cString name = [] then some .netWmVisibleName else none
  | .setIconName name => if role = .client ∧ cString name = [] then some .netWmIconName else none
  | .setVisibleIconName name =>
      if role = .windowManager ∧ cString name = [] then some .netWmVisibleIconName else none
  | .setIconGeometry geometry =>
      if role = .client ∧ scale geometry.size.width = 0 then some .netWmIconGeometry else none
  | _ => none

/-- A call clears what a getter returns only where it is there: otherwise there is no notification. -/
def ClearsPresent (g : Getter) (s : Watched) : WindowChange → Prop
  | .foreign _ => True
  | .call c => ∀ name ∈ cleared scale s.info.role c, .kws name ∈ g.source.names →
      (s.display s.info.window (atoms.atom name)).isSome

instance (g : Getter) (s : Watched) : (e : WindowChange) → Decidable (ClearsPresent atoms scale g s e)
  | .foreign _ => isTrue trivial
  | .call _ => inferInstanceAs (Decidable (∀ _ ∈ _, _))

/-- A getter has what a new object would have. -/
def Fresh (display : Display) (p : NETWinInfo) (g : Getter) : Prop :=
  g.get p = stored atoms display (p.window, g)

variable {display : Display} {p : NETWinInfo} {g : Getter}

-- Reading anything leaves what is fresh so.
theorem Fresh.update (hhint : g.hint = none) (h : Fresh atoms display p g) (properties properties2 : Flags) :
    Fresh atoms display (p.update atoms display properties properties2).1 g := by
  have hwindow := (update_sameWindow atoms p display properties properties2).1
  unfold Fresh at h ⊢
  rw [hwindow, get_update]
  split
  · rw [stored_eq]
    apply get_carried
    unfold Getter.carried
    rw [hhint]
  · exact h

theorem Fresh.withMappingState (hhint : g.hint = none) (h : Fresh atoms display p g) :
    Fresh atoms display (withMappingState atoms display p) g := by
  unfold NETWinInfo.withMappingState
  split
  · exact h.update atoms hhint _ _
  · exact h

-- A property that is notified is read.
theorem fresh_notify (hhint : g.hint = none) (hasked : flagged p.properties p.properties2 g.flag = true)
    {atom : XcbAtom} (hatom : atom ∈ g.source.names.map atoms.value) :
    Fresh atoms display (p.event atoms display (.propertyNotify atom)).1.1 g := by
  have hwindow := (update_sameWindow atoms p display
    ((lookupAtom atoms.value notifyChain atom).getD {}).properties
    ((lookupAtom atoms.value notifyChain atom).getD {}).properties2).1
  rcases List.mem_map.mp hatom with ⟨name, hname, rfl⟩
  unfold Fresh
  show g.get (p.update atoms display _ _).1 = stored atoms display ((p.update atoms display _ _).1.window, g)
  rw [hwindow, get_update, if_pos (wanted_of_flagged g (flagged_dirtyFlags (notify_flagged atoms g hname) hasked)),
    stored_eq]
  apply get_carried
  unfold Getter.carried
  rw [hhint]

/-! ## Calls -/

/-- The objects differ at most in what the branch writes. -/
def OnlyWrites (b : Branch) (p q : NETWinInfo) : Prop := ∀ g : Getter, g.source ≠ b → g.get q = g.get p

/-- What a call is not notified of stays in the object as it is read on the display. -/
def Spares (display : Display) (p : NETWinInfo) (set : NETWinInfo × List Outgoing) (g : Getter) : Prop :=
  (∀ atom ∈ Outgoing.notices display set.2, atom ∉ g.source.names.map atoms.value) →
    Fresh atoms display p g → Fresh atoms display set.1 g

theorem spares_nothing (q : NETWinInfo) (outgoing : List Outgoing)
    (h : Fresh atoms display p g → Fresh atoms display q g) :
    Spares atoms display p (q, outgoing) g := fun _ => h

theorem Spares.ofRole {set : NETWinInfo × List Outgoing} {role : Role}
    (h : p.role = role → Spares atoms display p set g) : Spares atoms display p (ofRole p role set) g := by
  unfold NETWinInfo.ofRole
  split
  · exact spares_nothing atoms p [] fun hfresh => hfresh
  · rename_i hrole
    exact h (not_not.mp hrole)

-- A setter that keeps what one branch reads, and is notified of a property of that branch.
theorem spares_of {set : NETWinInfo × List Outgoing} {b : Branch} {name : KwsAtom} (hname : .kws name ∈ b.names)
    (hset : .kws name ∈ g.source.names → atoms.atom name ∈ Outgoing.notices display set.2)
    (honly : OnlyWrites b p set.1) (hwindow : set.1.window = p.window) : Spares atoms display p set g := by
  intro hatoms hfresh
  have hsource : g.source ≠ b := by
    rintro rfl
    exact hatoms _ (hset hname) (List.mem_map_of_mem hname)
  unfold Fresh at hfresh ⊢
  rw [hwindow, honly g hsource, hfresh]

theorem spares_setText {b : Branch} {property : KwsAtom} {type : XcbAtom} {text : QByteArray}
    {kept : CharPtr → NETWinInfo} (hname : .kws property ∈ b.names) (honly : ∀ copy, OnlyWrites b p (kept copy))
    (hwindow : ∀ copy, (kept copy).window = p.window) :
    Spares atoms display p (setText atoms p property type kept text) g :=
  spares_of atoms hname (fun _ => List.mem_cons_self) (honly _) (hwindow _)

theorem mem_notices {window : XcbWindow} {change : Change} (outgoing : List Outgoing)
    (h : change.notifies window display) :
    change.atom ∈ Outgoing.notices display (.property window change :: outgoing) := by
  rw [Outgoing.notices_property, if_pos h]
  exact List.mem_cons_self

-- A deletion without a notification finds nothing to delete.
theorem absent_of_notices {window : XcbWindow} {property : KwsAtom} {outgoing : List Outgoing}
    (hmem : .kws property ∈ g.source.names)
    (hatoms : ∀ atom ∈ Outgoing.notices display (.property window ⟨atoms.atom property, none⟩ :: outgoing),
      atom ∉ g.source.names.map atoms.value) :
    display window (atoms.atom property) = none ∧
      ∀ atom ∈ Outgoing.notices display outgoing, atom ∉ g.source.names.map atoms.value := by
  have hnot : ¬Change.notifies ⟨atoms.atom property, none⟩ window display :=
    fun h => hatoms _ (mem_notices outgoing h) (List.mem_map_of_mem hmem)
  rw [Outgoing.notices_property, if_neg hnot] at hatoms
  exact ⟨Option.not_isSome_iff_eq_none.mp hnot, hatoms⟩

theorem stored_absent {w : XcbWindow} (h : ∀ name ∈ g.source.names, display w (atoms.value name) = none) :
    stored atoms display (w, g) = stored atoms (fun _ _ => none) (w, g) := stored_congr atoms h

-- A setter for the one getter of a branch, which has what is read when it is not notified.
theorem spares_of_sole {set : NETWinInfo × List Outgoing} {b : Branch} {k : Getter} (hsole : b.sole = some k)
    (honly : OnlyWrites b p set.1) (hwindow : set.1.window = p.window)
    (hkept : (∀ atom ∈ Outgoing.notices display set.2, atom ∉ k.source.names.map atoms.value) →
      Fresh atoms display set.1 k) : Spares atoms display p set g := by
  intro hatoms hfresh
  by_cases hsource : g.source = b
  · have hg : g = k := eq_of_sole hsole hsource
    subst hg
    exact hkept hatoms
  · unfold Fresh at hfresh ⊢
    rw [hwindow, honly g hsource, hfresh]

theorem spares_setNameText {b : Branch} {property : KwsAtom} {text : QByteArray}
    {kept : CharPtr → NETWinInfo} (hname : .kws property ∈ b.names) (honly : ∀ copy, OnlyWrites b p (kept copy))
    (hwindow : ∀ copy, (kept copy).window = p.window)
    (hfound : cString text = [] → .kws property ∈ g.source.names →
      (display p.window (atoms.atom property)).isSome) :
    Spares atoms display p (setNameText atoms p property kept text) g := by
  refine spares_of atoms hname (fun hmem => ?_) (honly _) (hwindow _)
  unfold setNameText
  dsimp only
  split
  · exact List.mem_cons_self
  · rename_i hempty
    exact mem_notices [] (hfound (not_not.mp hempty) hmem)

-- Without the two properties the object keeps what is read without them.
theorem spares_setBlockingCompositing (active : Bool) :
    Spares atoms display p (p.setBlockingCompositing atoms active) g := by
  apply Spares.ofRole
  intro _
  have honly : OnlyWrites .blockCompositing p { p with blockCompositing := active } :=
    fun g hg => by cases g <;> first | rfl | exact absurd rfl hg
  cases active with
  | true => exact spares_of atoms (b := .blockCompositing) List.mem_cons_self (fun _ => List.mem_cons_self) honly rfl
  | false =>
      refine spares_of_sole atoms (k := .isBlockingCompositing) rfl honly rfl fun hatoms => ?_
      obtain ⟨hfirst, hrest⟩ := absent_of_notices atoms List.mem_cons_self hatoms
      obtain ⟨hsecond, -⟩ := absent_of_notices atoms (List.mem_cons_of_mem _ List.mem_cons_self) hrest
      have habsent : ∀ name ∈ Getter.isBlockingCompositing.source.names,
          display p.window (atoms.value name) = none :=
        List.forall_mem_cons.mpr ⟨hfirst, List.forall_mem_singleton.mpr hsecond⟩
      show false = stored atoms display (p.window, .isBlockingCompositing)
      rw [stored_absent atoms habsent, stored_eq]
      rfl

theorem spares_setState (state flags : Flags) (hhint : g.hint = none) :
    Spares atoms display p ((WinCall.setState state flags).perform atoms scale display p) g := by
  intro hatoms hfresh
  have hmapped := hfresh.withMappingState atoms hhint
  -- The flag that is set for the reading alone is nothing that a getter returns.
  have hread : Fresh atoms display (readState atoms display p) g := by
    rw [readState_eq]
    generalize withMappingState atoms display p = q at hmapped
    have hproperties : ∀ (q : NETWinInfo) (properties : Flags), g.get { q with properties } = g.get q := by
      intro q properties
      cases g <;> rfl
    unfold withState
    split
    · exact hmapped
    · have hasked : Fresh atoms display { q with properties := q.properties ||| mask Property.wmState } g :=
        (hproperties q _).trans hmapped
      exact (hproperties _ _).trans (hasked.update atoms hhint _ _)
  rcases setState_cases atoms p display state flags with ⟨-, hset⟩ | hset
  · show Fresh atoms display (p.setState atoms display state flags).1 g
    rw [hset]
    exact hread
  · show Fresh atoms display (p.setState atoms display state flags).1 g
    replace hatoms : atoms.atom .netWmState ∉ g.source.names.map atoms.value := by
      apply hatoms
      unfold WinCall.perform
      dsimp only
      rw [hset]
      exact List.mem_cons_self
    rw [hset]
    have hsource : g.source ≠ .wmState := by
      intro hsource
      rw [hsource] at hatoms
      exact hatoms List.mem_cons_self
    unfold Fresh at hread ⊢
    rw [← show g.get (readState atoms display p) = g.get _ from ?_]
    · exact hread
    · cases g <;> first | rfl | exact absurd rfl hsource

theorem spares_setDesktop (desktop : Int32) (hhint : g.hint = none) :
    Spares atoms display p ((WinCall.setDesktop desktop).perform atoms scale display p) g := by
  intro hatoms hfresh
  have hmapped := hfresh.withMappingState atoms hhint
  unfold WinCall.perform at hatoms ⊢
  dsimp only at hatoms ⊢
  unfold NETWinInfo.setDesktop at hatoms ⊢
  dsimp only at hatoms ⊢
  generalize withMappingState atoms display p = q at hmapped hatoms
  by_cases hmanaged : q.role = .client ∧ q.mappingState ≠ .withdrawn
  · rw [if_pos hmanaged]
    by_cases hzero : desktop = 0
    · rw [if_pos hzero]
      exact hmapped
    · rw [if_neg hzero, if_neg (by simp)]
      exact hmapped
  · rw [if_neg hmanaged] at hatoms ⊢
    refine spares_of_sole atoms (p := q) (b := .wmDesktop) (k := .desktop) rfl
      (fun g hg => by cases g <;> first | rfl | exact absurd rfl hg) rfl (fun hunnoticed => ?_) hatoms hmapped
    by_cases hzero : desktop = 0
    · rw [if_pos hzero] at hunnoticed
      have habsent : ∀ name ∈ Getter.desktop.source.names, display q.window (atoms.value name) = none :=
        List.forall_mem_singleton.mpr (absent_of_notices atoms List.mem_cons_self hunnoticed).1
      show desktop = stored atoms display (q.window, .desktop)
      rw [stored_absent atoms habsent, stored_eq, hzero]
      rfl
    · rw [if_neg hzero] at hunnoticed
      exact absurd List.mem_cons_self (hunnoticed _ List.mem_cons_self)

-- No call changes what it is not notified of, if what it clears is there.
theorem spares_perform (call : WinCall) (hhint : g.hint = none)
    (hclears : ∀ name ∈ cleared scale p.role call, .kws name ∈ g.source.names →
      (display p.window (atoms.atom name)).isSome) :
    Spares atoms display p (call.perform atoms scale display p) g := by
  cases call with
  | setState state flags => exact spares_setState atoms scale state flags hhint
  | setDesktop desktop => exact spares_setDesktop atoms scale desktop hhint
  | setIcon icon replace =>
      show Spares atoms display p (p.ofChange (p.setIcon atoms icon replace)) g
      unfold NETWinInfo.setIcon setIconInternal
      rw [ofChange_eq]
      apply Spares.ofRole
      intro hrole
      exact spares_of atoms (b := .wmIcon) List.mem_cons_self (fun _ => List.mem_cons_self)
        (fun g hg => by cases g <;> first | rfl | exact absurd rfl hg) rfl
  | setExtendedStrut strut =>
      show Spares atoms display p (p.ofChange (p.setExtendedStrut atoms strut)) g
      unfold NETWinInfo.setExtendedStrut
      rw [ofChange_eq]
      apply Spares.ofRole
      intro hrole
      exact spares_of atoms (b := .extendedStrut) List.mem_cons_self (fun _ => List.mem_cons_self)
        (fun g hg => by cases g <;> first | rfl | exact absurd rfl hg) rfl
  | setStrut strut =>
      show Spares atoms display p (p.ofChange (p.setStrut atoms strut)) g
      unfold NETWinInfo.setStrut
      rw [ofChange_eq]
      apply Spares.ofRole
      intro hrole
      exact spares_of atoms (b := .wmStrut) List.mem_cons_self (fun _ => List.mem_cons_self)
        (fun g hg => by cases g <;> first | rfl | exact absurd rfl hg) rfl
  | setFullscreenMonitors topology =>
      show Spares atoms display p (p.setFullscreenMonitors atoms topology) g
      unfold NETWinInfo.setFullscreenMonitors
      dsimp only
      split
      · exact spares_nothing atoms p _ fun hfresh => hfresh
      · exact spares_of atoms (b := .fullscreenMonitors) List.mem_cons_self (fun _ => List.mem_cons_self)
          (fun g hg => by cases g <;> first | rfl | exact absurd rfl hg) rfl
  | setWindowType type =>
      apply Spares.ofRole
      intro hrole
      exact spares_nothing atoms p _ fun hfresh => hfresh
  | setHandledIcons handled =>
      apply Spares.ofRole
      intro hrole
      apply spares_nothing
      intro hfresh
      exact Eq.trans (by cases g <;> rfl) hfresh
  | setPid pid =>
      apply Spares.ofRole
      intro hrole
      exact spares_of atoms (b := .wmPid) List.mem_cons_self (fun _ => List.mem_cons_self)
        (fun g hg => by cases g <;> first | rfl | exact absurd rfl hg) rfl
  | setUserTime time =>
      apply Spares.ofRole
      intro hrole
      exact spares_of atoms (b := .userTime) List.mem_cons_self (fun _ => List.mem_cons_self)
        (fun g hg => by cases g <;> first | rfl | exact absurd rfl hg) rfl
  | setAllowedActions actions =>
      apply Spares.ofRole
      intro hrole
      exact spares_of atoms (b := .allowedActions) List.mem_cons_self (fun _ => List.mem_cons_self)
        (fun g hg => by cases g <;> first | rfl | exact absurd rfl hg) rfl
  | setFrameExtents strut =>
      apply Spares.ofRole
      intro hrole
      exact spares_of atoms (b := .wmFrameExtents) List.mem_cons_self (fun _ => List.mem_cons_self)
        (fun g hg => by cases g <;> first | rfl | exact absurd rfl hg) rfl
  | setIconGeometry geometry =>
      apply Spares.ofRole
      intro hrole
      refine spares_of atoms (b := .wmIconGeometry) List.mem_cons_self (fun hmem => ?_)
        (fun g hg => by cases g <;> first | rfl | exact absurd rfl hg) rfl
      dsimp only
      split
      · rename_i hwidth
        exact mem_notices [] (hclears _ (if_pos ⟨hrole, hwidth⟩) hmem)
      · exact List.mem_cons_self
  | setBlockingCompositing active => exact spares_setBlockingCompositing atoms active
  | setOpacity opacity =>
      exact spares_of atoms (b := .opacity) List.mem_cons_self (fun _ => List.mem_cons_self)
        (fun g hg => by cases g <;> first | rfl | exact absurd rfl hg) rfl
  | setFrameOverlap strut =>
      exact spares_of atoms (b := .frameOverlap) List.mem_cons_self (fun _ => List.mem_cons_self)
        (fun g hg => by cases g <;> first | rfl | exact absurd rfl hg) rfl
  | setGtkFrameExtents strut =>
      exact spares_of atoms (b := .gtkFrameExtents) List.mem_cons_self (fun _ => List.mem_cons_self)
        (fun g hg => by cases g <;> first | rfl | exact absurd rfl hg) rfl
  | setActivities activities =>
      exact spares_setText atoms (b := .activities) List.mem_cons_self
        (fun _ g hg => by cases g <;> first | rfl | exact absurd rfl hg) fun _ => rfl
  | setName text =>
      apply Spares.ofRole
      intro hrole
      exact spares_setNameText atoms (b := .wmName) List.mem_cons_self
        (fun _ g hg => by cases g <;> first | rfl | exact absurd rfl hg) (fun _ => rfl)
        fun hempty hmem => hclears _ (if_pos ⟨hrole, hempty⟩) hmem
  | setVisibleName text =>
      apply Spares.ofRole
      intro hrole
      exact spares_setNameText atoms (b := .wmVisibleName) List.mem_cons_self
        (fun _ g hg => by cases g <;> first | rfl | exact absurd rfl hg) (fun _ => rfl)
        fun hempty hmem => hclears _ (if_pos ⟨hrole, hempty⟩) hmem
  | setIconName text =>
      apply Spares.ofRole
      intro hrole
      exact spares_setNameText atoms (b := .wmIconName) List.mem_cons_self
        (fun _ g hg => by cases g <;> first | rfl | exact absurd rfl hg) (fun _ => rfl)
        fun hempty hmem => hclears _ (if_pos ⟨hrole, hempty⟩) hmem
  | setVisibleIconName text =>
      apply Spares.ofRole
      intro hrole
      exact spares_setNameText atoms (b := .wmVisibleIconName) List.mem_cons_self
        (fun _ g hg => by cases g <;> first | rfl | exact absurd rfl hg) (fun _ => rfl)
        fun hempty hmem => hclears _ (if_pos ⟨hrole, hempty⟩) hmem
  | setStartupId text =>
      apply Spares.ofRole
      intro hrole
      exact spares_setText atoms (b := .startupId) List.mem_cons_self
        (fun _ g hg => by cases g <;> first | rfl | exact absurd rfl hg) fun _ => rfl
  | setAppMenuObjectPath text =>
      apply Spares.ofRole
      intro hrole
      exact spares_setText atoms (b := .appMenuObjectPath) List.mem_cons_self
        (fun _ g hg => by cases g <;> first | rfl | exact absurd rfl hg) fun _ => rfl
  | setAppMenuServiceName text =>
      apply Spares.ofRole
      intro hrole
      exact spares_setText atoms (b := .appMenuServiceName) List.mem_cons_self
        (fun _ g hg => by cases g <;> first | rfl | exact absurd rfl hg) fun _ => rfl
  | setDesktopFileName text =>
      apply Spares.ofRole
      intro hrole
      exact spares_setText atoms (b := .desktopFileName) List.mem_cons_self
        (fun _ g hg => by cases g <;> first | rfl | exact absurd rfl hg) fun _ => rfl

/-! ## The invariant -/

theorem stored_foldl {outgoing : List Outgoing} {window : XcbWindow}
    (h : ∀ atom ∈ Outgoing.notices display outgoing, atom ∉ g.source.names.map atoms.value) :
    stored atoms (outgoing.foldl Outgoing.apply display) (window, g) = stored atoms display (window, g) := by
  induction outgoing generalizing display with
  | nil => rfl
  | cons o outgoing ih =>
      cases o with
      | message m => exact ih h
      | mapped w desktop => exact ih h
      | property w change =>
          rw [Outgoing.notices_property] at h
          show stored atoms (outgoing.foldl Outgoing.apply (change.apply w display)) (window, g) = _
          split at h
          · rw [List.forall_mem_cons] at h
            refine (ih h.2).trans (stored_congr atoms fun name hname => ?_)
            have hne : atoms.value name ≠ change.atom := fun heq => h.1 (heq ▸ List.mem_map_of_mem hname)
            unfold Change.apply
            split
            · rw [Function.update_of_ne hne]
            · rfl
          · rename_i hnot
            rw [Change.apply_of_not_notifies hnot]
            exact ih h

section Settled

variable (root : XcbWindow) (properties properties2 : Flags) (role : Role) (window : XcbWindow)

/-- What is asked for, hints aside, and the names of its properties. -/
abbrev Asked := { g : Getter // g.hint = none ∧ flagged properties properties2 g.flag = true }

theorem tracks_watching :
    Notified.Tracks (watching atoms scale)
      (fun s => SameWindow (unread root properties properties2 role window) s.info)
      (fun (g : Asked properties properties2) atom => atom ∈ g.1.source.names.map atoms.value)
      (fun g s => Fresh atoms s.display s.info g.1) (fun g s e => ClearsPresent atoms scale g.1 s e) where
  inv_change s e hs := by
    cases e with
    | foreign c => exact hs
    | call c => exact hs.trans (perform_sameWindow atoms scale s.display s.info c)
  current_change s e g hs hclears hnames hfresh := by
    cases e with
    | foreign c => exact Eq.trans hfresh (stored_foldl atoms hnames).symm
    | call c =>
        have hcall := spares_perform atoms scale c g.2.1 hclears hnames hfresh
        exact Eq.trans hcall (stored_foldl atoms hnames).symm
  inv_handle s atom hs := hs.trans (update_sameWindow atoms s.info s.display _ _)
  current_handle s atom g hs h := by
    by_cases hatom : atom ∈ g.1.source.names.map atoms.value
    · have hasked : flagged s.info.properties s.info.properties2 g.1.flag = true := by
        rw [hs.2.1, hs.2.2.1]
        exact g.2.2
      exact fresh_notify atoms g.2.1 hasked hatom
    · exact (h.resolve_left hatom).update atoms g.2.1 _ _

/-- However setters, the writes of others and the notifications of both are ordered, with all notifications
handled the object returns for all that it was asked for, hints aside, what a new object does, if no call has
cleared the name or the icon geometry in question where there was none. -/
theorem cache_settled (display : Display) (waiting : List XcbAtom) (es : List (Notified.Event WindowChange))
    (g : Getter) (hasked : flagged properties properties2 g.flag = true) (hhint : g.hint = none)
    (hclears : Along (watching atoms scale).step (Notified.Changes (ClearsPresent atoms scale g))
      ⟨⟨display, new atoms display window root properties properties2 role⟩, waiting⟩ es)
    (hpending : (run (watching atoms scale).step
      ⟨⟨display, new atoms display window root properties properties2 role⟩, waiting⟩ es).1.pending = []) :
    let s := (run (watching atoms scale).step
      ⟨⟨display, new atoms display window root properties properties2 role⟩, waiting⟩ es).1.state
    g.get s.info = g.get (new atoms s.display window root properties properties2 role) := by
  dsimp only
  have hnew : SameWindow (unread root properties properties2 role window)
      (new atoms display window root properties properties2 role) := new_sameWindow atoms window display
  have hfresh : Fresh atoms display (new atoms display window root properties properties2 role) g := by
    unfold Fresh
    rw [hnew.1]
    exact get_new_stored atoms g hasked display window
  have htracks := tracks_watching atoms scale root properties properties2 role window
  obtain ⟨hsame, hsettled⟩ := htracks.run_settled (t := ⟨g, hhint, hasked⟩) ⟨hnew, .inr hfresh⟩ hclears hpending
  unfold Fresh at hsettled
  rw [hsettled, hsame.1]
  exact (get_new_stored atoms g hasked _ window).symm

end Settled

/-- A client sets a name, and somebody else another one before the client is notified of its own; then the client
clears the name. -/
def nameRace : List (Notified.Event WindowChange) :=
  [.change (.call (.setName [97])),
    .change (.foreign ⟨Atoms.inOrder.atom .netWmName, some ⟨Atoms.inOrder.atom .utf8String, .data8 [98]⟩⟩),
    .handle, .handle, .change (.call (.setName [])), .handle]

theorem settled_nameRace :
    let s := (run (watching .inOrder id).step
      ⟨⟨fun _ _ => none, new .inOrder (fun _ _ => none) 7 0 (mask Property.wmName) 0 .client⟩, []⟩ nameRace).1.state
    Getter.name.get s.info = Getter.name.get (new .inOrder s.display 7 0 (mask Property.wmName) 0 .client) :=
  cache_settled .inOrder id 0 _ 0 .client 7 _ [] nameRace .name (by decide) rfl (by decide +kernel)
    (by decide +kernel)

-- A name cleared where there is none stays the empty text, which a new object never has.
example :
    let s := (run (watching .inOrder id).step
      ⟨⟨fun _ _ => none, new .inOrder (fun _ _ => none) 7 0 (mask Property.wmName) 0 .client⟩, []⟩
      [.change (.call (.setName []))]).1
    s.pending = [] ∧ s.state.info.name = some [] ∧
      (new .inOrder s.state.display 7 0 (mask Property.wmName) 0 .client).name = none := by
  decide +kernel

end Watched

end NETWinInfo

end KWindowSystem
