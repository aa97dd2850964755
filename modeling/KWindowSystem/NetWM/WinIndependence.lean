import KWindowSystem.NetWM.WinCache

/-!
# What a notification touches

A notification about a window property marks, re-reads and changes what is stored in that property and
nothing else, unless the property is `WM_HINTS` or `_NET_WM_OPAQUE_REGION`: these two share a flag, since
`WM2IconPixmap` and `WM2OpaqueRegion` are one bit.
-/

open Machine

namespace KWindowSystem

open NET

namespace NETWinInfo

/-- The window properties that hold what a flag stands for.  The flags of the root window, of messages and
of the geometry stand for none. -/
def storedIn : Property ⊕ Property2 → List AtomName
  | .inl .xawmState => [.kws .wmState]
  | .inl .wmState => [.kws .netWmState]
  | .inl .wmDesktop => [.kws .netWmDesktop]
  | .inl .wmName => [.kws .netWmName]
  | .inl .wmVisibleName => [.kws .netWmVisibleName]
  | .inl .wmIconName => [.kws .netWmIconName]
  | .inl .wmVisibleIconName => [.kws .netWmVisibleIconName]
  | .inl .wmWindowType => [.kws .netWmWindowType]
  | .inl .wmStrut => [.kws .netWmStrut]
  | .inl .wmIconGeometry => [.kws .netWmIconGeometry]
  | .inl .wmIcon => [.kws .netWmIcon]
  | .inl .wmPid => [.kws .netWmPid]
  | .inl .wmHandledIcons => [.kws .netWmHandledIcons]
  | .inl .wmFrameExtents => [.kws .netFrameExtents, .kws .kdeNetWmFrameStrut]
  | .inr .userTime => [.kws .netWmUserTime]
  | .inr .startupId => [.kws .netStartupId]
  | .inr .opacity => [.kws .netWmWindowOpacity]
  | .inr .allowedActions => [.kws .netWmAllowedActions]
  | .inr .extendedStrut => [.kws .netWmStrutPartial]
  | .inr .fullscreenMonitors => [.kws .netWmFullscreenMonitors]
  | .inr .frameOverlap => [.kws .netWmFrameOverlap]
  | .inr .activities => [.kws .kdeNetWmActivities]
  | .inr .blockCompositing => [.kws .kdeNetWmBlockCompositing, .kws .netWmBypassCompositor]
  | .inr .kdeShadow => [.kws .kdeNetWmShadow]
  | .inr .transientFor => [.predefined .wmTransientFor]
  | .inr .groupLeader | .inr .urgency | .inr .input | .inr .initialMappingState
  | .inr .iconPixmap => [.predefined .wmHints]
  | .inr .windowClass => [.predefined .wmClass]
  | .inr .windowRole => [.kws .wmWindowRole]
  | .inr .clientMachine => [.predefined .wmClientMachine]
  | .inr .protocols => [.kws .wmProtocols]
  | .inr .opaqueRegion => [.kws .netWmOpaqueRegion]
  | .inr .desktopFileName => [.kws .kdeNetWmDesktopFile]
  | .inr .gtkApplicationId => [.kws .gtkApplicationId]
  | .inr .gtkFrameExtents => [.kws .gtkFrameExtents]
  | .inr .gtkShowWindowMenu => [.kws .gtkShowWindowMenu]
  | .inr .appMenuServiceName => [.kws .kdeNetWmAppmenuServiceName]
  | .inr .appMenuObjectPath => [.kws .kdeNetWmAppmenuObjectPath]
  | _ => []

section Notify

variable (atoms : Atoms) (display : Display) (p : NETWinInfo) (atom : XcbAtom)

/-- The flags that `event` reports for the notification of an atom. -/
def reported : Dirty := (lookupAtom atoms.value notifyChain atom).getD {}

/-- The branches of `update` that run after it. -/
def Rereads (b : Branch) : Prop :=
  b.wanted (dirtyFlags (reported atoms atom).properties p.properties)
    ((reported atoms atom).properties2 &&& p.properties2) = true

/-- The object once it has handled the notification. -/
def notify : NETWinInfo := (p.event atoms display (.propertyNotify atom)).1.1

/-- The notification marks, re-reads and changes nothing that is stored in another property. -/
structure Independent : Prop where
  marks : ∀ f, flagged (reported atoms atom).properties (reported atoms atom).properties2 f = true →
    atom ∈ (storedIn f).map atoms.value
  rereads : ∀ b, p.Rereads atoms atom b → atom ∈ b.names.map atoms.value
  /-- The object is left as it is, or goes through the one block that reads the property. -/
  changes : p.notify atoms display atom = p ∨
    ∃ b : Branch, atom ∈ b.names.map atoms.value ∧
      p.notify atoms display atom =
        (b.read atoms ((b.requests atoms p.window).map display.answer) p).1
  keeps : ∀ g : Getter, atom ∉ g.source.names.map atoms.value →
    g.get (p.notify atoms display atom) = g.get p

/-- `WM_HINTS` and `_NET_WM_OPAQUE_REGION`. -/
def SharesFlag : Prop := atom = .wmHints ∨ atom = atoms.atom .netWmOpaqueRegion

end Notify

section Chain

variable {atoms : Atoms} {atom : XcbAtom}

-- Of the entries of the chain only those of the two properties mark what is stored elsewhere.
theorem chain_marks {e : AtomName × Dirty} (he : e ∈ notifyChain) (f : Property ⊕ Property2)
    (hf : flagged e.2.properties e.2.properties2 f = true) :
    e.1 ∈ storedIn f ∨ e.1 = .predefined .wmHints ∨ e.1 = .kws .netWmOpaqueRegion := by
  revert e
  rcases f with f | f <;> cases f <;> decide

-- A branch that an entry makes wanted reads the property of the entry, or the two share the flag.
theorem chain_wanted {e : AtomName × Dirty} (he : e ∈ notifyChain) (b : Branch)
    (hb : b.wanted e.2.properties e.2.properties2 = true) :
    e.1 ∈ b.names ∨ e.1 = .predefined .wmHints ∧ b = .opaqueRegion ∨
      e.1 = .kws .netWmOpaqueRegion ∧ b = .hints := by
  revert e
  cases b <;> decide

-- What is wanted of the properties asked for is wanted of the reported ones.
theorem wanted_of_dirtyFlags {b : Branch} {dirty dirty2 properties properties2 : Flags}
    (h : b.wanted (dirtyFlags dirty properties) (dirty2 &&& properties2) = true) :
    b.wanted dirty dirty2 = true := by
  have hdirty : ∀ f : Property, (dirtyFlags dirty properties).has f = true → dirty.has f = true := by
    intro f hf
    unfold dirtyFlags at hf
    dsimp only at hf
    split at hf
    · rename_i hstate
      rw [Flags.has_or, Flags.has_and, Bool.or_eq_true, Bool.and_eq_true] at hf
      rcases hf with hf | hf
      · exact hf.1
      · have hxawm : ∀ f : Property, (mask Property.xawmState).has f = true → f = .xawmState := by
          intro f
          cases f <;> decide
        rw [hxawm f hf]
        exact hstate
    · rw [Flags.has_and, Bool.and_eq_true] at hf
      exact hf.1
  have hdirty2 : ∀ f : Property2, (dirty2 &&& properties2).has f = true → dirty2.has f = true := by
    intro f hf
    rw [Flags.has_and, Bool.and_eq_true] at hf
    exact hf.1
  cases b with
  | hints =>
      simp only [Branch.wanted, hasHints, Bool.or_eq_true] at h ⊢
      rcases h with (((h | h) | h) | h) | h <;> simp [hdirty2 _ h]
  | _ => first | exact hdirty _ h | exact hdirty2 _ h

theorem reported_cases (atoms : Atoms) (atom : XcbAtom) :
    reported atoms atom = {} ∨
      ∃ e ∈ notifyChain, atom = atoms.value e.1 ∧ reported atoms atom = e.2 := by
  unfold reported
  cases hlookup : lookupAtom atoms.value notifyChain atom with
  | none => exact Or.inl rfl
  | some dirty =>
      rcases mem_of_lookupAtom hlookup with ⟨name, hmem, hatom⟩
      exact Or.inr ⟨(name, dirty), hmem, hatom, rfl⟩

end Chain

section Independence

variable {atoms : Atoms} {display : Display} {p : NETWinInfo} {atom : XcbAtom}

-- Nothing stored elsewhere is marked, unless the property shares its flag.
theorem marks_of_not_sharesFlag (h : ¬SharesFlag atoms atom) (f : Property ⊕ Property2)
    (hf : flagged (reported atoms atom).properties (reported atoms atom).properties2 f = true) :
    atom ∈ (storedIn f).map atoms.value := by
  rcases reported_cases atoms atom with hnone | ⟨e, he, hatom, hsome⟩
  · rw [hnone] at hf
    cases f <;> exact absurd ((Flags.has_zero _).symm.trans hf) Bool.false_ne_true
  · rw [hsome] at hf
    rcases chain_marks he f hf with hmem | hhints | hregion
    · rw [hatom]
      exact List.mem_map_of_mem hmem
    · exact absurd (Or.inl (hatom.trans (congrArg atoms.value hhints))) h
    · exact absurd (Or.inr (hatom.trans (congrArg atoms.value hregion))) h

theorem wmHints_ne (atoms : Atoms) : XcbAtom.wmHints ≠ atoms.atom .netWmOpaqueRegion := by
  intro h
  have hnames : atoms.value (.predefined .wmHints) = atoms.value (.kws .netWmOpaqueRegion) := h
  exact nomatch atoms.value_injective hnames

theorem reported_value (name : AtomName) :
    reported atoms (atoms.value name) =
      ((notifyChain.find? fun e => name = e.1).map (·.2)).getD {} := by
  unfold reported
  rw [lookupAtom_value atoms.value_injective]

-- What is stored elsewhere is read again exactly if the property shares its flag and the flag is asked
-- for.
theorem rereads_iff :
    (∀ b, p.Rereads atoms atom b → atom ∈ b.names.map atoms.value) ↔
      ¬(SharesFlag atoms atom ∧ p.properties2.has Property2.opaqueRegion = true) := by
  apply Iff.intro
  · intro h hshares
    rcases hshares with ⟨hhints | hregion, hasked⟩
    · -- The hints have the opaque region read again.
      rw [hhints] at h
      have hrereads : p.Rereads atoms (atoms.value (.predefined .wmHints)) .opaqueRegion := by
        show (_ &&& p.properties2).has Property2.opaqueRegion = true
        rw [reported_value, Flags.has_and, hasked]
        decide
      exact wmHints_ne atoms (List.mem_singleton.mp (h .opaqueRegion hrereads))
    · rw [hregion] at h
      have hrereads : p.Rereads atoms (atoms.value (.kws .netWmOpaqueRegion)) .hints := by
        have hicon : p.properties2.has Property2.iconPixmap = true := hasked
        show hasHints (_ &&& p.properties2) = true
        unfold hasHints
        rw [reported_value, Flags.has_and _ _ Property2.iconPixmap, hicon]
        simp only [Bool.and_true, Bool.or_eq_true]
        apply Or.inr
        decide
      exact wmHints_ne atoms (List.mem_singleton.mp (h .hints hrereads)).symm
  · intro h b hb
    have hwanted := wanted_of_dirtyFlags hb
    rcases reported_cases atoms atom with hnone | ⟨e, he, hatom, hsome⟩
    · rw [hnone] at hwanted
      have hnothing : b.wanted 0 0 = false := by cases b <;> decide
      exact absurd (hnothing.symm.trans hwanted) Bool.false_ne_true
    · rw [hsome] at hwanted
      rcases chain_wanted he b hwanted with hmem | ⟨hhints, hregion⟩ | ⟨hregion, hhints⟩
      · rw [hatom]
        exact List.mem_map_of_mem hmem
      · exfalso
        apply h
        apply And.intro (Or.inl (hatom.trans (congrArg atoms.value hhints)))
        rw [hregion] at hb
        have hflag : (_ &&& p.properties2).has Property2.opaqueRegion = true := hb
        rw [Flags.has_and, Bool.and_eq_true] at hflag
        exact hflag.2
      · exfalso
        apply h
        apply And.intro (Or.inr (hatom.trans (congrArg atoms.value hregion)))
        have hdirty : ∀ e ∈ notifyChain, e.1 = .kws .netWmOpaqueRegion →
            e.2.properties2 = mask Property2.opaqueRegion := by decide
        rw [hhints] at hb
        have hflag : hasHints ((reported atoms atom).properties2 &&& p.properties2) = true := hb
        rw [hsome, hdirty e he hregion] at hflag
        -- Of the five flags of the hints it can only be the shared one.
        have hbits : ∀ f : Property2, (mask Property2.opaqueRegion).has f = true →
            f = .opaqueRegion ∨ f = .iconPixmap := by
          intro f
          cases f <;> decide
        unfold hasHints at hflag
        simp only [Flags.has_and, Bool.or_eq_true, Bool.and_eq_true] at hflag
        rcases hflag with (((hf | hf) | hf) | hf) | hf
        · exact absurd (hbits _ hf.1) (by decide)
        · exact absurd (hbits _ hf.1) (by decide)
        · exact absurd (hbits _ hf.1) (by decide)
        · exact absurd (hbits _ hf.1) (by decide)
        · exact hf.2

-- An atom stands in the requests of one branch at most.
theorem branch_unique {b c : Branch} (hb : atom ∈ b.names.map atoms.value)
    (hc : atom ∈ c.names.map atoms.value) : b = c := by
  rcases List.mem_map.mp hb with ⟨name, hname, hvalue⟩
  rcases List.mem_map.mp hc with ⟨name', hname', hvalue'⟩
  rw [atoms.value_injective (hvalue'.trans hvalue.symm)] at hname'
  have hall : ∀ b' ∈ readOrder, ∀ c' ∈ readOrder, ∀ n ∈ b'.names, n ∈ c'.names → b' = c' := by
    decide +kernel
  have hmem : ∀ b' : Branch, b' ∈ readOrder := by
    intro b'
    cases b' <;> decide
  exact hall b (hmem b) c (hmem c) name hname hname'

-- If only what the property stores is read again, then only that changes.
theorem changes_of_rereads (display : Display)
    (h : ∀ b, p.Rereads atoms atom b → atom ∈ b.names.map atoms.value) :
    (p.notify atoms display atom = p ∨
      ∃ b : Branch, atom ∈ b.names.map atoms.value ∧
        p.notify atoms display atom =
          (b.read atoms ((b.requests atoms p.window).map display.answer) p).1) ∧
      ∀ g : Getter, atom ∉ g.source.names.map atoms.value →
        g.get (p.notify atoms display atom) = g.get p := by
  have hnotify : p.notify atoms display atom = (p.update atoms display (reported atoms atom).properties
    (reported atoms atom).properties2).1 := rfl
  apply And.intro
  · rw [hnotify, update_eq_run]
    by_cases hsome : ∃ b, p.Rereads atoms atom b
    · rcases hsome with ⟨b, hb⟩
      have hrun := Batch.Reader.run_of_atMostOne (reader atoms (dirtyFlags (reported atoms atom).properties
          p.properties) ((reported atoms atom).properties2 &&& p.properties2))
        (Branch.requests atoms p.window) display.answer (by decide : readOrder.Nodup)
        (fun c _ hc => branch_unique (h c hc) (h b hb)) p
      apply hrun.imp_right
      intro hread
      exact ⟨b, h b hb, hread⟩
    · apply Or.inl
      rw [Batch.Reader.run_of_unwanted]
      intro b _
      exact Bool.eq_false_iff.mpr fun hb => hsome ⟨b, hb⟩
  · intro g hg
    rw [hnotify, get_update, if_neg]
    intro hwanted
    exact hg (h g.source hwanted)

/-- A notification touches nothing that is stored in another property exactly if its own does not share a
flag, whatever the object is and has been asked for, and whatever the window's properties are. -/
theorem independent_iff : p.Independent atoms display atom ↔ ¬SharesFlag atoms atom := by
  apply Iff.intro
  · intro h hshares
    rcases hshares with hhints | hregion
    · have hmem := h.marks (.inr .opaqueRegion) (by
        rw [hhints, show (XcbAtom.wmHints : XcbAtom) = atoms.value (.predefined .wmHints) from rfl,
          reported_value]
        decide)
      rw [hhints] at hmem
      exact wmHints_ne atoms (List.mem_singleton.mp hmem)
    · have hmem := h.marks (.inr .iconPixmap) (by
        rw [hregion, show atoms.atom .netWmOpaqueRegion = atoms.value (.kws .netWmOpaqueRegion) from rfl,
          reported_value]
        decide)
      rw [hregion] at hmem
      exact wmHints_ne atoms (List.mem_singleton.mp hmem).symm
  · intro h
    have hrereads : ∀ b, p.Rereads atoms atom b → atom ∈ b.names.map atoms.value :=
      rereads_iff.mpr fun hboth => h hboth.1
    have hchanges := changes_of_rereads display hrereads
    exact ⟨marks_of_not_sharesFlag h, hrereads, hchanges.1, hchanges.2⟩

/-- A window with an opaque region. -/
def opaqueWindow : Display := fun w atom =>
  if w = 1 ∧ atom = Atoms.inOrder.atom .netWmOpaqueRegion then
    some ⟨.cardinal, .data32 [0, 0, 10, 10]⟩
  else none

/-- An object that was constructed before it had one hears of the hints, and reads the region. -/
theorem hints_touch_opaqueRegion :
    let p : NETWinInfo :=
      { role := .client, window := 1, root := 2, properties := 0,
        properties2 := mask Property2.opaqueRegion }
    (reported .inOrder .wmHints).properties2.has Property2.opaqueRegion = true ∧
      (p.notify .inOrder opaqueWindow .wmHints).opaqueRegion ≠ p.opaqueRegion := by
  decide +kernel

end Independence

end NETWinInfo

end KWindowSystem
