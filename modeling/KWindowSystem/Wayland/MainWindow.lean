import KWindowSystem.Lib.Machine
import KWindowSystem.Qt.Text

/-!
# setMainWindow

`WindowSystem::setMainWindow` for one window, with the imported objects that are children of its platform
window and the slots that early calls leave connected to `surfaceRoleCreated`.  A slot is never
disconnected, and what is recorded is not looked at again when it runs; so calls from before there is a
role settle on the latest request only if there was just one.
-/

open Qt

namespace KWindowSystem

namespace WindowSystem

inductive SurfaceRole where
  | toplevel
  | other
deriving DecidableEq, Repr

/-- A `WaylandXdgForeignImportedV2`. -/
structure Imported where
  serial : Nat
  handle : QString
deriving DecidableEq, Repr

/-- A window and its `QWaylandWindow`. -/
structure MainWindow where
  qtBefore610 : Bool
  modal : Bool
  dialogManager : Bool
  importer : Bool := true
  role : Option SurfaceRole := none
  exposed : Bool := false
  /-- The dynamic property of the platform window. -/
  imported : Option Imported := none
  /-- The imported objects that have the window's surface as their child. -/
  attached : List Imported := []
  /-- Whether a `WaylandXdgDialogV1` is a child of the platform window. -/
  dialog : Bool := false
  /-- The handles in the slots connected to `surfaceRoleCreated`. -/
  connected : List QString := []
  fresh : Nat := 0
  /-- Whether every assertion held so far. -/
  asserted : Bool := true
  /-- The handle of the most recent call. -/
  latest : Option QString := none
deriving DecidableEq, Repr

namespace MainWindow

/-- `Q_ASSERT`; a release build goes on. -/
def assert (s : MainWindow) (condition : Bool) : MainWindow :=
  { s with asserted := s.asserted && condition }

/-- An imported object is deleted; its `destroyed` clears the property, whatever that holds. -/
def deleteImported (s : MainWindow) (imported : Imported) : MainWindow :=
  if imported ∈ s.attached then
    { s with attached := s.attached.filter (· ≠ imported), imported := none }
  else s

/-- The dialog of Qt before 6.10. -/
def updateDialog (s : MainWindow) : MainWindow :=
  if s.qtBefore610 then
    if s.modal && !s.dialog then { s with dialog := s.dialogManager } else { s with dialog := false }
  else s

def doSetMainWindow (s : MainWindow) (handle : QString) : MainWindow :=
  let s := s.assert (handle ≠ [])
  if s.role = some .toplevel then
    if s.importer then
      let s := s.assert s.imported.isNone
      let imported : Imported := ⟨s.fresh, handle⟩
      updateDialog
        { s with fresh := s.fresh + 1, attached := s.attached ++ [imported], imported := some imported }
    else s
  else s

/-- What is recorded for another handle is deleted, so that the new one is imported later. -/
def dropOther (s : MainWindow) (handle : QString) : MainWindow :=
  match s.imported with
  | some imported =>
      if imported.handle ≠ handle then
        let s := s.deleteImported imported
        s.assert s.imported.isNone
      else s
  | none => s

def setMainWindow (s : MainWindow) (handle : QString) : MainWindow :=
  let s := dropOther { s with latest := some handle } handle
  if handle = [] then s
  else if s.exposed then s.doSetMainWindow handle
  else if s.role = some .toplevel then s.doSetMainWindow handle
  else { s with connected := s.connected ++ [handle] }

inductive Event where
  | setMainWindow (handle : QString)
  /-- `surfaceRoleCreated`. -/
  | roleCreated (role : SurfaceRole)
  | roleDestroyed
  | expose (exposed : Bool)
  /-- The imported object goes, for the compositor or the program. -/
  | importedDestroyed (imported : Imported)
  /-- The platform window goes with its children and all that is connected to it. -/
  | platformDestroyed
deriving DecidableEq, Repr

def step (s : MainWindow) : Event → MainWindow × List Unit
  | .setMainWindow handle => (s.setMainWindow handle, [])
  | .roleCreated role => (s.connected.foldl doSetMainWindow { s with role := some role }, [])
  | .roleDestroyed => ({ s with role := none }, [])
  | .expose exposed => ({ s with exposed }, [])
  | .importedDestroyed imported => (s.deleteImported imported, [])
  | .platformDestroyed =>
      ({ s with role := none, exposed := false, imported := none, attached := [], dialog := false
                connected := [] }, [])

/-! ## The latest request -/

/-- No assertion failed, one parent at most is attached, and to a toplevel only that of the most recent
call, none if its handle is empty. -/
structure Settled (s : MainWindow) : Prop where
  asserted : s.asserted = true
  single : s.attached.length ≤ 1
  latest : s.role = some .toplevel →
    (∀ i ∈ s.attached, s.latest = some i.handle) ∧ (s.latest = some [] → s.attached = [])

/-- A call does not name the handle again that is recorded for a toplevel, and a toplevel finds no early
call but the most recent one, with nothing recorded yet. -/
def Orderly (s : MainWindow) : Event → Prop
  | .setMainWindow handle =>
      ¬(handle ≠ [] ∧ s.role = some .toplevel ∧ s.imported.map (·.handle) = some handle)
  | .roleCreated role =>
      role = .toplevel → s.connected = [] ∨
        (s.imported = none ∧ s.connected.map some = [s.latest])
  | _ => True

/-- What is recorded is what is attached, for the most recent call. -/
structure Recorded (s : MainWindow) : Prop where
  asserted : s.asserted = true
  importer : s.importer = true
  attached : s.attached = s.imported.toList
  latest : ∀ i, s.imported = some i → s.latest = some i.handle ∧ i.handle ≠ []
  connected : ∀ handle ∈ s.connected, handle ≠ []

theorem Recorded.settled {s : MainWindow} (hs : s.Recorded) : s.Settled := by
  refine ⟨hs.asserted, ?_, ?_⟩
  · rw [hs.attached]
    cases s.imported <;> simp
  · intro _
    rw [hs.attached]
    cases h : s.imported with
    | none => simp
    | some i =>
        have hi := hs.latest i h
        refine ⟨?_, ?_⟩
        · intro j hj
          rw [List.mem_singleton.mp hj]
          exact hi.1
        · intro hempty
          rw [hi.1] at hempty
          exact absurd (Option.some.inj hempty) hi.2

-- The dialog has nothing to do with the parent.
theorem updateDialog_eq (s : MainWindow) : ∃ dialog, s.updateDialog = { s with dialog } := by
  unfold updateDialog
  split
  · split <;> exact ⟨_, rfl⟩
  · exact ⟨s.dialog, rfl⟩

-- Without a toplevel there is nothing to attach to.
theorem doSetMainWindow_of_role {s : MainWindow} (h : s.role ≠ some .toplevel) {handle : QString}
    (hhandle : handle ≠ []) : s.doSetMainWindow handle = s := by
  unfold doSetMainWindow
  rw [if_neg (by exact h)]
  simp [assert, hhandle]

-- What an import on a toplevel comes to, in a release build too.
theorem doSetMainWindow_toplevel {s : MainWindow} (hrole : s.role = some .toplevel)
    (himporter : s.importer = true) {handle : QString} (hhandle : handle ≠ []) :
    ∃ dialog, s.doSetMainWindow handle =
      { s with
        asserted := s.asserted && s.imported.isNone
        fresh := s.fresh + 1
        attached := s.attached ++ [⟨s.fresh, handle⟩]
        imported := some ⟨s.fresh, handle⟩
        dialog } := by
  unfold doSetMainWindow
  rw [if_pos (by exact hrole), if_pos (by exact himporter)]
  dsimp only
  rcases updateDialog_eq { (s.assert (handle ≠ [])).assert s.imported.isNone with
    fresh := s.fresh + 1
    attached := s.attached ++ [⟨s.fresh, handle⟩]
    imported := some ⟨s.fresh, handle⟩ } with ⟨dialog, hdialog⟩
  refine ⟨dialog, ?_⟩
  refine Eq.trans hdialog ?_
  simp [assert, hhandle]

-- An import is as it should be if nothing is recorded and it is for the most recent call.
theorem Recorded.doSetMainWindow {s : MainWindow} (hs : s.Recorded) {handle : QString}
    (hhandle : handle ≠ [])
    (htoplevel : s.role = some .toplevel → s.imported = none ∧ s.latest = some handle) :
    (s.doSetMainWindow handle).Recorded := by
  by_cases hrole : s.role = some .toplevel
  · have hnone := (htoplevel hrole).1
    rcases doSetMainWindow_toplevel hrole hs.importer hhandle with ⟨dialog, hset⟩
    rw [hset]
    exact
      { asserted := by simp [hs.asserted, hnone]
        importer := hs.importer
        attached := by simp [hs.attached, hnone]
        latest := fun i hi => by
          rw [← Option.some.inj hi]
          exact ⟨(htoplevel hrole).2, hhandle⟩
        connected := hs.connected }
  · rw [doSetMainWindow_of_role hrole hhandle]
    exact hs

-- The record is cleared when the object goes.
theorem Recorded.deleteImported {s : MainWindow} (hs : s.Recorded) (imported : Imported) :
    (s.deleteImported imported).Recorded := by
  unfold MainWindow.deleteImported
  split
  · rename_i hmem
    have hattached := hs.attached
    cases h : s.imported with
    | none => simp [hattached, h] at hmem
    | some i =>
        rw [h] at hattached
        rw [hattached] at hmem
        have heq := List.mem_singleton.mp hmem
        exact
          { asserted := hs.asserted
            importer := hs.importer
            attached := by
              show s.attached.filter (· ≠ imported) = []
              rw [hattached, heq]
              simp
            latest := fun _ hnone => nomatch hnone
            connected := hs.connected }
  · exact hs

theorem dropOther_same {s : MainWindow} {handle : QString}
    (h : ∀ i, s.imported = some i → i.handle = handle) : s.dropOther handle = s := by
  unfold dropOther
  split
  · rename_i imported himported
    rw [if_neg (not_not.mpr (h imported himported))]
  · rfl

theorem dropOther_other {s : MainWindow} {handle : QString} {i : Imported}
    (hi : s.imported = some i) (hattached : s.attached = [i]) (hne : i.handle ≠ handle) :
    s.dropOther handle = { s with attached := [], imported := none } := by
  have hdelete : s.deleteImported i = { s with attached := [], imported := none } := by
    unfold MainWindow.deleteImported
    rw [if_pos (by rw [hattached]; exact List.mem_singleton_self i), hattached]
    simp
  unfold dropOther
  rw [hi]
  dsimp only
  rw [if_pos hne, hdelete]
  simp [assert]

-- After that only an object for the same handle is recorded.
theorem Recorded.dropOther {s : MainWindow} (hs : s.Recorded) (handle : QString) :
    (MainWindow.dropOther { s with latest := some handle } handle).Recorded ∧
      (MainWindow.dropOther { s with latest := some handle } handle).imported =
        s.imported.filter (·.handle = handle) ∧
      ∃ imported attached, MainWindow.dropOther { s with latest := some handle } handle =
        { s with latest := some handle, imported, attached } := by
  by_cases hother : ∃ i, s.imported = some i ∧ i.handle ≠ handle
  · rcases hother with ⟨i, hi, hne⟩
    have hattached : s.attached = [i] := by rw [hs.attached, hi]; rfl
    rw [dropOther_other (s := { s with latest := some handle }) hi hattached hne]
    refine ⟨⟨hs.asserted, hs.importer, rfl, (fun _ h => nomatch h), hs.connected⟩, ?_, none, [], rfl⟩
    rw [hi, Option.filter_some, if_neg (by simpa using hne)]
  · have hsame : ∀ i, s.imported = some i → i.handle = handle := by
      intro i hi
      by_contra hne
      exact hother ⟨i, hi, hne⟩
    rw [dropOther_same (s := { s with latest := some handle }) hsame]
    refine ⟨⟨hs.asserted, hs.importer, hs.attached, ?_, hs.connected⟩, ?_, s.imported, s.attached, rfl⟩
    · intro i hi
      exact ⟨congrArg some (hsame i hi).symm, (hs.latest i hi).2⟩
    · cases h : s.imported with
      | none => rfl
      | some i => rw [Option.filter_some, if_pos (by simpa using hsame i h)]

-- A call keeps the record unless it names the handle again that is recorded for a toplevel.
theorem Recorded.setMainWindow {s : MainWindow} (hs : s.Recorded) {handle : QString}
    (hok : s.Orderly (.setMainWindow handle)) : (s.setMainWindow handle).Recorded := by
  have hdrop := hs.dropOther handle
  unfold MainWindow.setMainWindow
  rcases hdrop.2.2 with ⟨imported, attached, heq⟩
  by_cases hempty : handle = []
  · rw [if_pos hempty]
    exact hdrop.1
  · rw [if_neg hempty]
    have hdo : ((MainWindow.dropOther { s with latest := some handle } handle).doSetMainWindow
        handle).Recorded := by
      apply hdrop.1.doSetMainWindow hempty
      intro hrole
      rw [heq] at hrole
      have hrole : s.role = some .toplevel := hrole
      refine ⟨?_, by rw [heq]⟩
      rw [hdrop.2.1]
      by_contra hsome
      apply hok
      refine ⟨hempty, hrole, ?_⟩
      cases h : s.imported with
      | none => simp [h] at hsome
      | some i =>
          rw [h, Option.filter_some] at hsome
          simpa using hsome
    split
    · exact hdo
    · split
      · exact hdo
      · have hrecorded := hdrop.1
        exact
          { asserted := hrecorded.asserted
            importer := hrecorded.importer
            attached := hrecorded.attached
            latest := hrecorded.latest
            connected := fun h hmem => by
              rcases List.mem_append.mp hmem with hold | hnew
              · exact hrecorded.connected h hold
              · rw [List.mem_singleton.mp hnew]
                exact hempty }

-- A failed assertion is not forgotten.
theorem asserted_of_doSetMainWindow {s : MainWindow} {handle : QString}
    (h : (s.doSetMainWindow handle).asserted = true) : s.asserted = true := by
  unfold MainWindow.doSetMainWindow at h
  dsimp only at h
  split at h
  · split at h
    · rcases updateDialog_eq { (s.assert (handle ≠ [])).assert s.imported.isNone with
        fresh := s.fresh + 1
        attached := s.attached ++ [⟨s.fresh, handle⟩]
        imported := some ⟨s.fresh, handle⟩ } with ⟨dialog, hdialog⟩
      have h := (congrArg asserted hdialog).symm.trans h
      simp only [assert, Bool.and_eq_true] at h
      exact h.1.1
    · simp only [assert, Bool.and_eq_true] at h
      exact h.1
  · simp only [assert, Bool.and_eq_true] at h
    exact h.1

theorem asserted_of_foldl {s : MainWindow} {connected : List QString}
    (h : (connected.foldl MainWindow.doSetMainWindow s).asserted = true) : s.asserted = true := by
  induction connected generalizing s with
  | nil => exact h
  | cons handle connected ih => exact asserted_of_doSetMainWindow (ih h)

theorem foldl_of_role {s : MainWindow} (h : s.role ≠ some .toplevel) {connected : List QString}
    (hconnected : ∀ handle ∈ connected, handle ≠ []) :
    connected.foldl MainWindow.doSetMainWindow s = s := by
  induction connected with
  | nil => rfl
  | cons handle connected ih =>
      rw [List.foldl_cons, doSetMainWindow_of_role h (hconnected handle List.mem_cons_self)]
      exact ih fun handle hmem => hconnected handle (List.mem_cons_of_mem _ hmem)

-- The slots of early calls run when the role is there.
theorem Recorded.foldl {s : MainWindow} (hs : s.Recorded) {connected : List QString}
    (hconnected : ∀ handle ∈ connected, handle ≠ [])
    (hok : s.role = some .toplevel →
      connected = [] ∨ (s.imported = none ∧ connected.map some = [s.latest])) :
    (connected.foldl MainWindow.doSetMainWindow s).Recorded := by
  by_cases htoplevel : s.role = some .toplevel
  · rcases hok htoplevel with hnone | ⟨hnone, hlatest⟩
    · rw [hnone]
      exact hs
    · rcases List.map_eq_singleton_iff.mp hlatest with ⟨handle, heq, hhandle⟩
      rw [heq]
      apply hs.doSetMainWindow
      · exact hconnected handle (by rw [heq]; exact List.mem_singleton_self handle)
      · exact fun _ => ⟨hnone, hhandle.symm⟩
  · rw [foldl_of_role htoplevel hconnected]
    exact hs

theorem orderly_of_foldl {s : MainWindow} (himporter : s.importer = true)
    (hrole : s.role = some .toplevel) {connected : List QString}
    (hconnected : ∀ handle ∈ connected, handle ≠ [])
    (h : (connected.foldl MainWindow.doSetMainWindow s).Settled) :
    connected = [] ∨ (s.imported = none ∧ connected.map some = [s.latest]) := by
  cases connected with
  | nil => exact .inl rfl
  | cons handle rest =>
      right
      have hfirst : handle ≠ [] := hconnected handle List.mem_cons_self
      rw [List.foldl_cons] at h
      rcases doSetMainWindow_toplevel hrole himporter hfirst with ⟨dialog, hset⟩
      rw [hset] at h
      have hnone : s.imported = none := by
        have hasserted := asserted_of_foldl h.asserted
        simp only [Bool.and_eq_true] at hasserted
        exact Option.isNone_iff_eq_none.mp hasserted.2
      -- A second slot would find the object of the first one recorded.
      cases rest with
      | nil =>
          have hlatest := (h.latest hrole).1 ⟨s.fresh, handle⟩ (by simp)
          refine ⟨hnone, ?_⟩
          exact congrArg (fun l => [l]) (Eq.symm hlatest)
      | cons handle' rest =>
          exfalso
          rw [List.foldl_cons] at h
          have hasserted := asserted_of_foldl h.asserted
          have hsecond : handle' ≠ [] := hconnected handle' (by simp)
          rcases doSetMainWindow_toplevel (s := { s with
              asserted := s.asserted && s.imported.isNone
              fresh := s.fresh + 1
              attached := s.attached ++ [⟨s.fresh, handle⟩]
              imported := some ⟨s.fresh, handle⟩
              dialog }) hrole himporter hsecond with ⟨dialog', hset'⟩
          rw [hset'] at hasserted
          simp at hasserted

theorem orderly_of_setMainWindow {s : MainWindow} (hs : s.Recorded) {handle : QString}
    (h : (s.setMainWindow handle).Settled) : s.Orderly (.setMainWindow handle) := by
  rintro ⟨hempty, hrole, hsame⟩
  rcases Option.map_eq_some_iff.mp hsame with ⟨i, hi, heq⟩
  have hkept : MainWindow.dropOther { s with latest := some handle } handle =
      { s with latest := some handle } := by
    apply dropOther_same
    intro j hj
    have hij : i = j := Option.some.inj (hi.symm.trans hj)
    rw [← hij]
    exact heq
  have hdo : s.setMainWindow handle =
      MainWindow.doSetMainWindow { s with latest := some handle } handle := by
    unfold MainWindow.setMainWindow
    rw [hkept, if_neg hempty, if_pos (show ({ s with latest := some handle } : MainWindow).role = _ from hrole)]
    split <;> rfl
  rw [hdo] at h
  rcases doSetMainWindow_toplevel (s := { s with latest := some handle }) hrole hs.importer hempty
    with ⟨dialog, hset⟩
  have hasserted := h.asserted
  rw [hset] at hasserted
  simp [hi] at hasserted

-- An orderly step keeps the record.
theorem Recorded.step {s : MainWindow} (hs : s.Recorded) {e : Event} (hok : s.Orderly e) :
    (s.step e).1.Recorded := by
  cases e with
  | setMainWindow handle => exact hs.setMainWindow hok
  | roleCreated role =>
      have hrole : Recorded { s with role := some role } :=
        ⟨hs.asserted, hs.importer, hs.attached, hs.latest, hs.connected⟩
      exact hrole.foldl hs.connected fun htoplevel => hok (Option.some.inj htoplevel)
  | roleDestroyed => exact ⟨hs.asserted, hs.importer, hs.attached, hs.latest, hs.connected⟩
  | expose exposed => exact ⟨hs.asserted, hs.importer, hs.attached, hs.latest, hs.connected⟩
  | importedDestroyed imported => exact hs.deleteImported imported
  | platformDestroyed =>
      exact ⟨hs.asserted, hs.importer, rfl, (fun _ h => nomatch h), fun _ h => nomatch h⟩

theorem orderly_of_settled {s : MainWindow} (hs : s.Recorded) {e : Event}
    (h : (s.step e).1.Settled) : s.Orderly e := by
  cases e with
  | setMainWindow handle => exact orderly_of_setMainWindow hs h
  | roleCreated role =>
      exact fun htoplevel => orderly_of_foldl (s := { s with role := some role }) hs.importer
        (congrArg some htoplevel) hs.connected h
  | roleDestroyed | expose _ | importedDestroyed _ | platformDestroyed => trivial

/-- A window nothing was asked for yet. -/
def start (qtBefore610 modal dialogManager : Bool) : MainWindow := { qtBefore610, modal, dialogManager }

/-- With the importer there, a window settles on the latest request all along a run exactly if every
step of the run is orderly. -/
theorem setMainWindow_settles_iff (qtBefore610 modal dialogManager : Bool) (es : List Event) :
    (∀ n, (Machine.run step (start qtBefore610 modal dialogManager) (es.take n)).1.Settled) ↔
      Machine.Along step Orderly (start qtBefore610 modal dialogManager) es := by
  apply Machine.always_iff_guarded Recorded Settled Orderly
  · exact fun s hs => hs.settled
  · exact fun s e hs hok => hs.step hok
  · exact fun s e hs h => orderly_of_settled hs h
  · exact ⟨rfl, rfl, rfl, (fun _ h => nomatch h), fun _ h => nomatch h⟩

/-- Two calls before the role exists: both slots import. -/
theorem early_calls_fail : ¬(Machine.run step (start false false false)
    [.setMainWindow ['a'], .setMainWindow ['b'], .roleCreated .toplevel]).1.Settled := by
  intro h
  exact absurd h.asserted (by decide)

end MainWindow

end WindowSystem

end KWindowSystem
