import KWindowSystem.Selection.Owner
import Mathlib.Data.List.Forall2

/-!
# Selection requests

The conversion of a selection: `filter_selection_request`, `handle_selection` and `replyTargets`.  The
answers to the targets of the subclass come from `genericReply`; those to `TIMESTAMP` and `TARGETS` and
the rewritten list of `MULTIPLE` never reach a property, for the arguments of `xcb_change_property` are
not where it takes them.
-/

namespace KWindowSystem

namespace ChangeProperty

/-- What the server checks before it changes a property. -/
def Accepted (change : ChangeProperty) : Prop :=
  change.mode ≤ 2 ∧ (change.format = 8 ∨ change.format = 16 ∨ change.format = 32)

instance (change : ChangeProperty) : Decidable change.Accepted :=
  inferInstanceAs (Decidable (_ ∧ _))

/-- `XCB_PROP_MODE_REPLACE`. -/
def replace : UInt8 := 0

end ChangeProperty

namespace KSelectionOwner

/-- The data of a reply, by elements of its format. -/
structure ReplyData where
  type : XcbAtom
  format : UInt8
  data : List UInt32
deriving DecidableEq, Repr

/-- The request makes the data the value of the property of the window. -/
def Stores (change : ChangeProperty) (window : XcbWindow) (property : XcbAtom)
    (reply : ReplyData) : Prop :=
  change.Accepted ∧ change.mode = ChangeProperty.replace ∧ change.window = window ∧
    change.property = property ∧ change.type = reply.type ∧ change.format = reply.format ∧
    change.dataLen.toNat = reply.data.length ∧ change.data = reply.data

instance (change : ChangeProperty) (window : XcbWindow) (property : XcbAtom) (reply : ReplyData) :
    Decidable (Stores change window property reply) := inferInstanceAs (Decidable (_ ∧ _))

structure SelectionRequest where
  time : UInt32
  requestor : XcbWindow
  selection : XcbAtom
  target : XcbAtom
  property : XcbAtom
deriving DecidableEq, Repr

structure SelectionNotify where
  requestor : XcbWindow
  selection : XcbAtom
  target : XcbAtom
  property : XcbAtom
deriving DecidableEq, Repr

/-- A target that was handled or not, with the requests made for it. -/
structure Conversion where
  target : XcbAtom
  property : XcbAtom
  handled : Bool
  changes : List ChangeProperty
deriving DecidableEq, Repr

/-- Everything that is done about a request: the conversions, the list of a `MULTIPLE` request if it is
written again, and the event that is sent back. -/
structure Answer where
  conversions : List Conversion
  list : Option ChangeProperty := none
  notify : SelectionNotify
deriving DecidableEq, Repr

/-- `XCB_ATOM_INTEGER`. -/
def integerAtom : XcbAtom := 19

/-- `genericReply` of the subclass: whether it handles a target, and what it asks of the server. -/
abbrev GenericReply :=
  (target property : XcbAtom) → (requestor : XcbWindow) → Bool × List ChangeProperty

/-- The one of the class itself. -/
def noReply : GenericReply := fun _ _ _ => (false, [])

section Requests

variable (atoms : SelectionAtoms) (generic : GenericReply) (d : KSelectionOwner)

/-- The arguments are bound as the code passes them: the requestor as the mode, the property as the
window, and so on. -/
def replyTargets (property : XcbAtom) (requestor : XcbWindow) : ChangeProperty where
  mode := requestor.toUInt8
  window := property
  property := XcbAtom.atom
  type := 32
  format := ChangeProperty.replace
  dataLen := 3
  data := [atoms.multiple, atoms.timestamp, atoms.targets]

def handleSelection (target property : XcbAtom) (requestor : XcbWindow) : Conversion :=
  if target = atoms.timestamp then
    let change : ChangeProperty :=
      { mode := requestor.toUInt8, window := property, property := integerAtom, type := 32
        format := ChangeProperty.replace, dataLen := 1, data := [d.timestamp] }
    ⟨target, property, true, [change]⟩
  else if target = atoms.targets then
    ⟨target, property, true, [replyTargets atoms property requestor]⟩
  else
    let reply := generic target property requestor
    ⟨target, property, reply.1, reply.2⟩

/-- `MAX_ATOMS`. -/
def maxAtoms : Nat := 100

/-- The pairs of a list of even length. -/
def pairs : List UInt32 → List (XcbAtom × XcbAtom)
  | target :: property :: rest => (target, property) :: pairs rest
  | _ => []

/-- The list of a `MULTIPLE` request, if it is one of pairs. -/
def multipleList? (reply : Reply) : Option (List UInt32) :=
  match reply with
  | some ⟨_, .data32 words⟩ => if words.length % 2 = 0 then some words else none
  | _ => none

/-- The list with the property of what was not handled set to `None`. -/
def rewritten (conversions : List Conversion) : List UInt32 :=
  conversions.flatMap fun c => [c.target, if c.handled then c.property else 0]

/-- The answer to a request that is for this owner; the requestor's list is read from the display. -/
def answer (display : Display) (ev : SelectionRequest) : Answer :=
  if ev.target = atoms.multiple then
    let reply := display.answer ⟨ev.requestor, ev.property, anyPropertyType, maxAtoms⟩
    match (if ev.property ≠ 0 then multipleList? reply else none) with
    | some list =>
        let conversions := (pairs list).map fun pair =>
          handleSelection atoms generic d pair.1 pair.2 ev.requestor
        let change : ChangeProperty :=
          { mode := ev.requestor.toUInt8, window := ev.property, property := XcbAtom.atom, type := 32
            format := ChangeProperty.replace, dataLen := UInt32.ofNat list.length, data := rewritten conversions }
        { conversions
          list := if conversions.all (·.handled) then none else some change
          notify := ⟨ev.requestor, ev.selection, ev.target, ev.property⟩ }
    | none =>
        { conversions := [], notify := ⟨ev.requestor, ev.selection, ev.target, 0⟩ }
  else
    -- An obsolete client names no property.
    let property := if ev.property = 0 then ev.target else ev.property
    let conversion := handleSelection atoms generic d ev.target property ev.requestor
    { conversions := [conversion]
      notify := ⟨ev.requestor, ev.selection, ev.target, if conversion.handled then property else 0⟩ }

/-- Whether a request is answered at all. -/
def Accepts (ev : SelectionRequest) : Prop :=
  d.timestamp ≠ currentTime ∧ ev.selection = d.selection ∧
    ¬(ev.time ≠ currentTime ∧ ev.time - d.timestamp > 0x80000000)

instance (ev : SelectionRequest) : Decidable (Accepts d ev) := inferInstanceAs (Decidable (_ ∧ _))

/-- `filter_selection_request`. -/
def filterSelectionRequest (display : Display) (ev : SelectionRequest) : Option Answer :=
  if Accepts d ev then some (answer atoms generic d display ev) else none

end Requests

/-! ## What is converted -/

section Converted

variable (atoms : SelectionAtoms) (generic : GenericReply) (data : XcbAtom → ReplyData)
  (d : KSelectionOwner)

/-- The reply data for a target; those for the targets of the subclass are `data`. -/
def replyData (target : XcbAtom) : ReplyData :=
  if target = atoms.timestamp then ⟨integerAtom, 32, [d.timestamp]⟩
  else if target = atoms.targets then
    ⟨XcbAtom.atom, 32, [atoms.multiple, atoms.timestamp, atoms.targets]⟩
  else data target

/-- What `genericReply` is for: a target that it handles has its data stored. -/
def Replies : Prop :=
  ∀ target property requestor, (generic target property requestor).1 = true →
    ∃ change ∈ (generic target property requestor).2,
      Stores change requestor property (data target)

/-- A conversion has stored the reply data in its property of the requestor. -/
def Conversion.Stored (c : Conversion) (requestor : XcbWindow) : Prop :=
  ∃ change ∈ c.changes, Stores change requestor c.property (replyData atoms data d c.target)

/-- The list of a `MULTIPLE` request in full, as it is in the property of the requestor. -/
def requestedList (display : Display) (ev : SelectionRequest) : List UInt32 :=
  match display ev.requestor ev.property with
  | some ⟨_, .data32 words⟩ => words
  | _ => []

/-- The list once the server has looked at what was asked of it. -/
def Answer.listAfter (a : Answer) (display : Display) (ev : SelectionRequest) : List UInt32 :=
  match a.list with
  | some change =>
      if Stores change ev.requestor ev.property ⟨XcbAtom.atom, 32, change.data⟩ then change.data
      else requestedList display ev
  | none => requestedList display ev

/-- What the requestor may rely on when a property is sent back: the reply is in it, or, for `MULTIPLE`,
every pair of the list has its reply stored, or else the list now has `None` for its property. -/
def Converted (display : Display) (ev : SelectionRequest) (a : Answer) : Prop :=
  a.notify.property ≠ 0 →
    if ev.target = atoms.multiple then
      ∀ (i : Nat) (pair : XcbAtom × XcbAtom), (pairs (requestedList display ev))[i]? = some pair →
        (∃ c ∈ a.conversions, c.target = pair.1 ∧ c.property = pair.2 ∧ c.handled = true ∧
          c.Stored atoms data d ev.requestor) ∨
        (pairs (a.listAfter display ev))[i]? = some (pair.1, 0)
    else
      ∃ c ∈ a.conversions, c.target = ev.target ∧ c.property = a.notify.property ∧
        c.Stored atoms data d ev.requestor

/-- Neither of the two targets is asked for that the class answers itself, and `MULTIPLE` only for what
the subclass handles and among the first `MAX_ATOMS` words. -/
def Convertible (display : Display) (ev : SelectionRequest) : Prop :=
  if ev.target = atoms.multiple then
    ev.property = 0 ∨
      multipleList? (display.answer ⟨ev.requestor, ev.property, anyPropertyType, maxAtoms⟩) = none ∨
      ∀ pair ∈ pairs (requestedList display ev), pair.2 = 0 ∨
        (pair ∈ pairs ((requestedList display ev).take maxAtoms) ∧
          (pair.1 ≠ atoms.timestamp ∧ pair.1 ≠ atoms.targets) ∧
          (generic pair.1 pair.2 ev.requestor).1 = true)
  else
    (ev.target ≠ atoms.timestamp ∧ ev.target ≠ atoms.targets) ∨ (ev.property = 0 ∧ ev.target = 0)

theorem list_of_multipleList {display : Display} {ev : SelectionRequest} {list : List UInt32}
    (h : multipleList? (display.answer ⟨ev.requestor, ev.property, anyPropertyType, maxAtoms⟩) =
      some list) :
    list = (requestedList display ev).take maxAtoms := by
  unfold Display.answer getProperty at h
  unfold requestedList
  dsimp only at h
  cases hproperty : display ev.requestor ev.property with
  | none =>
      rw [hproperty] at h
      exact nomatch h
  | some property =>
      rw [hproperty, Option.map_some, if_pos (.inl rfl)] at h
      rcases property with ⟨t, bytes | shorts | words⟩
      · exact nomatch h
      · exact nomatch h
      · show list = words.take maxAtoms
        unfold multipleList? PropertyData.take at h
        dsimp only at h
        split at h
        · exact (Option.some.inj h).symm
        · cases h

-- A format of 0 is not accepted.
theorem not_stores {change : ChangeProperty} (h : change.format = ChangeProperty.replace)
    (window : XcbWindow) (property : XcbAtom) (reply : ReplyData) :
    ¬Stores change window property reply := by
  intro hstores
  have hformat := hstores.1.2
  rw [h] at hformat
  exact absurd hformat (by decide)

variable {data}

theorem stored_handleSelection_iff (hgeneric : Replies generic data) (target property : XcbAtom)
    (requestor : XcbWindow)
    (hhandled : (handleSelection atoms generic d target property requestor).handled = true) :
    (handleSelection atoms generic d target property requestor).Stored atoms data d requestor ↔
      target ≠ atoms.timestamp ∧ target ≠ atoms.targets := by
  unfold handleSelection at hhandled ⊢
  by_cases htimestamp : target = atoms.timestamp
  · rw [if_pos htimestamp]
    apply iff_of_false
    · rintro ⟨change, hchange, hstores⟩
      rw [List.mem_singleton.mp hchange] at hstores
      exact not_stores (by rfl) _ _ _ hstores
    · exact fun h => h.1 htimestamp
  · rw [if_neg htimestamp] at hhandled ⊢
    by_cases htargets : target = atoms.targets
    · rw [if_pos htargets]
      apply iff_of_false
      · rintro ⟨change, hchange, hstores⟩
        rw [List.mem_singleton.mp hchange] at hstores
        exact not_stores (by rfl) _ _ _ hstores
      · exact fun h => h.2 htargets
    · rw [if_neg htargets] at hhandled ⊢
      apply iff_of_true
      · rcases hgeneric target property requestor hhandled with ⟨change, hchange, hstores⟩
        refine ⟨change, hchange, ?_⟩
        unfold replyData
        rw [if_neg htimestamp, if_neg htargets]
        exact hstores
      · exact ⟨htimestamp, htargets⟩

theorem handled_handleSelection (target property : XcbAtom) (requestor : XcbWindow) :
    (handleSelection atoms generic d target property requestor).handled = true ↔
      target = atoms.timestamp ∨ target = atoms.targets ∨
        (generic target property requestor).1 = true := by
  unfold handleSelection
  by_cases htimestamp : target = atoms.timestamp
  · simp [htimestamp]
  · by_cases htargets : target = atoms.targets
    · rw [if_neg htimestamp, if_pos htargets]
      simp [htargets]
    · rw [if_neg htimestamp, if_neg htargets]
      simp [htimestamp, htargets]

theorem handleSelection_names (target property : XcbAtom) (requestor : XcbWindow) :
    (handleSelection atoms generic d target property requestor).target = target ∧
      (handleSelection atoms generic d target property requestor).property = property := by
  unfold handleSelection
  split
  · exact ⟨rfl, rfl⟩
  · split <;> exact ⟨rfl, rfl⟩

-- The list is never written, for its change has the format 0 too.
theorem listAfter_of_format {a : Answer} (h : ∀ change, a.list = some change →
      change.format = ChangeProperty.replace) (display : Display) (ev : SelectionRequest) :
    a.listAfter display ev = requestedList display ev := by
  unfold Answer.listAfter
  cases hlist : a.list with
  | none => rfl
  | some change => exact if_neg (not_stores (h change hlist) _ _ _)

-- One pair of a `MULTIPLE` request is converted as its target says, if it is looked at at all.
theorem pair_iff (hgeneric : Replies generic data) (list : List UInt32) (pair : XcbAtom × XcbAtom)
    (requestor : XcbWindow) :
    (∃ c ∈ (pairs list).map fun p => handleSelection atoms generic d p.1 p.2 requestor,
        c.target = pair.1 ∧ c.property = pair.2 ∧ c.handled = true ∧
          c.Stored atoms data d requestor) ↔
      pair ∈ pairs list ∧ (pair.1 ≠ atoms.timestamp ∧ pair.1 ≠ atoms.targets) ∧
        (generic pair.1 pair.2 requestor).1 = true := by
  have hhandled := handled_handleSelection atoms generic d pair.1 pair.2 requestor
  have hstored := stored_handleSelection_iff atoms generic d hgeneric pair.1 pair.2 requestor
  apply Iff.intro
  · intro h
    rcases h with ⟨c, hc, htarget, hproperty, hdone, hdata⟩
    rcases List.mem_map.mp hc with ⟨p, hp, hpc⟩
    have hnames := handleSelection_names atoms generic d p.1 p.2 requestor
    have hpair : p = pair := by
      apply Prod.ext
      · rw [← htarget, ← hpc, hnames.1]
      · rw [← hproperty, ← hpc, hnames.2]
    rw [← hpc, hpair] at hdone hdata
    have hfree := (hstored hdone).mp hdata
    have hreply := (hhandled.mp hdone).resolve_left hfree.1
    exact ⟨hpair ▸ hp, hfree, hreply.resolve_left hfree.2⟩
  · intro h
    have hdone := hhandled.mpr (.inr (.inr h.2.2))
    have hnames := handleSelection_names atoms generic d pair.1 pair.2 requestor
    exact ⟨_, List.mem_map_of_mem h.1, hnames.1, hnames.2, hdone, (hstored hdone).mpr h.2.1⟩

theorem answer_multiple_iff (hgeneric : Replies generic data) {display : Display} {ev : SelectionRequest}
    (hmultiple : ev.target = atoms.multiple) :
    Converted atoms data d display ev (answer atoms generic d display ev) ↔
      Convertible atoms generic display ev := by
  unfold answer Converted Convertible
  rw [if_pos hmultiple, if_pos hmultiple, if_pos hmultiple]
  dsimp only
  by_cases hproperty : ev.property = 0
  · rw [if_neg (not_not.mpr hproperty)]
    exact iff_of_true (fun hsent => absurd rfl hsent) (.inl hproperty)
  · rw [if_pos hproperty, or_iff_right hproperty]
    cases hlist : multipleList?
        (display.answer ⟨ev.requestor, ev.property, anyPropertyType, maxAtoms⟩) with
    | none => exact iff_of_true (fun hsent => absurd rfl hsent) (.inl rfl)
    | some list =>
        dsimp only
        rw [listAfter_of_format (by
          intro change hchange
          dsimp only at hchange
          split at hchange
          · cases hchange
          · rw [← Option.some.inj hchange])]
        simp only [pair_iff atoms generic d hgeneric, ← list_of_multipleList hlist]
        rw [or_iff_right (by simp)]
        apply Iff.intro
        · intro h pair hpair
          rcases List.getElem?_of_mem hpair with ⟨i, hi⟩
          rcases h hproperty i pair hi with hdone | hnone
          · exact .inr hdone
          · left
            have heq : pair = (pair.1, 0) := Option.some.inj (hi.symm.trans hnone)
            exact congrArg Prod.snd heq
        · intro h _ i pair hi
          rcases h pair (List.mem_of_getElem? hi) with hnone | hdone
          · right
            rw [hi, ← hnone]
          · exact .inl hdone

theorem answer_single_iff (hgeneric : Replies generic data) {display : Display} {ev : SelectionRequest}
    (hmultiple : ev.target ≠ atoms.multiple) :
    Converted atoms data d display ev (answer atoms generic d display ev) ↔
      Convertible atoms generic display ev := by
  unfold answer Converted Convertible
  rw [if_neg hmultiple, if_neg hmultiple, if_neg hmultiple]
  dsimp only
  generalize hp : (if ev.property = 0 then ev.target else ev.property) = property
  have hnone : property = 0 ↔ ev.property = 0 ∧ ev.target = 0 := by
    rw [← hp]
    split
    · rename_i h
      simp [h]
    · rename_i h
      simp [h]
  have hnames := handleSelection_names atoms generic d ev.target property ev.requestor
  have hhandled := handled_handleSelection atoms generic d ev.target property ev.requestor
  have hstored := stored_handleSelection_iff atoms generic d hgeneric ev.target property ev.requestor
  rw [← hnone]
  simp only [List.mem_singleton, exists_eq_left, hnames, true_and]
  by_cases hsent : (handleSelection atoms generic d ev.target property ev.requestor).handled = true
  · rw [if_pos hsent, hstored hsent]
    apply Iff.intro
    · intro h
      by_cases hproperty : property = 0
      · exact .inr hproperty
      · exact .inl (h hproperty).2
    · intro h hproperty
      exact ⟨rfl, h.resolve_right hproperty⟩
  · -- The two targets of the class are always handled.
    rw [if_neg hsent]
    have htimestamp : ev.target ≠ atoms.timestamp := fun h => hsent (hhandled.mpr (.inl h))
    have htargets : ev.target ≠ atoms.targets := fun h => hsent (hhandled.mpr (.inr (.inl h)))
    exact iff_of_true (fun h => absurd rfl h) (.inl ⟨htimestamp, htargets⟩)

/-- What the requestor may rely on is so exactly if the request asks for nothing that the class is to
answer itself. -/
theorem converted_iff (hgeneric : Replies generic data) {display : Display} {ev : SelectionRequest}
    {a : Answer} (ha : filterSelectionRequest atoms generic d display ev = some a) :
    Converted atoms data d display ev a ↔ Convertible atoms generic display ev := by
  have hanswer : answer atoms generic d display ev = a := by
    unfold filterSelectionRequest at ha
    split at ha
    · exact Option.some.inj ha
    · cases ha
  rw [← hanswer]
  by_cases hmultiple : ev.target = atoms.multiple
  · exact answer_multiple_iff atoms generic d hgeneric hmultiple
  · exact answer_single_iff atoms generic d hgeneric hmultiple

/-! A manager selection whose owner is asked when it was acquired, and one whose subclass keeps a text. -/

def exampleAtoms : SelectionAtoms := ⟨301, 302, 303, 304⟩

def exampleOwner : KSelectionOwner := { selection := 300, root := 1, window := 5, timestamp := 77 }

/-- The property `40` of the window `9` is named for the answer to `TIMESTAMP`. -/
def timestampRequest : SelectionRequest := ⟨80, 9, 300, 304, 40⟩

theorem timestamp_not_stored : ∃ a : Answer,
    filterSelectionRequest exampleAtoms noReply exampleOwner (fun _ _ => none) timestampRequest = some a ∧
      a.notify.property = 40 ∧
      ∀ data, ¬Converted exampleAtoms data exampleOwner (fun _ _ => none) timestampRequest a := by
  refine ⟨_, if_pos (by decide), by decide, ?_⟩
  intro data h
  rcases h (by decide) with ⟨c, hc, -, -, change, hchange, hstores⟩
  rw [List.mem_singleton.mp hc] at hchange
  rw [List.mem_singleton.mp hchange] at hstores
  exact not_stores (by rfl) _ _ _ hstores

/-- The subclass converts the target `50` to one word. -/
def wordReply : GenericReply := fun target property requestor =>
  if target = 50 then (true, [⟨ChangeProperty.replace, requestor, property, integerAtom, 32, 1, [8]⟩])
  else (false, [])

theorem word_stored : Converted exampleAtoms (fun _ => ⟨integerAtom, 32, [8]⟩) exampleOwner
    (fun _ _ => none) ⟨80, 9, 300, 50, 40⟩
    (answer exampleAtoms wordReply exampleOwner (fun _ _ => none) ⟨80, 9, 300, 50, 40⟩) := by
  apply (converted_iff exampleAtoms wordReply exampleOwner _ (if_pos (by decide))).mpr
  · exact .inl (by decide)
  · intro target property requestor h
    unfold wordReply at h ⊢
    split at h
    · rw [if_pos (by assumption)]
      exact ⟨_, List.mem_singleton_self _, ⟨(by decide : (0 : UInt8) ≤ 2), .inr (.inr rfl)⟩, rfl, rfl, rfl, rfl,
        rfl, rfl, rfl⟩
    · exact nomatch h

end Converted

end KSelectionOwner

end KWindowSystem
