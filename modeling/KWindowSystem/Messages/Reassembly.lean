import KWindowSystem.Messages.Wire
import Mathlib.Data.Finset.Insert

/-!
# Reassembly

The fragments of one window are gathered on their own (`run_gather`), so that an interleaving is as
good as the senders one after the other.  `sendLoop_gathered` follows one message through the loop
that sends it: what is gathered before the fragment at `pos` is the message up to `pos`.  A message
of `2 ^ 32 - 4` bytes or more is never sent completely, because `pos` cannot get past its length, and
one that begins with a byte order mark comes out without it.
-/

open Machine Qt

namespace KWindowSystem

variable {a : MessageAtoms} {w : WId}

/-! ## One window -/

/-- The receiver's part for one window. -/
def gatherStep (a : MessageAtoms) (sofar : Option QByteArray) (e : ClientMessage) :
    Option QByteArray × List QString :=
  if e.accepted a then
    match e.gather a sofar with
    | none => (sofar, [])
    | some bytes => if e.buf.length < 20 then (none, [fromUtf8 (cString bytes)]) else (some bytes, [])
  else (sofar, [])

/-- The messages emitted for the window `w`. -/
def emittedFor (w : WId) (out : List (WId × QString)) : List QString :=
  out.filterMap fun o => if o.1 = w then some o.2 else none

-- What is gathered and emitted for a window depends on the events of that window alone.
theorem run_gather (w : WId) (m : SortedMap WId QByteArray) (es : List ClientMessage) :
    (run (nativeEventFilter a) m es).1.find? w =
      (run (gatherStep a) (m.find? w) (es.filter (·.window = w))).1 ∧
    emittedFor w (run (nativeEventFilter a) m es).2 =
      (run (gatherStep a) (m.find? w) (es.filter (·.window = w))).2 := by
  apply run_project (nativeEventFilter a) (gatherStep a)
    (fun m : SortedMap WId QByteArray => m.find? w) (fun e => decide (e.window = w))
    (fun o : WId × QString => if o.1 = w then some o.2 else none)
  · intro m e he
    have hw : e.window = w := of_decide_eq_true he
    unfold nativeEventFilter gatherStep
    rw [hw]
    split
    · cases e.gather a (m.find? w) with
      | none => exact ⟨rfl, rfl⟩
      | some bytes =>
          dsimp only
          split <;> simp
    · exact ⟨rfl, rfl⟩
  · intro m e he
    have hw : ¬ w = e.window := fun h => of_decide_eq_false he h.symm
    have hw' : ¬ e.window = w := of_decide_eq_false he
    unfold nativeEventFilter
    split
    · cases e.gather a (m.find? e.window) with
      | none => exact ⟨rfl, rfl⟩
      | some bytes =>
          dsimp only
          split <;> simp [hw, hw']
    · exact ⟨rfl, rfl⟩

/-! ## One fragment -/

theorem unsignedInt_of_lt {n : Nat} (h : n < 2 ^ 32) : unsignedInt n = n := Nat.mod_eq_of_lt h

theorem copyBytes_eq {msg : QByteArray} (hlen : msg.length < 2 ^ 32) {pos i : Nat}
    (hpos : pos + i ≤ msg.length) (n : Nat) :
    copyBytes msg pos n i = (msg.drop (pos + i)).take n := by
  induction n generalizing i with
  | zero => rfl
  | succ n ih =>
      rw [copyBytes, unsignedInt_of_lt (by omega), Nat.add_comm i pos]
      by_cases hend : pos + i < msg.length
      · rw [List.getElem?_eq_getElem hend, List.drop_eq_getElem_cons hend, List.take_succ_cons]
        show _ :: copyBytes msg pos n (i + 1) = _
        rw [ih (by omega)]
        rfl
      · rw [List.getElem?_eq_none (by omega), List.drop_eq_nil_of_le (by omega), List.take_nil]

-- The fragment at `pos` is read as the next 20 bytes of the message, or those left.
theorem buf_fragmentData {msg : QByteArray} (hlen : msg.length < 2 ^ 32) (hnul : 0 ∉ msg) {pos : Nat}
    (hpos : pos ≤ msg.length) (handle : WId) (type : Atom) :
    ClientMessage.buf { window := handle, type, data8 := fragmentData msg pos } =
      (msg.drop pos).take 20 := by
  have hcopy : copyBytes msg pos 20 0 = (msg.drop pos).take 20 := copyBytes_eq hlen (by omega) 20
  have hne : ∀ b ∈ (msg.drop pos).take 20, decide (b ≠ 0) = true := by
    intro b hb
    apply decide_eq_true
    intro hzero
    exact hnul (hzero ▸ List.mem_of_mem_drop (List.mem_of_mem_take hb))
  have htake : (fragmentData msg pos).take 20 = fragmentData msg pos := by
    apply List.take_of_length_le
    simp only [fragmentData, hcopy, List.length_append, List.length_replicate, List.length_take]
    omega
  show cString ((fragmentData msg pos).take 20) = _
  rw [htake, cString, fragmentData, hcopy, List.takeWhile_append_of_pos hne]
  cases hn : 20 - ((msg.drop pos).take 20).length with
  | zero => simp
  | succ n => simp [List.replicate_succ]

theorem accepted_fragment (handle : WId) {type : Atom}
    (htype : type = a.acceptAtom1 ∨ type = a.acceptAtom2) (data8 : QByteArray) :
    ClientMessage.accepted a { window := handle, type, data8 } = true := by
  have hresponse : (xcbClientMessage &&& 0x7f) = xcbClientMessage := by decide
  simp only [ClientMessage.accepted, hresponse, decide_true, Bool.true_and, Bool.or_eq_true,
    decide_eq_true_eq]
  exact htype

-- Continuations of a message whose beginning was not heard are ignored.
theorem run_continuations {es : List ClientMessage} (h : ∀ e ∈ es, e.type = a.acceptAtom2) :
    run (gatherStep a) none es = (none, []) := by
  induction es with
  | nil => rfl
  | cons e es ih =>
      have hstep : gatherStep a none e = (none, []) := by
        unfold gatherStep ClientMessage.gather
        rw [if_pos (h e (by simp))]
        split <;> rfl
      rw [run_cons, hstep, ih fun d hd => h d (by simp [hd])]
      rfl

/-! ## One message -/

-- One turn of the sending loop.
theorem sendLoop_eq (msg : QByteArray) (fuel pos : Nat) (type : Atom) :
    sendLoop a w msg (fuel + 1) pos type =
      if unsignedInt (pos + 20) ≤ msg.length then
        (sendLoop a w msg fuel (unsignedInt (pos + 20)) a.acceptAtom2).map fun events =>
          { window := w, type, data8 := fragmentData msg pos } :: events
      else some [{ window := w, type, data8 := fragmentData msg pos }] := rfl

theorem sendLoop_succ {msg : QByteArray} {fuel pos : Nat} {type : Atom} {es : List ClientMessage}
    (h : sendLoop a w msg (fuel + 1) pos type = some es) :
    ∃ rest, es = { window := w, type, data8 := fragmentData msg pos } :: rest ∧
      (if unsignedInt (pos + 20) ≤ msg.length then
        sendLoop a w msg fuel (unsignedInt (pos + 20)) a.acceptAtom2 = some rest
      else rest = []) := by
  rw [sendLoop_eq] at h
  split at h
  · rename_i hpos
    cases hrest : sendLoop a w msg fuel (unsignedInt (pos + 20)) a.acceptAtom2 with
    | none =>
        rw [hrest] at h
        cases h
    | some rest =>
        rw [hrest, Option.map_some, Option.some_inj] at h
        exact ⟨rest, h.symm, by rw [if_pos hpos]⟩
  · rename_i hpos
    exact ⟨[], (Option.some_inj.mp h).symm, by rw [if_neg hpos]⟩

-- Every fragment carries the sender's window, and all but the first are continuations.
theorem sendLoop_shape {msg : QByteArray} {fuel pos : Nat} {type : Atom} {es : List ClientMessage}
    (h : sendLoop a w msg fuel pos type = some es) :
    (∀ e ∈ es, e.window = w) ∧ ∃ e rest, es = e :: rest ∧ e.type = type ∧
      ∀ d ∈ rest, d.type = a.acceptAtom2 := by
  induction fuel generalizing pos type es with
  | zero => cases h
  | succ fuel ih =>
      cases sendLoop_succ h with
      | intro rest hrest =>
          rw [hrest.1]
          have hnext := hrest.2
          split at hnext
          · cases (ih hnext).2 with
            | intro d hd =>
                cases hd with
                | intro ds hd =>
                    refine ⟨List.forall_mem_cons.mpr ⟨rfl, (ih hnext).1⟩, _, rest, rfl, rfl, ?_⟩
                    rw [hd.1]
                    exact List.forall_mem_cons.mpr ⟨hd.2.1, hd.2.2⟩
          · rw [hnext]
            exact ⟨by simp, _, [], rfl, rfl, by simp⟩

-- From `pos` on, with the message up to `pos` gathered, the loop completes the message; what it may
-- send after the end, once `pos` has wrapped around, is ignored.
theorem sendLoop_gathered {msg : QByteArray} (hlen : msg.length < 2 ^ 32) (hnul : 0 ∉ msg)
    {fuel pos : Nat} (hpos : pos ≤ msg.length) {type : Atom} {es : List ClientMessage}
    (h : sendLoop a w msg fuel pos type = some es) {sofar : Option QByteArray}
    (hsofar : type = a.acceptAtom1 ∧ pos = 0 ∨
      type = a.acceptAtom2 ∧ sofar = some (msg.take pos)) :
    run (gatherStep a) sofar es = (none, [fromUtf8 msg]) := by
  induction fuel generalizing pos type es sofar with
  | zero => cases h
  | succ fuel ih =>
      have htype : type = a.acceptAtom1 ∨ type = a.acceptAtom2 :=
        hsofar.imp (fun hs => hs.1) (fun hs => hs.1)
      have hgather : ClientMessage.gather a { window := w, type, data8 := fragmentData msg pos } sofar =
          some (msg.take (pos + 20)) := by
        unfold ClientMessage.gather
        rw [buf_fragmentData hlen hnul hpos]
        cases hsofar with
        | inl hs =>
            rw [hs.1, hs.2]
            cases sofar with
            | none =>
                show (if a.acceptAtom1 = a.acceptAtom2 then none else some _) = _
                rw [if_neg a.distinct, List.drop_zero]
            | some bytes =>
                show (if a.acceptAtom1 = a.acceptAtom1 then some _ else _) = _
                rw [if_pos rfl, List.drop_zero]
        | inr hs =>
            rw [hs.1, hs.2]
            show (if a.acceptAtom2 = a.acceptAtom1 then _ else some (msg.take pos ++ _)) = _
            rw [if_neg a.distinct.symm, ← List.take_add]
      have hstep : gatherStep a sofar { window := w, type, data8 := fragmentData msg pos } =
          if msg.length - pos < 20 then (none, [fromUtf8 msg]) else (some (msg.take (pos + 20)), []) := by
        unfold gatherStep
        rw [if_pos (accepted_fragment w htype _), hgather, buf_fragmentData hlen hnul hpos]
        have htake : ((msg.drop pos).take 20).length < 20 ↔ msg.length - pos < 20 := by
          simp only [List.length_take, List.length_drop]
          omega
        dsimp only
        rw [if_congr htake rfl rfl]
        split
        · rw [List.take_of_length_le (by omega), cString_of_nul hnul]
        · rfl
      cases sendLoop_succ h with
      | intro rest hrest =>
          have hnext := hrest.2
          rw [hrest.1, run_cons, hstep]
          by_cases hlast : msg.length - pos < 20
          · -- The last fragment; a wrapped `pos` can only be followed by continuations.
            have hignored : run (gatherStep a) none rest = (none, []) := by
              apply run_continuations
              have hshape := (sendLoop_shape h).2
              rw [hrest.1] at hshape
              cases hshape with
              | intro d hd =>
                  cases hd with
                  | intro ds hd =>
                      rw [(List.cons.inj hd.1).2]
                      exact hd.2.2
            rw [if_pos hlast, hignored]
            rfl
          · have hnowrap : unsignedInt (pos + 20) = pos + 20 := unsignedInt_of_lt (by omega)
            rw [hnowrap, if_pos (by omega)] at hnext
            rw [if_neg hlast, ih (by omega) hnext (.inr ⟨rfl, rfl⟩)]
            rfl

/-! ## Termination of the sending loop -/

-- The loop ends at the latest when `pos` reaches `2 ^ 32 - 4`, the largest value it can take.
theorem sendLoop_ends {msg : QByteArray} (hlen : msg.length < 2 ^ 32 - 4) (n : Nat) {pos : Nat}
    (hpos : (pos + 20 * (n + 1)) % 2 ^ 32 = 2 ^ 32 - 4) (type : Atom) :
    ∃ es, sendLoop a w msg (n + 1) pos type = some es := by
  induction n generalizing pos type with
  | zero =>
      refine ⟨[{ window := w, type, data8 := fragmentData msg pos }], ?_⟩
      rw [sendLoop_eq, if_neg (by unfold unsignedInt; omega)]
  | succ n ih =>
      rw [sendLoop_eq]
      split
      · have hnext : (unsignedInt (pos + 20) + 20 * (n + 1)) % 2 ^ 32 = 2 ^ 32 - 4 := by
          unfold unsignedInt
          omega
        cases ih hnext a.acceptAtom2 with
        | intro es hes => exact ⟨_, by rw [hes]; rfl⟩
      · exact ⟨_, rfl⟩

-- `pos` stays a multiple of four and so never gets past a longer message.
theorem sendLoop_never_ends {msg : QByteArray} (hlen : 2 ^ 32 - 4 ≤ msg.length) (fuel : Nat) {pos : Nat}
    (hpos : pos % 4 = 0) (type : Atom) : sendLoop a w msg fuel pos type = none := by
  induction fuel generalizing pos type with
  | zero => rfl
  | succ fuel ih =>
      have hle : unsignedInt (pos + 20) ≤ msg.length := by
        unfold unsignedInt
        omega
      rw [sendLoop_eq, if_pos hle, ih (by unfold unsignedInt; omega)]
      rfl

/-! ## Senders -/

/-- The sender `w` sends the texts one after the other, and each sending loop ends. -/
def SendsAll (a : MessageAtoms) (w : WId) : List QString → List ClientMessage → Prop
  | [], es => es = []
  | t :: ts, es =>
      ∃ fuel now later, sendMessageInternal a w t fuel = some now ∧ SendsAll a w ts later ∧
        es = now ++ later

/-- What the receiver is for: every message of every sender comes out once, whole and in its
sender's order, for every interleaving of the senders' fragments; a receiver that starts in the
middle of a message of `w` hears nothing of that message and each later one of `w`. -/
structure Reassembled (a : MessageAtoms) (sends : WId → List QString) : Prop where
  sent : ∀ w, ∃ es, SendsAll a w (sends w) es
  received : ∀ es, (∀ w, SendsAll a w (sends w) (es.filter (·.window = w))) →
    (∀ w, emittedFor w (run (nativeEventFilter a) .empty es).2 = sends w) ∧
      ∀ w, (run (nativeEventFilter a) .empty es).1.find? w = none
  late : ∀ w before t after, sends w = before ++ t :: after →
    ∀ fuel missed rest later, sendMessageInternal a w t fuel = some (missed ++ rest) → missed ≠ [] →
      SendsAll a w after later → ∀ es, es.filter (·.window = w) = rest ++ later →
        emittedFor w (run (nativeEventFilter a) .empty es).2 = after

-- All that one sender sent, heard from the start.
theorem sendsAll_gathered {ts : List QString} {es : List ClientMessage}
    (hts : ∀ t ∈ ts, (toUtf8 t).length < 2 ^ 32 ∧ 0 ∉ toUtf8 t) (h : SendsAll a w ts es) :
    run (gatherStep a) none es = (none, ts.map fun t => fromUtf8 (toUtf8 t)) := by
  induction ts generalizing es with
  | nil =>
      rw [show es = [] from h]
      rfl
  | cons t ts ih =>
      obtain ⟨fuel, now, later, hnow, hlater, hes⟩ := h
      have ht := hts t (by simp)
      have hfirst : run (gatherStep a) none now = (none, [fromUtf8 (toUtf8 t)]) :=
        sendLoop_gathered ht.1 ht.2 (Nat.zero_le _) hnow (.inl ⟨rfl, rfl⟩)
      rw [hes, run_append, hfirst, ih (fun u hu => hts u (by simp [hu])) hlater]
      rfl

theorem sendsAll_exists {ts : List QString} (hts : ∀ t ∈ ts, (toUtf8 t).length < 2 ^ 32 - 4) :
    ∃ es, SendsAll a w ts es := by
  induction ts with
  | nil => exact ⟨[], rfl⟩
  | cons t ts ih =>
      have hend : (0 + 20 * (858993458 + 1)) % 2 ^ 32 = 2 ^ 32 - 4 := by decide
      have hnow := sendLoop_ends (a := a) (w := w) (hts t (by simp)) 858993458 hend a.acceptAtom1
      cases hnow with
      | intro now hnow =>
          cases ih fun u hu => hts u (by simp [hu]) with
          | intro later hlater => exact ⟨now ++ later, _, now, later, hnow, hlater, rfl⟩

theorem length_of_sendsAll {ts : List QString} {es : List ClientMessage} (h : SendsAll a w ts es) :
    ∀ t ∈ ts, (toUtf8 t).length < 2 ^ 32 - 4 := by
  induction ts generalizing es with
  | nil => simp
  | cons t ts ih =>
      obtain ⟨fuel, now, later, hnow, hlater, -⟩ := h
      rw [List.forall_mem_cons]
      refine ⟨?_, ih hlater⟩
      by_contra hlong
      rw [sendMessageInternal, sendLoop_never_ends (by omega) fuel (by rfl)] at hnow
      cases hnow

-- Nothing else is sent from the window of a sender.
theorem window_of_sendsAll {ts : List QString} {es : List ClientMessage} (h : SendsAll a w ts es) :
    ∀ e ∈ es, e.window = w := by
  induction ts generalizing es with
  | nil =>
      rw [show es = [] from h]
      exact List.forall_mem_nil _
  | cons t ts ih =>
      obtain ⟨fuel, now, later, hnow, hlater, rfl⟩ := h
      exact List.forall_mem_append.mpr ⟨(sendLoop_shape hnow).1, ih hlater⟩

theorem filter_other_window {es : List ClientMessage} {w : WId} (h : ∀ e ∈ es, e.window ≠ w) :
    es.filter (·.window = w) = [] :=
  List.filter_eq_nil_iff.mpr fun e he => by
    rw [decide_eq_true_iff]
    exact h e he

-- Finitely many senders can send one after the other.
theorem exists_interleaving {sends : WId → List QString} {senders : Finset WId}
    (hsenders : ∀ w, w ∉ senders → sends w = []) (hsent : ∀ w, ∃ es, SendsAll a w (sends w) es) :
    ∃ es : List ClientMessage, ∀ w, SendsAll a w (sends w) (es.filter (·.window = w)) := by
  choose f hf using hsent
  have hall : ∃ es : List ClientMessage, (∀ w ∈ senders, es.filter (·.window = w) = f w) ∧
      ∀ e ∈ es, e.window ∈ senders := by
    clear hsenders
    induction senders using Finset.induction_on with
    | empty => exact ⟨[], fun w hw => absurd hw (Finset.notMem_empty w), List.forall_mem_nil _⟩
    | insert v senders hv ih =>
        obtain ⟨es, hes, hmem⟩ := ih
        have hwindow := window_of_sendsAll (hf v)
        refine ⟨f v ++ es, fun w hw => ?_, List.forall_mem_append.mpr ⟨fun e he => ?_, fun e he => ?_⟩⟩
        · rw [List.filter_append]
          by_cases hwv : w = v
          · subst hwv
            rw [filter_other_window (w := w) fun e he heq => hv (heq ▸ hmem e he), List.append_nil]
            exact List.filter_eq_self.mpr fun e he => decide_eq_true (hwindow e he)
          · rw [filter_other_window (w := w) fun e he heq => hwv (heq.symm.trans (hwindow e he)), List.nil_append]
            exact hes w ((Finset.mem_insert.mp hw).resolve_left hwv)
        · rw [hwindow e he]
          exact Finset.mem_insert_self v senders
        · exact Finset.mem_insert_of_mem (hmem e he)
  obtain ⟨es, hes, hmem⟩ := hall
  refine ⟨es, fun w => ?_⟩
  by_cases hw : w ∈ senders
  · rw [hes w hw]
    exact hf w
  · rw [filter_other_window (w := w) fun e he heq => hw (heq ▸ hmem e he), hsenders w hw]
    rfl

theorem map_fromUtf8_toUtf8 {ts : List QString} :
    (ts.map fun t => fromUtf8 (toUtf8 t)) = ts ↔ ∀ t ∈ ts, t.head? ≠ some byteOrderMark := by
  have hsame : (ts.map fun t => fromUtf8 (toUtf8 t)) = ts.map id ↔ ∀ t ∈ ts, fromUtf8 (toUtf8 t) = id t :=
    List.map_inj_left
  rw [List.map_id] at hsame
  exact hsame.trans (forall₂_congr fun _ _ => fromUtf8_toUtf8)

/-- Texts without NUL, from finitely many senders, are reassembled exactly when each is shorter than `2 ^ 32 - 4`
bytes and does not begin with a byte order mark. -/
theorem reassembled_iff (a : MessageAtoms) (senders : Finset WId) (sends : WId → List QString)
    (hsenders : ∀ w, w ∉ senders → sends w = []) (hnul : ∀ w, ∀ t ∈ sends w, 0 ∉ toUtf8 t) :
    Reassembled a sends ↔
      ∀ w, ∀ t ∈ sends w, (toUtf8 t).length < 2 ^ 32 - 4 ∧ t.head? ≠ some byteOrderMark := by
  constructor
  · intro h w
    have hlen : ∀ w, ∀ t ∈ sends w, (toUtf8 t).length < 2 ^ 32 - 4 := fun w => by
      obtain ⟨es, hes⟩ := h.sent w
      exact length_of_sendsAll hes
    obtain ⟨es, hes⟩ := exists_interleaving hsenders h.sent
    have hfit : ∀ t ∈ sends w, (toUtf8 t).length < 2 ^ 32 ∧ 0 ∉ toUtf8 t := fun t ht =>
      ⟨by have := hlen w t ht; omega, hnul w t ht⟩
    have hemitted := (h.received es hes).1 w
    rw [(run_gather w .empty es).2, SortedMap.find?_empty, sendsAll_gathered hfit (hes w)] at hemitted
    exact fun t ht => ⟨hlen w t ht, map_fromUtf8_toUtf8.mp hemitted t ht⟩
  · intro hok
    have hfit : ∀ w, ∀ t ∈ sends w, (toUtf8 t).length < 2 ^ 32 ∧ 0 ∉ toUtf8 t := fun w t ht =>
      ⟨by have := (hok w t ht).1; omega, hnul w t ht⟩
    have hgathered : ∀ {w ts es}, ts ⊆ sends w → SendsAll a w ts es →
        run (gatherStep a) none es = (none, ts) := by
      intro w ts es hsub hes
      rw [sendsAll_gathered (fun t ht => hfit w t (hsub ht)) hes,
        map_fromUtf8_toUtf8.mpr fun t ht => (hok w t (hsub ht)).2]
    constructor
    · exact fun w => sendsAll_exists fun t ht => (hok w t ht).1
    · intro es hes
      have hrun : ∀ w, _ := fun w => hgathered (List.Subset.refl (sends w)) (hes w)
      constructor
      · intro w
        rw [(run_gather w .empty es).2, SortedMap.find?_empty, hrun w]
      · intro w
        rw [(run_gather w .empty es).1, SortedMap.find?_empty, hrun w]
    · intro w before t after hsends fuel missed rest later hsent hmissed hlater es hes
      have hignored : run (gatherStep a) none rest = (none, []) := by
        apply run_continuations
        cases (sendLoop_shape hsent).2 with
        | intro d hd =>
            cases hd with
            | intro ds hd =>
                cases missed with
                | nil => exact absurd rfl hmissed
                | cons m ms =>
                    have htail : ms ++ rest = ds := (List.cons.inj hd.1).2
                    exact fun e he => hd.2.2 e (htail ▸ List.mem_append_right ms he)
      have hafter : after ⊆ sends w := fun u hu => by simp [hsends, hu]
      rw [(run_gather w .empty es).2, SortedMap.find?_empty, hes, run_append, hignored,
        hgathered hafter hlater]
      rfl

theorem reassembled_short : Reassembled ⟨1, 2, by decide⟩ fun w =>
    if w = 7 then [[], "twenty bytes of text".toList] else [] :=
  (reassembled_iff ⟨1, 2, by decide⟩ {7} _ (fun w hw => if_neg (by simpa using hw)) fun w t ht => by
    by_cases hw : w = 7
    · rw [if_pos hw] at ht
      revert t
      decide
    · simp [hw] at ht).mpr fun w t ht => by
    by_cases hw : w = 7
    · rw [if_pos hw] at ht
      revert t
      decide
    · simp [hw] at ht

theorem toUtf8_replicate (n : Nat) : toUtf8 (List.replicate n 'a') = List.replicate n 97 := by
  induction n with
  | zero => rfl
  | succ n ih =>
      rw [List.replicate_succ, List.replicate_succ, ← ih]
      rfl

/-- A text of `2 ^ 32` letters keeps its sender sending for ever. -/
theorem reassembled_long : ¬ ∀ (a : MessageAtoms) (senders : Finset WId) (sends : WId → List QString),
    (∀ w, w ∉ senders → sends w = []) → (∀ w, ∀ t ∈ sends w, 0 ∉ toUtf8 t) → Reassembled a sends := by
  intro h
  have hsends := h ⟨1, 2, by decide⟩ {7}
    (fun w => if w = 7 then [List.replicate (2 ^ 32) 'a'] else []) (fun w hw => if_neg (by simpa using hw))
    fun w t ht => by
      by_cases hw : w = 7
      · rw [if_pos hw] at ht
        rw [List.mem_singleton.mp ht, toUtf8_replicate]
        exact fun hmem => absurd (List.eq_of_mem_replicate hmem) (by decide)
      · simp [hw] at ht
  cases hsends.sent 7 with
  | intro es hes =>
      have hlen := length_of_sendsAll hes (List.replicate (2 ^ 32) 'a') (List.mem_singleton.mpr rfl)
      rw [toUtf8_replicate, List.length_replicate] at hlen
      omega

end KWindowSystem
