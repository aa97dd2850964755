import KWindowSystem.NetWM.RootProtocol

/-!
# A window manager that grants every request

When the window manager answers each of its callbacks with the setter of the same name, and does nothing on
its own, all clients end up with the requests carried out one after another in the order in which they were
sent, whoever sent them and in whatever order messages and notifications were handled (`requests_granted`).
The request for a viewport is granted for the desktop that is the current one by then.
-/

open Machine

namespace KWindowSystem

open NET

namespace NETRootInfo

/-- The subclass that does what it is asked for. -/
def obey (_ : NETRootInfo) : RootSignal → List RootCall
  | .changeNumberOfDesktops numberOfDesktops => [.setNumberOfDesktops numberOfDesktops]
  | .changeCurrentDesktop desktop => [.setCurrentDesktop desktop]
  | .changeDesktopGeometry _ geom => [.setDesktopGeometry geom]
  | .changeDesktopViewport desktop viewport => [.setDesktopViewport desktop viewport]
  | .changeActiveWindow window src timestamp activeWindow =>
      [.setActiveWindow window src timestamp activeWindow]
  | .changeShowingDesktop showing => [.setShowingDesktop showing]
  | _ => []

namespace Announced

/-- A request is carried out. -/
def grant (a : Announced) : ClientRequest → Announced
  | .setNumberOfDesktops numberOfDesktops => a.call (.setNumberOfDesktops numberOfDesktops)
  | .setCurrentDesktop desktop _ => a.call (.setCurrentDesktop desktop)
  | .setDesktopGeometry geometry => a.call (.setDesktopGeometry geometry)
  | .setDesktopViewport _ viewport => a.call (.setDesktopViewport a.currentDesktop viewport)
  | .setActiveWindow window src timestamp activeWindow =>
      a.call (.setActiveWindow window src timestamp activeWindow)
  | .setShowingDesktop showing => a.call (.setShowingDesktop showing)
  | _ => a

/-- The call of a client, carried out. -/
def ask (a : Announced) (c : RootCall) : Announced :=
  match c.request? with
  | some r => a.grant r
  | none => if c.anyRole then a.call c else a

end Announced

/-- The calls of the clients, in the order in which they are made. -/
def asked {ι : Type} (es : List (Replicas.Event (Option ι) (RootEvent ι) (ι × Interest))) : List RootCall :=
  es.filterMap fun
    | .change (.call (some _) c) => some c
    | _ => none

/-- The window manager calls nothing on its own. -/
def OfClients {ι : Type} (es : List (Replicas.Event (Option ι) (RootEvent ι) (ι × Interest))) : Prop :=
  ∀ c, .change (.call none c) ∉ es

section Grant

variable {atoms : Atoms} {p : NETRootInfo}

-- A part that nobody asks for is apart.
theorem grant_write (a : Announced) (r : ClientRequest) {b : Branch}
    (hb : b = .desktopNames ∨ b = .desktopLayout) (v : Option b.Seen) :
    (a.write b v).grant r = (a.grant r).write b v := by
  have hne : ∀ b' : Branch, b' ≠ .desktopNames → b' ≠ .desktopLayout → b ≠ b' := by
    rintro b' hnames hlayout rfl
    exact hb.elim hnames hlayout
  cases r with
  | setNumberOfDesktops n =>
      have hnumber := hne .numberOfDesktops (by decide) (by decide)
      exact Announced.write_comm { a with numberOfDesktops := n } hnumber v _
  | setCurrentDesktop desktop ignore =>
      have hcurrent := hne .currentDesktop (by decide) (by decide)
      exact Announced.write_comm { a with currentDesktop := desktop } hcurrent v _
  | setDesktopGeometry geometry =>
      exact Announced.write_comm a (hne .desktopGeometry (by decide) (by decide)) v _
  | setDesktopViewport desktop viewport =>
      have hviewport := hne .desktopViewport (by decide) (by decide)
      simp only [Announced.grant, Announced.call]
      by_cases hcurrent : a.currentDesktop < 1
      · rw [if_pos hcurrent]
        exact if_pos hcurrent
      · rw [if_neg hcurrent]
        exact (if_neg hcurrent).trans (Announced.write_comm { a with viewport := _ } hviewport v _)
  | setActiveWindow window src timestamp activeWindow =>
      exact Announced.write_comm a (hne .activeWindow (by decide) (by decide)) v _
  | setShowingDesktop showing =>
      exact Announced.write_comm a (hne .showingDesktop (by decide) (by decide)) v _
  | _ => rfl

theorem grants_call (rs : List ClientRequest) (a : Announced) {c : RootCall} (hc : c.anyRole = true) :
    rs.foldl Announced.grant (a.call c) = (rs.foldl Announced.grant a).call c := by
  have hone : ∀ (a : Announced) r, (a.call c).grant r = (a.grant r).call c := by
    intro a r
    cases c with
    | setDesktopName desktop name => exact grant_write a r (.inl rfl) none
    | setDesktopLayout orientation columns rows corner =>
        exact grant_write a r (.inr rfl) (some ((orientation, corner), columns, rows))
    | _ => cases hc
  induction rs generalizing a with
  | nil => rfl
  | cons r rs ih => rw [List.foldl_cons, hone, ih, List.foldl_cons]

variable (atoms) in
-- The window manager carries out the request that a message was sent for.
theorem answer_obey {a : Announced} (hp : p.role = .windowManager) (hkeeps : Keeps a p) (s : RootWindow)
    {r : ClientRequest} {c : RootCall} (hr : c.request? = some r) (root : XcbWindow) :
    (answer atoms obey s p (messageOf atoms root r)).foldl Announced.call a = a.grant r := by
  have hanswer : answer atoms obey s p (messageOf atoms root r) =
      (p.clientMessage atoms (r.subject root) (atoms.atom r.name) r.words).2.flatMap (obey p) := by
    simp only [answer, NETRootInfo.event, hp, and_self, if_true, messageOf]
  rw [hanswer]
  cases c with
  | setDesktopViewport desktop viewport =>
      simp only [RootCall.request?] at hr
      split at hr
      · cases hr
      · cases hr
        simp [clientMessage, ClientRequest.name, ClientRequest.words, Atoms.atom_inj, obey, Announced.grant,
          hkeeps.currentDesktop]
  | setCurrentDesktop desktop =>
      cases hr
      have hword := Desktop.currentDesktop_word desktop
      simp only [clientMessage, ClientRequest.name, ClientRequest.words, Atoms.atom_inj, reduceCtorEq, if_false,
        if_true]
      show a.call (.setCurrentDesktop ((desktop - 1).toUInt32 + 1).toInt32) = _
      rw [hword]
      rfl
  | setShowingDesktop showing =>
      cases hr
      cases showing <;>
        simp [clientMessage, ClientRequest.name, ClientRequest.words, Atoms.atom_inj, obey, Announced.grant]
  | setDesktopName | setWorkArea | setDesktopLayout | setList => cases hr
  | _ =>
      cases hr
      simp [clientMessage, ClientRequest.name, ClientRequest.words, ClientRequest.subject, Atoms.atom_inj, obey,
        Announced.grant, Desktop.requestSource_value]

variable (atoms) in
theorem perform_quiet {c : RootCall} (h : p.role = .windowManager ∨ c.anyRole = true) :
    (c.perform atoms p).2.filterMap Outgoing.message? = [] := by
  cases c with
  | setDesktopName desktop name =>
      simp only [RootCall.perform, NETRootInfo.setDesktopName, NETRootInfo.ofChange]
      split <;> rfl
  | setDesktopLayout orientation columns rows corner => rfl
  | setDesktopViewport desktop viewport =>
      have hrole := h.resolve_right Bool.false_ne_true
      simp only [RootCall.perform, NETRootInfo.setDesktopViewport, if_pos hrole]
      split <;> rfl
  | setWorkArea desktop area =>
      simp only [RootCall.perform, NETRootInfo.setWorkArea]
      split <;> rfl
  | setList list windows =>
      have hrole := h.resolve_right Bool.false_ne_true
      cases list <;>
        simp only [RootCall.perform, RootList.set, NETRootInfo.ofChange, NETRootInfo.setClientList,
          NETRootInfo.setClientListStacking, NETRootInfo.setVirtualRoots, if_neg (not_not.mpr hrole)] <;>
        rfl
  | _ =>
      have hrole := h.resolve_right Bool.false_ne_true
      simp only [RootCall.perform, NETRootInfo.setNumberOfDesktops, NETRootInfo.setCurrentDesktop,
        NETRootInfo.setDesktopGeometry, NETRootInfo.setActiveWindow, NETRootInfo.setShowingDesktop,
        if_pos hrole]
      rfl

end Grant

/-! ## Runs -/

section Runs

variable {ι : Type} [DecidableEq ι] {atoms : Atoms} {root : XcbWindow}

-- The window manager sends no messages.
theorem callings_mail (calls : List RootCall) {s : RootWindow × Objects ι} (hs : ∀ j, Party root j (s.2 j)) :
    (run (calling atoms none) s calls).1.1.mail = s.1.mail := by
  let P := fun t : RootWindow × Objects ι => (∀ j, Party root j (t.2 j)) ∧ t.1.mail = s.1.mail
  have hstep : ∀ t c, P t → True → P (calling atoms none t c).1 := by
    intro t c ht _
    refine ⟨calling_parties atoms ht.1 none c, ?_⟩
    have hquiet := perform_quiet atoms (c := c) (.inl (ht.1 none).role)
    show t.1.mail ++ (c.perform atoms (t.2 none)).2.filterMap Outgoing.message? = _
    rw [hquiet, List.append_nil, ht.2]
  exact (run_invariant P hstep ⟨hs, rfl⟩ (along_true s calls)).2

omit [DecidableEq ι] in
theorem foldl_note (a : Announced) (calls : List RootCall) :
    (calls.map fun c => ((none : Option ι), c)).foldl Announced.note a = calls.foldl Announced.call a := by
  rw [List.foldl_map]
  rfl

/-- Carrying out what is waiting gives what was asked for. -/
structure Granted (atoms : Atoms) (root : XcbWindow) (a goal : Announced)
    (s : Replicas.State (Option ι) RootWindow NETRootInfo XcbAtom) : Prop where
  agrees : Agrees atoms root a (s.store, s.copies)
  waiting : ∃ waiting : List ClientRequest, s.store.mail = waiting.map (messageOf atoms root) ∧
    (∀ r ∈ waiting, ∃ c : RootCall, c.request? = some r) ∧ goal = waiting.foldl Announced.grant a

theorem granted_step {a goal : Announced} {s : Replicas.State (Option ι) RootWindow NETRootInfo XcbAtom}
    (h : Granted atoms root a goal s) (e : Replicas.Event (Option ι) (RootEvent ι) (ι × Interest))
    (he : ∀ c, e ≠ .change (.call none c)) :
    Granted atoms root (((protocol atoms root obey).step s e).2.foldl Announced.note a)
      ((asked [e]).foldl Announced.ask goal) ((protocol atoms root obey).step s e).1 := by
  rcases h.waiting with ⟨waiting, hmail, hkind, hgoal⟩
  refine ⟨agrees_step h.agrees e, ?_⟩
  cases e with
  | change e =>
      cases e with
      | call party c =>
          cases party with
          | none => exact absurd rfl (he c)
          | some i =>
              have hparty := h.agrees.parties (some i)
              have hcall : ((protocol atoms root obey).step s (.change (.call (some i) c))).1.store.mail =
                  s.store.mail ++ (c.perform atoms (s.copies (some i))).2.filterMap Outgoing.message? := rfl
              show ∃ waiting : List ClientRequest, _ = _ ∧ _ ∧ goal.ask c =
                waiting.foldl Announced.grant (if c.anyRole then a.call c else a)
              rw [hcall]
              cases hc : c.anyRole with
              | true =>
                  have hrequest : c.request? = none := by
                    cases c <;> first | rfl | cases hc
                  have hquiet := perform_quiet atoms (p := s.copies (some i)) (.inr hc)
                  refine ⟨waiting, ?_, hkind, ?_⟩
                  · rw [hquiet, List.append_nil, hmail]
                  · unfold Announced.ask
                    rw [hrequest, hgoal]
                    dsimp only
                    rw [if_pos hc, if_pos rfl, grants_call waiting a hc]
              | false =>
                  rw [c.perform_request atoms hparty.role hc, if_neg Bool.false_ne_true]
                  unfold Announced.ask
                  cases hrequest : c.request? with
                  | none =>
                      refine ⟨waiting, ?_, hkind, ?_⟩
                      · rw [← hmail]
                        exact List.append_nil _
                      · dsimp only
                        rw [hc, if_neg Bool.false_ne_true]
                        exact hgoal
                  | some r =>
                      refine ⟨waiting ++ [r], ?_, ?_, ?_⟩
                      · rw [List.map_append, ← hmail]
                        have hroot := hparty.root_eq
                        rw [hroot]
                        rfl
                      · intro r' hr'
                        rcases List.mem_append.mp hr' with hr' | hr'
                        · exact hkind r' hr'
                        · rw [List.mem_singleton.mp hr']
                          exact ⟨c, hrequest⟩
                      · rw [List.foldl_append, ← hgoal]
                        rfl
      | deliver =>
          simp only [Replicas.System.step, protocol]
          cases hwaiting : waiting with
          | nil =>
              rw [hwaiting] at hmail hgoal
              rw [hmail]
              exact ⟨[], hmail, List.forall_mem_nil _, hgoal⟩
          | cons r rest =>
              rw [hwaiting] at hmail hkind hgoal
              rw [hmail]
              rcases hkind r List.mem_cons_self with ⟨c, hc⟩
              have hmanager := h.agrees.parties none
              have hanswer := answer_obey atoms hmanager.role h.agrees.keeps s.store hc root
              refine ⟨rest, ?_, fun r' hr' => hkind r' (List.mem_cons_of_mem _ hr'), ?_⟩
              · exact callings_mail (s := ({ s.store with mail := _ }, s.copies)) _ h.agrees.parties
              · rw [List.map_cons]
                dsimp only
                rw [foldl_note, hanswer]
                exact hgoal
  | handle i =>
      simp only [Replicas.System.step, protocol]
      split <;> exact ⟨waiting, hmail, hkind, hgoal⟩
  | join v => exact ⟨waiting, hmail, hkind, hgoal⟩

theorem granted_run {a goal : Announced} {s : Replicas.State (Option ι) RootWindow NETRootInfo XcbAtom}
    (h : Granted atoms root a goal s) {es : List (Replicas.Event (Option ι) (RootEvent ι) (ι × Interest))}
    (hes : OfClients es) :
    Granted atoms root ((run (protocol atoms root obey).step s es).2.foldl Announced.note a)
      ((asked es).foldl Announced.ask goal) (run (protocol atoms root obey).step s es).1 := by
  induction es generalizing s a goal with
  | nil => exact h
  | cons e es ih =>
      have hnow := granted_step h e fun c he => hes c (he ▸ List.mem_cons_self)
      have hrest := ih hnow fun c hc => hes c (List.mem_cons_of_mem _ hc)
      have hasked : asked (e :: es) = asked [e] ++ asked es := by
        rw [← List.singleton_append, asked, List.filterMap_append]; rfl
      rw [run_cons, List.foldl_append, hasked, List.foldl_append]
      exact hrest

/-- When all messages are handled, a client that has handled its notifications has the requests of all
clients carried out in the order in which they were made. -/
theorem requests_granted (display : Display) (manager : ManagerArguments) (interests : ι → Interest)
    {es : List (Replicas.Event (Option ι) (RootEvent ι) (ι × Interest))} (hes : OfClients es)
    (hmail : (session atoms root obey display manager interests es).1.store.mail = []) {j : Option ι}
    (hpending : (session atoms root obey display manager interests es).1.pending j = []) {b : Branch}
    (hasked : b.asked ((session atoms root obey display manager interests es).1.copies j) = true)
    {v : b.Seen} (htold : ((asked es).foldl Announced.ask Announced.start).told b = some v) :
    b.seen ((session atoms root obey display manager interests es).1.copies j) = v := by
  have hstart : Granted atoms root Announced.start Announced.start
      (opened atoms root obey display manager interests) :=
    ⟨agrees_opened display manager interests, [], rfl, List.forall_mem_nil _, rfl⟩
  have hgranted := granted_run hstart hes
  rcases hgranted.waiting with ⟨waiting, hwaiting, _, hgoal⟩
  have hnone : waiting = [] := List.map_eq_nil_iff.mp (hwaiting.symm.trans hmail)
  rw [hgoal, hnone] at htold
  exact seen_of_told hpending hasked hgranted.agrees htold

end Runs

/-- Two clients ask for three desktops, for the second of them and for a viewport, all before the window
manager gets to the first request. -/
def threeRequests : List (Replicas.Event (Option Bool) (RootEvent Bool) (Bool × Interest)) :=
  [.change (.call (some false) (.setNumberOfDesktops 3)), .change (.call (some true) (.setCurrentDesktop 2)),
    .change (.call (some false) (.setDesktopViewport 1 ⟨800, 0⟩)), .change .deliver, .handle (some true),
    .change .deliver, .change .deliver, .handle (some true), .handle (some true)]

-- The viewport is that of the second desktop, though the first one was asked for.
theorem requests_granted_three :
    Branch.seen .desktopViewport ((session .inOrder 1 obey (fun _ _ => none) exampleArguments
      (fun _ => exampleInterest) threeRequests).1.copies (some true)) =
        shownViewport (Function.update (fun _ => default) 1 ⟨800, 0⟩) 3 :=
  requests_granted _ _ _ (fun _ h => by simp [threeRequests] at h) (by decide +kernel) (by decide +kernel)
    (by decide +kernel) (by rfl)

end NETRootInfo

end KWindowSystem
