import KWindowSystem.Lib.Machine

/-!
# Batch — requests sent together, replies read afterwards

A component first sends every request that its branches want and then reads the replies one branch
after the other, each taking its own from what the branches before it have left.  The replies carry
no name: that a branch reads the answers to its own requests (`receive_send`) depends on both phases
going through the branches in one order and wanting the same ones.
-/

open Machine

namespace Batch

variable {β Req Rep σ ω : Type*}

/-- The sending phase: the requests of the wanted branches, in order. -/
def send (branches : List (Bool × List Req)) : List Req :=
  branches.flatMap fun b => if b.1 then b.2 else []

/-- The reading phase of a branch takes `arity` replies, if it is wanted at all. -/
structure Reader (β Rep σ ω : Type*) where
  wanted : β → Bool
  arity : β → Nat
  read : β → List Rep → σ → σ × List ω

namespace Reader

def receive (r : Reader β Rep σ ω) : List β → List Rep → σ → σ × List ω
  | [], _, s => (s, [])
  | b :: bs, replies, s =>
      if r.wanted b then
        let now := r.read b (replies.take (r.arity b)) s
        let rest := r.receive bs (replies.drop (r.arity b)) now.1
        (rest.1, now.2 ++ rest.2)
      else r.receive bs replies s

/-- A branch that reads the answers to its own requests. -/
def step (r : Reader β Rep σ ω) (requests : β → List Req) (answer : Req → Rep) (s : σ) (b : β) :
    σ × List ω :=
  if r.wanted b then r.read b ((requests b).map answer) s else (s, [])

theorem receive_send (r : Reader β Rep σ ω) {requests : β → List Req}
    (harity : ∀ b, (requests b).length = r.arity b) (answer : Req → Rep) (bs : List β) (s : σ) :
    r.receive bs ((send (bs.map fun b => (r.wanted b, requests b))).map answer) s =
      run (r.step requests answer) s bs := by
  induction bs generalizing s with
  | nil => rfl
  | cons b bs ih =>
      have hlen : ((requests b).map answer).length = r.arity b := by rw [List.length_map, harity]
      rw [run_cons, receive, step]
      by_cases h : r.wanted b = true
      · -- The replies begin with those to the branch's own requests.
        have hsend : (send ((b :: bs).map fun b => (r.wanted b, requests b))).map answer =
            (requests b).map answer ++
              (send (bs.map fun b => (r.wanted b, requests b))).map answer := by
          rw [List.map_cons, send, List.flatMap_cons, if_pos h, List.map_append, send]
        rw [if_pos h, if_pos h, hsend, List.take_left' hlen, List.drop_left' hlen]
        dsimp only
        rw [ih]
      · have hsend : send ((b :: bs).map fun b => (r.wanted b, requests b)) =
            send (bs.map fun b => (r.wanted b, requests b)) := by
          rw [List.map_cons, send, List.flatMap_cons, if_neg h, List.nil_append, send]
        rw [if_neg h, if_neg h, hsend, ih, List.nil_append]

section Unwanted

variable (r : Reader β Rep σ ω) (requests : β → List Req) (answer : Req → Rep)

theorem run_of_unwanted {bs : List β} (hbs : ∀ b ∈ bs, r.wanted b = false) (s : σ) :
    run (r.step requests answer) s bs = (s, []) := by
  induction bs with
  | nil => rfl
  | cons b bs ih =>
      have hstep : r.step requests answer s b = (s, []) := by
        unfold step
        rw [if_neg (Bool.eq_false_iff.mp (hbs b List.mem_cons_self))]
      rw [run_cons, hstep, ih fun b' h => hbs b' (List.mem_cons_of_mem _ h)]
      rfl

-- A run in which one branch at most is wanted does what that branch does, or nothing.
theorem run_of_atMostOne {bs : List β} (hnodup : bs.Nodup) {b₀ : β}
    (hbs : ∀ b ∈ bs, r.wanted b = true → b = b₀) (s : σ) :
    (run (r.step requests answer) s bs).1 = s ∨
      (run (r.step requests answer) s bs).1 = (r.read b₀ ((requests b₀).map answer) s).1 := by
  induction bs with
  | nil => exact Or.inl rfl
  | cons b bs ih =>
      rw [List.nodup_cons] at hnodup
      rw [run_cons, step]
      by_cases h : r.wanted b = true
      · have hb : b = b₀ := hbs b List.mem_cons_self h
        -- The branch is not there a second time.
        have hrest : ∀ b' ∈ bs, r.wanted b' = false := by
          intro b' hmem
          apply Bool.eq_false_iff.mpr
          intro hwanted
          have hb' := hbs b' (List.mem_cons_of_mem _ hmem) hwanted
          rw [hb', ← hb] at hmem
          exact hnodup.1 hmem
        rw [if_pos h, run_of_unwanted r requests answer hrest, hb]
        exact Or.inr rfl
      · rw [if_neg h]
        exact ih hnodup.2 fun b' hmem => hbs b' (List.mem_cons_of_mem _ hmem)

end Unwanted

section View

variable {γ : Type*} (r : Reader β Rep σ ω) (requests : β → List Req) (answer : Req → Rep)
  (view : σ → γ) (b₀ : β)

theorem view_run_of_notMem (hframe : ∀ b replies s, b ≠ b₀ → view (r.read b replies s).1 = view s)
    {bs : List β} (hbs : b₀ ∉ bs) (s : σ) :
    view (run (r.step requests answer) s bs).1 = view s := by
  induction bs generalizing s with
  | nil => rfl
  | cons b bs ih =>
      rw [List.mem_cons, not_or] at hbs
      rw [run_cons, ih hbs.2, step]
      split
      · exact hframe b _ s (Ne.symm hbs.1)
      · rfl

-- What only the branch `b₀` writes, and from itself and the replies, a run over branches in any
-- order makes of it what `b₀` alone does.
theorem view_run (hframe : ∀ b replies s, b ≠ b₀ → view (r.read b replies s).1 = view s)
    (hown : ∀ replies s s', view s = view s' →
      view (r.read b₀ replies s).1 = view (r.read b₀ replies s').1)
    {bs : List β} (hnodup : bs.Nodup) (hmem : b₀ ∈ bs) (s : σ) :
    view (run (r.step requests answer) s bs).1 = view (r.step requests answer s b₀).1 := by
  induction bs generalizing s with
  | nil => nomatch hmem
  | cons b bs ih =>
      rw [List.nodup_cons] at hnodup
      rw [run_cons]
      by_cases hb : b₀ = b
      · rw [hb]
        exact view_run_of_notMem r requests answer view b (hb ▸ hframe) hnodup.1 _
      · -- The branch before leaves the view as it is.
        have hmem := (List.mem_cons.mp hmem).resolve_left hb
        have hsame : view (r.step requests answer s b).1 = view s := by
          unfold step
          split
          · exact hframe b _ s (Ne.symm hb)
          · rfl
        rw [ih hnodup.2 hmem]
        unfold step at hsame ⊢
        split
        · exact hown _ _ _ hsame
        · exact hsame

end View

/-! ## The counter -/

/-- A reply that a branch takes: the `nth` of its own, at `number` among all. -/
structure Taken (β : Type*) where
  branch : β
  nth : Nat
  number : Nat

/-- The reading phase with its counter and the replies that were taken. -/
structure Reading (β σ ω : Type*) where
  counter : Nat
  taken : List (Taken β)
  state : σ
  signals : List ω

/-- The reading phase on numbered replies, from a value of the counter on. -/
def readFrom (r : Reader β Rep σ ω) (answer : Nat → Rep) : List β → Nat → σ → Reading β σ ω
  | [], c, s => ⟨c, [], s, []⟩
  | b :: bs, c, s =>
      if r.wanted b then
        let now := r.read b ((List.range' c (r.arity b)).map answer) s
        let rest := r.readFrom answer bs (c + r.arity b) now.1
        { rest with
          taken := (List.range (r.arity b)).map (fun i => ⟨b, i, c + i⟩) ++ rest.taken
          signals := now.2 ++ rest.signals }
      else r.readFrom answer bs c s

/-- The replies that a branch has taken. -/
def Reading.own [DecidableEq β] (reading : Reading β σ ω) (answer : Nat → Rep) (b : β) : List Rep :=
  reading.taken.filterMap fun t => if t.branch = b then some (answer t.number) else none

/-- The replies are taken one after the other to the last, each by the branch that its request is for. -/
structure Reading.Paired (reading : Reading β σ ω) (requests : List Req) (requestsOf : β → List Req) :
    Prop where
  numbers : reading.taken.map (·.number) = List.range requests.length
  requested : ∀ t ∈ reading.taken, ∃ request,
    requests[t.number]? = some request ∧ (requestsOf t.branch)[t.nth]? = some request

-- One more request, and its reply taken.
theorem Reading.Paired.concat {reading : Reading β σ ω} {requests : List Req}
    {requestsOf : β → List Req} (h : reading.Paired requests requestsOf) {b : β} {request : Req}
    (hb : requestsOf b = [request]) (s : σ) :
    Paired { reading with taken := reading.taken ++ [⟨b, 0, requests.length⟩], state := s }
      (requests ++ [request]) requestsOf where
  numbers := by
    rw [List.map_append, h.numbers, List.length_append, List.length_singleton, List.range_succ]
    rfl
  requested := by
    intro t ht
    rcases List.mem_append.mp ht with ht | ht
    · rcases h.requested t ht with ⟨request', hsent, hown⟩
      exact ⟨request', (List.getElem?_append_left (List.getElem?_eq_some_iff.mp hsent).1).trans hsent, hown⟩
    · rw [List.mem_singleton.mp ht]
      refine ⟨request, ?_, by rw [hb]; rfl⟩
      rw [List.getElem?_append_right (Nat.le_refl _), Nat.sub_self]
      rfl

-- Numbered replies that answer the requests are the list of the answers.
theorem map_answer {requests : List Req} {answer : Nat → Rep} {answerTo : Req → Rep}
    (h : ∀ k request, requests[k]? = some request → answer k = answerTo request) :
    (List.range requests.length).map answer = requests.map answerTo := by
  apply List.ext_getElem
  · rw [List.length_map, List.length_map, List.length_range]
  · intro k hk hk'
    rw [List.length_map] at hk'
    rw [List.getElem_map, List.getElem_map, List.getElem_range]
    exact h k _ (List.getElem?_eq_getElem hk')

section Counter

variable (r : Reader β Rep σ ω) (answer : Nat → Rep)

theorem readFrom_append (bs bs' : List β) (c : Nat) (s : σ) :
    let first := r.readFrom answer bs c s
    let rest := r.readFrom answer bs' first.counter first.state
    r.readFrom answer (bs ++ bs') c s =
      ⟨rest.counter, first.taken ++ rest.taken, rest.state, first.signals ++ rest.signals⟩ := by
  induction bs generalizing c s with
  | nil => rfl
  | cons b bs ih =>
      dsimp only at ih ⊢
      rw [List.cons_append, readFrom, readFrom]
      split
      · dsimp only
        rw [ih, List.append_assoc, List.append_assoc]
      · exact ih c s

-- Readers that agree on the branches read the same.
theorem readFrom_congr {r' : Reader β Rep σ ω} {bs : List β}
    (h : ∀ b ∈ bs, r.wanted b = r'.wanted b ∧ r.arity b = r'.arity b ∧ r.read b = r'.read b)
    (c : Nat) (s : σ) : r.readFrom answer bs c s = r'.readFrom answer bs c s := by
  induction bs generalizing c s with
  | nil => rfl
  | cons b bs ih =>
      rcases h b List.mem_cons_self with ⟨hwanted, harity, hread⟩
      have hrest := ih fun b' hmem => h b' (List.mem_cons_of_mem _ hmem)
      rw [readFrom, readFrom, hwanted, harity, hread]
      split
      · dsimp only
        rw [hrest]
      · exact hrest c s

theorem send_cons (b : Bool × List Req) (bs : List (Bool × List Req)) :
    send (b :: bs) = (if b.1 then b.2 else []) ++ send bs := List.flatMap_cons

section Requests

variable {requests : β → List Req} (harity : ∀ b, (requests b).length = r.arity b)
include harity

theorem readFrom_eq_receive (bs : List β) (c : Nat) (s : σ) :
    let sent := send (bs.map fun b => (r.wanted b, requests b))
    ((r.readFrom answer bs c s).state, (r.readFrom answer bs c s).signals) =
      r.receive bs ((List.range' c sent.length).map answer) s := by
  induction bs generalizing c s with
  | nil => rfl
  | cons b bs ih =>
      dsimp only
      rw [List.map_cons, send_cons, readFrom, receive]
      by_cases h : r.wanted b = true
      · have hlen : ((List.range' c (r.arity b)).map answer).length = r.arity b := by
          rw [List.length_map, List.length_range']
        rw [if_pos h, if_pos h, if_pos h, List.length_append, harity, ← List.range'_append_1,
          List.map_append, List.take_left' hlen, List.drop_left' hlen]
        dsimp only
        rw [← ih]
      · rw [if_neg h, if_neg h, if_neg h, List.nil_append]
        exact ih c s

-- The counter follows the requests of the wanted branches.
theorem counter_readFrom (bs : List β) (c : Nat) (s : σ) :
    let sent := send (bs.map fun b => (r.wanted b, requests b))
    (r.readFrom answer bs c s).counter = c + sent.length ∧
      (r.readFrom answer bs c s).taken.map (·.number) = List.range' c sent.length := by
  induction bs generalizing c s with
  | nil => exact ⟨rfl, rfl⟩
  | cons b bs ih =>
      rw [List.map_cons, readFrom]
      dsimp only
      rw [send_cons]
      by_cases h : r.wanted b = true
      · rw [if_pos h, if_pos h, List.length_append, harity]
        have hrest := ih (c + r.arity b) (r.read b ((List.range' c (r.arity b)).map answer) s).1
        dsimp only at hrest ⊢
        apply And.intro
        · rw [hrest.1, Nat.add_assoc]
        · rw [List.map_append, hrest.2, List.map_map, ← List.range'_append_1]
          congr 1
          exact List.range'_eq_map_range.symm
      · rw [if_neg h, if_neg h, List.nil_append]
        exact ih c s

theorem requested_readFrom (bs : List β) (c : Nat) (s : σ) :
    ∀ t ∈ (r.readFrom answer bs c s).taken, ∃ k request, t.number = c + k ∧
      (send (bs.map fun b => (r.wanted b, requests b)))[k]? = some request ∧
        (requests t.branch)[t.nth]? = some request := by
  induction bs generalizing c s with
  | nil => exact fun t ht => nomatch ht
  | cons b bs ih =>
      rw [List.map_cons, readFrom, send_cons]
      by_cases h : r.wanted b = true
      · rw [if_pos h, if_pos h]
        intro t ht
        rcases List.mem_append.mp ht with ht | ht
        · rcases List.mem_map.mp ht with ⟨i, hi, heq⟩
          have hlt : i < (requests b).length := by
            rw [harity]
            exact List.mem_range.mp hi
          rw [← heq]
          refine ⟨i, (requests b)[i], rfl, ?_, List.getElem?_eq_getElem hlt⟩
          rw [List.getElem?_append_left hlt, List.getElem?_eq_getElem hlt]
        · rcases ih _ _ t ht with ⟨k, request, hnumber, hsent, hown⟩
          refine ⟨r.arity b + k, request, by rw [hnumber, Nat.add_assoc], ?_, hown⟩
          rw [← harity b, List.getElem?_append_right (Nat.le_add_right _ _), Nat.add_sub_cancel_left]
          exact hsent
      · rw [if_neg h, if_neg h, List.nil_append]
        exact ih c s

theorem paired_readFrom (bs : List β) (s : σ) :
    (r.readFrom answer bs 0 s).Paired (send (bs.map fun b => (r.wanted b, requests b))) requests where
  numbers := (r.counter_readFrom answer harity bs 0 s).2.trans (List.range_eq_range').symm
  requested := by
    intro t ht
    rcases r.requested_readFrom answer harity bs 0 s t ht with ⟨k, request, hnumber, hsent, hown⟩
    rw [Nat.zero_add] at hnumber
    exact ⟨request, hnumber ▸ hsent, hown⟩

end Requests

section Own

variable {γ : Type*} (view : σ → γ)

-- Only the wanted branches touch the state.
theorem view_readFrom_of_frame {bs : List β}
    (hframe : ∀ b ∈ bs, r.wanted b = true → ∀ replies s, view (r.read b replies s).1 = view s)
    (c : Nat) (s : σ) : view (r.readFrom answer bs c s).state = view s := by
  induction bs generalizing c s with
  | nil => rfl
  | cons b bs ih =>
      have hrest := fun c s => ih (fun b' h => hframe b' (List.mem_cons_of_mem _ h)) c s
      rw [readFrom]
      split
      · rename_i h
        exact (hrest _ _).trans (hframe b List.mem_cons_self h _ _)
      · exact hrest c s

theorem branch_of_taken (bs : List β) (c : Nat) (s : σ) :
    ∀ t ∈ (r.readFrom answer bs c s).taken, t.branch ∈ bs := by
  induction bs generalizing c s with
  | nil => exact fun t ht => nomatch ht
  | cons b bs ih =>
      rw [readFrom]
      split
      · intro t ht
        rcases List.mem_append.mp ht with ht | ht
        · rcases List.mem_map.mp ht with ⟨i, _, heq⟩
          rw [← heq]
          exact List.mem_cons_self
        · exact List.mem_cons_of_mem _ (ih _ _ t ht)
      · exact fun t ht => List.mem_cons_of_mem _ (ih c s t ht)

variable [DecidableEq β]

theorem own_of_notMem {b₀ : β} {bs : List β} (hbs : b₀ ∉ bs) (c : Nat) (s : σ) :
    (r.readFrom answer bs c s).own answer b₀ = [] := by
  apply List.filterMap_eq_nil_iff.mpr
  intro t ht
  apply if_neg
  intro hb
  exact hbs (hb ▸ r.branch_of_taken answer bs c s t ht)

theorem own_cons_self {b₀ : β} {bs : List β} (hbs : b₀ ∉ bs) (h : r.wanted b₀ = true) (c : Nat) (s : σ) :
    (r.readFrom answer (b₀ :: bs) c s).own answer b₀ = (List.range' c (r.arity b₀)).map answer := by
  have hrest := r.own_of_notMem answer hbs (c + r.arity b₀)
    (r.read b₀ ((List.range' c (r.arity b₀)).map answer) s).1
  rw [readFrom, if_pos h]
  unfold Reading.own at hrest ⊢
  dsimp only
  rw [List.filterMap_append, hrest, List.append_nil, List.filterMap_map, List.range'_eq_map_range,
    List.map_map, ← List.filterMap_eq_map]
  apply List.filterMap_congr
  intro i _
  exact if_pos rfl

theorem own_cons_of_ne {b b₀ : β} (hb : b ≠ b₀) (h : r.wanted b = true) (bs : List β) (c : Nat) (s : σ) :
    (r.readFrom answer (b :: bs) c s).own answer b₀ =
      (r.readFrom answer bs (c + r.arity b)
        (r.read b ((List.range' c (r.arity b)).map answer) s).1).own answer b₀ := by
  have hfirst : ((List.range (r.arity b)).map fun i => (⟨b, i, c + i⟩ : Taken β)).filterMap
      (fun t => if t.branch = b₀ then some (answer t.number) else none) = [] := by
    apply List.filterMap_eq_nil_iff.mpr
    intro t ht
    rcases List.mem_map.mp ht with ⟨i, _, heq⟩
    rw [← heq]
    exact if_neg hb
  rw [readFrom, if_pos h]
  unfold Reading.own
  dsimp only
  rw [List.filterMap_append, hfirst, List.nil_append]

-- A branch comes to its replies in the state that the branches before it have made.
theorem view_readFrom {b₀ : β} (hframe : ∀ b replies s, b ≠ b₀ → view (r.read b replies s).1 = view s)
    {bs : List β} (hnodup : bs.Nodup) (hmem : b₀ ∈ bs) (c : Nat) (s : σ) :
    let reading := r.readFrom answer bs c s
    let before := r.readFrom answer (bs.takeWhile fun b => decide (b ≠ b₀)) c s
    view reading.state =
      if r.wanted b₀ then view (r.read b₀ (reading.own answer b₀) before.state).1 else view s := by
  induction bs generalizing c s with
  | nil => nomatch hmem
  | cons b bs ih =>
      rw [List.nodup_cons] at hnodup
      dsimp only at ih ⊢
      by_cases hb : b = b₀
      · rw [hb] at hnodup ⊢
        have hrest := fun c s => r.view_readFrom_of_frame answer view
          (fun b' (h : b' ∈ bs) _ replies s => hframe b' replies s fun heq => hnodup.1 (heq ▸ h)) c s
        rw [List.takeWhile_cons_of_neg (by simp)]
        by_cases h : r.wanted b₀ = true
        · rw [if_pos h, own_cons_self r answer hnodup.1 h, readFrom, readFrom, if_pos h]
          exact hrest _ _
        · rw [if_neg h, readFrom, if_neg h]
          exact hrest c s
      · have hmem := (List.mem_cons.mp hmem).resolve_left (Ne.symm hb)
        rw [List.takeWhile_cons_of_pos (by simpa using hb)]
        by_cases h : r.wanted b = true
        · rw [own_cons_of_ne r answer hb h]
          simp only [readFrom, if_pos h]
          rw [ih hnodup.2 hmem, hframe b _ _ hb]
        · simp only [readFrom, if_neg h]
          exact ih hnodup.2 hmem c s

end Own

end Counter

end Reader

end Batch
