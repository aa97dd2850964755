import KWindowSystem.Lib.Registry
import KWindowSystem.Shadow.Frame

/-!
# The pixmaps of the shadow tiles

The server keeps the pixmap and the graphics context of every tile that is created and that something
still points to, the platform windows, and nothing else: each function gives back what it no longer
needs, and no two tiles share a name.
-/

open Machine

namespace KWindowSystem

namespace WindowShadow

variable {drawn : Drawn}

/-- Who holds names at the server. -/
inductive Owner where
  | tile (object : Nat)
  | window (w : Nat)
deriving DecidableEq

inductive Holding where
  | tile (tile : KWindowShadowTile)
  | window (platform : Option XID)

def Holding.names : Holding → List XID
  | .tile t => if t.isCreated then [t.pixmap, t.gc] else []
  | .window x => x.toList

variable (drawn) in
/-- What is to be there under a name. -/
def Holding.content : Holding → XID → Option Resource
  | .tile t, x =>
      if x = t.pixmap then (drawn t.image).map .pixmap else (drawn t.image).map fun _ => .gc t.pixmap
  | .window _, _ => some .window

namespace Session

def owner (s : Session) : Owner → Option Holding
  | .tile i => (s.tiles.objects i).map .tile
  | .window w => (s.windows w).map .window

variable (drawn) in
/-- The server has what its owners hold. -/
def Sound (s : Session) : Prop :=
  Registry.Owned Holding.names (Holding.content drawn) s.owner s.server.resources s.nextId

/-! ## The owners -/

theorem owner_eq {s s' : Session} (htiles : s'.tiles.objects = s.tiles.objects) (hwindows : s'.windows = s.windows) :
    s'.owner = s.owner := by
  funext o
  cases o with
  | tile i => simp only [owner, htiles]
  | window w => simp only [owner, hwindows]

theorem owner_tile (s s' : Session) {i : Nat} {v : Option KWindowShadowTile}
    (htiles : s'.tiles.objects = Function.update s.tiles.objects i v) (hwindows : s'.windows = s.windows) :
    s'.owner = Function.update s.owner (.tile i) (v.map .tile) := by
  funext o
  cases o with
  | tile j =>
      by_cases hj : j = i
      · simp [owner, htiles, hj]
      · simp [owner, htiles, hj]
  | window w => simp [owner, hwindows]

theorem owner_window (s s' : Session) {w : Nat} {v : Option (Option XID)}
    (htiles : s'.tiles.objects = s.tiles.objects) (hwindows : s'.windows = Function.update s.windows w v) :
    s'.owner = Function.update s.owner (.window w) (v.map .window) := by
  funext o
  cases o with
  | tile j => simp [owner, htiles]
  | window w' =>
      by_cases hw : w' = w
      · simp [owner, hwindows, hw]
      · simp [owner, hwindows, hw]

theorem Sound.congr {s s' : Session} (h : s.Sound drawn) (htiles : s'.tiles.objects = s.tiles.objects)
    (hwindows : s'.windows = s.windows) (hresources : s'.server.resources = s.server.resources)
    (hnext : s'.nextId = s.nextId) : s'.Sound drawn := by
  rw [Sound, owner_eq htiles hwindows, hresources, hnext]
  exact h

/-! ## The tiles -/

theorem resources_destroyTile (s : Session) (tile : KWindowShadowTile) :
    (s.destroyTile drawn tile).server.resources =
      fun x => if x ∈ (Holding.tile tile).names then none else s.server.resources x := by
  funext x
  by_cases h : tile.isCreated
  · rw [destroyTile, if_pos h]
    by_cases hgc : x = tile.gc <;> by_cases hpixmap : x = tile.pixmap <;>
      simp [send, Server.apply, Holding.names, h, Function.update_apply, hgc, hpixmap]
  · rw [destroyTile, if_neg h]
    simp [Holding.names, h]

theorem nextId_assign (s : Session) (place : Place) (source : Option Place) :
    (s.assign drawn place source).nextId = s.nextId := by
  unfold assign
  dsimp only
  split
  · unfold destroyTile
    split <;> rfl
  · rfl

-- A tile that is destroyed gives back its names, and only it can be affected.
theorem Sound.assign {s : Session} (h : s.Sound drawn) (place : Place) (source : Option Place) :
    (s.assign drawn place source).Sound drawn := by
  rcases s.tiles.assign_cases place source with ⟨hobjects, hlost⟩ | ⟨i, tile, _, htile, hlost, hobjects⟩
  · have hassign : s.assign drawn place source = { s with tiles := s.tiles.assign place source } := by
      unfold Session.assign
      dsimp only
      rw [hlost]
    rw [hassign]
    exact h.congr hobjects rfl rfl rfl
  · have hresources : (s.assign drawn place source).server.resources =
        fun x => if x ∈ (Holding.tile tile).names then none else s.server.resources x := by
      unfold Session.assign
      dsimp only
      rw [hlost]
      exact resources_destroyTile _ tile
    have howner : (s.assign drawn place source).owner = Function.update s.owner (.tile i) none :=
      owner_tile s (s.assign drawn place source) (by rw [tiles_assign, hobjects]) (frame_assign drawn s place source).windows
    rw [Sound, howner, hresources, nextId_assign]
    exact Registry.Owned.free h (by rw [owner, htile]; rfl)

theorem Sound.newTile {s : Session} (h : s.Sound drawn) (place : Place) : (s.newTile drawn place).Sound drawn := by
  have hnull : (s.assign drawn place none).tiles.target place = none := by
    rw [tiles_assign, Shared.target_assign, if_pos rfl]
    rfl
  have hnone : (s.assign drawn place none).owner (.tile (s.assign drawn place none).tiles.made) = none := by
    rw [owner, Shared.objects_made]
    rfl
  have howner := owner_tile (s.assign drawn place none) (s.newTile drawn place) (Shared.objects_make _ hnull {}) rfl
  rw [Sound, howner]
  exact Registry.Owned.change (h.assign place none) hnone rfl (by simp)

theorem Sound.setImage {s : Session} (h : s.Sound drawn) (place : Place) (image : QImage) :
    (s.setImage place image).Sound drawn := by
  unfold Session.setImage
  split
  · rename_i tile hget
    by_cases hcreated : tile.isCreated
    · rw [if_pos hcreated]
      exact h
    · rw [if_neg hcreated]
      obtain ⟨i, htarget, htile⟩ := Option.bind_eq_some_iff.mp hget
      have howner := owner_tile s
        { s with tiles := s.tiles.modify place fun tile => { tile with image := image } }
        (Shared.objects_modify s.tiles htarget htile _) rfl
      rw [Sound, howner]
      refine Registry.Owned.change (a := some (.tile tile)) h (by rw [owner, htile]; rfl) ?_ ?_
      · simp [Holding.names, hcreated]
      · simp [Holding.names, hcreated]
  · exact h

variable (drawn) in
-- Where the server has nothing under the new names, it has the tile's pixmap and context then, or still
-- nothing if it does not take the image.
theorem resources_sendTile (server : Server) (tile : KWindowShadowTile) (hcreated : tile.isCreated)
    (hpixmap : server.resources tile.pixmap = none) (hgc : server.resources tile.gc = none)
    (hne : tile.gc ≠ tile.pixmap) :
    (sendTile drawn server tile).resources =
      fun x => if x ∈ (Holding.tile tile).names then (Holding.tile tile).content drawn x
        else server.resources x := by
  funext x
  cases hdrawn : drawn tile.image <;> by_cases hx : x = tile.pixmap <;> by_cases hx' : x = tile.gc <;>
    simp_all [sendTile, Server.apply, Holding.names, Holding.content]

theorem Sound.createTile {s : Session} (h : s.Sound drawn) (place : Place) :
    (s.createTile drawn place).1.Sound drawn := by
  cases hget : s.tiles.get place with
  | none =>
      rw [createTile_of_null hget]
      exact h
  | some tile =>
      by_cases hcreated : tile.isCreated
      · rw [createTile_of_created hget hcreated]
        exact h
      · rw [createTile_of_new hget hcreated]
        obtain ⟨i, htarget, htile⟩ := Option.bind_eq_some_iff.mp hget
        have howner := owner_tile s
          { s with
            tiles := s.tiles.modify place s.named
            nextId := s.nextId + 2
            server := sendTile drawn s.server (s.named tile) }
          (Shared.objects_modify s.tiles htarget htile s.named) rfl
        have hresources := resources_sendTile drawn s.server (s.named tile) rfl
          (Registry.Owned.fresh h (Nat.le_refl _)) (Registry.Owned.fresh h (Nat.le_succ _)) (Nat.succ_ne_self _)
        rw [Sound, howner, hresources]
        refine Registry.Owned.claim h (fun b hb => ?_) (Nat.le_add_right _ 2) (fun x hx => ?_)
        · rw [owner, htile] at hb
          obtain rfl := Option.some.inj hb
          simp [Holding.names, hcreated]
        · simp only [Holding.names, named, if_true, List.mem_cons, List.not_mem_nil, or_false] at hx
          change _ ∧ x < s.nextId + 2
          omega

/-! ## The windows -/

theorem Sound.createPlatform {s : Session} (h : s.Sound drawn) (w : Nat) :
    (s.createPlatform drawn w).Sound drawn := by
  unfold Session.createPlatform
  split
  · rename_i hw
    have howner := owner_window s
      ({ s with
        windows := Function.update s.windows w (some (some s.nextId))
        nextId := s.nextId + 1 }.send drawn (.createWindow s.nextId)) rfl rfl
    have hresources : (s.server.apply drawn (.createWindow s.nextId)).resources =
        fun x => if x ∈ (Holding.window (some s.nextId)).names
          then (Holding.window (some s.nextId)).content drawn x else s.server.resources x := by
      funext x
      by_cases hx : x = s.nextId <;> simp [Server.apply, Holding.names, Holding.content, hx]
    rw [Sound, howner]
    change Registry.Owned _ _ _ (s.server.apply drawn (.createWindow s.nextId)).resources (s.nextId + 1)
    rw [hresources]
    refine Registry.Owned.claim h (fun b hb => ?_) (by omega) (fun x hx => ?_)
    · rw [owner, hw] at hb
      obtain rfl := Option.some.inj hb
      rfl
    · simp only [Holding.names, Option.toList_some, List.mem_singleton] at hx
      omega
  · exact h

-- A platform window is gone, whatever becomes of the window.
theorem Sound.free_window {s : Session} (h : s.Sound drawn) {w : Nat} {x : XID} (hw : s.platform w = some x) :
    Registry.Owned Holding.names (Holding.content drawn) (Function.update s.owner (.window w) none)
      (Function.update s.server.resources x none) s.nextId := by
  have hwindow : s.windows w = some (some x) := Option.join_eq_some_iff.mp hw
  have hfree := Registry.Owned.free h (i := .window w) (a := .window (some x)) (by rw [owner, hwindow]; rfl)
  have hresources : Function.update s.server.resources x none =
      fun y => if y ∈ (Holding.window (some x)).names then none else s.server.resources y := by
    funext y
    by_cases hy : y = x <;> simp [Holding.names, hy]
  rw [hresources]
  exact hfree

theorem Sound.destroyPlatform {s : Session} (h : s.Sound drawn) (w : Nat) :
    (s.destroyPlatform drawn w).Sound drawn := by
  unfold Session.destroyPlatform
  split
  · rename_i x hw
    have howner := owner_window s
      ({ s with windows := Function.update s.windows w (some none) }.send drawn (.destroyWindow x)) rfl rfl
    have hchange := Registry.Owned.change (h.free_window hw) (i := .window w) (b := .window none)
      (Function.update_self _ _ _) rfl (by simp)
    rw [Function.update_idem] at hchange
    rw [Sound, howner]
    exact hchange
  · exact h

theorem platform_destroyPlatform (s : Session) (w : Nat) : (s.destroyPlatform drawn w).platform w = none := by
  unfold Session.destroyPlatform
  split
  · simp [platform, send]
  · assumption

theorem Sound.deleteWindow {s : Session} (h : s.Sound drawn) (w : Nat) : (s.deleteWindow drawn w).Sound drawn := by
  have hplatform := h.destroyPlatform w
  have howner := owner_window (s.destroyPlatform drawn w) (s.deleteWindow drawn w) rfl rfl
  rw [Sound, howner]
  refine Registry.Owned.forget hplatform fun a ha => ?_
  cases hw : (s.destroyPlatform drawn w).windows w with
  | none => simp [owner, hw] at ha
  | some platform =>
      have hnone : (s.destroyPlatform drawn w).platform w = none := platform_destroyPlatform s w
      rw [Session.platform, hw, Option.join_some] at hnone
      rw [owner, hw, hnone] at ha
      obtain rfl := Option.some.inj ha
      rfl

/-! ## Shadows -/

theorem Sound.prepareTiles {s : Session} (h : s.Sound drawn) (n : Nat) (sides : List Side) :
    (s.prepareTiles drawn n sides).1.Sound drawn := by
  induction sides generalizing s with
  | nil => exact h
  | cons side sides ih =>
      have hcreate := h.createTile (.member n side)
      unfold Session.prepareTiles
      split
      · dsimp only
        split
        · exact ih hcreate
        · exact hcreate
      · exact ih h

theorem Sound.getOrCreateEmptyTile {s : Session} (h : s.Sound drawn) (n : Nat) :
    (s.getOrCreateEmptyTile drawn n).Sound drawn := by
  unfold Session.getOrCreateEmptyTile
  split
  · exact h
  · exact ((h.newTile _).setImage _ _).createTile _

theorem Sound.handles {s : Session} (h : s.Sound drawn) (n : Nat) (sides : List Side) :
    (s.handles drawn n sides).1.Sound drawn := by
  induction sides generalizing s with
  | nil => exact h
  | cons side sides ih =>
      unfold Session.handles
      split
      · exact ih h
      · exact ih (h.getOrCreateEmptyTile n)

theorem Sound.create {s : Session} (h : s.Sound drawn) (n : Nat) (atom : Bool) :
    (s.create drawn n atom).1.Sound drawn := by
  unfold Session.create
  split
  · split
    · exact h
    · split
      · have hprepared := h.prepareTiles n Side.members
        dsimp only
        split
        · cases atom with
          | false => exact hprepared.congr rfl rfl rfl rfl
          | true =>
              have hfilled := hprepared.handles n Side.handles
              exact (hfilled.createPlatform _).congr rfl rfl rfl rfl
        · exact hprepared
      · exact h
  · exact h

theorem Sound.destroy {s : Session} (h : s.Sound drawn) (n : Nat) (atom : Bool) :
    (s.destroy drawn n atom).Sound drawn := by
  unfold Session.destroy
  split
  · rename_i shadow _
    split
    · have hassign := h.assign (.emptyTile n) none
      have hprivate : (s.destroyPrivate drawn n shadow atom).Sound drawn := by
        unfold Session.destroyPrivate
        dsimp only
        split
        · split
          · exact hassign.congr rfl rfl rfl rfl
          · exact hassign
        · exact hassign
      exact hprivate.congr rfl rfl rfl rfl
    · exact h
  · exact h

theorem Sound.clear {s : Session} (h : s.Sound drawn) (n : Nat) (sides : List Side) :
    (sides.foldl (fun s side => s.assign drawn (.member n side) none) s).Sound drawn := by
  induction sides generalizing s with
  | nil => exact h
  | cons side sides ih => exact ih (h.assign _ _)

theorem Sound.deleteShadow {s : Session} (h : s.Sound drawn) (n : Nat) (atom : Bool) :
    (s.deleteShadow drawn n atom).Sound drawn := by
  have hclear := ((h.destroy n atom).assign (.emptyTile n) none).clear n Side.members.reverse
  unfold Session.deleteShadow
  dsimp only
  generalize Side.members.reverse.foldl _ _ = cleared at hclear ⊢
  exact hclear.congr rfl rfl rfl rfl

theorem Sound.change {s : Session} (h : s.Sound drawn) (n : Nat) (f : KWindowShadow → KWindowShadow) :
    (s.change n f).Sound drawn := by
  unfold Session.change
  split
  · split
    · exact h
    · exact h.congr rfl rfl rfl rfl
  · exact h

theorem Sound.setTile {s : Session} (h : s.Sound drawn) (side : Side) (n name : Nat) :
    (s.setTile drawn side n name).Sound drawn := by
  unfold Session.setTile
  split
  · split
    · exact h
    · exact h.assign _ _
  · exact h

theorem sound_initial : Session.initial.Sound drawn := by
  have howner : Session.initial.owner = fun _ => none := by
    funext o
    cases o <;> rfl
  rw [Sound, howner]
  exact Registry.owned_empty _ _

end Session

open Session

theorem sound_newWindow {s : Session} (h : s.Sound drawn) (hnone : s.windows s.windowCount = none) :
    (step drawn s .newWindow).1.Sound drawn := by
  have howner := owner_window s (step drawn s .newWindow).1 rfl rfl
  rw [Sound, howner]
  exact Registry.Owned.change h (a := none) (by rw [owner, hnone]; rfl) rfl (by simp)

end WindowShadow

end KWindowSystem
