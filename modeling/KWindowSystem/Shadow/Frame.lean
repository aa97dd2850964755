import KWindowSystem.Shadow.Client

/-!
# What the tile functions leave alone

All functions about tiles change the tiles and the pixmaps and nothing else, and of the tiles only those
that are not created yet: a tile with a pixmap stays as it is for as long as something points to it.
-/

namespace KWindowSystem

namespace WindowShadow

namespace Session

variable {drawn : Drawn}

/-- Shadows, windows and properties are the same, and the pointers outside of some places. -/
structure Frame (touched : Place → Prop) (s s' : Session) : Prop where
  shadows : s'.shadows = s.shadows
  shadowCount : s'.shadowCount = s.shadowCount
  windows : s'.windows = s.windows
  windowCount : s'.windowCount = s.windowCount
  property : s'.server.property = s.server.property
  target : ∀ k, ¬touched k → s'.tiles.target k = s.tiles.target k
  created : ∀ k tile, ¬touched k → s.tiles.get k = some tile → tile.isCreated → s'.tiles.get k = some tile

variable {touched touched' : Place → Prop} {s s' s'' : Session}

theorem Frame.refl (touched : Place → Prop) (s : Session) : Frame touched s s :=
  ⟨rfl, rfl, rfl, rfl, rfl, fun _ _ => rfl, fun _ _ _ h _ => h⟩

theorem Frame.trans (h : Frame touched s s') (h' : Frame touched s' s'') : Frame touched s s'' where
  shadows := h'.shadows.trans h.shadows
  shadowCount := h'.shadowCount.trans h.shadowCount
  windows := h'.windows.trans h.windows
  windowCount := h'.windowCount.trans h.windowCount
  property := h'.property.trans h.property
  target k hk := (h'.target k hk).trans (h.target k hk)
  created k tile hk hget hcreated := h'.created k tile hk (h.created k tile hk hget hcreated) hcreated

theorem Frame.mono (h : Frame touched s s') (hsub : ∀ k, touched k → touched' k) : Frame touched' s s' :=
  { h with
    target := fun k hk => h.target k fun ht => hk (hsub k ht)
    created := fun k tile hk => h.created k tile fun ht => hk (hsub k ht) }

theorem Frame.platform (h : Frame touched s s') (w : Nat) : s'.platform w = s.platform w := by
  rw [Session.platform, Session.platform, h.windows]

theorem Frame.has (h : Frame touched s s') {k : Place} (hk : ¬touched k) : s'.has k = s.has k := by
  rw [Session.has, Session.has, h.target k hk]

theorem get_eq_none_of_has {k : Place} (h : s.has k = false) : s.tiles.get k = none := by
  rw [Session.has, ← Shared.isSome_get] at h
  simpa using h

-- A null pointer that is not touched stays null.
theorem get_eq_none {k : Place} (htarget : s'.tiles.target k = s.tiles.target k) (hget : s.tiles.get k = none) :
    s'.tiles.get k = none := by
  have hnone : (s'.tiles.get k).isSome = false := by
    rw [Shared.isSome_get, htarget, ← Shared.isSome_get, hget]
    rfl
  simpa using hnone

theorem Frame.get_none (h : Frame touched s s') {k : Place} (hk : ¬touched k) (hget : s.tiles.get k = none) :
    s'.tiles.get k = none := get_eq_none (h.target k hk) hget

/-! ## `createTile` by cases -/

theorem createTile_of_created {s : Session} {place : Place} {tile : KWindowShadowTile}
    (hget : s.tiles.get place = some tile) (hcreated : tile.isCreated) :
    s.createTile drawn place = (s, true) := by
  unfold createTile
  rw [hget]
  exact if_pos hcreated

theorem createTile_of_null {s : Session} {place : Place} (hget : s.tiles.get place = none) :
    s.createTile drawn place = (s, false) := by
  unfold createTile
  rw [hget]

/-- A tile with its names at the server. -/
def named (s : Session) (tile : KWindowShadowTile) : KWindowShadowTile :=
  { tile with isCreated := true, pixmap := s.nextId, gc := s.nextId + 1 }

variable (drawn) in
/-- What `createTile` sends. -/
def sendTile (server : Server) (tile : KWindowShadowTile) : Server :=
  (server.apply drawn (.createPixmap tile.pixmap tile.image)).apply drawn (.createGc tile.gc tile.pixmap)

theorem createTile_of_new {s : Session} {place : Place} {tile : KWindowShadowTile}
    (hget : s.tiles.get place = some tile) (hcreated : ¬tile.isCreated) :
    s.createTile drawn place =
      ({ s with
        tiles := s.tiles.modify place s.named
        nextId := s.nextId + 2
        server := sendTile drawn s.server (s.named tile) }, true) := by
  unfold createTile
  rw [hget]
  exact if_neg hcreated

/-! ## The functions -/

variable (drawn) in
theorem frame_destroyTile (s : Session) (tile : KWindowShadowTile) :
    Frame (fun _ => False) s (s.destroyTile drawn tile) := by
  unfold destroyTile
  split
  · exact ⟨rfl, rfl, rfl, rfl, rfl, fun _ _ => rfl, fun _ _ _ h _ => h⟩
  · exact Frame.refl _ s

variable (drawn) in
theorem frame_assign (s : Session) (place : Place) (source : Option Place) :
    Frame (· = place) s (s.assign drawn place source) := by
  have htiles : Frame (· = place) s { s with tiles := s.tiles.assign place source } :=
    ⟨rfl, rfl, rfl, rfl, rfl, fun k hk => (s.tiles.target_assign place source k).trans (if_neg hk),
      fun k tile hk hget _ => (s.tiles.get_assign place source hk).trans hget⟩
  unfold assign
  dsimp only
  split
  · exact htiles.trans ((frame_destroyTile drawn _ _).mono fun _ h => h.elim)
  · exact htiles

variable (drawn) in
theorem tiles_assign (s : Session) (place : Place) (source : Option Place) :
    (s.assign drawn place source).tiles = s.tiles.assign place source := by
  unfold assign
  dsimp only
  split
  · unfold destroyTile
    split <;> rfl
  · rfl

variable (drawn) in
theorem has_assign_none (s : Session) (place : Place) :
    (s.assign drawn place none).tiles.target place = none := by
  rw [tiles_assign, Shared.target_assign, if_pos rfl]
  rfl

-- The new tile is nobody else's.
theorem get_newTile (s : Session) (place k : Place) :
    (s.newTile drawn place).tiles.get k = if k = place then some {} else s.tiles.get k := by
  have hmake := Shared.get_make _ (has_assign_none drawn s place) {} k
  change ((s.assign drawn place none).tiles.make place {}).get k = _
  rw [hmake, tiles_assign]
  by_cases hk : k = place
  · rw [if_pos hk, if_pos hk]
  · rw [if_neg hk, if_neg hk, Shared.get_assign _ _ _ hk]

variable (drawn) in
theorem frame_newTile (s : Session) (place : Place) : Frame (· = place) s (s.newTile drawn place) := by
  have hassign := frame_assign drawn s place none
  refine ⟨hassign.shadows, hassign.shadowCount, hassign.windows, hassign.windowCount, hassign.property,
    fun k hk => ?_, fun k tile hk hget _ => ?_⟩
  · exact ((Shared.target_make ..).trans (if_neg hk)).trans (hassign.target k hk)
  · rw [get_newTile, if_neg hk, hget]

theorem frame_setImage (s : Session) (place : Place) (image : QImage) :
    Frame (fun _ => False) s (s.setImage place image) := by
  unfold setImage
  split
  · rename_i tile hget
    split
    · exact Frame.refl _ s
    · rename_i hnew
      refine ⟨rfl, rfl, rfl, rfl, rfl, fun _ _ => rfl, fun k tile' _ hget' hcreated => ?_⟩
      rw [Shared.get_modify]
      by_cases hk : s.tiles.target k = s.tiles.target place
      · rw [Shared.get, hk] at hget'
        obtain rfl := Option.some.inj (hget.symm.trans hget')
        exact absurd hcreated hnew
      · rw [if_neg hk, hget']
  · exact Frame.refl _ s

variable (drawn) in
theorem frame_createTile (s : Session) (place : Place) :
    Frame (fun _ => False) s (s.createTile drawn place).1 := by
  cases hget : s.tiles.get place with
  | none =>
      rw [createTile_of_null hget]
      exact Frame.refl _ s
  | some tile =>
      by_cases hnew : tile.isCreated
      · rw [createTile_of_created hget hnew]
        exact Frame.refl _ s
      · rw [createTile_of_new hget hnew]
        refine ⟨rfl, rfl, rfl, rfl, rfl, fun _ _ => rfl, fun k tile' _ hget' hcreated => ?_⟩
        change (s.tiles.modify place s.named).get k = _
        rw [Shared.get_modify]
        by_cases hk : s.tiles.target k = s.tiles.target place
        · rw [Shared.get, hk] at hget'
          obtain rfl := Option.some.inj (hget.symm.trans hget')
          exact absurd hcreated hnew
        · rw [if_neg hk, hget']

variable (drawn) in
theorem frame_prepareTiles (s : Session) (n : Nat) (sides : List Side) :
    Frame (fun _ => False) s (s.prepareTiles drawn n sides).1 := by
  induction sides generalizing s with
  | nil => exact Frame.refl _ s
  | cons side sides ih =>
      have hcreate := frame_createTile drawn s (.member n side)
      unfold prepareTiles
      split
      · dsimp only
        split
        · exact hcreate.trans (ih _)
        · exact hcreate
      · exact ih s

variable (drawn) in
theorem frame_getOrCreateEmptyTile (s : Session) (n : Nat) :
    Frame (· = .emptyTile n) s (s.getOrCreateEmptyTile drawn n) := by
  unfold getOrCreateEmptyTile
  split
  · exact Frame.refl _ s
  · have hnew := frame_newTile drawn s (.emptyTile n)
    have himage := frame_setImage (s.newTile drawn (.emptyTile n)) (.emptyTile n) transparent
    have hcreate := frame_createTile drawn ((s.newTile drawn (.emptyTile n)).setImage (.emptyTile n) transparent)
      (.emptyTile n)
    exact hnew.trans ((himage.trans hcreate).mono fun _ h => h.elim)

variable (drawn) in
theorem frame_handles (s : Session) (n : Nat) (sides : List Side) :
    Frame (· = .emptyTile n) s (s.handles drawn n sides).1 := by
  induction sides generalizing s with
  | nil => exact Frame.refl _ s
  | cons side sides ih =>
      unfold handles
      split
      · exact ih s
      · exact (frame_getOrCreateEmptyTile drawn s n).trans (ih _)

variable (drawn) in
theorem frame_clear (s : Session) (n : Nat) (sides : List Side) :
    Frame (fun k => ∃ side, k = .member n side) s
      (sides.foldl (fun s side => s.assign drawn (.member n side) none) s) := by
  induction sides generalizing s with
  | nil => exact Frame.refl _ s
  | cons side sides ih =>
      exact ((frame_assign drawn s (.member n side) none).mono fun _ h => ⟨side, h⟩).trans (ih _)

/-! ## Creating tiles -/

variable (drawn) in
-- What the pointer points to is created now, if it points to anything.
theorem get_createTile {place : Place} {tile : KWindowShadowTile} (hget : s.tiles.get place = some tile) :
    ∃ tile', (s.createTile drawn place).1.tiles.get place = some tile' ∧ tile'.isCreated ∧
      tile'.image = tile.image := by
  by_cases hnew : tile.isCreated
  · rw [createTile_of_created hget hnew]
    exact ⟨tile, hget, hnew, rfl⟩
  · rw [createTile_of_new hget hnew]
    refine ⟨s.named tile, ?_, rfl, rfl⟩
    change (s.tiles.modify place s.named).get place = _
    rw [Shared.get_modify, if_pos rfl, hget, Option.map_some]

theorem snd_createTile {place : Place} (h : s.has place) : (s.createTile drawn place).2 = true := by
  cases hget : s.tiles.get place with
  | none =>
      rw [has, ← Shared.isSome_get, hget] at h
      simp at h
  | some tile =>
      by_cases hnew : tile.isCreated
      · rw [createTile_of_created hget hnew]
      · rw [createTile_of_new hget hnew]

-- No image changes.
theorem image_createTile (s : Session) (place k : Place) :
    ((s.createTile drawn place).1.tiles.get k).map (·.image) = (s.tiles.get k).map (·.image) := by
  cases hget : s.tiles.get place with
  | none => rw [createTile_of_null hget]
  | some tile =>
      by_cases hnew : tile.isCreated
      · rw [createTile_of_created hget hnew]
      · rw [createTile_of_new hget hnew]
        change ((s.tiles.modify place s.named).get k).map _ = _
        rw [Shared.get_modify]
        split
        · rw [Option.map_map]
          rfl
        · rfl

end Session

end WindowShadow

end KWindowSystem
