import KWindowSystem.Shadow.Resources

/-!
# The shadow property

What the compositor makes of `_KDE_NET_WM_SHADOW`: the pixmaps under the eight handles, and the paddings.
-/

open Machine

namespace KWindowSystem

namespace WindowShadow

variable {drawn : Drawn}

/-- The place is a member of the shadow. -/
def Place.Of (n : Nat) : Place → Prop
  | .pointer _ => False
  | .member m _ | .emptyTile m => m = n

theorem Place.Of.member (n : Nat) (side : Side) : (Place.member n side).Of n := rfl

theorem Place.Of.emptyTile (n : Nat) : (Place.emptyTile n).Of n := rfl

theorem Place.Of.unique {k : Place} {m n : Nat} (hm : k.Of m) (hn : k.Of n) : m = n := by
  cases k with
  | pointer name => exact hm.elim
  | member l side => exact hm.symm.trans hn
  | emptyTile l => exact hm.symm.trans hn

/-- What the compositor finds: something under each handle, and the paddings. -/
def Server.shadowOf (server : Server) (x : XID) : Option (List (Option Resource) × List Nat) :=
  (server.property x).map fun data => ((data.take 8).map server.resources, data.drop 8)

namespace Session

/-- The tile that is drawn at a side. -/
def tileOf (s : Session) (n : Nat) (side : Side) : Option KWindowShadowTile :=
  (s.tiles.get (.member n side)).or (s.tiles.get (.emptyTile n))

def handle (s : Session) (n : Nat) (side : Side) : XID := ((s.tileOf n side).map (·.pixmap)).getD 0

/-- The contents of the property. -/
def data (s : Session) (n : Nat) (padding : QMargins) : List Nat :=
  Side.handles.map (s.handle n) ++ s.offsets n padding

variable (drawn) in
/-- What is to be drawn: the images of the tiles with nothing where there is none, and the paddings. -/
def decoration (s : Session) (n : Nat) (padding : QMargins) : List (Option Resource) × List Nat :=
  (Side.handles.map fun side =>
      (drawn (((s.tiles.get (.member n side)).map (·.image)).getD transparent)).map .pixmap,
    s.offsets n padding)

/-- There is a tile with a pixmap for the side, the empty one if need be. -/
def DressedAt (s : Session) (n : Nat) (side : Side) : Prop :=
  ∃ tile, s.tileOf n side = some tile ∧ tile.isCreated ∧ (s.has (.member n side) = false → tile.image = transparent)

/-- What a shadow that is created needs of its tiles. -/
structure Keeps (n : Nat) (s s' : Session) : Prop where
  target : ∀ k : Place, k.Of n → s'.tiles.target k = s.tiles.target k
  created : ∀ (k : Place) tile, k.Of n → s.tiles.get k = some tile → tile.isCreated → s'.tiles.get k = some tile

variable {s s' s'' : Session} {n : Nat}

theorem Keeps.refl (n : Nat) (s : Session) : Keeps n s s := ⟨fun _ _ => rfl, fun _ _ _ h _ => h⟩

theorem Keeps.of_tiles (h : s'.tiles = s.tiles) : Keeps n s s' :=
  ⟨fun _ _ => by rw [h], fun _ _ _ hget _ => by rw [h, hget]⟩

theorem Keeps.trans (h : Keeps n s s') (h' : Keeps n s' s'') : Keeps n s s'' where
  target k hk := (h'.target k hk).trans (h.target k hk)
  created k tile hk hget hcreated := h'.created k tile hk (h.created k tile hk hget hcreated) hcreated

theorem Frame.keeps {touched : Place → Prop} (h : Frame touched s s') (hn : ∀ k : Place, k.Of n → ¬touched k) :
    Keeps n s s' :=
  ⟨fun k hk => h.target k (hn k hk), fun k tile hk => h.created k tile (hn k hk)⟩

theorem Keeps.has (h : Keeps n s s') (side : Side) : s'.has (.member n side) = s.has (.member n side) := by
  rw [Session.has, Session.has, h.target _ (.member n side)]

-- The paddings depend on where there are tiles, what is drawn on their images too.
theorem offsets_congr (hhas : ∀ side, s'.has (.member n side) = s.has (.member n side)) (padding : QMargins) :
    s'.offsets n padding = s.offsets n padding := by
  simp only [Session.offsets, Session.offset, hhas]

theorem decoration_congr (hhas : ∀ side, s'.has (.member n side) = s.has (.member n side))
    (himage : ∀ side, (s'.tiles.get (.member n side)).map (·.image) = (s.tiles.get (.member n side)).map (·.image))
    (padding : QMargins) : s'.decoration drawn n padding = s.decoration drawn n padding := by
  rw [decoration, decoration, offsets_congr hhas]
  congr 1
  exact List.map_congr_left fun side _ => by rw [himage]

-- A member without a tile has none later.
theorem Keeps.get_none (h : Keeps n s s') {k : Place} (hk : k.Of n) (hget : s.tiles.get k = none) :
    s'.tiles.get k = none := by
  exact get_eq_none (h.target k hk) hget

theorem Keeps.tileOf (h : Keeps n s s') {side : Side} (hdressed : s.DressedAt n side) :
    s'.tileOf n side = s.tileOf n side := by
  rcases hdressed with ⟨tile, htile, hcreated, _⟩
  cases hget : s.tiles.get (.member n side) with
  | none =>
      have hempty : s.tiles.get (.emptyTile n) = some tile := by
        rw [Session.tileOf, hget, Option.none_or] at htile
        exact htile
      rw [Session.tileOf, Session.tileOf, h.get_none (.member n side) hget, hget,
        h.created _ _ (.emptyTile n) hempty hcreated, hempty]
  | some member =>
      obtain rfl : member = tile := by
        rw [Session.tileOf, hget, Option.some_or] at htile
        exact Option.some.inj htile
      rw [Session.tileOf, Session.tileOf, h.created _ _ (.member n side) hget hcreated, hget, Option.some_or, Option.some_or]

theorem DressedAt.keeps {side : Side} (hdressed : s.DressedAt n side) (h : Keeps n s s') : s'.DressedAt n side := by
  have htileOf := h.tileOf hdressed
  rcases hdressed with ⟨tile, htile, hcreated, hmissing⟩
  exact ⟨tile, by rw [htileOf, htile], hcreated, fun hhas => hmissing (by rw [← h.has, hhas])⟩

theorem data_keeps (h : Keeps n s s') (hdressed : ∀ side, s.DressedAt n side) (padding : QMargins) :
    s'.data n padding = s.data n padding := by
  have hhandle (side : Side) : s'.handle n side = s.handle n side := by
    rw [handle, handle, h.tileOf (hdressed side)]
  rw [data, data, offsets_congr h.has, List.map_congr_left fun side _ => hhandle side]

-- The images of a shadow whose tiles all have pixmaps do not change either.
theorem Frame.decoration {touched : Place → Prop} (h : Frame touched s s')
    (hn : ∀ side, ¬touched (.member n side))
    (hcreated : ∀ side tile, s.tiles.get (.member n side) = some tile → tile.isCreated) (padding : QMargins) :
    s'.decoration drawn n padding = s.decoration drawn n padding := by
  refine decoration_congr (fun side => h.has (hn side)) (fun side => ?_) padding
  cases hget : s.tiles.get (.member n side) with
  | none => rw [h.get_none (hn side) hget]
  | some tile => rw [h.created _ _ (hn side) hget (hcreated side tile hget)]

theorem DressedAt.created {side : Side} (h : s.DressedAt n side) {tile : KWindowShadowTile}
    (hget : s.tiles.get (.member n side) = some tile) : tile.isCreated := by
  rcases h with ⟨tile', htile, hcreated, _⟩
  rw [tileOf, hget, Option.some_or] at htile
  rwa [Option.some.inj htile]

/-! ## What `create` makes -/

variable (drawn) in
-- After `prepareTiles`, what the members point to is created.
theorem prepareTiles_spec (s : Session) (n : Nat) (sides : List Side) :
    (s.prepareTiles drawn n sides).2 = true ∧
      ∀ side ∈ sides, ∀ tile, (s.prepareTiles drawn n sides).1.tiles.get (.member n side) = some tile →
        tile.isCreated := by
  induction sides generalizing s with
  | nil => exact ⟨rfl, fun _ h => by simp at h⟩
  | cons side sides ih =>
      by_cases hhas : s.has (.member n side)
      · have hprepare : s.prepareTiles drawn n (side :: sides) =
            (s.createTile drawn (.member n side)).1.prepareTiles drawn n sides := by
          rw [prepareTiles, if_pos hhas]
          exact if_pos (snd_createTile hhas)
        rw [hprepare]
        refine ⟨(ih _).1, fun side' hside' tile hget => ?_⟩
        rcases List.mem_cons.mp hside' with rfl | hrest
        · rw [has, ← Shared.isSome_get] at hhas
          obtain ⟨old, hold⟩ := Option.isSome_iff_exists.mp hhas
          obtain ⟨new, hnew, hcreated, _⟩ := get_createTile drawn hold
          have hkept := (frame_prepareTiles drawn _ n sides).created _ _ (fun h => h) hnew hcreated
          rw [hkept] at hget
          rwa [← Option.some.inj hget]
        · exact (ih _).2 side' hrest tile hget
      · have hprepare : s.prepareTiles drawn n (side :: sides) = s.prepareTiles drawn n sides := by
          rw [prepareTiles, if_neg hhas]
        rw [hprepare]
        refine ⟨(ih s).1, fun side' hside' tile hget => ?_⟩
        rcases List.mem_cons.mp hside' with rfl | hrest
        · have hframe := (frame_prepareTiles drawn s n sides).target (.member n side') (fun h => h)
          rw [has, ← hframe, ← Shared.isSome_get, hget] at hhas
          simp at hhas
        · exact (ih s).2 side' hrest tile hget

variable (drawn) in
theorem image_prepareTiles (s : Session) (n : Nat) (sides : List Side) (k : Place) :
    ((s.prepareTiles drawn n sides).1.tiles.get k).map (·.image) = (s.tiles.get k).map (·.image) := by
  induction sides generalizing s with
  | nil => rfl
  | cons side sides ih =>
      rw [prepareTiles]
      split
      · dsimp only
        split
        · exact (ih _).trans (image_createTile s _ k)
        · exact image_createTile s _ k
      · exact ih s

variable (drawn) in
-- The empty tile is a created one with the transparent image.
theorem get_getOrCreateEmptyTile
    (hempty : ∀ tile, s.tiles.get (.emptyTile n) = some tile → tile.isCreated ∧ tile.image = transparent) :
    ∃ tile, (s.getOrCreateEmptyTile drawn n).tiles.get (.emptyTile n) = some tile ∧ tile.isCreated ∧
      tile.image = transparent := by
  unfold getOrCreateEmptyTile
  split
  · rename_i hhas
    rw [has, ← Shared.isSome_get] at hhas
    obtain ⟨tile, htile⟩ := Option.isSome_iff_exists.mp hhas
    exact ⟨tile, htile, hempty tile htile⟩
  · have hnew : (s.newTile drawn (.emptyTile n)).tiles.get (.emptyTile n) = some {} := by
      rw [get_newTile, if_pos rfl]
    have himage : ((s.newTile drawn (.emptyTile n)).setImage (.emptyTile n) transparent).tiles.get (.emptyTile n) =
        some { image := transparent } := by
      unfold setImage
      rw [hnew]
      change ((s.newTile drawn (.emptyTile n)).tiles.modify (.emptyTile n) _).get (.emptyTile n) = _
      rw [Shared.get_modify, if_pos rfl, hnew, Option.map_some]
    exact get_createTile drawn himage

theorem handles_of_has (h : s.has (.emptyTile n)) (sides : List Side) : (s.handles drawn n sides).1 = s := by
  induction sides with
  | nil => rfl
  | cons side sides ih =>
      have hsame : s.getOrCreateEmptyTile drawn n = s := if_pos h
      unfold handles
      split
      · exact ih
      · rw [hsame]
        exact ih

variable (drawn) in
-- The handles are those of the tiles at the sides, which all have one then.
theorem handles_spec (hready : ∀ side tile, s.tiles.get (.member n side) = some tile → tile.isCreated)
    (hempty : ∀ tile, s.tiles.get (.emptyTile n) = some tile → tile.isCreated ∧ tile.image = transparent)
    (sides : List Side) :
    (∀ side ∈ sides, (s.handles drawn n sides).1.DressedAt n side) ∧
      (s.handles drawn n sides).2 = sides.map ((s.handles drawn n sides).1.handle n) := by
  induction sides generalizing s with
  | nil => exact ⟨fun _ h => by simp at h, rfl⟩
  | cons side sides ih =>
      by_cases hhas : s.has (.member n side)
      · have hhandles : s.handles drawn n (side :: sides) = ((s.handles drawn n sides).1,
            s.nativeHandleForTile (.member n side) :: (s.handles drawn n sides).2) := by
          rw [handles, if_pos hhas]
        have hframe := frame_handles drawn s n sides
        obtain ⟨hdressed, hrest⟩ := ih hready hempty
        rw [hhandles]
        rw [has, ← Shared.isSome_get] at hhas
        obtain ⟨tile, htile⟩ := Option.isSome_iff_exists.mp hhas
        have hkept := hframe.created _ _ (by simp) htile (hready side tile htile)
        have hof : (s.handles drawn n sides).1.tileOf n side = some tile := by
          rw [tileOf, hkept, Option.some_or]
        refine ⟨fun side' hside' => ?_, ?_⟩
        · rcases List.mem_cons.mp hside' with rfl | hmem
          · refine ⟨tile, hof, hready side' tile htile, fun hnone => ?_⟩
            rw [get_eq_none_of_has hnone] at hkept
            simp at hkept
          · exact hdressed side' hmem
        · rw [List.map_cons, ← hrest, handle, hof, nativeHandleForTile, htile]
      · have hhandles : s.handles drawn n (side :: sides) =
            (((s.getOrCreateEmptyTile drawn n).handles drawn n sides).1,
              (s.getOrCreateEmptyTile drawn n).nativeHandleForTile (.emptyTile n) ::
                ((s.getOrCreateEmptyTile drawn n).handles drawn n sides).2) := by
          rw [handles, if_neg hhas]
        obtain ⟨tile, htile, hcreated, himage⟩ := get_getOrCreateEmptyTile drawn hempty
        have hframe := frame_getOrCreateEmptyTile drawn s n
        have hready' (side' : Side) (tile' : KWindowShadowTile)
            (hget : (s.getOrCreateEmptyTile drawn n).tiles.get (.member n side') = some tile') : tile'.isCreated := by
          cases hold : s.tiles.get (.member n side') with
          | none =>
              rw [hframe.get_none (by simp) hold] at hget
              simp at hget
          | some old =>
              have hkept := hframe.created _ _ (by simp) hold (hready side' old hold)
              rw [hkept] at hget
              rw [← Option.some.inj hget]
              exact hready side' old hold
        obtain ⟨hdressed, hrest⟩ := ih hready' fun tile' hget => by
          rw [htile] at hget
          rw [← Option.some.inj hget]
          exact ⟨hcreated, himage⟩
        have hsame : ((s.getOrCreateEmptyTile drawn n).handles drawn n sides).1 = s.getOrCreateEmptyTile drawn n :=
          handles_of_has (by rw [has, ← Shared.isSome_get, htile]; rfl) sides
        have hmember : (s.getOrCreateEmptyTile drawn n).has (.member n side) = false := by
          rw [hframe.has (by simp)]
          simpa using hhas
        have hof : (s.getOrCreateEmptyTile drawn n).tileOf n side = some tile := by
          rw [tileOf, get_eq_none_of_has hmember, Option.none_or, htile]
        rw [hhandles]
        refine ⟨fun side' hside' => ?_, ?_⟩
        · rcases List.mem_cons.mp hside' with rfl | hmem
          · dsimp only
            rw [hsame]
            exact ⟨tile, hof, hcreated, fun _ => himage⟩
          · exact hdressed side' hmem
        · rw [List.map_cons, ← hrest]
          dsimp only
          rw [hsame, handle, hof, nativeHandleForTile, htile]

end Session

end WindowShadow

end KWindowSystem
