import KWindowSystem.Shadow.Changes

/-!
# Shadows over whole runs

A property `_KDE_NET_WM_SHADOW` is always that of a shadow which is created on the window, with all its
pixmaps there (`property_shown`), and it stays until something is done to the shadows of this window or
to the window (`shadow_stays`).  The pixmaps are those of the tiles (`pixmaps_of_tiles`).
-/

open Machine

namespace KWindowSystem

namespace WindowShadow

variable {drawn : Drawn}

namespace Session

variable {s s' : Session} {n m : Nat}

/-! ## Proper shadows -/

-- Variables are not members of any shadow.
theorem Decorated.frame (h : s.Decorated) {touched : Place → Prop} (hframe : Frame touched s s')
    (htouched : ∀ m, ∀ k : Place, k.Of m → ¬touched k) : s'.Decorated where
  proper m := (h.proper m).others (hframe.others (htouched m))
  windows w hw := by
    rw [hframe.windows]
    exact h.windows w (hframe.windowCount ▸ hw)
  shadows m hm := by
    rw [hframe.shadows]
    exact h.shadows m (hframe.shadowCount ▸ hm)

theorem not_of_pointer {m name : Nat} {k : Place} (hk : k.Of m) : k ≠ .pointer name := by
  rintro rfl
  exact hk

theorem Decorated.create (hs : s.Sound drawn) (h : s.Decorated) (n : Nat) (atom : Bool) :
    (s.create drawn n atom).1.Decorated := by
  rcases create_cases hs h n atom with ⟨hsame, _⟩ | ⟨shadow, w, hshadow, _, hw, ⟨_, hframe⟩ | ⟨_, x, hcreates⟩⟩
  · rw [hsame]
    exact h
  · exact h.frame hframe fun _ _ _ h => h
  · have hknown := (h.proper n).pointing shadow w hshadow hw
    refine h.update (fun _ => by rw [hshadow]; rfl) hcreates.shadows hcreates.shadowCount hcreates.windowCount
      (fun v => ?_) hcreates.others (Proper.of_some (by rw [hcreates.shadows, Function.update_self])
        (fun v hv => ?_) (fun hnew => by simp at hnew) fun _ => hcreates.dressed)
    · by_cases hv : v = w
      · rw [hv, hcreates.known, hknown]
      · rw [hcreates.windows v hv]
    · obtain rfl : w = v := Option.some.inj (hw.symm.trans hv)
      exact hcreates.known

theorem Decorated.destroy (h : s.Decorated) (n : Nat) (atom : Bool) : (s.destroy drawn n atom).Decorated := by
  rcases destroy_cases drawn s n atom with ⟨hsame, _⟩ | ⟨shadow, hshadow, _, hundress⟩
  · rw [hsame]
    exact h
  · refine h.update (fun _ => by rw [hshadow]; rfl) hundress.shadows hundress.shadowCount hundress.windowCount
      (fun v => by rw [hundress.windows]) hundress.others (Proper.of_some (by rw [hundress.shadows, Function.update_self])
        (fun v hv => ?_) (fun _ => hundress.bare) fun hcreated => by simp at hcreated)
    rw [hundress.windows]
    exact (h.proper n).pointing shadow v hshadow hv

theorem Decorated.change (h : s.Decorated) (n : Nat) (f : KWindowShadow → KWindowShadow)
    (hcreated : ∀ shadow, (f shadow).isCreated = shadow.isCreated)
    (hwindow : ∀ shadow w, (f shadow).window = some w → shadow.window = some w ∨ (s.windows w).isSome) :
    (s.change n f).Decorated := by
  unfold Session.change
  split
  · rename_i shadow hshadow
    split
    · exact h
    · rename_i hnew
      refine h.update (n := n) (fun _ => by rw [hshadow]; rfl) rfl rfl rfl (fun _ => rfl) (fun m hm => others_setShadow s hm _)
        (Proper.of_some (Function.update_self ..) (fun w hw => ?_) (fun _ => ?_) fun hc => ?_)
      · exact (hwindow shadow w hw).elim ((h.proper n).pointing shadow w hshadow) id
      · exact (h.proper n).bare shadow hshadow (by simpa using hnew)
      · exact absurd (hcreated shadow ▸ hc) hnew
  · exact h

theorem Decorated.setTile (h : s.Decorated) (side : Side) (n name : Nat) : (s.setTile drawn side n name).Decorated := by
  unfold Session.setTile
  split
  · rename_i shadow hshadow
    split
    · exact h
    · rename_i hnew
      have hframe := frame_assign drawn s (.member n side) (some (.pointer name))
      refine h.update (n := n) (fun _ => by rw [hshadow]; rfl) (v := some shadow) ?_ hframe.shadowCount hframe.windowCount
        (fun w => by rw [hframe.windows]) (fun m hm => hframe.others_of ?_ hm)
        (Proper.of_some (by rw [hframe.shadows, hshadow]) (fun w hw => ?_) (fun _ => ?_) fun hc => absurd hc hnew)
      · rw [hframe.shadows, ← hshadow, Function.update_eq_self]
      · rintro k rfl
        exact .member n side
      · rw [hframe.windows]
        exact (h.proper n).pointing shadow w hshadow hw
      · rw [hframe.target _ (by simp)]
        exact (h.proper n).bare shadow hshadow (by simpa using hnew)
  · exact h

variable (drawn) in
-- The members that are left are cleared one after the other.
theorem target_clear (sides : List Side) {side : Side} (h : side ∈ sides) :
    (sides.foldl (fun s side => s.assign drawn (.member n side) none) s).tiles.target (.member n side) = none := by
  induction sides generalizing s with
  | nil => simp at h
  | cons side' sides ih =>
      rw [List.foldl_cons]
      by_cases hmem : side ∈ sides
      · exact ih hmem
      · obtain rfl : side = side' := by simpa [hmem] using h
        have hframe : ∀ sides' : List Side, side ∉ sides' → ∀ q : Session,
            (sides'.foldl (fun s side => s.assign drawn (.member n side) none) q).tiles.target (.member n side) =
              q.tiles.target (.member n side) := by
          intro sides' hnot q
          induction sides' generalizing q with
          | nil => rfl
          | cons side'' sides' ih' =>
              rw [List.mem_cons, not_or] at hnot
              rw [List.foldl_cons, ih' hnot.2]
              exact (frame_assign drawn q (.member n side'') none).target _ (by simpa using hnot.1)
        rw [hframe sides hmem]
        exact has_assign_none drawn s (.member n side)

/-- A shadow is gone, with all that its members point to. -/
structure Deletes (s s' : Session) (n : Nat) : Prop where
  shadows : s'.shadows = Function.update s.shadows n none
  shadowCount : s'.shadowCount = s.shadowCount
  windowCount : s'.windowCount = s.windowCount
  windows : s'.windows = s.windows
  property : s'.server.property = s.server.property
  others : ∀ m, m ≠ n → Others m s s'
  absent : ∀ k : Place, k.Of n → s'.tiles.target k = none

variable (drawn) in
theorem deletes (s : Session) (n : Nat) (atom : Bool) : Deletes (s.destroy drawn n atom) (s.deleteShadow drawn n atom) n := by
  unfold deleteShadow
  dsimp only
  generalize s.destroy drawn n atom = d
  have hempty := frame_assign drawn d (.emptyTile n) none
  have hbare := has_assign_none drawn d (.emptyTile n)
  generalize d.assign drawn (.emptyTile n) none = a at hempty hbare ⊢
  have hclear := frame_clear drawn a n Side.members.reverse
  have hmembers (side : Side) := target_clear drawn (s := a) (n := n) Side.members.reverse
    (List.mem_reverse.mpr side.mem_members)
  generalize Side.members.reverse.foldl _ a = c at hclear hmembers ⊢
  refine ⟨congrArg (fun all : Nat → Option KWindowShadow => Function.update all n none)
      (hclear.shadows.trans hempty.shadows),
    hclear.shadowCount.trans hempty.shadowCount, hclear.windowCount.trans hempty.windowCount,
    hclear.windows.trans hempty.windows, hclear.property.trans hempty.property, fun m hm => ?_, fun k hk => ?_⟩
  · have hd : Others m d a := hempty.others_of (by rintro k rfl; exact .emptyTile n) hm
    have ha : Others m a c := hclear.others_of (by rintro k ⟨side, rfl⟩; exact .member n side) hm
    exact (hd.trans ha).trans (others_setShadow c hm none)
  · cases k with
    | pointer name => exact absurd hk id
    | member m side =>
        obtain rfl : m = n := hk
        exact hmembers side
    | emptyTile m =>
        obtain rfl : m = n := hk
        exact (hclear.target _ (by simp)).trans hbare

theorem Decorated.deleteShadow (h : s.Decorated) (n : Nat) (atom : Bool) :
    (s.deleteShadow drawn n atom).Decorated := by
  have hdeletes := deletes drawn s n atom
  exact (h.destroy n atom).update (by simp) hdeletes.shadows hdeletes.shadowCount hdeletes.windowCount
    (fun v => by rw [hdeletes.windows]) hdeletes.others
    (Proper.of_none (by rw [hdeletes.shadows, Function.update_self]) hdeletes.absent)

theorem Decorated.windowFrame (h : s.Decorated) {w : Nat} (hframe : WindowFrame w s s') : s'.Decorated where
  proper m := (h.proper m).others (hframe.others m)
  windows v hv := by
    have hnone := hframe.isSome v
    rw [h.windows v (hframe.windowCount ▸ hv)] at hnone
    simpa using hnone
  shadows m hm := by
    rw [hframe.shadows]
    exact h.shadows m (hframe.shadowCount ▸ hm)

theorem Decorated.deleteWindow (h : s.Decorated) (w : Nat) : (s.deleteWindow drawn w).Decorated := by
  have hplatform := h.windowFrame (frame_destroyPlatform drawn s w)
  unfold Session.deleteWindow
  dsimp only
  generalize s.destroyPlatform drawn w = q at hplatform
  refine ⟨fun m => ?_, fun v hv => ?_, fun m hm => ?_⟩
  · cases hshadow : q.shadows m with
    | none =>
        exact Proper.of_none (by dsimp only; rw [hshadow]; rfl) fun k hk => (hplatform.proper m).absent hshadow k hk
    | some shadow =>
        have hself : (q.shadows m).map (fun shadow =>
            if shadow.window = some w then { shadow with window := none } else shadow) =
            some (if shadow.window = some w then { shadow with window := none } else shadow) := by
          rw [hshadow]
          rfl
        refine Proper.of_some hself (fun v hv => ?_) (fun hnew => ?_) fun hcreated => ?_
        · split at hv
          · simp at hv
          · rename_i hne
            have hvw : v ≠ w := fun heq => hne (heq ▸ hv)
            dsimp only
            rw [Function.update_of_ne hvw]
            exact (hplatform.proper m).pointing shadow v hshadow hv
        · exact (hplatform.proper m).bare shadow hshadow (by split at hnew <;> exact hnew)
        · exact (hplatform.proper m).dressed shadow hshadow (by split at hcreated <;> exact hcreated)
  · by_cases hvw : v = w
    · simp [hvw]
    · simpa [hvw] using hplatform.windows v hv
  · simpa using hplatform.shadows m hm

end Session

open Session

theorem Session.Decorated.step {s : Session} (hs : s.Sound drawn) (h : s.Decorated) (op : Op) :
    (step drawn s op).1.Decorated := by
  have hnone : ∀ m, ∀ k : Place, k.Of m → ¬False := fun _ _ _ h => h
  cases op with
  | newTile name => exact h.frame (frame_newTile drawn s _) fun m k hk => not_of_pointer hk
  | assign name source => exact h.frame (frame_assign drawn s _ _) fun m k hk => not_of_pointer hk
  | getTile name n side => exact h.frame (frame_assign drawn s _ _) fun m k hk => not_of_pointer hk
  | setImage name image => exact h.frame (frame_setImage s _ image) hnone
  | createTile name => exact h.frame (frame_createTile drawn s _) hnone
  | newShadow =>
      have hnew := h.shadows s.shadowCount (Nat.le_refl _)
      refine ⟨fun m => ?_, h.windows, fun m hm => ?_⟩
      · by_cases hm : m = s.shadowCount
        · subst hm
          exact Proper.of_some (Function.update_self ..) (fun w hw => by simp at hw)
            (fun _ => (h.proper _).absent hnew _ (.emptyTile _)) fun hcreated => by simp at hcreated
        · exact (h.proper m).others ((others_setShadow s hm (some {})).trans ⟨rfl, Keeps.of_tiles rfl, fun _ h => h⟩)
      · have hlt : s.shadowCount + 1 ≤ m := hm
        exact (Function.update_of_ne (by omega) _ _).trans (h.shadows m (by omega))
  | setTile n side name =>
      change (setterOf drawn side s n name).Decorated
      rw [setterOf_eq]
      exact h.setTile side n name
  | setPadding n padding => exact h.change n _ (fun _ => rfl) fun _ _ hw => .inl hw
  | setWindow n window =>
      change (s.setWindow n window).Decorated
      unfold setWindow
      split
      · rename_i hknown
        exact h.change n _ (fun _ => rfl) fun _ w hw => .inr (hknown w hw)
      · exact h
  | create n atom => exact h.create hs n atom
  | destroy n atom => exact h.destroy n atom
  | deleteShadow n atom => exact h.deleteShadow n atom
  | newWindow =>
      refine ⟨fun m => (h.proper m).others ⟨rfl, Keeps.of_tiles rfl, fun w hw => ?_⟩, fun w hw => ?_, h.shadows⟩
      · have hne : w ≠ s.windowCount := by
          rintro rfl
          simp [h.windows s.windowCount (Nat.le_refl _)] at hw
        exact (congrArg Option.isSome (Function.update_of_ne hne _ _)).trans hw
      · have hlt : s.windowCount + 1 ≤ w := hw
        exact (Function.update_of_ne (by omega) _ _).trans (h.windows w (by omega))
  | createPlatform w => exact h.windowFrame (frame_createPlatform drawn s w).1
  | destroyPlatform w => exact h.windowFrame (frame_destroyPlatform drawn s w)
  | deleteWindow w => exact h.deleteWindow w

theorem Session.Sound.step {s : Session} (hs : s.Sound drawn) (h : s.Decorated) (op : Op) :
    (step drawn s op).1.Sound drawn := by
  cases op with
  | newTile name => exact hs.newTile _
  | assign name source => exact hs.assign _ _
  | getTile name n side => exact hs.assign _ _
  | setImage name image => exact hs.setImage _ image
  | createTile name => exact hs.createTile _
  | newShadow => exact hs.congr rfl rfl rfl rfl
  | setTile n side name =>
      change (setterOf drawn side s n name).Sound drawn
      rw [setterOf_eq]
      exact hs.setTile side n name
  | setPadding n padding => exact hs.change n _
  | setWindow n window =>
      change (s.setWindow n window).Sound drawn
      unfold setWindow
      split
      · exact hs.change n _
      · exact hs
  | create n atom => exact hs.create n atom
  | destroy n atom => exact hs.destroy n atom
  | deleteShadow n atom => exact hs.deleteShadow n atom
  | newWindow => exact sound_newWindow hs (h.windows _ (Nat.le_refl _))
  | createPlatform w => exact hs.createPlatform w
  | destroyPlatform w => exact hs.destroyPlatform w
  | deleteWindow w => exact hs.deleteWindow w

variable (drawn) in
/-- After any run from the start. -/
theorem run_sound (es : List Op) :
    (run (step drawn) .initial es).1.Sound drawn ∧ (run (step drawn) .initial es).1.Decorated :=
  run_invariant (fun s : Session => s.Sound drawn ∧ s.Decorated) (fun _ op h _ => ⟨h.1.step h.2 op, h.2.step h.1 op⟩)
    ⟨sound_initial, decorated_initial⟩ (along_true _ es)

/-! ## Shadows on windows -/

/-- The shadow is created on a window, and its property is there. -/
structure Session.Wears (s : Session) (n w : Nat) (x : XID) (shadow : KWindowShadow) : Prop where
  known : s.shadows n = some shadow
  created : shadow.isCreated
  window : shadow.window = some w
  platform : s.platform w = some x
  property : s.server.property x = some (s.data n shadow.padding)

/-- The call is about a shadow of the window, or takes its platform window away. -/
def Session.Disturbs (s : Session) (w : Nat) : Op → Prop
  | .create n atom => atom ∧ ∃ shadow, s.shadows n = some shadow ∧ shadow.isCreated = false ∧ shadow.window = some w
  | .destroy n _ | .deleteShadow n _ => ∃ shadow, s.shadows n = some shadow ∧ shadow.isCreated ∧ shadow.window = some w
  | .destroyPlatform v | .deleteWindow v => v = w
  | _ => False

variable {s s' : Session} {n w : Nat} {x : XID} {shadow : KWindowShadow}

-- The compositor finds the images of the tiles.
theorem Session.Wears.shadowOf (hs : s.Sound drawn) (hd : s.Decorated) (h : s.Wears n w x shadow) :
    s.server.shadowOf x = some (s.decoration drawn n shadow.padding) := by
  have hdressed := (hd.proper n).dressed shadow h.known h.created
  have hresource (side : Side) : s.server.resources (s.handle n side) =
      (drawn (((s.tiles.get (.member n side)).map (·.image)).getD transparent)).map .pixmap := by
    rcases hdressed side with ⟨tile, htile, hcreated, hmissing⟩
    have howner : ∃ i, s.owner (.tile i) = some (.tile tile) := by
      rcases Option.or_eq_some_iff.mp htile with hget | ⟨_, hget⟩ <;>
        obtain ⟨i, _, hi⟩ := Option.bind_eq_some_iff.mp hget <;> exact ⟨i, by rw [owner, hi]; rfl⟩
    rcases howner with ⟨i, hi⟩
    have hheld := Registry.Owned.held hs hi (x := tile.pixmap) (by simp [Holding.names, hcreated])
    have himage : ((s.tiles.get (.member n side)).map (·.image)).getD transparent = tile.image := by
      cases hget : s.tiles.get (.member n side) with
      | none =>
          have hhas : s.has (.member n side) = false := by rw [has, ← Shared.isSome_get, hget]; rfl
          exact (hmissing hhas).symm
      | some member =>
          rw [tileOf, hget, Option.some_or] at htile
          rw [Option.some.inj htile]
          rfl
    rw [handle, htile, himage]
    exact hheld.trans (if_pos rfl)
  have htake : (s.data n shadow.padding).take 8 = Side.handles.map (s.handle n) := rfl
  have hdrop : (s.data n shadow.padding).drop 8 = s.offsets n shadow.padding := rfl
  rw [Server.shadowOf, h.property, Option.map_some, htake, hdrop, decoration, List.map_map]
  exact congrArg some (congrArg (·, _) (List.map_congr_left fun side _ => hresource side))

-- A call about other windows leaves the platform window alone.
theorem platform_step (hs : s.Sound drawn) (hd : s.Decorated) {op : Op} (hplatform : s.platform w = some x)
    (hop : ¬s.Disturbs w op) : (step drawn s op).1.platform w = some x := by
  have hframe {touched : Place → Prop} {s' : Session} (h : Frame touched s s') : s'.platform w = some x :=
    (h.platform w).trans hplatform
  have hchange (n : Nat) (f : KWindowShadow → KWindowShadow) : (s.change n f).platform w = some x := by
    unfold change
    split
    · split <;> exact hplatform
    · exact hplatform
  have hdestroy (n : Nat) (atom : Bool) : (s.destroy drawn n atom).platform w = some x := by
    rcases destroy_cases drawn s n atom with ⟨hsame, _⟩ | ⟨shadow, hshadow, hcreated, hundress⟩
    · rwa [hsame]
    · rwa [platform, hundress.windows]
  cases op with
  | newTile name => exact hframe (frame_newTile drawn s _)
  | assign name source => exact hframe (frame_assign drawn s _ _)
  | getTile name n side => exact hframe (frame_assign drawn s _ _)
  | setImage name image => exact hframe (frame_setImage s _ image)
  | createTile name => exact hframe (frame_createTile drawn s _)
  | newShadow => exact hplatform
  | setTile n side name =>
      change (setterOf drawn side s n name).platform w = _
      rw [setterOf_eq]
      unfold setTile
      split
      · split
        · exact hplatform
        · exact hframe (frame_assign drawn s _ _)
      · exact hplatform
  | setPadding n padding => exact hchange n _
  | setWindow n window =>
      change (s.setWindow n window).platform w = _
      unfold setWindow
      split
      · exact hchange n _
      · exact hplatform
  | create n atom =>
      change (s.create drawn n atom).1.platform w = _
      rcases create_cases hs hd n atom with ⟨hsame, _⟩ | ⟨shadow, v, hshadow, hnew, hv, ⟨_, hf⟩ | ⟨hatom, y, hcreates⟩⟩
      · rwa [hsame]
      · exact hframe hf
      · have hne : v ≠ w := fun heq => hop ⟨hatom, shadow, hshadow, hnew, heq ▸ hv⟩
        rwa [platform, hcreates.windows w (Ne.symm hne)]
  | destroy n atom => exact hdestroy n atom
  | deleteShadow n atom =>
      have hstep : (step drawn s (.deleteShadow n atom)).1 = s.deleteShadow drawn n atom := rfl
      rw [hstep, platform, (deletes drawn s n atom).windows]
      exact hdestroy n atom
  | newWindow =>
      have hne : w ≠ s.windowCount := by
        rintro rfl
        rw [platform, hd.windows s.windowCount (Nat.le_refl _)] at hplatform
        simp at hplatform
      exact (congrArg Option.join (Function.update_of_ne hne _ _)).trans hplatform
  | createPlatform v =>
      change (s.createPlatform drawn v).platform w = _
      by_cases hv : v = w
      · rwa [hv, createPlatform_of_platform drawn hplatform]
      · exact ((frame_createPlatform drawn s v).1.platform (Ne.symm hv)).trans hplatform
  | destroyPlatform v =>
      have hv : v ≠ w := hop
      exact ((frame_destroyPlatform drawn s v).platform (Ne.symm hv)).trans hplatform
  | deleteWindow v =>
      have hv : v ≠ w := hop
      exact (congrArg Option.join (Function.update_of_ne (Ne.symm hv) _ _)).trans
        (((frame_destroyPlatform drawn s v).platform (Ne.symm hv)).trans hplatform)

-- What can become of a property: it stays, it goes, or it is that of a new shadow.
theorem property_cases (hs : s.Sound drawn) (hd : s.Decorated) (op : Op) (y : XID) :
    (step drawn s op).1.server.property y = s.server.property y ∨
    ((step drawn s op).1.server.property y = none ∧ ∃ w, s.platform w = some y ∧ s.Disturbs w op) ∨
    ∃ m w shadow, shadow.window = some w ∧ s.Disturbs w op ∧ Creates drawn s (step drawn s op).1 m w y shadow := by
  have hchange (n : Nat) (f : KWindowShadow → KWindowShadow) :
      (s.change n f).server.property y = s.server.property y := by
    unfold change
    split
    · split <;> rfl
    · rfl
  have hdestroy (n : Nat) (atom : Bool) : (s.destroy drawn n atom).server.property y = s.server.property y ∨
      (s.destroy drawn n atom).server.property y = none ∧ ∃ w, s.platform w = some y ∧
        ∃ shadow, s.shadows n = some shadow ∧ shadow.isCreated ∧ shadow.window = some w := by
    rcases destroy_cases drawn s n atom with ⟨hsame, _⟩ | ⟨shadow, hshadow, hcreated, hundress⟩
    · left
      rw [hsame]
    · rw [hundress.property]
      split
      · rename_i hbind
        obtain ⟨w, hw, hwy⟩ := Option.bind_eq_some_iff.mp hbind.2
        exact .inr ⟨rfl, w, hwy, shadow, hshadow, hcreated, hw⟩
      · exact .inl rfl
  have hplatform (w : Nat) : (s.destroyPlatform drawn w).server.property y = s.server.property y ∨
      (s.destroyPlatform drawn w).server.property y = none ∧ s.platform w = some y := by
    rw [property_destroyPlatform]
    split
    · exact .inr ⟨rfl, by assumption⟩
    · exact .inl rfl
  cases op with
  | newTile name => exact .inl (congrFun (frame_newTile drawn s _).property y)
  | assign name source => exact .inl (congrFun (frame_assign drawn s _ _).property y)
  | getTile name n side => exact .inl (congrFun (frame_assign drawn s _ _).property y)
  | setImage name image => exact .inl (congrFun (frame_setImage s _ image).property y)
  | createTile name => exact .inl (congrFun (frame_createTile drawn s _).property y)
  | newShadow => exact .inl rfl
  | setTile n side name =>
      left
      change (setterOf drawn side s n name).server.property y = _
      rw [setterOf_eq]
      unfold setTile
      split
      · split
        · rfl
        · exact congrFun (frame_assign drawn s _ _).property y
      · rfl
  | setPadding n padding => exact .inl (hchange n _)
  | setWindow n window =>
      left
      change (s.setWindow n window).server.property y = _
      unfold setWindow
      split
      · exact hchange n _
      · rfl
  | create n atom =>
      rcases create_cases hs hd n atom with ⟨hsame, _⟩ | ⟨shadow, v, hshadow, hnew, hv, ⟨_, hf⟩ | ⟨hatom, x, hcreates⟩⟩
      · exact .inl (congrArg (fun s : Session => s.server.property y) hsame)
      · exact .inl (congrFun hf.property y)
      · by_cases hxy : y = x
        · exact .inr (.inr ⟨n, v, shadow, hv, ⟨hatom, shadow, hshadow, hnew, hv⟩, hxy ▸ hcreates⟩)
        · exact .inl ((congrFun hcreates.property y).trans (Function.update_of_ne hxy _ _))
  | destroy n atom =>
      rcases hdestroy n atom with hsame | ⟨hnone, w, hw, hshadow⟩
      · exact .inl hsame
      · exact .inr (.inl ⟨hnone, w, hw, hshadow⟩)
  | deleteShadow n atom =>
      have hstep : (step drawn s (.deleteShadow n atom)).1 = s.deleteShadow drawn n atom := rfl
      rw [hstep, (deletes drawn s n atom).property]
      rcases hdestroy n atom with hsame | ⟨hnone, w, hw, hshadow⟩
      · exact .inl hsame
      · exact .inr (.inl ⟨hnone, w, hw, hshadow⟩)
  | newWindow => exact .inl rfl
  | createPlatform v => exact .inl (congrFun (frame_createPlatform drawn s v).2 y)
  | destroyPlatform v => exact (hplatform v).imp id fun h => .inl ⟨h.1, v, h.2, rfl⟩
  | deleteWindow v => exact (hplatform v).imp id fun h => .inl ⟨h.1, v, h.2, rfl⟩

theorem property_step (hs : s.Sound drawn) (hd : s.Decorated) {op : Op} (hplatform : s.platform w = some x)
    (hop : ¬s.Disturbs w op) : (step drawn s op).1.server.property x = s.server.property x := by
  rcases property_cases hs hd op x with hsame | ⟨_, v, hv, hdisturbs⟩ | ⟨m, v, shadow, _, hdisturbs, hcreates⟩
  · exact hsame
  · exact absurd (hs.apart hv hplatform ▸ hdisturbs) hop
  · have hkept := platform_step hs hd hplatform hop
    exact absurd ((hs.step hd op).apart hcreates.platform hkept ▸ hdisturbs) hop

-- Nor can it change the shadow or its tiles.
theorem others_step (hs : s.Sound drawn) (hd : s.Decorated) {op : Op} (h : s.Wears n w x shadow)
    (hop : ¬s.Disturbs w op) (hdelete : ∀ v, op ≠ .deleteWindow v) : Others n s (step drawn s op).1 := by
  have hchange (m : Nat) (f : KWindowShadow → KWindowShadow) : Others n s (s.change m f) := by
    unfold change
    split
    · rename_i other hother
      split
      · exact Others.refl n s
      · rename_i hnew
        refine others_setShadow s ?_ _
        rintro rfl
        obtain rfl := Option.some.inj (h.known.symm.trans hother)
        exact hnew h.created
    · exact Others.refl n s
  have hdestroy (m : Nat) (atom : Bool)
      (hop : ¬∃ shadow, s.shadows m = some shadow ∧ shadow.isCreated ∧ shadow.window = some w) :
      m ≠ n ∧ Others n s (s.destroy drawn m atom) := by
    have hne : m ≠ n := by
      rintro rfl
      exact hop ⟨shadow, h.known, h.created, h.window⟩
    rcases destroy_cases drawn s m atom with ⟨hsame, _⟩ | ⟨_, _, _, hundress⟩
    · rw [hsame]
      exact ⟨hne, Others.refl n s⟩
    · exact ⟨hne, hundress.others n (Ne.symm hne)⟩
  have hnone : ∀ k : Place, k.Of n → ¬False := fun _ _ h => h
  cases op with
  | newTile name => exact (frame_newTile drawn s _).others fun k hk => not_of_pointer hk
  | assign name source => exact (frame_assign drawn s _ _).others fun k hk => not_of_pointer hk
  | getTile name m side => exact (frame_assign drawn s _ _).others fun k hk => not_of_pointer hk
  | setImage name image => exact (frame_setImage s _ image).others hnone
  | createTile name => exact (frame_createTile drawn s _).others hnone
  | newShadow =>
      have hne : n ≠ s.shadowCount := by
        rintro rfl
        have := hd.shadows s.shadowCount (Nat.le_refl _)
        rw [h.known] at this
        simp at this
      exact (others_setShadow s hne (some {})).trans ⟨rfl, Keeps.of_tiles rfl, fun _ h => h⟩
  | setTile m side name =>
      change Others n s (setterOf drawn side s m name)
      rw [setterOf_eq]
      unfold setTile
      split
      · rename_i other hother
        split
        · exact Others.refl n s
        · rename_i hnew
          refine (frame_assign drawn s _ _).others_of (n := m) (by rintro k rfl; exact .member m side) ?_
          rintro rfl
          obtain rfl := Option.some.inj (h.known.symm.trans hother)
          exact hnew h.created
      · exact Others.refl n s
  | setPadding m padding => exact hchange m _
  | setWindow m window =>
      change Others n s (s.setWindow m window)
      unfold setWindow
      split
      · exact hchange m _
      · exact Others.refl n s
  | create m atom =>
      rcases create_cases hs hd m atom with ⟨hsame, _⟩ | ⟨other, v, hother, hnew, _, ⟨_, hf⟩ | ⟨_, y, hcreates⟩⟩
      · change Others n s (s.create drawn m atom).1
        rw [hsame]
        exact Others.refl n s
      · exact hf.others hnone
      · refine hcreates.others n ?_
        rintro rfl
        obtain rfl := Option.some.inj (h.known.symm.trans hother)
        simp [h.created] at hnew
  | destroy m atom => exact (hdestroy m atom hop).2
  | deleteShadow m atom =>
      obtain ⟨hne, hothers⟩ := hdestroy m atom hop
      exact hothers.trans ((deletes drawn s m atom).others n (Ne.symm hne))
  | newWindow =>
      refine ⟨rfl, Keeps.of_tiles rfl, fun v hv => ?_⟩
      have hne : v ≠ s.windowCount := by
        rintro rfl
        simp [hd.windows s.windowCount (Nat.le_refl _)] at hv
      exact (congrArg Option.isSome (Function.update_of_ne hne _ _)).trans hv
  | createPlatform v => exact (frame_createPlatform drawn s v).1.others n
  | destroyPlatform v => exact (frame_destroyPlatform drawn s v).others n
  | deleteWindow v => exact absurd rfl (hdelete v)

-- The shadow stays as it is, with its property.
theorem Session.Wears.step (hs : s.Sound drawn) (hd : s.Decorated) {op : Op} (h : s.Wears n w x shadow)
    (hop : ¬s.Disturbs w op) :
    (step drawn s op).1.Wears n w x shadow ∧
      (step drawn s op).1.decoration drawn n shadow.padding = s.decoration drawn n shadow.padding := by
  have hsame : (WindowShadow.step drawn s op).1.shadows n = s.shadows n ∧
      Keeps n s (WindowShadow.step drawn s op).1 := by
    by_cases hdelete : ∃ v, op = .deleteWindow v
    · rcases hdelete with ⟨v, rfl⟩
      have hv : v ≠ w := hop
      have hframe := frame_destroyPlatform drawn s v
      refine ⟨?_, Keeps.of_tiles hframe.tiles⟩
      change ((s.destroyPlatform drawn v).shadows n).map _ = _
      rw [hframe.shadows, h.known, Option.map_some, if_neg]
      rw [h.window]
      exact fun heq => hv (Option.some.inj heq).symm
    · have hothers := others_step hs hd h hop fun v heq => hdelete ⟨v, heq⟩
      exact ⟨hothers.shadow, hothers.keeps⟩
  have hplatform := platform_step hs hd h.platform hop
  have hproperty := property_step hs hd h.platform hop
  have hdressed := (hd.proper n).dressed shadow h.known h.created
  refine ⟨⟨hsame.1.trans h.known, h.created, h.window, hplatform, ?_⟩, ?_⟩
  · rw [hproperty, h.property, data_keeps hsame.2 hdressed]
  · refine decoration_congr hsame.2.has (fun side => ?_) _
    cases hget : s.tiles.get (.member n side) with
    | none => rw [hsame.2.get_none (.member n side) hget]
    | some tile => rw [hsame.2.created _ _ (.member n side) hget ((hdressed side).created hget)]

-- A shadow that is created is on its window then.
theorem Session.Creates.wears {s s' : Session} (h : Creates drawn s s' n w x shadow) (hw : shadow.window = some w) :
    s'.Wears n w x { shadow with isCreated := true } :=
  ⟨by rw [h.shadows, Function.update_self], rfl, hw, h.platform, by rw [h.property, Function.update_self]⟩

/-- The call got the atom that it needs to delete a property. -/
def Op.replied : Op → Bool
  | .destroy _ atom | .deleteShadow _ atom => atom
  | _ => true

/-- Every property is that of a shadow on its window. -/
def Session.Shown (s : Session) : Prop :=
  ∀ x data, s.server.property x = some data → ∃ n w shadow, s.Wears n w x shadow

-- What disturbs a window takes its property away or puts another one there.
theorem property_disturbed (hs : s.Sound drawn) (hd : s.Decorated) (h : s.Wears n w x shadow) {op : Op}
    (hop : s.Disturbs w op) (hreplied : op.replied) :
    (step drawn s op).1.server.property x = none ∨
      ∃ m other, other.window = some w ∧ Creates drawn s (step drawn s op).1 m w x other := by
  have hdestroy (m : Nat) (hm : ∃ other, s.shadows m = some other ∧ other.isCreated ∧ other.window = some w) :
      (s.destroy drawn m true).server.property x = none := by
    rcases hm with ⟨other, hm, hcreated, hw⟩
    rcases destroy_cases drawn s m true with ⟨_, hnew⟩ | ⟨other', hm', _, hundress⟩
    · simp [hnew other hm] at hcreated
    · obtain rfl := Option.some.inj (hm.symm.trans hm')
      rw [hundress.property, hw, Option.bind_some, if_pos ⟨rfl, h.platform⟩]
  cases op with
  | create m atom =>
      obtain ⟨rfl, other, hother, hnew, hw⟩ := hop
      obtain ⟨y, hcreates⟩ := creates_of_new hs hd hother hnew hw
      obtain rfl := hcreates.before x h.platform
      exact .inr ⟨m, other, hw, hcreates⟩
  | destroy m atom =>
      obtain rfl : atom = true := hreplied
      exact .inl (hdestroy m hop)
  | deleteShadow m atom =>
      obtain rfl : atom = true := hreplied
      have hstep : (step drawn s (.deleteShadow m true)).1 = s.deleteShadow drawn m true := rfl
      rw [hstep, (deletes drawn s m true).property]
      exact .inl (hdestroy m hop)
  | destroyPlatform v =>
      obtain rfl : v = w := hop
      exact .inl ((property_destroyPlatform s v x).trans (if_pos h.platform))
  | deleteWindow v =>
      obtain rfl : v = w := hop
      exact .inl ((property_destroyPlatform s v x).trans (if_pos h.platform))
  | _ => exact absurd hop id

theorem Session.Shown.step (hs : s.Sound drawn) (hd : s.Decorated) (h : s.Shown) {op : Op} (hop : op.replied) :
    (step drawn s op).1.Shown := by
  intro x data hx
  rcases property_cases hs hd op x with hsame | ⟨hnone, _⟩ | ⟨m, w, other, hw, _, hcreates⟩
  · obtain ⟨n, w, shadow, hwears⟩ := h x data (hsame ▸ hx)
    by_cases hdisturbs : s.Disturbs w op
    · rcases property_disturbed hs hd hwears hdisturbs hop with hnone | ⟨m, other, hw, hcreates⟩
      · simp [hnone] at hx
      · exact ⟨m, w, _, hcreates.wears hw⟩
    · exact ⟨n, w, shadow, (hwears.step hs hd hdisturbs).1⟩
  · simp [hnone] at hx
  · exact ⟨m, w, _, hcreates.wears hw⟩

/-! ## Results -/

/-- Whatever the compositor finds on a window is what a shadow that is created on this window is to look
like, as long as the atom could be had whenever a shadow was destroyed. -/
theorem property_shown {es : List Op} (hes : ∀ op ∈ es, op.replied) {x : XID}
    {view : List (Option Resource) × List Nat}
    (hview : (run (step drawn) .initial es).1.server.shadowOf x = some view) :
    ∃ n w shadow, (run (step drawn) .initial es).1.shadows n = some shadow ∧ shadow.isCreated ∧
      shadow.window = some w ∧ (run (step drawn) .initial es).1.platform w = some x ∧
      view = (run (step drawn) .initial es).1.decoration drawn n shadow.padding := by
  have hok : Along (step drawn) (fun _ op => op.replied) .initial es := along_of_forall _ hes
  have hall := run_invariant (fun s : Session => (s.Sound drawn ∧ s.Decorated) ∧ s.Shown)
    (fun _ op h hop => ⟨⟨h.1.1.step h.1.2 op, h.1.2.step h.1.1 op⟩, h.2.step h.1.1 h.1.2 hop⟩)
    ⟨⟨sound_initial, decorated_initial⟩, fun x data h => by simp [initial] at h⟩ hok
  obtain ⟨data, hdata, _⟩ := Option.map_eq_some_iff.mp hview
  obtain ⟨n, w, shadow, hwears⟩ := hall.2 x data hdata
  refine ⟨n, w, shadow, hwears.known, hwears.created, hwears.window, hwears.platform, ?_⟩
  exact Option.some.inj (hview.symm.trans (hwears.shadowOf hall.1.1 hall.1.2))

/-- A window with a shadow that has one tile. -/
def dressing : List Op :=
  [.newWindow, .newShadow, .newTile 0, .setImage 0 ⟨1, 1, 32, [1, 2, 3, 4]⟩, .setTile 0 .top 0,
    .setPadding 0 ⟨4, 5, 6, 7⟩, .setWindow 0 (some 0)]

/-- The tile, the empty one for the other sides, and the padding of the edge with the tile. -/
def dressed : List (Option Resource) × List Nat :=
  (some (.pixmap ⟨1, 1, 32, [1, 2, 3, 4]⟩) :: List.replicate 7 (some (.pixmap transparent)), [5, 1, 1, 1])

theorem property_shown_dressing :
    ∃ n w shadow, (run (step some) .initial (dressing ++ [.create 0 true])).1.shadows n = some shadow ∧
      shadow.isCreated ∧ shadow.window = some w ∧
      (run (step some) .initial (dressing ++ [.create 0 true])).1.platform w = some 5 ∧
      dressed = (run (step some) .initial (dressing ++ [.create 0 true])).1.decoration some n shadow.padding :=
  property_shown (by decide) (by decide +kernel)

/-- A shadow that is created on its window is what the compositor finds there, as the tiles were then, until the
window goes away or something is done to a shadow of this window. -/
theorem shadow_stays (es₀ : List Op) {n w : Nat} {shadow : KWindowShadow}
    (hshadow : (run (step drawn) .initial es₀).1.shadows n = some shadow) (hnew : shadow.isCreated = false)
    (hw : shadow.window = some w) {es : List Op}
    (hes : Along (step drawn) (fun s op => ¬s.Disturbs w op)
      (step drawn (run (step drawn) .initial es₀).1 (.create n true)).1 es) :
    ∃ x, (run (step drawn) (step drawn (run (step drawn) .initial es₀).1 (.create n true)).1 es).1.platform w = some x ∧
      (run (step drawn) (step drawn (run (step drawn) .initial es₀).1 (.create n true)).1 es).1.server.shadowOf x =
        some ((run (step drawn) .initial es₀).1.decoration drawn n shadow.padding) := by
  obtain ⟨hs, hd⟩ := run_sound drawn es₀
  generalize (run (step drawn) .initial es₀).1 = s at hshadow hes hs hd ⊢
  obtain ⟨x, hcreates⟩ := creates_of_new hs hd hshadow hnew hw
  have hdecoration : (s.create drawn n true).1.decoration drawn n shadow.padding =
      s.decoration drawn n shadow.padding := hcreates.decoration
  have hcreate : (step drawn s (.create n true)).1 = (s.create drawn n true).1 := rfl
  rw [hcreate] at hes ⊢
  have hall := run_invariant
    (fun s' : Session => (s'.Sound drawn ∧ s'.Decorated) ∧ s'.Wears n w x { shadow with isCreated := true } ∧
      s'.decoration drawn n shadow.padding = s.decoration drawn n shadow.padding)
    (fun s' op h hop => by
      have hstep := h.2.1.step h.1.1 h.1.2 hop
      exact ⟨⟨h.1.1.step h.1.2 op, h.1.2.step h.1.1 op⟩, hstep.1, hstep.2.trans h.2.2⟩)
    ⟨⟨hs.create n true, hd.create hs n true⟩, hcreates.wears hw, hdecoration⟩ hes
  refine ⟨x, hall.2.1.platform, ?_⟩
  rw [hall.2.1.shadowOf hall.1.1 hall.1.2]
  exact congrArg some hall.2.2

-- The program lets go of its tile, and makes another one.
theorem shadow_stays_dressing :
    ∃ x, (run (step some) (step some (run (step some) .initial dressing).1 (.create 0 true)).1
        [.assign 0 none, .newTile 0]).1.platform 0 = some x ∧
      (run (step some) (step some (run (step some) .initial dressing).1 (.create 0 true)).1
        [.assign 0 none, .newTile 0]).1.server.shadowOf x =
        some ((run (step some) .initial dressing).1.decoration some 0 ⟨4, 5, 6, 7⟩) := by
  have hshadow : (run (step some) .initial dressing).1.shadows 0 = some ⟨some 0, ⟨4, 5, 6, 7⟩, false⟩ := by
    decide +kernel
  have hes : Along (step some) (fun s op => ¬s.Disturbs 0 op)
      (step some (run (step some) .initial dressing).1 (.create 0 true)).1 [.assign 0 none, .newTile 0] :=
    ⟨id, id, trivial⟩
  exact shadow_stays dressing hshadow rfl rfl hes

variable (drawn) in
/-- The server has exactly the pixmaps and contexts of the created tiles that something points to, and the
platform windows; tiles do not share a pixmap. -/
theorem pixmaps_of_tiles (es : List Op) :
    (∀ x r, (run (step drawn) .initial es).1.server.resources x = some r ↔
      (∃ k tile, (run (step drawn) .initial es).1.tiles.get k = some tile ∧ tile.isCreated ∧
        x ∈ [tile.pixmap, tile.gc] ∧ (Holding.tile tile).content drawn x = some r) ∨
      ∃ w, (run (step drawn) .initial es).1.platform w = some x ∧ r = .window) ∧
    ∀ k k' tile tile', (run (step drawn) .initial es).1.tiles.get k = some tile → tile.isCreated →
      (run (step drawn) .initial es).1.tiles.get k' = some tile' → tile'.isCreated → tile.pixmap = tile'.pixmap →
        (run (step drawn) .initial es).1.tiles.target k = (run (step drawn) .initial es).1.tiles.target k' := by
  obtain ⟨hs, _⟩ := run_sound drawn es
  generalize (run (step drawn) .initial es).1 = s at hs ⊢
  refine ⟨fun x r => ?_, fun k k' tile tile' hk hcreated hk' hcreated' hpixmap => ?_⟩
  · rw [Registry.Owned.resources_iff hs]
    constructor
    · rintro ⟨o, a, ho, hx, hr⟩
      cases o with
      | tile i =>
          obtain ⟨tile, htile, rfl⟩ := Option.map_eq_some_iff.mp ho
          obtain ⟨k, hk⟩ := s.tiles.reached_of_objects htile
          left
          by_cases hcreated : tile.isCreated
          · exact ⟨k, tile, (s.tiles.get_of_target hk).trans htile, hcreated,
              by simpa [Holding.names, hcreated] using hx, hr⟩
          · simp [Holding.names, hcreated] at hx
      | window w =>
          obtain ⟨platform, hw, rfl⟩ := Option.map_eq_some_iff.mp ho
          right
          have hx' : platform = some x := by simpa [Holding.names, eq_comm] using hx
          refine ⟨w, by rw [Session.platform, hw, hx']; rfl, ?_⟩
          exact (Option.some.inj hr).symm
    · rintro (⟨k, tile, hk, hcreated, hx, hr⟩ | ⟨w, hw, rfl⟩)
      · obtain ⟨i, _, hi⟩ := Option.bind_eq_some_iff.mp hk
        exact ⟨.tile i, .tile tile, by rw [owner, hi]; rfl, by simpa [Holding.names, hcreated] using hx, hr⟩
      · have hwindow : s.windows w = some (some x) := Option.join_eq_some_iff.mp hw
        exact ⟨.window w, .window (some x), by rw [owner, hwindow]; rfl, by simp [Holding.names], rfl⟩
  · obtain ⟨i, htarget, hi⟩ := Option.bind_eq_some_iff.mp hk
    obtain ⟨j, htarget', hj⟩ := Option.bind_eq_some_iff.mp hk'
    have happart := Registry.Owned.apart hs (i := .tile i) (j := .tile j) (x := tile.pixmap)
      (by rw [owner, hi]; rfl) (by rw [owner, hj]; rfl) (by simp [Holding.names, hcreated])
      (by simp [Holding.names, hcreated', hpixmap])
    rw [htarget, htarget', Owner.tile.inj happart]

end WindowShadow

end KWindowSystem
