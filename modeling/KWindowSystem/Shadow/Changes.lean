import KWindowSystem.Shadow.Property

/-!
# What the operations on shadows and windows change

Every operation is about one shadow or one window: nothing that the other shadows depend on changes
(`Others`).  What `create` and `destroy` make of the shadow itself is said once, in `Creates` and
`Undresses`, for all that they can do (`create_cases`, `destroy_cases`).
-/

namespace KWindowSystem

namespace WindowShadow

variable {drawn : Drawn}

namespace Session

variable {s s' : Session} {n m : Nat}

/-! ## Platform windows -/

theorem Sound.apart (h : s.Sound drawn) {v w : Nat} {x : XID} (hv : s.platform v = some x)
    (hw : s.platform w = some x) : v = w := by
  have howner {u : Nat} (hu : s.platform u = some x) : s.owner (.window u) = some (.window (some x)) := by
    rw [owner, show s.windows u = some (some x) from Option.join_eq_some_iff.mp hu]
    rfl
  have happart := Registry.Owned.apart h (howner hv) (howner hw) (x := x) (by simp [Holding.names])
    (by simp [Holding.names])
  exact Owner.window.inj happart

theorem Sound.window (h : s.Sound drawn) {w : Nat} {x : XID} (hw : s.platform w = some x) :
    s.server.resources x = some .window := by
  have howner : s.owner (.window w) = some (.window (some x)) := by
    rw [owner, show s.windows w = some (some x) from Option.join_eq_some_iff.mp hw]
    rfl
  exact Registry.Owned.held h howner (by simp [Holding.names])

variable (drawn) in
theorem createPlatform_of_platform {w : Nat} {x : XID} (h : s.platform w = some x) :
    s.createPlatform drawn w = s := by
  unfold createPlatform
  rw [show s.windows w = some (some x) from Option.join_eq_some_iff.mp h]

variable (drawn) in
theorem platform_createPlatform {w : Nat} (h : (s.windows w).isSome) :
    ∃ x, (s.createPlatform drawn w).platform w = some x := by
  cases hw : s.windows w with
  | none => simp [hw] at h
  | some v =>
      cases v with
      | none =>
          refine ⟨s.nextId, ?_⟩
          unfold createPlatform
          rw [hw]
          simp [platform, send]
      | some x =>
          have hplatform : s.platform w = some x := by rw [platform, hw]; rfl
          exact ⟨x, by rw [createPlatform_of_platform drawn hplatform, hplatform]⟩

/-- One window may have changed. -/
structure WindowFrame (w : Nat) (s s' : Session) : Prop where
  tiles : s'.tiles = s.tiles
  shadows : s'.shadows = s.shadows
  shadowCount : s'.shadowCount = s.shadowCount
  windowCount : s'.windowCount = s.windowCount
  windows : ∀ v, v ≠ w → s'.windows v = s.windows v
  known : (s'.windows w).isSome = (s.windows w).isSome

theorem WindowFrame.isSome {w : Nat} (h : WindowFrame w s s') (v : Nat) :
    (s'.windows v).isSome = (s.windows v).isSome := by
  by_cases hv : v = w
  · rw [hv, h.known]
  · rw [h.windows v hv]

theorem WindowFrame.platform {w v : Nat} (h : WindowFrame w s s') (hv : v ≠ w) : s'.platform v = s.platform v := by
  rw [Session.platform, Session.platform, h.windows v hv]

variable (drawn) in
theorem frame_createPlatform (s : Session) (w : Nat) :
    WindowFrame w s (s.createPlatform drawn w) ∧
      (s.createPlatform drawn w).server.property = s.server.property := by
  unfold createPlatform
  split
  · rename_i hw
    exact ⟨⟨rfl, rfl, rfl, rfl, fun v hv => Function.update_of_ne hv _ _, by simp [send, hw]⟩, rfl⟩
  · exact ⟨⟨rfl, rfl, rfl, rfl, fun _ _ => rfl, rfl⟩, rfl⟩

variable (drawn) in
theorem frame_destroyPlatform (s : Session) (w : Nat) : WindowFrame w s (s.destroyPlatform drawn w) := by
  unfold destroyPlatform
  split
  · rename_i x hw
    have hwindow : s.windows w = some (some x) := Option.join_eq_some_iff.mp hw
    exact ⟨rfl, rfl, rfl, rfl, fun v hv => Function.update_of_ne hv _ _, by simp [send, hwindow]⟩
  · exact ⟨rfl, rfl, rfl, rfl, fun _ _ => rfl, rfl⟩

-- The property goes with the window.
theorem property_destroyPlatform (s : Session) (w : Nat) (y : XID) :
    (s.destroyPlatform drawn w).server.property y =
      if s.platform w = some y then none else s.server.property y := by
  unfold destroyPlatform
  split
  · rename_i x hw
    change Function.update s.server.property x none y = _
    by_cases hy : y = x
    · subst hy
      rw [Function.update_self, if_pos hw]
    · rw [Function.update_of_ne hy, if_neg]
      rw [hw]
      simpa using Ne.symm hy
  · rename_i hw
    rw [if_neg (by simp [hw])]

/-! ## The other shadows -/

/-- Nothing changed that a shadow depends on. -/
structure Others (m : Nat) (s s' : Session) : Prop where
  shadow : s'.shadows m = s.shadows m
  keeps : Keeps m s s'
  windows : ∀ w, (s.windows w).isSome → (s'.windows w).isSome

theorem Others.refl (m : Nat) (s : Session) : Others m s s := ⟨rfl, Keeps.refl m s, fun _ h => h⟩

theorem Others.trans {s'' : Session} (h : Others m s s') (h' : Others m s' s'') : Others m s s'' :=
  ⟨h'.shadow.trans h.shadow, h.keeps.trans h'.keeps, fun w hw => h'.windows w (h.windows w hw)⟩

theorem Frame.others {touched : Place → Prop} (h : Frame touched s s') (hm : ∀ k : Place, k.Of m → ¬touched k) :
    Others m s s' :=
  ⟨by rw [h.shadows], h.keeps hm, fun w hw => by rwa [h.windows]⟩

-- The members of one shadow are nothing to the other shadows.
theorem Frame.others_of {touched : Place → Prop} (h : Frame touched s s') (htouched : ∀ k, touched k → k.Of n)
    (hm : m ≠ n) : Others m s s' :=
  h.others fun k hk hin => hm (hk.unique (htouched k hin))

theorem WindowFrame.others {w : Nat} (h : WindowFrame w s s') (m : Nat) : Others m s s' :=
  ⟨by rw [h.shadows], Keeps.of_tiles h.tiles, fun v hv => by rwa [h.isSome]⟩

theorem others_setShadow (s : Session) {m n : Nat} (hm : m ≠ n) (shadow : Option KWindowShadow) :
    Others m s (s.setShadow n shadow) :=
  ⟨Function.update_of_ne hm _ _, Keeps.of_tiles rfl, fun _ h => h⟩

theorem others_send (s : Session) (m : Nat) (request : Request) : Others m s (s.send drawn request) :=
  ⟨rfl, Keeps.of_tiles rfl, fun _ h => h⟩

/-- What holds of every shadow, and of the members of those that are gone or not there yet. -/
structure Proper (s : Session) (m : Nat) : Prop where
  absent : s.shadows m = none → ∀ k : Place, k.Of m → s.tiles.target k = none
  pointing : ∀ shadow w, s.shadows m = some shadow → shadow.window = some w → (s.windows w).isSome
  bare : ∀ shadow, s.shadows m = some shadow → shadow.isCreated = false → s.tiles.target (.emptyTile m) = none
  dressed : ∀ shadow, s.shadows m = some shadow → shadow.isCreated → ∀ side, s.DressedAt m side

theorem Proper.others (hp : s.Proper m) (h : Others m s s') : s'.Proper m where
  absent hnone k hk := by
    rw [h.keeps.target k hk]
    exact hp.absent (h.shadow ▸ hnone) k hk
  pointing shadow w hshadow hw := h.windows w (hp.pointing shadow w (h.shadow ▸ hshadow) hw)
  bare shadow hshadow hcreated := by
    rw [h.keeps.target _ (.emptyTile m)]
    exact hp.bare shadow (h.shadow ▸ hshadow) hcreated
  dressed shadow hshadow hcreated side :=
    (hp.dressed shadow (h.shadow ▸ hshadow) hcreated side).keeps h.keeps

theorem Proper.of_some {shadow : KWindowShadow} (hself : s.shadows m = some shadow)
    (hpointing : ∀ w, shadow.window = some w → (s.windows w).isSome)
    (hbare : shadow.isCreated = false → s.tiles.target (.emptyTile m) = none)
    (hdressed : shadow.isCreated → ∀ side, s.DressedAt m side) : s.Proper m where
  absent hnone := by simp [hself] at hnone
  pointing shadow' w hshadow' hw := by
    obtain rfl := Option.some.inj (hself.symm.trans hshadow')
    exact hpointing w hw
  bare shadow' hshadow' hnew := by
    obtain rfl := Option.some.inj (hself.symm.trans hshadow')
    exact hbare hnew
  dressed shadow' hshadow' hcreated := by
    obtain rfl := Option.some.inj (hself.symm.trans hshadow')
    exact hdressed hcreated

theorem Proper.of_none (hself : s.shadows m = none) (h : ∀ k : Place, k.Of m → s.tiles.target k = none) :
    s.Proper m where
  absent _ := h
  pointing shadow _ hshadow := by simp [hself] at hshadow
  bare shadow hshadow := by simp [hself] at hshadow
  dressed shadow hshadow := by simp [hself] at hshadow

/-- All shadows are proper, and the next ones are not there yet. -/
structure Decorated (s : Session) : Prop where
  proper : ∀ m, s.Proper m
  windows : ∀ w, s.windowCount ≤ w → s.windows w = none
  shadows : ∀ m, s.shadowCount ≤ m → s.shadows m = none

theorem decorated_initial : Session.initial.Decorated where
  proper _ := Proper.of_none rfl fun k _ => Shared.target_empty k
  windows _ _ := rfl
  shadows _ _ := rfl

-- One shadow changes, and remains proper.
theorem Decorated.update (h : s.Decorated) {v : Option KWindowShadow} (hn : v.isSome → (s.shadows n).isSome)
    (hshadows : s'.shadows = Function.update s.shadows n v) (hshadowCount : s'.shadowCount = s.shadowCount)
    (hwindowCount : s'.windowCount = s.windowCount) (hwindows : ∀ w, (s'.windows w).isSome = (s.windows w).isSome)
    (hothers : ∀ m, m ≠ n → Others m s s') (hproper : s'.Proper n) : s'.Decorated where
  proper m := by
    by_cases hm : m = n
    · exact hm ▸ hproper
    · exact (h.proper m).others (hothers m hm)
  windows w hw := by
    have hnone := hwindows w
    rw [h.windows w (hwindowCount ▸ hw)] at hnone
    simpa using hnone
  shadows m hm := by
    have hnone := h.shadows m (hshadowCount ▸ hm)
    rw [hshadows]
    by_cases hm : m = n
    · subst hm
      rw [Function.update_self]
      simpa [hnone] using hn
    · rw [Function.update_of_ne hm, hnone]

/-! ## `create` -/

variable (drawn) in
/-- A shadow is created on a platform window. -/
structure Creates (s s' : Session) (n w : Nat) (x : XID) (shadow : KWindowShadow) : Prop where
  shadows : s'.shadows = Function.update s.shadows n (some { shadow with isCreated := true })
  shadowCount : s'.shadowCount = s.shadowCount
  windowCount : s'.windowCount = s.windowCount
  others : ∀ m, m ≠ n → Others m s s'
  windows : ∀ v, v ≠ w → s'.windows v = s.windows v
  known : (s'.windows w).isSome
  platform : s'.platform w = some x
  before : ∀ y, s.platform w = some y → y = x
  dressed : ∀ side, s'.DressedAt n side
  property : s'.server.property = Function.update s.server.property x (some (s'.data n shadow.padding))
  decoration : s'.decoration drawn n shadow.padding = s.decoration drawn n shadow.padding

-- The data depends on the tiles only.
theorem data_of_tiles (h : s'.tiles = s.tiles) (n : Nat) (padding : QMargins) : s'.data n padding = s.data n padding := by
  have hhandle : s'.handle n = s.handle n := by
    funext side
    rw [handle, handle, tileOf, tileOf, h]
  rw [data, data, hhandle, offsets_congr (Keeps.of_tiles h).has]

theorem decoration_of_tiles (h : s'.tiles = s.tiles) (n : Nat) (padding : QMargins) :
    s'.decoration drawn n padding = s.decoration drawn n padding := by
  rw [decoration, decoration, offsets_congr (Keeps.of_tiles h).has, h]

theorem creates_handles (hs : s.Sound drawn) {shadow : KWindowShadow} {w : Nat}
    (hknown : (s.windows w).isSome) (hbare : s.tiles.target (.emptyTile n) = none) :
    ∃ x, Creates drawn s (((s.prepareTiles drawn n Side.members).1.createPrivate drawn n shadow w true).1.setShadow n
      (some { shadow with isCreated := true })) n w x shadow := by
  have hprepared := prepareTiles_spec drawn s n Side.members
  have hframe := frame_prepareTiles drawn s n Side.members
  have himages (side : Side) := image_prepareTiles drawn s n Side.members (.member n side)
  have hsound := hs.prepareTiles n Side.members
  have hready (side : Side) := hprepared.2 side side.mem_members
  generalize hp : (s.prepareTiles drawn n Side.members).1 = p at hframe himages hsound hready ⊢
  have hempty : ∀ tile, p.tiles.get (.emptyTile n) = some tile → tile.isCreated ∧ tile.image = transparent := by
    intro tile hget
    rw [Shared.get, hframe.target _ (fun h => h), hbare] at hget
    simp at hget
  have hfilled := handles_spec drawn hready hempty Side.handles
  have hframe' := frame_handles drawn p n Side.handles
  have hsound' := hsound.handles n Side.handles
  have hall : Frame (· = .emptyTile n) s (p.handles drawn n Side.handles).1 :=
    (hframe.mono fun _ h => h.elim).trans hframe'
  have hcreate : (p.createPrivate drawn n shadow w true).1 =
      (((p.handles drawn n Side.handles).1.createPlatform drawn w).send drawn
        (.changeProperty ((((p.handles drawn n Side.handles).1.createPlatform drawn w).platform w).getD 0)
          ((p.handles drawn n Side.handles).2 ++ (p.handles drawn n Side.handles).1.offsets n shadow.padding))) := rfl
  rw [hcreate]
  have hdecoration : (p.handles drawn n Side.handles).1.decoration drawn n shadow.padding =
      s.decoration drawn n shadow.padding := by
    rw [hframe'.decoration (by simp) hready]
    exact decoration_congr (fun side => hframe.has (fun h => h)) himages _
  generalize (p.handles drawn n Side.handles).1 = f at hfilled hframe' hsound' hall hdecoration ⊢
  generalize (p.handles drawn n Side.handles).2 = handles at hfilled ⊢
  obtain ⟨x, hx⟩ := platform_createPlatform drawn (s := f) (w := w) (by rwa [hall.windows])
  obtain ⟨hwindow, hproperty⟩ := frame_createPlatform drawn f w
  have hbefore (y : XID) (hy : s.platform w = some y) : y = x := by
    have hfy : f.platform w = some y := (hall.platform w).trans hy
    rw [createPlatform_of_platform drawn hfy, hfy] at hx
    exact Option.some.inj hx
  have hsound'' := (hsound'.createPlatform w).window hx
  generalize f.createPlatform drawn w = q at hx hwindow hproperty hsound'' ⊢
  have hdata : handles ++ f.offsets n shadow.padding = f.data n shadow.padding := by rw [data, ← hfilled.2]
  rw [hx, Option.getD_some, hdata]
  have htiles : ((q.send drawn (.changeProperty x (f.data n shadow.padding))).setShadow n
      (some { shadow with isCreated := true })).tiles = f.tiles := hwindow.tiles
  refine ⟨x, ?_⟩
  constructor
  · exact congrArg (fun shadows => Function.update shadows n _) (hwindow.shadows.trans hall.shadows)
  · exact hwindow.shadowCount.trans hall.shadowCount
  · exact hwindow.windowCount.trans hall.windowCount
  · intro m hm
    have hpointers : Others m s f := hall.others_of (by rintro k rfl; exact .emptyTile n) hm
    exact (hpointers.trans (hwindow.others m)).trans ((others_send q m _).trans (others_setShadow _ hm _))
  · intro v hv
    exact (hwindow.windows v hv).trans (by rw [hall.windows])
  · exact (hwindow.known.trans (by rw [hall.windows])).trans hknown
  · exact hx
  · exact hbefore
  · exact fun side => (hfilled.1 side side.mem_handles).keeps (Keeps.of_tiles hwindow.tiles)
  · rw [data_of_tiles htiles]
    change Function.update q.server.property x _ = _
    rw [if_pos hsound'', hproperty, hall.property]
  · rw [decoration_of_tiles htiles, hdecoration]

-- What `create` can do: nothing, allocate the tiles, or all of it.
theorem create_cases (hs : s.Sound drawn) (hd : s.Decorated) (n : Nat) (atom : Bool) :
    ((s.create drawn n atom).1 = s ∧
      ∀ shadow, s.shadows n = some shadow → shadow.isCreated = false → shadow.window = none) ∨
    ∃ shadow w, s.shadows n = some shadow ∧ shadow.isCreated = false ∧ shadow.window = some w ∧
      (atom = false ∧ Frame (fun _ => False) s (s.create drawn n atom).1 ∨
        atom = true ∧ ∃ x, Creates drawn s (s.create drawn n atom).1 n w x shadow) := by
  cases hshadow : s.shadows n with
  | none =>
      left
      refine ⟨?_, fun _ h => by simp at h⟩
      unfold create
      rw [hshadow]
  | some shadow =>
      by_cases hcreated : shadow.isCreated
      · left
        refine ⟨?_, fun _ h hnew => ?_⟩
        · unfold create
          rw [hshadow]
          exact congrArg Prod.fst (if_pos hcreated)
        · obtain rfl := Option.some.inj h
          simp [hcreated] at hnew
      · cases hw : shadow.window with
        | none =>
            left
            refine ⟨?_, fun _ h _ => Option.some.inj h ▸ hw⟩
            unfold create
            rw [hshadow]
            dsimp only
            rw [if_neg hcreated, hw]
        | some w =>
            right
            have hcreate : s.create drawn n atom =
                (((s.prepareTiles drawn n Side.members).1.createPrivate drawn n shadow w atom).1.setShadow n
                  (some { shadow with
                    isCreated :=
                      ((s.prepareTiles drawn n Side.members).1.createPrivate drawn n shadow w atom).2 }),
                  ((s.prepareTiles drawn n Side.members).1.createPrivate drawn n shadow w atom).2) := by
              unfold create
              rw [hshadow]
              dsimp only
              rw [if_neg hcreated, hw]
              exact if_pos (prepareTiles_spec drawn s n Side.members).1
            have hnew : shadow.isCreated = false := by simpa using hcreated
            refine ⟨shadow, w, rfl, hnew, hw, ?_⟩
            cases atom with
            | false =>
                left
                have hframe := frame_prepareTiles drawn s n Side.members
                refine ⟨rfl, ?_⟩
                rw [hcreate]
                refine { hframe with shadows := ?_ }
                change Function.update (s.prepareTiles drawn n Side.members).1.shadows n _ = _
                rw [hframe.shadows]
                have hsame : { shadow with isCreated := false } = shadow := by rw [← hnew]
                refine Function.update_eq_self_iff.mpr ?_
                rw [hshadow]
                exact congrArg some hsame
            | true =>
                right
                rw [hcreate]
                exact ⟨rfl, creates_handles hs ((hd.proper n).pointing shadow w hshadow hw)
                  ((hd.proper n).bare shadow hshadow hnew)⟩

theorem creates_of_new (hs : s.Sound drawn) (hd : s.Decorated) {shadow : KWindowShadow} {w : Nat}
    (hshadow : s.shadows n = some shadow) (hnew : shadow.isCreated = false) (hw : shadow.window = some w) :
    ∃ x, Creates drawn s (s.create drawn n true).1 n w x shadow := by
  rcases create_cases hs hd n true with ⟨_, hnone⟩ | ⟨shadow', w', hshadow', _, hw', hcases⟩
  · simp [hnone shadow hshadow hnew] at hw
  · obtain rfl := Option.some.inj (hshadow.symm.trans hshadow')
    obtain rfl := Option.some.inj (hw.symm.trans hw')
    rcases hcases with ⟨hatom, _⟩ | ⟨_, hcreates⟩
    · simp at hatom
    · exact hcreates

/-! ## `destroy` and the destructor -/

/-- A created shadow gives up its property and its empty tile. -/
structure Undresses (s s' : Session) (n : Nat) (shadow : KWindowShadow) (atom : Bool) : Prop where
  shadows : s'.shadows = Function.update s.shadows n (some { shadow with isCreated := false })
  shadowCount : s'.shadowCount = s.shadowCount
  windowCount : s'.windowCount = s.windowCount
  windows : s'.windows = s.windows
  others : ∀ m, m ≠ n → Others m s s'
  bare : s'.tiles.target (.emptyTile n) = none
  property : ∀ y, s'.server.property y =
    if atom ∧ shadow.window.bind s.platform = some y then none else s.server.property y

-- Whatever becomes of the property, the rest is the same.
theorem Frame.undresses {q : Session} (h : Frame (· = .emptyTile n) s q)
    (hbare : q.tiles.target (.emptyTile n) = none) (shadow : KWindowShadow) (atom : Bool) (server : Server)
    (hproperty : ∀ y, server.property y =
      if atom ∧ shadow.window.bind s.platform = some y then none else s.server.property y) :
    Undresses s ({ q with server := server }.setShadow n (some { shadow with isCreated := false })) n shadow atom where
  shadows := congrArg (fun shadows => Function.update shadows n _) h.shadows
  shadowCount := h.shadowCount
  windowCount := h.windowCount
  windows := h.windows
  others m hm := by
    have hpointers : Others m s q := h.others_of (by rintro k rfl; exact .emptyTile n) hm
    have hserver : Others m q { q with server := server } := ⟨rfl, Keeps.of_tiles rfl, fun _ h => h⟩
    exact (hpointers.trans hserver).trans (others_setShadow _ hm _)
  bare := hbare
  property := hproperty

variable (drawn) in
theorem undresses_destroyPrivate (s : Session) (n : Nat) (shadow : KWindowShadow) (atom : Bool) :
    Undresses s ((s.destroyPrivate drawn n shadow atom).setShadow n (some { shadow with isCreated := false })) n shadow
      atom := by
  have hframe := frame_assign drawn s (.emptyTile n) none
  have hbare := has_assign_none drawn s (.emptyTile n)
  rw [destroyPrivate]
  generalize s.assign drawn (.emptyTile n) none = q at hframe hbare ⊢
  have hplatform : q.platform = s.platform := funext fun w => hframe.platform w
  rw [hplatform]
  split
  · rename_i x hx
    split
    · rename_i hatom
      refine hframe.undresses hbare shadow atom _ fun y => ?_
      change Function.update q.server.property x none y = _
      rw [hframe.property, hx]
      by_cases hy : y = x
      · rw [hy, Function.update_self, if_pos ⟨hatom, rfl⟩]
      · rw [Function.update_of_ne hy, if_neg fun h => hy (Option.some.inj h.2).symm]
    · rename_i hatom
      refine hframe.undresses hbare shadow atom q.server fun y => ?_
      rw [if_neg fun h => hatom h.1, hframe.property]
  · rename_i hx
    refine hframe.undresses hbare shadow atom q.server fun y => ?_
    rw [if_neg (by simp [hx]), hframe.property]

variable (drawn) in
theorem destroy_cases (s : Session) (n : Nat) (atom : Bool) :
    (s.destroy drawn n atom = s ∧ ∀ shadow, s.shadows n = some shadow → shadow.isCreated = false) ∨
    ∃ shadow, s.shadows n = some shadow ∧ shadow.isCreated ∧ Undresses s (s.destroy drawn n atom) n shadow atom := by
  cases hshadow : s.shadows n with
  | none =>
      left
      unfold destroy
      rw [hshadow]
      exact ⟨rfl, fun shadow h => by simp at h⟩
  | some shadow =>
      by_cases hcreated : shadow.isCreated
      · right
        have hdestroy : s.destroy drawn n atom =
            (s.destroyPrivate drawn n shadow atom).setShadow n (some { shadow with isCreated := false }) := by
          unfold destroy
          rw [hshadow]
          exact if_pos hcreated
        rw [hdestroy]
        exact ⟨shadow, rfl, hcreated, undresses_destroyPrivate drawn s n shadow atom⟩
      · left
        unfold destroy
        rw [hshadow]
        exact ⟨if_neg hcreated, fun shadow' h => by rw [← Option.some.inj h]; simpa using hcreated⟩

end Session

end WindowShadow

end KWindowSystem
