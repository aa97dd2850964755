import KWindowSystem.NetWM.WinInfo

/-!
# The icons of a window

`setIcon` keeps the icons in a growing array and writes `_NET_WM_ICON` anew with every call; `readIcon`
walks over the words of the property.  Icons within the limits of the reader come back as they were set.
-/

namespace KWindowSystem

open NET

/-- The pixels that the size of an icon asks for. -/
def NETIcon.pixels (icon : NETIcon) : List UInt32 :=
  (icon.data.getD []).take (icon.size.width * icon.size.height).toNatClampNeg

/-- What `setIconInternal` puts into the property for one icon. -/
def NETIcon.words (icon : NETIcon) : List UInt32 :=
  icon.size.width.toUInt32 :: icon.size.height.toUInt32 :: icon.pixels

namespace NETWinInfo

/-! ## Setting an icon -/

/-- The loop that computes the length of the property, in `int` arithmetic. -/
def propLength (icons : NETRArray NETIcon) (iconCount : Nat) : Int32 :=
  (List.range iconCount).foldl
    (fun proplen i => proplen + (2 + (icons.get i).size.width * (icons.get i).size.height)) 0

/-- The new icon is stored first, and its pixels are copied then. -/
def setIconInternal (p : NETWinInfo) (property : XcbAtom) (icon : NETIcon) (replace : Bool) :
    NETWinInfo × Option Change :=
  if p.role ≠ .client then (p, none)
  else
    let icons := if replace then p.icons.zero p.icons.size else p.icons
    let index := if replace then 0 else p.iconCount
    let icons := icons.set index { icon with data := some icon.pixels }
    let iconCount := index + 1
    let prop := (List.range iconCount).flatMap fun i => (icons.get i).words
    ({ p with icons, iconCount, iconSizes := none },
      some ⟨property, some ⟨.cardinal, .data32 (prop.take (propLength icons iconCount).toNatClampNeg)⟩⟩)

def setIcon (atoms : Atoms) (p : NETWinInfo) (icon : NETIcon) (replace : Bool) : NETWinInfo × Option Change :=
  p.setIconInternal (atoms.atom .netWmIcon) icon replace

/-- A call with what it does to the display. -/
def callSetIcon (atoms : Atoms) (s : NETWinInfo × Display) (icon : NETIcon) (replace : Bool) :
    NETWinInfo × Display :=
  let set := s.1.setIcon atoms icon replace
  (set.1, match set.2 with
    | some change => change.apply s.1.window s.2
    | none => s.2)

/-! ## Icons within the limits -/

/-- An icon that `readIcon` takes, with all its pixels. -/
structure Picture where
  width : Nat
  height : Nat
  pixels : List UInt32
  width_pos : 0 < width
  height_pos : 0 < height
  width_le : width ≤ maxIconSize.toNat
  height_le : height ≤ maxIconSize.toNat
  length_pixels : pixels.length = width * height

namespace Picture

variable (picture : Picture)

def icon : NETIcon :=
  { size := ⟨Int32.ofNat picture.width, Int32.ofNat picture.height⟩, data := some picture.pixels }

theorem count_lt : picture.width * picture.height < 2 ^ 31 := by
  have hmax : maxIconSize.toNat = 8192 := rfl
  calc picture.width * picture.height
      ≤ 8192 * 8192 := Nat.mul_le_mul (hmax ▸ picture.width_le) (hmax ▸ picture.height_le)
    _ < 2 ^ 31 := by decide

@[simp] theorem icon_pixels : picture.icon.pixels = picture.pixels := by
  show picture.pixels.take (Int32.ofNat picture.width * Int32.ofNat picture.height).toNatClampNeg = _
  rw [← Int32.ofNat_mul, Int32.toNatClampNeg_ofNat_of_lt picture.count_lt, ← picture.length_pixels,
    List.take_length]

theorem icon_words : picture.icon.words =
    UInt32.ofNat picture.width :: UInt32.ofNat picture.height :: picture.pixels := by
  rw [NETIcon.words, icon_pixels]
  rfl

-- Both sizes pass the tests of `readIcon`.
theorem passes {n : Nat} (hpos : 0 < n) (hle : n ≤ maxIconSize.toNat) :
    (UInt32.ofNat n).toNat = n ∧ UInt32.ofNat n ≠ 0 ∧ ¬UInt32.ofNat n > maxIconSize := by
  have hmax : maxIconSize.toNat = 8192 := rfl
  have hn : (UInt32.ofNat n).toNat = n := UInt32.toNat_ofNat_of_lt' (hle.trans_lt (by decide))
  refine ⟨hn, ?_, ?_⟩
  · intro hzero
    rw [hzero] at hn
    exact absurd hn (Nat.ne_of_lt hpos)
  · intro hgt
    have hgt := UInt32.lt_iff_toNat_lt.mp hgt
    rw [hn] at hgt
    exact absurd hle (Nat.not_le_of_lt hgt)

theorem count_eq :
    (UInt32.ofNat picture.width * UInt32.ofNat picture.height).toNat = picture.pixels.length := by
  have hlt := picture.count_lt
  rw [← UInt32.ofNat_mul, UInt32.toNat_ofNat_of_lt' (hlt.trans (by decide)), picture.length_pixels]

end Picture

/-- The words of the property for some icons. -/
def propWords (pictures : List Picture) : List UInt32 := pictures.flatMap fun picture => picture.icon.words

/-! ## Reading -/

theorem propWords_cons (picture : Picture) (pictures : List Picture) :
    propWords (picture :: pictures) = picture.icon.words ++ propWords pictures := List.flatMap_cons

theorem Picture.length_words (picture : Picture) :
    picture.icon.words.length = picture.width * picture.height + 2 := by
  rw [icon_words, List.length_cons, List.length_cons, picture.length_pixels]

theorem length_le_propWords (pictures : List Picture) : pictures.length ≤ (propWords pictures).length := by
  induction pictures with
  | nil => exact Nat.le_refl 0
  | cons picture pictures ih =>
      rw [propWords_cons, List.length_append, List.length_cons, picture.length_words]
      omega

-- Every icon takes its own words off the front.
theorem iconsIn_append (pictures : List Picture) (rest : List UInt32) {fuel : Nat}
    (hfuel : pictures.length ≤ fuel) :
    iconsIn fuel (propWords pictures ++ rest) =
      pictures.map Picture.icon ++ iconsIn (fuel - pictures.length) rest := by
  induction pictures generalizing fuel with
  | nil => rfl
  | cons picture pictures ih =>
      rw [propWords_cons, picture.icon_words, List.append_assoc]
      cases fuel with
      | zero => cases hfuel
      | succ fuel =>
          have hwidth := Picture.passes picture.width_pos picture.width_le
          have hheight := Picture.passes picture.height_pos picture.height_le
          have hsome : picture.pixels ≠ [] := by
            apply List.ne_nil_of_length_pos
            rw [picture.length_pixels]
            exact Nat.mul_pos picture.width_pos picture.height_pos
          rw [List.cons_append, List.cons_append, iconsIn,
            if_neg (by simp [hsome, hwidth.2, hheight.2])]
          dsimp only
          rw [picture.count_eq, if_neg (by simp), List.take_left, List.drop_left,
            ih (Nat.le_of_succ_le_succ hfuel), List.length_cons, Nat.succ_sub_succ]
          rfl

theorem iconsIn_propWords (pictures : List Picture) {fuel : Nat} (hfuel : (propWords pictures).length ≤ fuel) :
    iconsIn fuel (propWords pictures) = pictures.map Picture.icon := by
  have happend := iconsIn_append pictures [] ((length_le_propWords pictures).trans hfuel)
  have hnil : ∀ fuel, iconsIn fuel [] = [] := fun fuel => by cases fuel <;> rfl
  rw [List.append_nil, hnil, List.append_nil] at happend
  exact happend

theorem readIcon_propWords (pictures : List Picture) :
    readIcon (some ⟨.cardinal, .data32 (propWords pictures)⟩) = pictures.map Picture.icon :=
  iconsIn_propWords pictures (Nat.le_refl _)

/-! ## Writing -/

/-- The object has these icons. -/
def HasIcons (p : NETWinInfo) (pictures : List Picture) : Prop :=
  (List.range p.iconCount).map p.icons.get = pictures.map Picture.icon

-- The loop adds up what the words of the icons take.
theorem propLength_eq {p : NETWinInfo} {pictures : List Picture} (h : p.HasIcons pictures) :
    propLength p.icons p.iconCount = Int32.ofNat (propWords pictures).length := by
  have hloop : ∀ (pictures : List Picture) (n : Nat),
      (pictures.map Picture.icon).foldl
          (fun proplen icon => proplen + (2 + icon.size.width * icon.size.height)) (Int32.ofNat n) =
        Int32.ofNat (n + (propWords pictures).length) := by
    intro pictures
    induction pictures with
    | nil => intro n; rfl
    | cons picture pictures ih =>
        intro n
        have hstep : Int32.ofNat n + (2 + picture.icon.size.width * picture.icon.size.height) =
            Int32.ofNat (n + picture.icon.words.length) := by
          rw [picture.icon_words, List.length_cons, List.length_cons, picture.length_pixels, Int32.ofNat_add,
            Nat.add_assoc, Nat.add_comm _ 2, Int32.ofNat_add, Int32.ofNat_mul]
          rfl
        rw [List.map_cons, List.foldl_cons, hstep, ih, Nat.add_assoc]
        congr 2
        exact List.length_append.symm
  calc propLength p.icons p.iconCount
      = ((List.range p.iconCount).map p.icons.get).foldl
          (fun proplen icon => proplen + (2 + icon.size.width * icon.size.height)) (Int32.ofNat 0) := by
        rw [List.foldl_map]
        rfl
    _ = Int32.ofNat (propWords pictures).length := by rw [h, hloop, Nat.zero_add]

theorem prop_eq {p : NETWinInfo} {pictures : List Picture} (h : p.HasIcons pictures) :
    ((List.range p.iconCount).flatMap fun i => (p.icons.get i).words) = propWords pictures := by
  unfold propWords
  rw [← List.flatMap_map, h, List.flatMap_map]

-- The icons before the new one stay as they are.
theorem hasIcons_set {p : NETWinInfo} {pictures : List Picture} {icons : NETRArray NETIcon} {index : Nat}
    (h : (List.range index).map icons.get = pictures.map Picture.icon) (picture : Picture) :
    HasIcons { p with
        icons := icons.set index { picture.icon with data := some picture.icon.pixels }
        iconCount := index + 1
        iconSizes := none } (pictures ++ [picture]) := by
  have hcopy : ({ picture.icon with data := some picture.icon.pixels } : NETIcon) = picture.icon := by
    rw [picture.icon_pixels]
    rfl
  unfold HasIcons
  dsimp only
  rw [hcopy, List.range_succ, List.map_append, List.map_append, List.map_singleton, NETRArray.get_set,
    if_pos rfl, ← h]
  congr 1
  apply List.map_congr_left
  intro i hi
  rw [NETRArray.get_set, if_neg (Nat.ne_of_lt (List.mem_range.mp hi))]

/-- What a call makes of the object and of the display. -/
structure Wrote (atoms : Atoms) (p : NETWinInfo) (pictures : List Picture) (s : NETWinInfo × Display) :
    Prop where
  role : s.1.role = .client
  window : s.1.window = p.window
  icons : s.1.HasIcons pictures
  property : (propWords pictures).length < 2 ^ 31 →
    s.2 p.window (atoms.atom .netWmIcon) = some ⟨.cardinal, .data32 (propWords pictures)⟩

theorem callSetIcon_wrote (atoms : Atoms) {p : NETWinInfo} {s : NETWinInfo × Display}
    (hrole : s.1.role = .client) (hwindow : s.1.window = p.window) {pictures : List Picture}
    (picture : Picture) (replace : Bool)
    (h : replace = true ∧ pictures = [] ∨ replace = false ∧ s.1.HasIcons pictures) :
    Wrote atoms p (pictures ++ [picture]) (callSetIcon atoms s picture.icon replace) := by
  let icons := if replace then s.1.icons.zero s.1.icons.size else s.1.icons
  let index := if replace then 0 else s.1.iconCount
  have hbefore : (List.range index).map icons.get = pictures.map Picture.icon := by
    rcases h with ⟨hreplace, hnil⟩ | ⟨hreplace, hicons⟩
    · simp [index, hreplace, hnil]
    · simp only [index, icons, hreplace]
      exact hicons
  have hafter := hasIcons_set (p := s.1) hbefore picture
  unfold callSetIcon setIcon setIconInternal
  rw [if_neg (not_not.mpr hrole)]
  refine ⟨hrole, hwindow, hafter, ?_⟩
  intro hlength
  dsimp only
  rw [Change.apply, if_pos hwindow.symm, Function.update_self]
  have hprop := prop_eq hafter
  have hcount := propLength_eq hafter
  dsimp only at hprop hcount
  rw [hprop, hcount, Int32.toNatClampNeg_ofNat_of_lt hlength, List.take_length]

theorem appended_wrote (atoms : Atoms) {p : NETWinInfo} {s : NETWinInfo × Display} {before : List Picture}
    (h : Wrote atoms p before s) (pictures : List Picture) :
    Wrote atoms p (before ++ pictures)
      (pictures.foldl (fun s picture => callSetIcon atoms s picture.icon false) s) := by
  induction pictures generalizing s before with
  | nil =>
      rw [List.append_nil]
      exact h
  | cons picture pictures ih =>
      rw [List.foldl_cons, List.append_cons]
      exact ih (callSetIcon_wrote atoms h.role h.window picture false (.inr ⟨rfl, h.icons⟩))

/-- Icons that are set with `setIcon`, the first in place of all earlier ones, are read from the property
as they are: by `readIcon`, and into the array of any object that reads it. -/
theorem icons_readBack (atoms : Atoms) (p : NETWinInfo) (hrole : p.role = .client) (display : Display)
    (first : Picture) (rest : List Picture) (hlength : (propWords (first :: rest)).length < 2 ^ 31) :
    let s := rest.foldl (fun s picture => callSetIcon atoms s picture.icon false)
      (callSetIcon atoms (p, display) first.icon true)
    let reply := s.2.answer ⟨p.window, atoms.atom .netWmIcon, .cardinal, 0xffffffff⟩
    readIcon reply = (first :: rest).map Picture.icon ∧
      ∀ reader : NETWinInfo,
        let read := (Branch.wmIcon.read atoms [reply] reader).1
        read.iconCount = (first :: rest).length ∧
          (List.range read.iconCount).map read.icons.get = (first :: rest).map Picture.icon := by
  intro s reply
  have hfirst : Wrote atoms p [first] (callSetIcon atoms (p, display) first.icon true) :=
    callSetIcon_wrote atoms (p := p) (s := (p, display)) hrole rfl first true (.inl ⟨rfl, rfl⟩)
  have hwrote : Wrote atoms p (first :: rest) s := appended_wrote atoms hfirst rest
  have hreply : reply = some ⟨.cardinal, .data32 (propWords (first :: rest))⟩ := by
    show getProperty (s.2 p.window (atoms.atom .netWmIcon)) .cardinal 0xffffffff = _
    rw [hwrote.property hlength]
    show some (⟨.cardinal, .data32 ((propWords (first :: rest)).take 0xffffffff)⟩ : XProperty) = _
    rw [List.take_of_length_le (by omega)]
  rw [hreply]
  have hread := readIcon_propWords (first :: rest)
  refine ⟨hread, ?_⟩
  intro reader read
  have hcount : read.iconCount = (first :: rest).length := by
    show (readIcon (some ⟨.cardinal, .data32 (propWords (first :: rest))⟩)).length = _
    rw [hread, List.length_map]
  refine ⟨hcount, ?_⟩
  rw [hcount]
  show (List.range _).map (reader.icons.reset.setFrom 0
    (readIcon (some ⟨.cardinal, .data32 (propWords (first :: rest))⟩))).get = _
  rw [hread]
  apply List.ext_getElem
  · simp
  · intro i hi hi'
    rw [List.getElem_map, List.getElem_range, NETRArray.get_setFrom, if_pos (by simpa using hi),
      Nat.sub_zero, List.getD_eq_getElem?_getD, List.getElem?_eq_getElem hi', Option.getD_some]

/-! Two icons, after others that are replaced. -/

def dot : Picture := ⟨1, 1, [7], by decide, by decide, by decide, by decide, rfl⟩

def bar : Picture := ⟨2, 1, [8, 9], by decide, by decide, by decide, by decide, rfl⟩

theorem two_icons_readBack :
    let p : NETWinInfo :=
      { role := .client, window := 5, root := 1, icons := NETRArray.new.set 4 bar.icon, iconCount := 3
        properties := 0, properties2 := 0 }
    let s := callSetIcon .inOrder (callSetIcon .inOrder (p, fun _ _ => none) dot.icon true) bar.icon false
    readIcon (s.2.answer ⟨5, Atoms.inOrder.atom .netWmIcon, .cardinal, 0xffffffff⟩) = [dot.icon, bar.icon] :=
  (icons_readBack .inOrder
    { role := .client, window := 5, root := 1, icons := NETRArray.new.set 4 bar.icon, iconCount := 3
      properties := 0, properties2 := 0 } rfl (fun _ _ => none) dot [bar] (by decide)).1

end NETWinInfo

end KWindowSystem
