import KWindowSystem.NetWM.IconProperty

/-!
# The loop of readIcon

`readIcon` with its 32-bit index into the reply.  An icon is accepted if the index behind its pixels is not
behind the end of the data; where that index wraps around, the pixels are copied from outside the reply.
-/

namespace KWindowSystem

namespace NETWinInfo

/-- A reply whose length is the 32-bit number that the protocol has for it. -/
structure SizedReply where
  reply : Reply
  sized : ∀ type words, reply = some ⟨type, .data32 words⟩ → words.length < 2 ^ 32

/-- The value of a reply that `readIcon` looks into. -/
structure IconData where
  words : List UInt32
  enough : 3 ≤ words.length
  sized : words.length < 2 ^ 32

def SizedReply.iconData? (r : SizedReply) : Option IconData :=
  match h : r.reply with
  | some ⟨type, .data32 words⟩ =>
      if hvalue : 3 ≤ words.length ∧ type = .cardinal then
        some ⟨words, hvalue.1, r.sized type words h⟩
      else none
  | _ => none

/-! ## The loop -/

def IconData.valueLen (data : IconData) : UInt32 := UInt32.ofNat data.words.length

/-- The variables of the loop; the index of the icon is their count. -/
structure ReadState where
  j : UInt32 := 0
  icons : NETRArray NETIcon := .new
  iconCount : Nat := 0

/-- What the body of the loop does: it reads one more icon, ends the loop, or reads what is not in the
reply. -/
inductive Iteration where
  | next (s : ReadState)
  | stop
  | outside

def iteration (data : IconData) (s : ReadState) : Iteration :=
  if s.j < data.valueLen - 2 then
    match data.words[s.j.toNat]?, data.words[(s.j + 1).toNat]? with
    | some width, some height =>
        let j := s.j + 2
        let size := width * height * 4
        if width = 0 ∨ height = 0 then .stop
        else if width > maxIconSize ∨ height > maxIconSize then .stop
        else if j + width * height > data.valueLen then .stop
        else if 4 * j.toNat + size.toNat ≤ 4 * data.words.length then
          let pixels := (data.words.drop j.toNat).take (size.toNat / 4)
          .next
            { j := j + width * height
              icons := s.icons.set s.iconCount ⟨⟨width.toInt32, height.toInt32⟩, some pixels⟩
              iconCount := s.iconCount + 1 }
        else .outside
    | _, _ => .outside
  else .stop

/-! ## Sizes -/

/-- A size that is accepted. -/
def InRange (width height : UInt32) : Prop :=
  (1 ≤ width ∧ width ≤ 8192) ∧ 1 ≤ height ∧ height ≤ 8192

section Arithmetic

variable {width height : UInt32}

theorem InRange.bounds (h : InRange width height) :
    (1 ≤ width.toNat ∧ width.toNat ≤ 8192) ∧ 1 ≤ height.toNat ∧ height.toNat ≤ 8192 := by
  unfold InRange at h
  rw [UInt32.le_iff_toNat_le, UInt32.le_iff_toNat_le, UInt32.le_iff_toNat_le,
    UInt32.le_iff_toNat_le] at h
  exact h

theorem InRange.pixels_le (h : InRange width height) : width.toNat * height.toNat ≤ 2 ^ 26 :=
  (Nat.mul_le_mul h.bounds.1.2 h.bounds.2.2).trans (by decide)

theorem InRange.toNat_mul (h : InRange width height) :
    (width * height).toNat = width.toNat * height.toNat := by
  rw [UInt32.toNat_mul]
  exact Nat.mod_eq_of_lt (Nat.lt_of_le_of_lt h.pixels_le (by decide))

-- The size in bytes does not wrap around.
theorem InRange.toNat_size (h : InRange width height) :
    (width * height * 4).toNat = 4 * (width.toNat * height.toNat) := by
  have hle := h.pixels_le
  rw [UInt32.toNat_mul, h.toNat_mul]
  show width.toNat * height.toNat * 4 % 2 ^ 32 = _
  omega

theorem not_inRange_iff :
    ¬InRange width height ↔
      (width = 0 ∨ height = 0) ∨ width > maxIconSize ∨ height > maxIconSize := by
  have hzero : ∀ n : UInt32, ¬1 ≤ n ↔ n = 0 := by
    intro n
    rw [UInt32.le_iff_toNat_le, ← UInt32.toNat_inj]
    show ¬1 ≤ n.toNat ↔ n.toNat = 0
    omega
  have hmax : ∀ n : UInt32, ¬n ≤ 8192 ↔ n > maxIconSize := fun n => UInt32.not_le
  unfold InRange
  rw [not_and_or, not_and_or, not_and_or, hzero, hzero, hmax, hmax]
  exact or_or_or_comm

-- The icons of these sizes are the well-formed ones.
theorem Picture.inRange (picture : Picture) :
    InRange (UInt32.ofNat picture.width) (UInt32.ofNat picture.height) ∧
      (UInt32.ofNat picture.width).toNat = picture.width ∧
        (UInt32.ofNat picture.height).toNat = picture.height := by
  have hwidth := passes picture.width_pos picture.width_le
  have hheight := passes picture.height_pos picture.height_le
  refine ⟨?_, hwidth.1, hheight.1⟩
  by_contra hnot
  have hbad := not_inRange_iff.mp hnot
  tauto

/-- The icon of a size with its pixels. -/
def InRange.picture (h : InRange width height) (pixels : List UInt32)
    (hpixels : pixels.length = width.toNat * height.toNat) : Picture :=
  ⟨width.toNat, height.toNat, pixels, h.bounds.1.1, h.bounds.2.1, h.bounds.1.2, h.bounds.2.2, hpixels⟩

theorem InRange.picture_icon (h : InRange width height) (pixels : List UInt32)
    (hpixels : pixels.length = width.toNat * height.toNat) :
    (h.picture pixels hpixels).icon = ⟨⟨width.toInt32, height.toInt32⟩, some pixels⟩ := by
  show (⟨⟨(UInt32.ofNat width.toNat).toInt32, (UInt32.ofNat height.toNat).toInt32⟩, _⟩ : NETIcon) = _
  rw [UInt32.ofNat_toNat, UInt32.ofNat_toNat]
  rfl

theorem InRange.picture_words (h : InRange width height) (pixels : List UInt32)
    (hpixels : pixels.length = width.toNat * height.toNat) :
    (h.picture pixels hpixels).icon.words = width :: height :: pixels := by
  rw [Picture.icon_words]
  show UInt32.ofNat width.toNat :: UInt32.ofNat height.toNat :: pixels = _
  rw [UInt32.ofNat_toNat, UInt32.ofNat_toNat]

end Arithmetic

/-! ## One icon -/

section Iteration

variable {data : IconData} {s : ReadState} {before : List UInt32}

theorem IconData.toNat_valueLen (data : IconData) : data.valueLen.toNat = data.words.length :=
  Nat.mod_eq_of_lt data.sized

theorem IconData.lt_valueLen (data : IconData) (j : UInt32) :
    j < data.valueLen - 2 ↔ j.toNat + 2 < data.words.length := by
  have hlen := data.toNat_valueLen
  have hle : (2 : UInt32) ≤ data.valueLen := by
    rw [UInt32.le_iff_toNat_le, hlen]
    exact Nat.le_of_succ_le data.enough
  rw [UInt32.lt_iff_toNat_lt, UInt32.toNat_sub_of_le _ _ hle, hlen]
  show j.toNat < data.words.length - 2 ↔ _
  omega

-- Fewer than three words are left.
theorem iteration_end {rest : List UInt32} (hwords : data.words = before ++ rest)
    (hj : s.j.toNat = before.length) (hrest : rest.length < 3) : iteration data s = .stop := by
  unfold iteration
  rw [if_neg]
  rw [data.lt_valueLen, hj, hwords, List.length_append]
  omega

variable {width height first : UInt32} {rest : List UInt32}
  (hwords : data.words = before ++ width :: height :: first :: rest) (hj : s.j.toNat = before.length)
include hwords hj

-- The header is there.
theorem iteration_header :
    iteration data s =
      let j := s.j + 2
      let size := width * height * 4
      if width = 0 ∨ height = 0 then .stop
      else if width > maxIconSize ∨ height > maxIconSize then .stop
      else if j + width * height > data.valueLen then .stop
      else if 4 * j.toNat + size.toNat ≤ 4 * data.words.length then
        let pixels := (data.words.drop j.toNat).take (size.toNat / 4)
        .next
          { j := j + width * height
            icons := s.icons.set s.iconCount ⟨⟨width.toInt32, height.toInt32⟩, some pixels⟩
            iconCount := s.iconCount + 1 }
      else .outside := by
  have hlen := congrArg List.length hwords
  have hsized := data.sized
  rw [List.length_append, List.length_cons, List.length_cons, List.length_cons] at hlen
  have hloop : s.j < data.valueLen - 2 := by
    rw [data.lt_valueLen, hj]
    omega
  have hwidth : data.words[s.j.toNat]? = some width := by
    rw [hwords, hj, List.getElem?_append_right (Nat.le_refl _), Nat.sub_self]
    rfl
  have hheight : data.words[(s.j + 1).toNat]? = some height := by
    have hnext : (s.j + 1).toNat = before.length + 1 := by
      rw [UInt32.toNat_add, hj]
      show (before.length + 1) % 2 ^ 32 = _
      omega
    rw [hwords, hnext, List.getElem?_append_right (Nat.le_add_right _ _), Nat.add_sub_cancel_left]
    rfl
  unfold iteration
  rw [if_pos hloop, hwidth, hheight]

theorem toNat_behind_header : (s.j + 2).toNat = before.length + 2 := by
  have hlen := congrArg List.length hwords
  have hsized := data.sized
  rw [List.length_append, List.length_cons, List.length_cons] at hlen
  rw [UInt32.toNat_add, hj]
  show (before.length + 2) % 2 ^ 32 = _
  omega

theorem iteration_bad (hbad : ¬InRange width height) : iteration data s = .stop := by
  rw [iteration_header hwords hj]
  rcases not_inRange_iff.mp hbad with h | h
  · exact if_pos h
  · dsimp only
    rw [if_pos h]
    exact ite_self _

/-- The index behind the pixels. -/
theorem toNat_behind_pixels (hrange : InRange width height) :
    (s.j + 2 + width * height).toNat =
      (before.length + 2 + width.toNat * height.toNat) % 2 ^ 32 := by
  rw [UInt32.toNat_add, toNat_behind_header hwords hj, hrange.toNat_mul]

-- A whole icon.
theorem iteration_picture (hrange : InRange width height)
    (hfits : width.toNat * height.toNat ≤ (first :: rest).length) :
    iteration data s = .next
      { j := s.j + 2 + width * height
        icons := s.icons.set s.iconCount ⟨⟨width.toInt32, height.toInt32⟩,
          some ((first :: rest).take (width.toNat * height.toNat))⟩
        iconCount := s.iconCount + 1 } := by
  have hlen := congrArg List.length hwords
  have hsized := data.sized
  have hheader := toNat_behind_header hwords hj
  have hbehind := toNat_behind_pixels hwords hj hrange
  rw [List.length_append, List.length_cons, List.length_cons] at hlen
  rw [Nat.mod_eq_of_lt (by omega)] at hbehind
  have hgood := not_or.mp (fun h => not_inRange_iff.mpr h hrange)
  have hinside : ¬s.j + 2 + width * height > data.valueLen := by
    rw [gt_iff_lt, UInt32.lt_iff_toNat_lt, hbehind, data.toNat_valueLen]
    omega
  have hcopy : 4 * (s.j + 2).toNat + (width * height * 4).toNat ≤ 4 * data.words.length := by
    rw [hheader, hrange.toNat_size]
    omega
  have hpixels : data.words.drop (before.length + 2) = first :: rest := by
    rw [hwords, List.drop_length_add_append]
    rfl
  rw [iteration_header hwords hj]
  dsimp only
  rw [if_neg hgood.1, if_neg hgood.2, if_neg hinside, if_pos hcopy, hheader, hpixels, hrange.toNat_size,
    Nat.mul_div_cancel_left _ (by decide : 0 < 4)]

-- An icon of which the end is missing, or would be where the index has wrapped around.
theorem iteration_cut (hrange : InRange width height)
    (hcut : (first :: rest).length < width.toNat * height.toNat) :
    iteration data s =
      if before.length + 2 + width.toNat * height.toNat < 2 ^ 32 then .stop else .outside := by
  have hlen := congrArg List.length hwords
  have hsized := data.sized
  have hle := hrange.pixels_le
  have hheader := toNat_behind_header hwords hj
  have hbehind := toNat_behind_pixels hwords hj hrange
  rw [List.length_append, List.length_cons, List.length_cons] at hlen
  have hgood := not_or.mp (fun h => not_inRange_iff.mpr h hrange)
  have hover : s.j + 2 + width * height > data.valueLen ↔
      before.length + 2 + width.toNat * height.toNat < 2 ^ 32 := by
    rw [gt_iff_lt, UInt32.lt_iff_toNat_lt, hbehind, data.toNat_valueLen]
    omega
  have hcopy : ¬4 * (s.j + 2).toNat + (width * height * 4).toNat ≤ 4 * data.words.length := by
    rw [hheader, hrange.toNat_size]
    omega
  rw [iteration_header hwords hj]
  dsimp only
  rw [if_neg hgood.1, if_neg hgood.2, if_neg hcopy]
  by_cases h : before.length + 2 + width.toNat * height.toNat < 2 ^ 32
  · rw [if_pos h, if_pos (hover.mpr h)]
  · rw [if_neg h, if_neg (fun hgt => h (hover.mp hgt))]

end Iteration

/-! ## The whole loop -/

-- Where the loop goes on there is a header and a word behind it.
theorem header_of_lt {data : IconData} {s : ReadState} (h : s.j.toNat + 2 < data.words.length) :
    ∃ before width height first rest,
      data.words = before ++ width :: height :: first :: rest ∧ s.j.toNat = before.length := by
  have htake : s.j.toNat = (data.words.take s.j.toNat).length := by
    rw [List.length_take]
    omega
  have hsplit := (List.take_append_drop s.j.toNat data.words).symm
  rcases hdrop : data.words.drop s.j.toNat with _ | ⟨width, _ | ⟨height, _ | ⟨first, rest⟩⟩⟩
  case cons.cons.cons =>
    rw [hdrop] at hsplit
    exact ⟨_, width, height, first, rest, hsplit, htake⟩
  all_goals
    have hlen := congrArg List.length hdrop
    rw [List.length_drop] at hlen
    simp only [List.length_nil, List.length_cons] at hlen
    omega

-- An icon takes the index nearer to the end.
theorem iteration_next {data : IconData} {s s' : ReadState} (h : iteration data s = .next s') :
    data.words.length - s'.j.toNat < data.words.length - s.j.toNat := by
  have hlt : s.j.toNat + 2 < data.words.length := by
    rw [← data.lt_valueLen]
    by_contra hnot
    unfold iteration at h
    rw [if_neg hnot] at h
    nomatch h
  rcases header_of_lt hlt with ⟨before, width, height, first, rest, hwords, hj⟩
  by_cases hrange : InRange width height
  · by_cases hfits : width.toNat * height.toNat ≤ (first :: rest).length
    · rw [iteration_picture hwords hj hrange hfits] at h
      injection h with h
      have hlen := congrArg List.length hwords
      have hsized := data.sized
      have hbehind := toNat_behind_pixels hwords hj hrange
      rw [List.length_append, List.length_cons, List.length_cons] at hlen
      rw [Nat.mod_eq_of_lt (by omega)] at hbehind
      rw [← h]
      dsimp only
      omega
    · rw [iteration_cut hwords hj hrange (Nat.lt_of_not_le hfits)] at h
      split at h <;> nomatch h
  · rw [iteration_bad hwords hj hrange] at h
    nomatch h

def readLoop (data : IconData) (s : ReadState) : Option ReadState :=
  match _h : iteration data s with
  | .next s' => readLoop data s'
  | .stop => some s
  | .outside => none
termination_by data.words.length - s.j.toNat
decreasing_by exact iteration_next _h

/-- No well-formed icon stands at the beginning. -/
def NoPicture (words : List UInt32) : Prop := ∀ picture : Picture, ¬picture.icon.words <+: words

/-- Behind some icons there is a header, and something behind it, whose pixels would end `2 ^ 32` words or
more from the beginning of the data. -/
def Overrun (index : Nat) (words : List UInt32) : Prop :=
  ∃ pictures width height rest, words = propWords pictures ++ width :: height :: rest ∧ rest ≠ [] ∧
    InRange width height ∧
      2 ^ 32 ≤ index + (propWords pictures).length + 2 + width.toNat * height.toNat

section Run

variable {data : IconData} {s : ReadState} {before : List UInt32}

theorem readLoop_stop (h : iteration data s = .stop) : readLoop data s = some s := by
  rw [readLoop]
  split <;> simp_all

theorem readLoop_outside (h : iteration data s = .outside) : readLoop data s = none := by
  rw [readLoop]
  split <;> simp_all

theorem readLoop_next {s' : ReadState} (h : iteration data s = .next s') :
    readLoop data s = readLoop data s' := by
  rw [readLoop]
  split <;> simp_all

/-! ## What the loop reads -/

theorem header_of_prefix {picture : Picture} {width height : UInt32} {rest : List UInt32}
    (h : picture.icon.words <+: width :: height :: rest) :
    InRange width height ∧ picture.width = width.toNat ∧ picture.height = height.toNat ∧
      picture.pixels <+: rest := by
  have hrange := picture.inRange
  rw [picture.icon_words, List.cons_prefix_cons, List.cons_prefix_cons] at h
  rw [h.1, h.2.1] at hrange
  exact ⟨hrange.1, hrange.2.1.symm, hrange.2.2.symm, h.2.2⟩

-- Only the first icon can be whole, and its header in bounds.
theorem noPicture_header {width height : UInt32} {rest : List UInt32}
    (h : InRange width height → rest.length < width.toNat * height.toNat) :
    NoPicture (width :: height :: rest) := by
  intro picture hprefix
  rcases header_of_prefix hprefix with ⟨hrange, hwidth, hheight, hpixels⟩
  have hle := hpixels.length_le
  rw [picture.length_pixels, hwidth, hheight] at hle
  exact absurd (h hrange) (Nat.not_lt_of_le hle)

theorem noPicture_short {words : List UInt32} (h : words.length < 3) : NoPicture words := by
  intro picture hprefix
  have hle := hprefix.length_le
  have hpos := Nat.mul_pos picture.width_pos picture.height_pos
  rw [picture.length_words] at hle
  omega

theorem not_overrun_short {index : Nat} {words : List UInt32} (h : words.length < 3) :
    ¬Overrun index words := by
  rintro ⟨pictures, width, height, rest, hwords, hrest, _⟩
  have hlength := congrArg List.length hwords
  have hpos := List.length_pos_iff.mpr hrest
  rw [List.length_append, List.length_cons, List.length_cons] at hlength
  omega

theorem not_overrun_header {index : Nat} {width height : UInt32} {rest : List UInt32}
    (hnone : NoPicture (width :: height :: rest))
    (h : InRange width height → index + 2 + width.toNat * height.toNat < 2 ^ 32) :
    ¬Overrun index (width :: height :: rest) := by
  rintro ⟨pictures, width', height', rest', hwords, _, hrange, hover⟩
  cases pictures with
  | nil =>
      injection hwords with hwidth hwords
      injection hwords with hheight _
      rw [← hwidth, ← hheight] at hrange hover
      have hlt := h hrange
      rw [show (propWords []).length = 0 from rfl] at hover
      omega
  | cons picture pictures =>
      rw [propWords_cons, List.append_assoc] at hwords
      exact hnone picture ⟨_, hwords.symm⟩

-- Behind a whole icon the data go on as if they began there.
theorem overrun_words_append {index : Nat} (picture : Picture) (words : List UInt32)
    (hfits : index + picture.icon.words.length < 2 ^ 32) :
    Overrun index (picture.icon.words ++ words) ↔ Overrun (index + picture.icon.words.length) words := by
  have hlength := picture.length_words
  apply Iff.intro
  · rintro ⟨pictures, width, height, rest, hwords, hrest, hrange, hover⟩
    cases pictures with
    | nil =>
        -- That header is the one of the icon.
        rcases header_of_prefix ⟨words, hwords⟩ with ⟨_, hwidth, hheight, _⟩
        rw [hwidth, hheight] at hlength
        rw [show (propWords []).length = 0 from rfl] at hover
        omega
    | cons picture' pictures =>
        rw [propWords_cons, List.append_assoc] at hwords
        have hprefix : picture.icon.words <+: picture'.icon.words ++ _ := ⟨words, hwords⟩
        rw [picture'.icon_words] at hprefix
        rcases header_of_prefix hprefix with ⟨_, hwidth, hheight, _⟩
        have hsame : picture.icon.words.length = picture'.icon.words.length := by
          rw [hlength, picture'.length_words, hwidth, hheight, picture'.inRange.2.1, picture'.inRange.2.2]
        rcases List.append_inj hwords hsame with ⟨_, hwords⟩
        refine ⟨pictures, width, height, rest, hwords, hrest, hrange, ?_⟩
        rw [propWords_cons, List.length_append] at hover
        omega
  · rintro ⟨pictures, width, height, rest, hwords, hrest, hrange, hover⟩
    refine ⟨picture :: pictures, width, height, rest, ?_, hrest, hrange, ?_⟩
    · rw [propWords_cons, List.append_assoc, ← hwords]
    · rw [propWords_cons, List.length_append]
      omega

-- The loop ends where no icon stands.
theorem readLoop_spec_of_stop {rest : List UInt32} (hstop : iteration data s = .stop)
    (hnone : NoPicture rest) (hover : ¬Overrun before.length rest) :
    (¬Overrun before.length rest → ∃ s' pictures after, readLoop data s = some s' ∧
      rest = propWords pictures ++ after ∧ NoPicture after ∧
        s'.icons = s.icons.setFrom s.iconCount (pictures.map Picture.icon) ∧
          s'.iconCount = s.iconCount + pictures.length) ∧
      (Overrun before.length rest → readLoop data s = none) :=
  ⟨fun _ => ⟨s, [], rest, readLoop_stop hstop, rfl, hnone, rfl, rfl⟩, fun h => absurd h hover⟩

-- The icons are read up to the first that is not whole, if none has its end where the index wraps.
theorem readLoop_spec {rest : List UInt32} (hwords : data.words = before ++ rest)
    (hj : s.j.toNat = before.length) :
    (¬Overrun before.length rest → ∃ s' pictures after, readLoop data s = some s' ∧
      rest = propWords pictures ++ after ∧ NoPicture after ∧
        s'.icons = s.icons.setFrom s.iconCount (pictures.map Picture.icon) ∧
          s'.iconCount = s.iconCount + pictures.length) ∧
      (Overrun before.length rest → readLoop data s = none) := by
  induction hn : rest.length using Nat.strongRecOn generalizing s before rest with
  | ind n ih =>
      rcases rest with _ | ⟨width, _ | ⟨height, _ | ⟨first, rest⟩⟩⟩
      case cons.cons.cons =>
        by_cases hrange : InRange width height
        · by_cases hfits : width.toNat * height.toNat ≤ (first :: rest).length
          · -- One more icon, and the loop goes on behind it.
            let picture := hrange.picture _ (List.length_take_of_le hfits)
            let s₁ : ReadState :=
              { j := s.j + 2 + width * height
                icons := s.icons.set s.iconCount picture.icon
                iconCount := s.iconCount + 1 }
            have hstep : iteration data s = .next s₁ := by
              rw [iteration_picture hwords hj hrange hfits]
              show _ = Iteration.next ⟨_, s.icons.set s.iconCount picture.icon, _⟩
              rw [hrange.picture_icon]
            have hrest : width :: height :: first :: rest =
                picture.icon.words ++ (first :: rest).drop (width.toNat * height.toNat) := by
              rw [hrange.picture_words, List.cons_append, List.cons_append, List.take_append_drop]
            have hlength : picture.icon.words.length = width.toNat * height.toNat + 2 := picture.length_words
            have hbehind := toNat_behind_pixels hwords hj hrange
            have hsized := data.sized
            rw [hrest] at hwords hn ⊢
            have htotal := congrArg List.length hwords
            rw [List.length_append, List.length_append] at htotal
            rw [List.length_append] at hn
            rw [Nat.mod_eq_of_lt (by omega)] at hbehind
            rw [readLoop_next hstep, overrun_words_append picture _ (by omega), ← List.length_append]
            rw [← List.append_assoc] at hwords
            have hj₁ : s₁.j.toNat = (before ++ picture.icon.words).length := by
              rw [List.length_append, hlength, Nat.add_comm _ 2, ← Nat.add_assoc]
              exact hbehind
            have hspec := ih _ (by omega) hwords hj₁ rfl
            refine ⟨fun hover => ?_, hspec.2⟩
            rcases hspec.1 hover with ⟨s', pictures, after, hread, hafter, hnone, hicons, hcount⟩
            refine ⟨s', picture :: pictures, after, hread, ?_, hnone, hicons, ?_⟩
            · rw [propWords_cons, List.append_assoc, ← hafter]
            · rw [hcount, List.length_cons, Nat.add_comm _ 1, ← Nat.add_assoc]
          · have hcut := Nat.lt_of_not_le hfits
            have hnone := noPicture_header fun _ => hcut
            have hstep := iteration_cut hwords hj hrange hcut
            by_cases hlt : before.length + 2 + width.toNat * height.toNat < 2 ^ 32
            · rw [if_pos hlt] at hstep
              exact readLoop_spec_of_stop hstep hnone (not_overrun_header hnone fun _ => hlt)
            · rw [if_neg hlt] at hstep
              have hover : Overrun before.length (width :: height :: first :: rest) :=
                ⟨[], width, height, first :: rest, rfl, List.cons_ne_nil _ _, hrange, Nat.le_of_not_lt hlt⟩
              exact ⟨fun h => absurd hover h, fun _ => readLoop_outside hstep⟩
        · have hnone : NoPicture (width :: height :: first :: rest) :=
            noPicture_header fun h => absurd h hrange
          exact readLoop_spec_of_stop (iteration_bad hwords hj hrange) hnone
            (not_overrun_header hnone fun h => absurd h hrange)
      all_goals
        exact readLoop_spec_of_stop (iteration_end hwords hj (by simp)) (noPicture_short (by simp))
          (not_overrun_short (by simp))

end Run

/-! ## Whole replies -/

namespace SizedReply

variable (r : SizedReply)

/-- The words of the reply, if they are cardinals of 32 bits. -/
def words : List UInt32 := getArrayReply r.reply .cardinal

/-- `readIcon`, with `none` when it reads outside the reply. -/
def readIcon : Option ReadState :=
  match r.iconData? with
  | some data => readLoop data {}
  | none => some {}

/-- `readIcon` ends inside the reply with as many icons as it counts, which are the longest run of
well-formed icons that the data begin with; none has a size in bytes that wraps around. -/
def Exact : Prop :=
  ∃ s pictures rest, r.readIcon = some s ∧ s.icons.size = s.iconCount ∧
    s.icons.toList = pictures.map Picture.icon ∧ r.words = propWords pictures ++ rest ∧ NoPicture rest ∧
      ∀ picture ∈ pictures, (UInt32.ofNat picture.width * UInt32.ofNat picture.height * 4).toNat =
        4 * picture.pixels.length

variable {r}

theorem words_of_some {data : IconData} (h : r.iconData? = some data) : r.words = data.words := by
  unfold iconData? at h
  unfold words getArrayReply
  split at h
  · rename_i type words hreply
    rw [hreply]
    split at h
    · rename_i hvalue
      rw [← Option.some.inj h]
      exact if_pos hvalue.2
    · nomatch h
  · nomatch h

theorem words_of_none (h : r.iconData? = none) : r.words.length < 3 := by
  unfold iconData? at h
  unfold words getArrayReply
  split at h
  · rename_i type words hreply
    rw [hreply]
    split at h
    · nomatch h
    · rename_i hvalue
      dsimp only
      split
      · rename_i htype
        exact Nat.lt_of_not_le fun hlong => hvalue ⟨hlong, htype⟩
      · exact Nat.zero_lt_succ 2
  · rename_i hother
    split
    · rename_i type words hreply
      exact absurd hreply (hother type words)
    · exact Nat.zero_lt_succ 2

theorem readIcon_of_overrun (h : Overrun 0 r.words) : r.readIcon = none := by
  unfold readIcon
  cases hdata : r.iconData? with
  | none => exact absurd h (not_overrun_short (words_of_none hdata))
  | some data =>
      rw [words_of_some hdata] at h
      exact (@readLoop_spec data {} [] data.words rfl rfl).2 h

theorem exact_of_not_overrun (h : ¬Overrun 0 r.words) : r.Exact := by
  unfold Exact readIcon
  cases hdata : r.iconData? with
  | none =>
      have hshort := words_of_none hdata
      exact ⟨{}, [], r.words, rfl, rfl, rfl, rfl, noPicture_short hshort,
        fun _ h => absurd h List.not_mem_nil⟩
  | some data =>
      rw [words_of_some hdata] at h ⊢
      rcases (@readLoop_spec data {} [] data.words rfl rfl).1 h with
        ⟨s, pictures, rest, hs, hwords, hnone, hicons, hcount⟩
      have hlist : s.icons.toList = pictures.map Picture.icon := by
        rw [hicons]
        exact NETRArray.toList_new_setFrom _
      refine ⟨s, pictures, rest, hs, ?_, hlist, hwords, hnone, ?_⟩
      · rw [← s.icons.length_toList, hlist, List.length_map, hcount]
        exact (Nat.zero_add _).symm
      · intro picture _
        rw [picture.inRange.1.toNat_size, picture.inRange.2.1, picture.inRange.2.2, picture.length_pixels]

/-- The icons are read exactly if no header in bounds, behind whole icons, has the end of its pixels where
the 32-bit index wraps around. -/
theorem exact_iff (r : SizedReply) : r.Exact ↔ ¬Overrun 0 r.words := by
  apply Iff.intro
  · rintro ⟨s, _, _, hs, _⟩ hover
    rw [readIcon_of_overrun hover] at hs
    nomatch hs
  · exact exact_of_not_overrun

theorem iconsIn_of_noPicture {words : List UInt32} (hnone : NoPicture words) (fuel : Nat) :
    iconsIn fuel words = [] := by
  rcases fuel with _ | fuel
  · rfl
  rcases words with _ | ⟨width, _ | ⟨height, rest⟩⟩
  · rfl
  · rfl
  rw [iconsIn]
  dsimp only
  split
  · rfl
  · rename_i hgood
    split
    · rfl
    · rename_i hfits
      have hrange : InRange width height := by
        by_contra hnot
        have hbad := not_inRange_iff.mp hnot
        tauto
      rw [hrange.toNat_mul] at hfits
      apply absurd _ (hnone (hrange.picture _ (List.length_take_of_le (Nat.le_of_not_gt hfits))))
      refine ⟨rest.drop (width.toNat * height.toNat), ?_⟩
      rw [hrange.picture_words, List.cons_append, List.cons_append, List.take_append_drop]

-- Where no index wraps around, the icons are those that `update` is modelled with.
theorem toList_readIcon (r : SizedReply) (h : ¬Overrun 0 r.words) :
    ∃ s, r.readIcon = some s ∧ s.icons.toList = NETWinInfo.readIcon r.reply := by
  rcases exact_of_not_overrun h with ⟨s, pictures, rest, hs, _, hlist, hwords, hnone, _⟩
  refine ⟨s, hs, ?_⟩
  have hfuel : pictures.length ≤ r.words.length := by
    have hpropWords := length_le_propWords pictures
    rw [hwords, List.length_append]
    omega
  unfold NETWinInfo.readIcon
  dsimp only
  show _ = iconsIn r.words.length r.words
  rw [hlist, hwords, iconsIn_append pictures rest (hwords ▸ hfuel), iconsIn_of_noPicture hnone,
    List.append_nil]

/-- The largest icon that is accepted. -/
def largestPicture : Picture where
  width := 8192
  height := 8192
  pixels := List.replicate (8192 * 8192) 0
  width_pos := by decide
  height_pos := by decide
  width_le := by decide
  height_le := by decide
  length_pixels := List.length_replicate

/-- Sixty-three of them, and the header of one more. -/
def hugeWords : List UInt32 := propWords (List.replicate 63 largestPicture) ++ [8192, 8192, 0]

theorem length_propWords_replicate (n : Nat) (picture : Picture) :
    (propWords (List.replicate n picture)).length = n * picture.icon.words.length := by
  induction n with
  | zero => exact (Nat.zero_mul _).symm
  | succ n ih => rw [List.replicate_succ, propWords_cons, List.length_append, ih, Nat.succ_mul, Nat.add_comm]

theorem length_hugeWords : hugeWords.length = 63 * (8192 * 8192 + 2) + 3 := by
  have hlength : largestPicture.icon.words.length = 8192 * 8192 + 2 := largestPicture.length_words
  unfold hugeWords
  rw [List.length_append, length_propWords_replicate, hlength]
  rfl

def hugeReply : SizedReply where
  reply := some ⟨.cardinal, .data32 hugeWords⟩
  sized := by
    intro type words h
    injection h with h
    injection h with _ h
    injection h with h
    rw [← h, length_hugeWords]
    decide

/-- The end of the last icon wraps around to the beginning of the data. -/
theorem hugeReply_outside : ¬hugeReply.Exact := by
  rintro ⟨s, _, _, hs, _⟩
  have hwords : hugeReply.words = hugeWords := by
    unfold SizedReply.words getArrayReply hugeReply
    exact if_pos rfl
  have hlength : largestPicture.icon.words.length = 8192 * 8192 + 2 := largestPicture.length_words
  rw [readIcon_of_overrun] at hs
  · nomatch hs
  refine ⟨List.replicate 63 largestPicture, 8192, 8192, [0], hwords, List.cons_ne_nil _ _,
    largestPicture.inRange.1, ?_⟩
  rw [length_propWords_replicate, hlength]
  decide

end SizedReply

end NETWinInfo

end KWindowSystem
