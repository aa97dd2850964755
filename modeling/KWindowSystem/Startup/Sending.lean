import KWindowSystem.Qt.Format
import KWindowSystem.Startup.RoundTrip
import KWindowSystem.Startup.Tracker

/-!
# Sending startup messages

The texts of `sendStartup`, `sendChange` and `sendFinish`, and what the tracker makes of them: it reads the id and
the data that they were called with.
-/

open Qt

namespace KWindowSystem

/-- The calls of the sending side; `sendFinish` has a form with data. -/
inductive StartupSend where
  | startup (id : KStartupInfoId) (data : KStartupInfoData)
  | change (id : KStartupInfoId) (data : KStartupInfoData)
  | finish (id : KStartupInfoId)
  | finishData (id : KStartupInfoId) (data : KStartupInfoData)
deriving DecidableEq

/-- The name that stands in for a missing one. -/
def requiredName (data : KStartupInfoData) : QString :=
  if data.bin = [] then "UNKNOWN".toList else data.bin

def checkRequiredStartupFields (msg : QString) (data : KStartupInfoData) (screen : Int32) : QString :=
  let ret := if data.name = [] then msg ++ arg " NAME=\"%1\"".toList (escapeStr (requiredName data)) else msg
  -- add automatically if needed
  if data.screen = -1 then ret ++ arg " SCREEN=%1".toList (number screen.toInt) else ret

/-- What is broadcast on a screen.  Both markers of the templates are filled in at once. -/
def StartupSend.message (screen : Int32) : StartupSend → Option QString
  | .startup id data =>
      if id.isNull then none
      else some (checkRequiredStartupFields ("new: ".toList ++ startupText id data) data screen)
  | .change id data => if id.isNull then none else some ("change: ".toList ++ startupText id data)
  | .finish id => if id.isNull then none else some ("remove: ".toList ++ id.toText)
  -- id may be null, the pids and hostname matter then
  | .finishData id data => some ("remove: ".toList ++ startupText id data)

/-- The data with what a launcher has to give. -/
def KStartupInfoData.completed (data : KStartupInfoData) (screen : Int32) : KStartupInfoData :=
  { data with
    name := if data.name = [] then requiredName data else data.name
    screen := if data.screen = -1 then screen else data.screen }

/-- What a call is meant to do to a tracker. -/
def Tracker.receive (cfg : TrackerConfig) (screen : Int32) (s : Tracker) :
    StartupSend → Tracker × List Signal
  | .startup id data =>
      s.newStartupInfoInternal cfg id { toKStartupInfoData := data.completed screen } false
  | .change id data => s.newStartupInfoInternal cfg id { toKStartupInfoData := data } true
  | .finish id => if id.isNull then (s, []) else s.removeAllStartupInfoInternal id
  | .finishData id data =>
      if data.pids.list ≠ [] then
        if id.isNull then s.removeStartupPidsByHost data else s.removeStartupPids id data
      else s.removeAllStartupInfoInternal id

/-- The values are simplified texts without a byte order mark, and can be told from the syntax around them. -/
def StartupSend.Clean : StartupSend → Prop
  | .startup id data => Sendable id data ∧ MarkFree id data ∧ data.RawClean
  | .change id data => Sendable id data ∧ MarkFree id data ∧ data.RawClean
  | .finish id => SimplifiedBytes id.id ∧ Unmarked id.id
  | .finishData id data => Sendable id data ∧ MarkFree id data ∧ data.RawClean

/-! ## White space around a message -/

theorem collapse_append_spaces {u spaces : QString} (h : ∀ c ∈ spaces, isSpace c = true) (b : Bool) :
    collapse b (u ++ spaces) = collapse b u := by
  induction u generalizing b with
  | nil =>
      show collapse b spaces = []
      induction spaces generalizing b with
      | nil => rfl
      | cons c cs ih =>
          rw [List.forall_mem_cons] at h
          rw [collapse, if_pos h.1]
          exact ih h.2 true
  | cons c cs ih =>
      rw [List.cons_append, collapse, collapse]
      split
      · exact ih true
      · rw [ih false]

theorem simplified_append_spaces {u spaces : QString} (h : ∀ c ∈ spaces, isSpace c = true) :
    simplified (u ++ spaces) = simplified u := by
  unfold simplified
  rw [List.dropWhile_append]
  split
  · rename_i hempty
    rw [List.isEmpty_iff.mp hempty, List.dropWhile_eq_nil_iff.mpr h]
  · exact collapse_append_spaces h false

theorem simplified_space (u : QString) : simplified (' ' :: u) = simplified u := rfl

/-- The text without the white space at its end. -/
def trimmedEnd (s : QString) : QString := (s.reverse.dropWhile isSpace).reverse

theorem trimmedEnd_append_spaces (s : QString) :
    ∃ spaces, s = trimmedEnd s ++ spaces ∧ ∀ c ∈ spaces, isSpace c = true := by
  refine ⟨(s.reverse.takeWhile isSpace).reverse, ?_, ?_⟩
  · unfold trimmedEnd
    rw [← List.reverse_append, List.takeWhile_append_dropWhile, List.reverse_reverse]
  · intro c hc
    exact List.mem_takeWhile_imp (List.mem_reverse.mp hc)

theorem getFields_trimmedEnd (s : QString) : getFields (trimmedEnd s) = getFields s := by
  obtain ⟨spaces, hs, hspaces⟩ := trimmedEnd_append_spaces s
  unfold getFields
  conv_rhs => rw [hs, simplified_append_spaces hspaces]

-- The keyword in front of a message is not touched.
theorem trimmed_keyword {key : QString} (hkey : ∀ c ∈ key, isSpace c = false) (hne : key ≠ []) (s : QString) :
    trimmed (key ++ s) = key ++ trimmedEnd s := by
  obtain ⟨c, cs, rfl⟩ := List.exists_cons_of_ne_nil hne
  have hhead : (c :: cs ++ s).dropWhile isSpace = c :: cs ++ s :=
    List.dropWhile_cons_of_neg (by simp [hkey c (by simp)])
  have hreverse : (c :: cs).reverse.dropWhile isSpace = (c :: cs).reverse := by
    apply List.dropWhile_eq_self_iff.mpr
    intro hlength
    rw [hkey _ (List.mem_reverse.mp (List.getElem_mem hlength))]
    decide
  unfold trimmed trimmedEnd
  rw [hhead, List.reverse_append, List.dropWhile_append]
  split
  · rename_i hempty
    rw [List.isEmpty_iff.mp hempty, hreverse, List.reverse_reverse, List.reverse_nil, List.append_nil]
  · rw [List.reverse_append, List.reverse_reverse]

/-! ## Reading the message of a call -/

/-- The fields that are added to the message of a new startup. -/
def requiredFields (data : KStartupInfoData) (screen : Int32) : List Field :=
  (if data.name = [] then [⟨"NAME".toList, .escaped, requiredName data⟩] else []) ++
    numField "SCREEN" (data.screen = -1) screen.toInt

theorem checkRequiredStartupFields_eq (msg : QString) (data : KStartupInfoData) (screen : Int32) :
    checkRequiredStartupFields msg data screen = msg ++ fieldsText (requiredFields data screen) := by
  have hname : ∀ a, arg " NAME=\"%1\"".toList a = " NAME=\"".toList ++ (a ++ ['"']) := fun _ => rfl
  have hscreen : ∀ a, arg " SCREEN=%1".toList a = " SCREEN=".toList ++ (a ++ []) := fun _ => rfl
  unfold checkRequiredStartupFields requiredFields
  dsimp only
  rw [hname, hscreen, fieldsText_append, fieldsText_numField, List.append_nil]
  split <;> split <;> simp [fieldsText, Field.text, Quoting.write]

theorem getFields_fields {id : KStartupInfoId} {fs : List Field} (hmark : Unmarked id.id)
    (hs : ∀ f ∈ id.field utf8Text :: fs, f.Simplified) (hc : ∀ f ∈ fs, f.Clean) :
    getFields (id.toText ++ ' ' :: fieldsText fs) = (id.field utf8Text).item :: fs.map Field.item := by
  have hall := List.forall_mem_cons.mp hs
  have hclean : ∀ f ∈ id.field utf8Text :: fs, f.Clean := List.forall_mem_cons.mpr ⟨trivial, hc⟩
  have hfield : id.field fromUtf8 = id.field utf8Text := by
    unfold KStartupInfoId.field
    rw [fromUtf8_of_unmarked hmark]
  rw [getFields, KStartupInfoId.toText_eq, hfield, simplified_message hall.1 hall.2,
    getFields_texts (fun f hf => (hs f hf).2.1) hclean]
  rfl

-- An id, and fields none of which is taken for an id.
theorem ofText_fields {id : KStartupInfoId} (fs : List Field) (hid : SimplifiedBytes id.id) (hmark : Unmarked id.id)
    (hs : ∀ f ∈ fs, f.Simplified) (hc : ∀ f ∈ fs, f.Clean)
    (hkey : ∀ f ∈ fs, startsWith f.item "ID=" = false) :
    KStartupInfoId.ofText (id.toText ++ ' ' :: fieldsText fs) = id ∧
      KStartupInfoData.ofText (id.toText ++ ' ' :: fieldsText fs) =
        (fs.map Field.item).foldl KStartupInfoData.applyItem {} := by
  have hidField : (id.field utf8Text).Simplified := by
    have hkeyID : "ID".toList ≠ [] ∧ ∀ c ∈ "ID".toList, isSpecial c = false ∧ isSpace c = false := by decide
    exact ⟨hkeyID.1, hkeyID.2, hid.2⟩
  have hitems := getFields_fields hmark (List.forall_mem_cons.mpr ⟨hidField, hs⟩) hc
  constructor
  · have hread : KStartupInfoId.applyItem ⟨[]⟩ (id.field utf8Text).item = id := by
      show (⟨getCstr ("ID".toList ++ '=' :: utf8Text id.id)⟩ : KStartupInfoId) = id
      rw [getCstr_item (by decide), hid.1]
    have hkeep : ∀ gs : List Field, (∀ f ∈ gs, startsWith f.item "ID=" = false) →
        (gs.map Field.item).foldl KStartupInfoId.applyItem id = id := by
      intro gs hgs
      induction gs with
      | nil => rfl
      | cons f gs ih =>
          rw [List.forall_mem_cons] at hgs
          rw [List.map_cons, List.foldl_cons, KStartupInfoId.applyItem, hgs.1]
          exact ih hgs.2
    rw [KStartupInfoId.ofText, hitems, List.foldl_cons, hread, hkeep fs hkey]
  · rw [KStartupInfoData.ofText, hitems]
    rfl

theorem notId_fields (data : KStartupInfoData) : ∀ f ∈ data.fields utf8Text, startsWith f.item "ID=" = false := by
  apply KStartupInfoData.forall_fields <;> intros <;> rfl

theorem simplified_requiredName {data : KStartupInfoData} (h : simplified data.bin = data.bin) :
    simplified (requiredName data) = requiredName data := by
  unfold requiredName
  split
  · decide
  · exact h

theorem forall_requiredFields {data : KStartupInfoData} {screen : Int32} {P : Field → Prop}
    (hname : P ⟨"NAME".toList, .escaped, requiredName data⟩)
    (hscreen : P ⟨"SCREEN".toList, .bare, number screen.toInt⟩) : ∀ f ∈ requiredFields data screen, P f := by
  intro f hf
  rw [requiredFields, List.mem_append, mem_numField] at hf
  rcases hf with hf | ⟨_, rfl⟩
  · split at hf
    · rw [List.mem_singleton.mp hf]
      exact hname
    · exact absurd hf List.not_mem_nil
  · exact hscreen

-- The required fields come last and so are what is read.
theorem foldl_requiredFields (data : KStartupInfoData) (screen : Int32) :
    ((requiredFields data screen).map Field.item).foldl KStartupInfoData.applyItem data =
      data.completed screen := by
  have hname : KStartupInfoData.applyItem data ("NAME".toList ++ '=' :: requiredName data) =
      { data with name := requiredName data } := by
    show ({ data with name := getStr _ } : KStartupInfoData) = _
    rw [getStr_item (by decide)]
  rw [requiredFields, List.map_append, List.foldl_append]
  rw [foldl_numField "SCREEN" (fun acc => { acc with screen := if data.screen = -1 then screen else acc.screen })
    (fun acc hd => by
      show ({ acc with screen := Int32.ofInt (getNum _) } : KStartupInfoData) = _
      rw [getNum_item _ (by decide), if_pos hd])
    (fun hd => by rw [if_neg hd])]
  unfold KStartupInfoData.completed
  split
  · show ({ KStartupInfoData.applyItem data ("NAME".toList ++ '=' :: requiredName data) with screen := _ } :
      KStartupInfoData) = _
    rw [hname]
    rfl
  · rfl

-- A keyword and what follows it, as the tracker reads them.
theorem Tracker.gotMessage_ofNew (cfg : TrackerConfig) (s : Tracker) (txt : QString) :
    s.gotMessage cfg ("new: ".toList ++ txt) = s.gotStartupInfo cfg (trimmedEnd (' ' :: txt)) false := by
  show s.gotMessage cfg ("new:".toList ++ ' ' :: txt) = _
  unfold Tracker.gotMessage
  rw [trimmed_keyword (by decide) (by decide)]
  rfl

theorem Tracker.gotMessage_ofChange (cfg : TrackerConfig) (s : Tracker) (txt : QString) :
    s.gotMessage cfg ("change: ".toList ++ txt) = s.gotStartupInfo cfg (trimmedEnd (' ' :: txt)) true := by
  show s.gotMessage cfg ("change:".toList ++ ' ' :: txt) = _
  unfold Tracker.gotMessage
  rw [trimmed_keyword (by decide) (by decide)]
  rfl

theorem Tracker.gotMessage_ofRemove (cfg : TrackerConfig) (s : Tracker) (txt : QString) :
    s.gotMessage cfg ("remove: ".toList ++ txt) = s.gotRemoveStartupInfo (trimmedEnd (' ' :: txt)) := by
  show s.gotMessage cfg ("remove:".toList ++ ' ' :: txt) = _
  unfold Tracker.gotMessage
  rw [trimmed_keyword (by decide) (by decide)]
  rfl

-- The white space around the fields does not matter.
theorem getFields_received (txt : QString) : getFields (trimmedEnd (' ' :: txt)) = getFields txt := by
  rw [getFields_trimmedEnd, getFields, simplified_space]
  rfl

theorem ofText_received (txt : QString) :
    KStartupInfoId.ofText (trimmedEnd (' ' :: txt)) = KStartupInfoId.ofText txt ∧
      KStartupInfoData.ofText (trimmedEnd (' ' :: txt)) = KStartupInfoData.ofText txt := by
  unfold KStartupInfoId.ofText KStartupInfoData.ofText
  rw [getFields_received]
  exact ⟨rfl, rfl⟩

theorem getFields_toText (id : KStartupInfoId) :
    getFields id.toText = getFields (id.toText ++ ' ' :: fieldsText []) := by
  have hspace : ∀ c ∈ ' ' :: fieldsText [], isSpace c = true := by decide
  rw [getFields, getFields, simplified_append_spaces hspace]

-- A new startup is read with the required fields.
theorem ofText_startup {id : KStartupInfoId} {data : KStartupInfoData} (h : Sendable id data)
    (hmark : MarkFree id data) (hc : data.RawClean) (screen : Int32) :
    KStartupInfoId.ofText (checkRequiredStartupFields (startupText id data) data screen) = id ∧
      KStartupInfoData.ofText (checkRequiredStartupFields (startupText id data) data screen) =
        data.completed screen := by
  have hkeys : ∀ k ∈ ["NAME".toList, "SCREEN".toList],
      k ≠ [] ∧ ∀ c ∈ k, isSpecial c = false ∧ isSpace c = false := by decide
  have hname := hkeys "NAME".toList (by decide)
  have hscreen := hkeys "SCREEN".toList (by decide)
  have htext : checkRequiredStartupFields (startupText id data) data screen =
      id.toText ++ ' ' :: fieldsText (data.fields utf8Text ++ requiredFields data screen) := by
    rw [checkRequiredStartupFields_eq, startupText, KStartupInfoData.toText_eq,
      (List.cons.inj hmark.messageFields_eq).2, fieldsText_append, List.append_assoc, List.cons_append]
  have hread := ofText_fields (data.fields utf8Text ++ requiredFields data screen) h.id hmark.id
    (List.forall_mem_append.mpr ⟨(List.forall_mem_cons.mp (simplified_fields h)).2,
      forall_requiredFields ⟨hname.1, hname.2, simplified_requiredName h.bin⟩
        ⟨hscreen.1, hscreen.2, simplified_number _⟩⟩)
    (List.forall_mem_append.mpr ⟨(List.forall_mem_cons.mp ((@clean_fields_iff id data).mpr hc)).2,
      forall_requiredFields trivial (clean_number _)⟩)
    (List.forall_mem_append.mpr ⟨notId_fields data, forall_requiredFields rfl rfl⟩)
  rw [htext, hread.1, hread.2, List.map_append, List.foldl_append, KStartupInfoData.foldl_fields h,
    foldl_requiredFields]
  exact ⟨rfl, rfl⟩

theorem checkRequiredStartupFields_append (key msg : QString) (data : KStartupInfoData) (screen : Int32) :
    checkRequiredStartupFields (key ++ msg) data screen =
      key ++ checkRequiredStartupFields msg data screen := by
  rw [checkRequiredStartupFields_eq, checkRequiredStartupFields_eq, List.append_assoc]

-- A message begins with its keyword.
theorem StartupSend.head_of_message {screen : Int32} {c : StartupSend} {msg : QString}
    (h : c.message screen = some msg) : msg.head? ≠ some byteOrderMark := by
  have hkeyword : ∀ k ∈ ['n', 'c', 'r'], some k ≠ some byteOrderMark := by decide
  cases c with
  | startup id data =>
      rw [message, Option.ite_none_left_eq_some] at h
      rw [← Option.some_inj.mp h.2, checkRequiredStartupFields_append]
      exact hkeyword 'n' (by decide)
  | change id data =>
      rw [message, Option.ite_none_left_eq_some] at h
      rw [← Option.some_inj.mp h.2]
      exact hkeyword 'c' (by decide)
  | finish id =>
      rw [message, Option.ite_none_left_eq_some] at h
      rw [← Option.some_inj.mp h.2]
      exact hkeyword 'r' (by decide)
  | finishData id data =>
      rw [← Option.some_inj.mp h]
      exact hkeyword 'r' (by decide)

-- What the tracker reads of a call is what the call was made with.
theorem Tracker.gotMessage_message (cfg : TrackerConfig) (s : Tracker) (screen : Int32) {c : StartupSend}
    {msg : QString} (h : c.Clean) (hmsg : c.message screen = some msg) :
    s.gotMessage cfg msg = s.receive cfg screen c := by
  cases c with
  | startup id data =>
      rw [StartupSend.message, Option.ite_none_left_eq_some] at hmsg
      obtain ⟨hnull, hmsg⟩ := hmsg
      have hread := ofText_startup h.1 h.2.1 h.2.2 screen
      rw [← Option.some_inj.mp hmsg, checkRequiredStartupFields_append, gotMessage_ofNew, gotStartupInfo,
        (ofText_received _).1, (ofText_received _).2, hread.1, hread.2, if_neg hnull]
      rfl
  | change id data =>
      rw [StartupSend.message, Option.ite_none_left_eq_some] at hmsg
      obtain ⟨hnull, hmsg⟩ := hmsg
      have hread := ofText_of_clean h.1 h.2.1 h.2.2
      rw [← Option.some_inj.mp hmsg, gotMessage_ofChange, gotStartupInfo, (ofText_received _).1,
        (ofText_received _).2, hread.1, hread.2, if_neg hnull]
      rfl
  | finish id =>
      rw [StartupSend.message, Option.ite_none_left_eq_some] at hmsg
      obtain ⟨hnull, hmsg⟩ := hmsg
      have hread := ofText_fields [] h.1 h.2 (List.forall_mem_nil _) (List.forall_mem_nil _) (List.forall_mem_nil _)
      have hid : KStartupInfoId.ofText id.toText = id := by
        rw [KStartupInfoId.ofText, getFields_toText]
        exact hread.1
      have hdata : KStartupInfoData.ofText id.toText = {} := by
        rw [KStartupInfoData.ofText, getFields_toText]
        exact hread.2
      rw [← Option.some_inj.mp hmsg, gotMessage_ofRemove, gotRemoveStartupInfo, (ofText_received _).1,
        (ofText_received _).2, hid, hdata, if_neg hnull, receive, if_neg hnull]
      rfl
  | finishData id data =>
      have hread := ofText_of_clean h.1 h.2.1 h.2.2
      rw [← Option.some_inj.mp hmsg, gotMessage_ofRemove, gotRemoveStartupInfo, (ofText_received _).1,
        (ofText_received _).2, hread.1, hread.2]
      rfl

end KWindowSystem
