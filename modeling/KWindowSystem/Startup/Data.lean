import KWindowSystem.Startup.Fields
import Mathlib.Data.List.Lex
import Mathlib.Order.Basic

/-!
# Startup ids and startup data

`KStartupInfoId` and `KStartupInfoData` with the two directions of their text form: the sender's
`toText` and the receiver's `ofText`, the constructors that take the received message.
-/

open Qt

namespace KWindowSystem

def startsWith (s : QString) (key : String) : Bool := key.toList.isPrefixOf s

/-! ## Startup ids -/

structure KStartupInfoId where
  id : QByteArray
deriving Repr

namespace KStartupInfoId

/-- The order `QMap` keeps its keys in: bytewise, a prefix before its extensions. -/
instance : LinearOrder KStartupInfoId :=
  LinearOrder.lift' (fun i => i.id.map UInt8.toNat) fun i j h => by
    cases i
    cases j
    simpa using List.map_injective_iff.mpr (fun _ _ => UInt8.toNat_inj.mp) h

def isNull (i : KStartupInfoId) : Bool := i.id = [] || i.id = toUtf8 ['0']

def toText (i : KStartupInfoId) : QString :=
  " ID=\"".toList ++ escapeStr (fromUtf8 i.id) ++ "\" ".toList

def applyItem (i : KStartupInfoId) (item : QString) : KStartupInfoId :=
  if startsWith item "ID=" then ⟨getCstr item⟩ else i

def ofText (txt : QString) : KStartupInfoId := (getFields txt).foldl applyItem ⟨[]⟩

end KStartupInfoId

/-! ## Startup data -/

inductive TriState where
  | yes
  | no
  | unknown
deriving DecidableEq, Repr

/-- A pid list: `addPid` and `remove_pid` are the only writers, so no pid occurs twice. -/
structure Pids where
  list : List Int32
  nodup : list.Nodup
deriving DecidableEq

namespace Pids

def none : Pids := ⟨[], List.nodup_nil⟩

def add (ps : Pids) (pid : Int32) : Pids :=
  if h : pid ∈ ps.list then ps
  else ⟨ps.list ++ [pid], List.nodup_append.mpr ⟨ps.nodup, List.nodup_singleton _, by
    rintro q hq r hr rfl
    exact h (List.mem_singleton.mp hr ▸ hq)⟩⟩

def remove (ps : Pids) (pid : Int32) : Pids := ⟨ps.list.filter (· ≠ pid), ps.nodup.filter _⟩

def contains (ps : Pids) (pid : Int32) : Bool := ps.list.contains pid

@[simp] theorem mem_add {ps : Pids} {pid q : Int32} : q ∈ (ps.add pid).list ↔ q ∈ ps.list ∨ q = pid := by
  unfold add
  split
  · rename_i h
    exact ⟨.inl, fun hq => hq.elim id fun he => he ▸ h⟩
  · simp

theorem list_add {ps : Pids} {pid : Int32} (h : pid ∉ ps.list) : (ps.add pid).list = ps.list ++ [pid] := by
  simp [add, h]

theorem ext_list {ps qs : Pids} (h : ps.list = qs.list) : ps = qs := by
  cases ps
  cases qs
  simpa using h

end Pids

/-- `NET::OnAllDesktops`. -/
def onAllDesktops : Int32 := -1

structure KStartupInfoData where
  bin : QString := []
  name : QString := []
  description : QString := []
  icon : QString := []
  desktop : Int32 := 0
  pids : Pids := Pids.none
  wmclass : QByteArray := []
  hostname : QByteArray := []
  silent : TriState := .unknown
  screen : Int32 := -1
  xinerama : Int32 := -1
  applicationId : QString := []
deriving DecidableEq

namespace KStartupInfoData

/-- `BIN`, `NAME`, `DESCRIPTION` and the id are escaped, `ICON`, `WMCLASS` and `APPLICATION_ID` only
put between quotes, `HOSTNAME` neither. -/
def toText (d : KStartupInfoData) : QString :=
  (if d.bin ≠ [] then " BIN=\"".toList ++ escapeStr d.bin ++ ['"'] else []) ++
  (if d.name ≠ [] then " NAME=\"".toList ++ escapeStr d.name ++ ['"'] else []) ++
  (if d.description ≠ [] then " DESCRIPTION=\"".toList ++ escapeStr d.description ++ ['"'] else []) ++
  (if d.icon ≠ [] then " ICON=\"".toList ++ d.icon ++ ['"'] else []) ++
  (if d.desktop ≠ 0 then
    " DESKTOP=".toList ++
      number (if d.desktop = onAllDesktops then onAllDesktops else d.desktop - 1).toInt
    else []) ++
  (if d.wmclass ≠ [] then " WMCLASS=\"".toList ++ fromUtf8 d.wmclass ++ ['"'] else []) ++
  (if d.hostname ≠ [] then " HOSTNAME=".toList ++ fromUtf8 d.hostname else []) ++
  d.pids.list.flatMap (fun pid => " PID=".toList ++ number pid.toInt) ++
  (if d.silent ≠ .unknown then
    " SILENT=".toList ++ number (if d.silent = .yes then 1 else 0) else []) ++
  (if d.screen ≠ -1 then " SCREEN=".toList ++ number d.screen.toInt else []) ++
  (if d.xinerama ≠ -1 then " XINERAMA=".toList ++ number d.xinerama.toInt else []) ++
  (if d.applicationId ≠ [] then " APPLICATION_ID=\"".toList ++ d.applicationId ++ ['"'] else [])

def addPid (d : KStartupInfoData) (pid : Int32) : KStartupInfoData := { d with pids := d.pids.add pid }

/-- The spec counts desktops from `0`, the code from `1`. -/
def readDesktop (n : Int32) : Int32 := if n ≠ onAllDesktops then n + 1 else n

/-- One turn of the constructor's loop over the items of a message. -/
def applyItem (d : KStartupInfoData) (item : QString) : KStartupInfoData :=
  if startsWith item "BIN=" then { d with bin := getStr item }
  else if startsWith item "NAME=" then { d with name := getStr item }
  else if startsWith item "DESCRIPTION=" then { d with description := getStr item }
  else if startsWith item "ICON=" then { d with icon := getStr item }
  else if startsWith item "DESKTOP=" then
    { d with desktop := readDesktop (Int32.ofInt (getNum item)) }
  else if startsWith item "WMCLASS=" then { d with wmclass := getCstr item }
  else if startsWith item "HOSTNAME=" then { d with hostname := getCstr item }
  else if startsWith item "PID=" then d.addPid (Int32.ofInt (getNum item))
  else if startsWith item "SILENT=" then { d with silent := if getNum item ≠ 0 then .yes else .no }
  else if startsWith item "SCREEN=" then { d with screen := Int32.ofInt (getNum item) }
  else if startsWith item "XINERAMA=" then { d with xinerama := Int32.ofInt (getNum item) }
  else if startsWith item "APPLICATION_ID=" then { d with applicationId := getStr item }
  else d

-- Case analysis on one turn of the loop: one case for each key, and one for an unknown item.
theorem applyItem_cases (d : KStartupInfoData) (item : QString) (P : KStartupInfoData → Prop)
    (bin : startsWith item "BIN=" = true → P { d with bin := getStr item })
    (name : startsWith item "NAME=" = true → P { d with name := getStr item })
    (description : startsWith item "DESCRIPTION=" = true → P { d with description := getStr item })
    (icon : startsWith item "ICON=" = true → P { d with icon := getStr item })
    (desktop : startsWith item "DESKTOP=" = true →
      P { d with desktop := readDesktop (Int32.ofInt (getNum item)) })
    (wmclass : startsWith item "WMCLASS=" = true → P { d with wmclass := getCstr item })
    (hostname : startsWith item "HOSTNAME=" = true → P { d with hostname := getCstr item })
    (pid : startsWith item "PID=" = true → P (d.addPid (Int32.ofInt (getNum item))))
    (silent : startsWith item "SILENT=" = true →
      P { d with silent := if getNum item ≠ 0 then .yes else .no })
    (screen : startsWith item "SCREEN=" = true → P { d with screen := Int32.ofInt (getNum item) })
    (xinerama : startsWith item "XINERAMA=" = true →
      P { d with xinerama := Int32.ofInt (getNum item) })
    (applicationId : startsWith item "APPLICATION_ID=" = true →
      P { d with applicationId := getStr item })
    (other : P d) : P (d.applyItem item) := by
  unfold applyItem
  exact iteInduction bin fun _ => iteInduction name fun _ => iteInduction description fun _ =>
    iteInduction icon fun _ => iteInduction desktop fun _ => iteInduction wmclass fun _ =>
    iteInduction hostname fun _ => iteInduction pid fun _ => iteInduction silent fun _ =>
    iteInduction screen fun _ => iteInduction xinerama fun _ => iteInduction applicationId fun _ =>
    other

def ofText (txt : QString) : KStartupInfoData := (getFields txt).foldl applyItem {}

/-- Fields marked "don't overwrite" in the source keep an earlier value. -/
def update (d data : KStartupInfoData) : KStartupInfoData where
  bin := if data.bin ≠ [] then data.bin else d.bin
  name := if data.name ≠ [] ∧ d.name = [] then data.name else d.name
  description := if data.description ≠ [] ∧ d.description = [] then data.description else d.description
  icon := if data.icon ≠ [] ∧ d.icon = [] then data.icon else d.icon
  desktop := if data.desktop ≠ 0 ∧ d.desktop = 0 then data.desktop else d.desktop
  wmclass := if data.wmclass ≠ [] then data.wmclass else d.wmclass
  hostname := if data.hostname ≠ [] then data.hostname else d.hostname
  pids := data.pids.list.foldl Pids.add d.pids
  silent := if data.silent ≠ .unknown then data.silent else d.silent
  screen := if data.screen ≠ -1 then data.screen else d.screen
  xinerama := if data.xinerama ≠ -1 ∧ d.xinerama ≠ -1 then data.xinerama else d.xinerama
  applicationId :=
    if data.applicationId ≠ [] ∧ d.applicationId = [] then data.applicationId else d.applicationId

/-- `findWMClass`: the class when one is known, else the name of the binary. -/
def findWMClass (d : KStartupInfoData) : QByteArray :=
  if d.wmclass ≠ [] ∧ d.wmclass ≠ toUtf8 ['0'] then d.wmclass else toUtf8 d.bin

end KStartupInfoData

/-- The text `sendStartup` and `sendChange` put after the keyword of a message. -/
def startupText (id : KStartupInfoId) (data : KStartupInfoData) : QString :=
  id.toText ++ ' ' :: data.toText

end KWindowSystem
