import KWindowSystem.Lib.Machine
import KWindowSystem.Lib.SortedMap
import KWindowSystem.Startup.Data

/-!
# The startup tracker

`KStartupInfo::Private` on X11 as a state machine.  An event is a message received by `KXMessages`,
a window reported by `KX11Extras`, a call of `checkStartup`, a timer tick or a change of the
timeout; the outputs are the three signals, in the order they are emitted.  Listeners do not call
back into the tracker.
-/

open Qt

namespace KWindowSystem

/-- A record: the data of a startup and its age in ticks since the last activity. -/
structure Data extends KStartupInfoData where
  age : UInt32 := 0
deriving DecidableEq

def Data.update (d : Data) (data : KStartupInfoData) : Data :=
  { d with toKStartupInfoData := d.toKStartupInfoData.update data }

def Data.removePids (d : Data) (pids : List Int32) : Data :=
  { d with pids := pids.foldl Pids.remove d.pids }

/-- The flags of the constructor and `KSTARTUPINFO_TIMEOUT`, when it is set. -/
structure TrackerConfig where
  cleanOnCantDetect : Bool := false
  disableKWinModule : Bool := false
  announceSilenceChanges : Bool := false
  timeoutEnv : Option UInt32 := none
deriving DecidableEq, Repr

structure Tracker where
  timeout : UInt32 := 60
  startups : SortedMap KStartupInfoId Data := .empty
  silentStartups : SortedMap KStartupInfoId Data := .empty
  uninitedStartups : SortedMap KStartupInfoId Data := .empty
  cleanupActive : Bool := false

inductive Signal where
  | gotNewStartup (id : KStartupInfoId) (data : KStartupInfoData)
  | gotStartupChange (id : KStartupInfoId) (data : KStartupInfoData)
  | gotRemoveStartup (id : KStartupInfoId) (data : KStartupInfoData)
deriving DecidableEq

/-! ## Windows -/

/-- The window types that `check_startup_internal` tells apart; `other` stands for the rest. -/
inductive WindowKind where
  | normal
  | override
  | unknown
  | dialog
  | utility
  | other
deriving DecidableEq, Repr

/-- What `NETWinInfo` reads of a new window.  The group leader, when there is one, is given by its
own startup id property. -/
structure StartupWindow where
  startupId : Option QByteArray := none
  groupLeader : Option (Option QByteArray) := none
  pid : Int32 := 0
  clientMachine : QByteArray := []
  windowClassName : QByteArray := []
  windowClassClass : QByteArray := []
  windowType : WindowKind := .unknown
  transientForOther : Bool := false
deriving DecidableEq, Repr

/-- `NETWinInfo::startupId`: a null pointer unless the object was constructed to read the id. -/
def netStartupId (requested : Bool) (property : Option QByteArray) : Option QByteArray :=
  if requested then property else none

/-- The object for the group leader is constructed without any property to read. -/
def windowStartupId (w : StartupWindow) : Option QByteArray :=
  let ret := netStartupId true w.startupId
  match w.groupLeader with
  | some leader => if ret.getD [] = [] then netStartupId false leader else ret
  | none => ret

/-- `QByteArray::toLower`, which knows ASCII letters only. -/
def toLower (bytes : QByteArray) : QByteArray :=
  bytes.map fun b => if 0x41 ≤ b ∧ b ≤ 0x5a then b + 0x20 else b

inductive StartupMatch where
  | noMatch
  | match (id : KStartupInfoId) (data : KStartupInfoData)
  | cantDetect
deriving DecidableEq

namespace Tracker

variable (cfg : TrackerConfig) (s : Tracker)

/-! ## New and changed startups -/

def newStartupInfoInternal (id : KStartupInfoId) (data : Data) (update : Bool) :
    Tracker × List Signal :=
  if id.isNull then (s, [])
  else match s.startups.find? id with
  | some old =>
      let new := { old.update data.toKStartupInfoData with age := 0 }
      if new.silent = .yes ∧ cfg.announceSilenceChanges = false then
        ({ s with silentStartups := s.silentStartups.insert id new, startups := s.startups.erase id },
          [.gotRemoveStartup id new.toKStartupInfoData])
      else
        ({ s with startups := s.startups.insert id new }, [.gotStartupChange id new.toKStartupInfoData])
  | none => match s.silentStartups.find? id with
  | some old =>
      let new := { old.update data.toKStartupInfoData with age := 0 }
      if new.silent ≠ .yes then
        ({ s with startups := s.startups.insert id new, silentStartups := s.silentStartups.erase id },
          [.gotNewStartup id new.toKStartupInfoData])
      else
        ({ s with silentStartups := s.silentStartups.insert id new },
          [.gotStartupChange id new.toKStartupInfoData])
  | none => match s.uninitedStartups.find? id with
  | some old =>
      let new := old.update data.toKStartupInfoData
      if update = false then
        ({ s with
          startups := s.startups.insert id new, uninitedStartups := s.uninitedStartups.erase id },
          [.gotNewStartup id new.toKStartupInfoData])
      else ({ s with uninitedStartups := s.uninitedStartups.insert id new }, [])
  | none =>
      if update then
        ({ s with uninitedStartups := s.uninitedStartups.insert id data, cleanupActive := true }, [])
      else if data.silent ≠ .yes ∨ cfg.announceSilenceChanges = true then
        ({ s with startups := s.startups.insert id data, cleanupActive := true },
          [.gotNewStartup id data.toKStartupInfoData])
      else
        ({ s with silentStartups := s.silentStartups.insert id data, cleanupActive := true }, [])

def gotStartupInfo (msg : QString) (update : Bool) : Tracker × List Signal :=
  let id := KStartupInfoId.ofText msg
  if id.isNull then (s, [])
  else newStartupInfoInternal cfg s id { toKStartupInfoData := KStartupInfoData.ofText msg } update

/-! ## Removed startups -/

def removeAllStartupInfoInternal (id : KStartupInfoId) : Tracker × List Signal :=
  match s.startups.find? id with
  | some data =>
      ({ s with startups := s.startups.erase id }, [.gotRemoveStartup id data.toKStartupInfoData])
  | none =>
      if s.silentStartups.contains id then
        ({ s with silentStartups := s.silentStartups.erase id }, [])
      else ({ s with uninitedStartups := s.uninitedStartups.erase id }, [])

def removeStartupPids (id : KStartupInfoId) (data : KStartupInfoData) : Tracker × List Signal :=
  match s.startups.find? id with
  | some old =>
      let new := old.removePids data.pids.list
      let s' := { s with startups := s.startups.insert id new }
      if new.pids.list = [] then removeAllStartupInfoInternal s' id else (s', [])
  | none => match s.silentStartups.find? id with
  | some old =>
      let new := old.removePids data.pids.list
      let s' := { s with silentStartups := s.silentStartups.insert id new }
      if new.pids.list = [] then removeAllStartupInfoInternal s' id else (s', [])
  | none => match s.uninitedStartups.find? id with
  | some old =>
      let new := old.removePids data.pids.list
      let s' := { s with uninitedStartups := s.uninitedStartups.insert id new }
      if new.pids.list = [] then removeAllStartupInfoInternal s' id else (s', [])
  | none => (s, [])

/-- The overload without an id: only `startups` is searched, for the first pid and the host name. -/
def removeStartupPidsByHost (data : KStartupInfoData) : Tracker × List Signal :=
  match data.pids.list with
  | [] => (s, [])
  | first :: _ =>
      match s.startups.entries.find? fun e => e.2.hostname = data.hostname ∧ e.2.pids.contains first with
      | some e => removeStartupPids s e.1 data
      | none => (s, [])

def gotRemoveStartupInfo (msg : QString) : Tracker × List Signal :=
  let id := KStartupInfoId.ofText msg
  let data := KStartupInfoData.ofText msg
  if data.pids.list ≠ [] then
    if id.isNull then removeStartupPidsByHost s data else removeStartupPids s id data
  else removeAllStartupInfoInternal s id

def gotMessage (msg : QString) : Tracker × List Signal :=
  let msg := trimmed msg
  if startsWith msg "new:" then gotStartupInfo cfg s (msg.drop 4) false
  else if startsWith msg "change:" then gotStartupInfo cfg s (msg.drop 7) true
  else if startsWith msg "remove:" then gotRemoveStartupInfo s (msg.drop 7)
  else (s, [])

/-! ## Windows that may belong to a startup -/

/-- Emits the signal and erases the record. -/
def removeStartupInfoInternal (e : KStartupInfoId × Data) : Tracker × List Signal :=
  ({ s with startups := s.startups.erase e.1 }, [.gotRemoveStartup e.1 e.2.toKStartupInfoData])

/-- Take the first startup that matches, as `find_pid` and `find_wclass` do. -/
def findAndRemove (found : KStartupInfoId × Data → Bool) (otherwise : StartupMatch × Tracker × List Signal) :
    StartupMatch × Tracker × List Signal :=
  match s.startups.entries.find? found with
  | some e => (.match e.1 e.2.toKStartupInfoData, removeStartupInfoInternal s e)
  | none => otherwise

def matchesPid (pid : Int32) (hostname : QByteArray) (e : KStartupInfoId × Data) : Bool :=
  e.2.pids.contains pid && e.2.hostname = hostname

def matchesClass (resName resClass : QByteArray) (e : KStartupInfoId × Data) : Bool :=
  let wmclass := toLower e.2.findWMClass
  wmclass = toLower resName || wmclass = toLower resClass

def checkStartupInternal (w : StartupWindow) : StartupMatch × Tracker × List Signal :=
  if s.startups.isEmpty then (.noMatch, s, [])
  else match windowStartupId w with
  | some id =>
      if id = [] ∨ id = toUtf8 ['0'] then (.noMatch, s, [])
      else match s.startups.find? ⟨id⟩ with
      | some data => (.match ⟨id⟩ data.toKStartupInfoData, s, [])
      | none => (.noMatch, s, [])
  | none =>
      let unmatched : StartupMatch :=
        if w.windowType = .other then .noMatch
        else if w.transientForOther then .noMatch
        else .cantDetect
      let byClass :=
        findAndRemove s (matchesClass w.windowClassName w.windowClassClass) (unmatched, s, [])
      if w.pid > 0 ∧ w.clientMachine ≠ [] then
        findAndRemove s (matchesPid w.pid w.clientMachine) byClass
      else byClass

/-- The startups of applications that do not follow the startup protocol go, in key order. -/
def cleanAllNoncompliant : Tracker × List Signal :=
  let noncompliant (d : Data) : Bool := d.wmclass = toUtf8 ['0']
  ({ s with startups := s.startups.filterMapValues fun _ d => if noncompliant d then none else some d },
    (s.startups.entries.filter fun e => noncompliant e.2).map fun e =>
      .gotRemoveStartup e.1 e.2.toKStartupInfoData)

def windowAdded (w : StartupWindow) : Tracker × List Signal :=
  match checkStartupInternal s w with
  | (.cantDetect, s', out) =>
      if cfg.cleanOnCantDetect then
        let r := cleanAllNoncompliant s'
        (r.1, out ++ r.2)
      else (s', out)
  | (_, s', out) => (s', out)

/-! ## Expiry -/

/-- The age at which a record expires.  A silenced one has twenty times as long, in 32-bit
arithmetic, unless the environment fixes the timeout. -/
def timeoutOf (d : Data) : UInt32 :=
  match cfg.timeoutEnv with
  | some t => t
  | none => if d.silent = .yes then s.timeout * 20 else s.timeout

def aged (age : Bool) (d : Data) : Data := if age then { d with age := d.age + 1 } else d

def expired (d : Data) : Bool := timeoutOf cfg s d ≤ d.age

/-- `checkCleanup` on one map: what is left of it. -/
def checkCleanup (age : Bool) (m : SortedMap KStartupInfoId Data) : SortedMap KStartupInfoId Data :=
  m.filterMapValues fun _ d => if expired cfg s (aged age d) then none else some (aged age d)

def startupsCleanupInternal (age : Bool) : Tracker × List Signal :=
  ({ s with
    startups := checkCleanup cfg s age s.startups
    silentStartups := checkCleanup cfg s age s.silentStartups
    uninitedStartups := checkCleanup cfg s age s.uninitedStartups },
    (s.startups.entries.filter fun e => expired cfg s (aged age e.2)).map fun e =>
      .gotRemoveStartup e.1 e.2.toKStartupInfoData)

def startupsCleanup : Tracker × List Signal :=
  if s.startups.isEmpty ∧ s.silentStartups.isEmpty ∧ s.uninitedStartups.isEmpty then
    ({ s with cleanupActive := false }, [])
  else startupsCleanupInternal cfg s true

end Tracker

/-! ## Runs -/

inductive TrackerEvent where
  | gotMessage (msg : QString)
  | windowAdded (w : StartupWindow)
  | checkStartup (w : StartupWindow)
  | startupsCleanup
  | startupsCleanupNoAge
  | setTimeout (secs : UInt32)

/-- With `DisableKWinModule` the signal of `KX11Extras` is not connected. -/
def Tracker.step (cfg : TrackerConfig) (s : Tracker) : TrackerEvent → Tracker × List Signal
  | .gotMessage msg => s.gotMessage cfg msg
  | .windowAdded w => if cfg.disableKWinModule then (s, []) else s.windowAdded cfg w
  | .checkStartup w => (s.checkStartupInternal w).2
  | .startupsCleanup => s.startupsCleanup cfg
  | .startupsCleanupNoAge => s.startupsCleanupInternal cfg false
  | .setTimeout secs => ({ s with timeout := secs }, [])

end KWindowSystem
