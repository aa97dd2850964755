import KWindowSystem.Startup.Delivery
import KWindowSystem.Startup.Expiry
import KWindowSystem.Startup.Isolation

/-!
# The feedback of a launch

A launcher sends a new startup, changes of it and its end.  Among all other clients, and as long as the startup does not
expire, the listeners of the tracker hear of exactly that: the startup, each change, and the removal.
-/

open Channel Machine Qt

namespace KWindowSystem

namespace StartupSend

def id : StartupSend → KStartupInfoId
  | .startup id _ => id
  | .change id _ => id
  | .finish id => id
  | .finishData id _ => id

/-- The call is not one that makes the tracker search for a process. -/
def ById : StartupSend → Prop
  | .finishData id data => id.isNull = true → data.pids.list = []
  | _ => True

end StartupSend

namespace Tracker

variable {cfg : TrackerConfig} {s t : Tracker} {id : KStartupInfoId}

/-! ## Calls about one startup -/

end Tracker

/-! ## A launcher among the clients -/

open Tracker

variable {ι : Type*} [DecidableEq ι] {c : ι}

/-- The client `c` launches something: a new startup, changes of it and its end, none of which silences it.  Nobody else
has calls about it, and no call makes the tracker search. -/
structure Launch (sends : ι → List (WId × StartupBroadcast)) (c : ι) (id : KStartupInfoId) (screen : Int32)
    (data : KStartupInfoData) (changes : List KStartupInfoData) : Prop where
  calls : (((sends c).map Prod.snd).filter (·.call.id = id)).map (fun b => (b.screen, b.call)) =
    (screen, .startup id data) :: (changes.map (StartupSend.change id) ++ [StartupSend.finish id]).map (Prod.mk screen)
  others : ∀ c', c' ≠ c → ∀ m ∈ sends c', m.2.call.id ≠ id
  byId : ∀ c', ∀ m ∈ sends c', m.2.call.ById
  audible : data.silent ≠ .yes ∧ ∀ d ∈ changes, d.silent ≠ .yes

-- A null id is not broadcast.
theorem Launch.not_null {κ : Type*} {c : κ} {sends : κ → List (WId × StartupBroadcast)} {id : KStartupInfoId} {screen : Int32}
    {data : KStartupInfoData} {changes : List KStartupInfoData} (h : Launch sends c id screen data changes) :
    id.isNull = false := by
  obtain ⟨b, _, _, hb, _⟩ := List.map_eq_cons_iff.mp h.calls
  have hmessage := b.message
  rw [(Prod.mk.inj hb).2, StartupSend.message, Option.ite_none_left_eq_some] at hmessage
  exact Bool.eq_false_iff.mpr hmessage.1

end KWindowSystem
