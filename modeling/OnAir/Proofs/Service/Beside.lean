import OnAir.Proofs.Ingest.Beside
import OnAir.Proofs.Service.Calls
import OnAir.Proofs.Store.Beside

/-!
# Two services side by side

A call ends alike over tables that its statements cannot tell apart. In particular any call does over
tables that are equal, so whatever strikes when a connection is released is seen in no answer.
-/

namespace OnAir

open Act (Alike)
open Ingest (Attempt)
open Store (Beside Public Reads Side Steady Tables)

section
variable {T : Tables → Tables → Prop} {R : World → World → Prop} (hR : Side T R)
  {publishDir : String} {owner name : RawText}
include hR

-- -----------------------------------------------------------------------------
-- Owners
-- -----------------------------------------------------------------------------

namespace Channel.Service

theorem list_alike (h : ∀ who, owner = .text who → Reads T (·.channelsOf who)) :
    Alike R (list publishDir owner) :=
  ((Registry.channelsOf_alike hR h).mapError _).bind fun _ => .pure _

variable (h : ∀ who, owner = .text who → Steady T who)
include h

theorem create_alike : Alike R (create publishDir owner name) := by
  refine Alike.bind ((Registry.create_alike hR h).handle fun e => ?_) fun _ => .pure _
  cases e with
  | conflict => exact (hR.note _ _).bind fun _ => .fail _
  | notFound | unavailable | unknownColumn | raised => exact .fail _

theorem setAnnounce_alike {announce : Bool} : Alike R (setAnnounce owner name announce) :=
  (Registry.setAnnounce_alike hR h).mapError _

theorem delete_alike : Alike R (delete owner name) :=
  ((Registry.delete_alike hR h).mapError _).bind fun _ => hR.note _ _

theorem setOwnerAnnounce_alike {announce : Bool} : Alike R (setOwnerAnnounce owner announce) :=
  (Registry.setOwnerAnnounce_alike hR h).mapError _

end Channel.Service

theorem Service.OwnerCall.act_alike {call : Service.OwnerCall}
    (h : ∀ who, owner = .text who → Steady T who)
    (hlist : call = .list → ∀ who, owner = .text who → Reads T (·.channelsOf who)) :
    Alike R (call.act publishDir owner) := by
  cases call with
  | list => exact (Channel.Service.list_alike hR (hlist rfl)).map _
  | create name => exact (Channel.Service.create_alike hR h).map _
  | setAnnounce name announce => exact (Channel.Service.setAnnounce_alike hR h).map _
  | delete name => exact (Channel.Service.delete_alike hR h).map _
  | setOwnerAnnounce announce => exact (Channel.Service.setOwnerAnnounce_alike hR h).map _

-- -----------------------------------------------------------------------------
-- Viewers
-- -----------------------------------------------------------------------------

namespace Directory

variable (h : Public T)
include h

theorem orderedRows_alike : Alike R orderedRows :=
  ((Channel.Registry.liveness_alike hR h).mapError _).bind fun _ => hR.now.bind fun _ => .pure _

theorem listLive_alike : Alike R listLive :=
  (orderedRows_alike hR h).bind fun _ => .pure _

theorem list_alike (thumbBase liveBase : String) : Alike R (list thumbBase liveBase) :=
  (orderedRows_alike hR h).bind fun _ => Alike.bind (.look hR.live) fun _ => .pure _

theorem thumbnail_alike (name : RawText) : Alike R (thumbnail name) :=
  (Channel.Registry.thumbnail_alike hR h).mapError _

theorem putThumbnail_alike (name : RawText) (picture : Bytes) :
    Alike R (putThumbnail name picture) :=
  ((Channel.Registry.putThumbnail_alike hR h).mapError _).bind fun _ => hR.note _ _

end Directory

-- -----------------------------------------------------------------------------
-- All calls
-- -----------------------------------------------------------------------------

namespace Service

def Call.attempt? : Call → Option Attempt
  | .byKey name given => some (.key name given)
  | .byUrl address => some (.url address)
  | .byChallenge ftlId nonce digest => some (.challenge ftlId nonce digest)
  | _ => none

structure Call.Shows (T : Tables → Tables → Prop) (call : Call) : Prop where
  channels : ∀ who, call = .owner (.text who) .list → Reads T (·.channelsOf who)
  finding : ∀ attempt, call.attempt? = some attempt → Reads T attempt.finding

theorem Call.act_alike_of (publishDir : String) (hsteady : ∀ who, Steady T who) (hpublic : Public T)
    {call : Call} (h : call.Shows T) : Alike R (call.act publishDir) := by
  cases call with
  | owner who call =>
    refine (OwnerCall.act_alike hR (fun who _ => hsteady who) ?_).mapError _
    rintro rfl who rfl
    exact h.channels who rfl
  | byKey name given => exact (Attempt.act_alike hR (h.finding _ rfl)).map _
  | byUrl url => exact (Attempt.act_alike hR (h.finding _ rfl)).map _
  | byChallenge ftlId nonce digest => exact (Attempt.act_alike hR (h.finding _ rfl)).map _
  | listLive => exact ((Directory.listLive_alike hR hpublic).mapError _).map _
  | list thumbBase liveBase =>
    exact ((Directory.list_alike hR hpublic thumbBase liveBase).mapError _).map _
  | thumbnail name => exact ((Directory.thumbnail_alike hR hpublic name).mapError _).map _
  | putThumbnail name picture =>
    exact ((Directory.putThumbnail_alike hR hpublic name picture).mapError _).map _

end Service
end

theorem Service.Call.Shows.eq (call : Service.Call) : call.Shows Eq :=
  ⟨fun _ _ => .eq _, fun _ _ => .eq _⟩

theorem Service.Call.act_alike (publishDir : String) (call : Service.Call) :
    Alike (Beside Eq) (call.act publishDir) :=
  act_alike_of (Beside.side Eq) publishDir (fun who => (Store.Blind.eq who).steady) .eq (.eq call)

end OnAir
