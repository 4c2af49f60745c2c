import OnAir.Channel.Registry
import OnAir.Failure

/-!
# Managing channels

What a signed-in owner can do with their channels. An outage of the store is one failure for all
operations; what else the store raises goes on unchanged.
-/

namespace OnAir.Channel

/-- How a service can fail: in a way meant for the client, or in one nobody foresaw. -/
inductive ServiceError
  | failure (f : Failure)
  | unforeseen (e : RegistryError)
  deriving DecidableEq, Repr

/-- The service's view of an error of the registry, with the failures that the operation itself
stands for. -/
def serviceError (own : RegistryError → Option Failure) (e : RegistryError) : ServiceError :=
  match own e, e with
  | some f, _ => .failure f
  | none, .unavailable _ => .failure .store
  | none, e => .unforeseen e

def serving {α : Type} (act : Act RegistryError α) : Act ServiceError α :=
  act.mapError (serviceError fun _ => none)

namespace Service

def list (publishDir : String) (owner : RawText) : Act ServiceError (List Definition) := do
  let identities ← serving (Registry.channelsOf owner)
  return identities.map (Definition.ofIdentity · publishDir)

def create (publishDir : String) (owner name : RawText) : Act ServiceError Definition := do
  let identity ← (Registry.create owner name).handle fun
    | .conflict _ => do
      Act.note .info ("channel name " ++ name.filled ++ " already in use, owner " ++ owner.filled)
      Act.fail (.failure .nameTaken)
    | e => Act.fail (serviceError (fun _ => none) e)
  return .ofIdentity identity publishDir

def setAnnounce (owner name : RawText) (announce : Bool) : Act ServiceError Unit :=
  (Registry.setAnnounce owner name announce).mapError (serviceError fun
    | .notFound _ => some (.channelNotFound name.filled)
    | _ => none)

def delete (owner name : RawText) : Act ServiceError Unit := do
  serving (Registry.delete owner name)
  Act.note .info ("deleted channel " ++ name.filled ++ " for owner " ++ owner.filled)

def setOwnerAnnounce (owner : RawText) (announce : Bool) : Act ServiceError Unit :=
  serving (Registry.setOwnerAnnounce owner announce)

end Service
end OnAir.Channel
