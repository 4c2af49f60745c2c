import OnAir.Channel.Basic
import OnAir.Validation.Field

/-!
# Submissions

What clients send in: the name of a new channel, the position of a switch, and the credentials of a
publisher, either in the open or as the answer to a challenge.
-/

namespace OnAir.Submission

open Validation (Checked Fields required optional nullable rawText textFrom flag hexBytes)

structure NewChannel where
  name : String
  deriving DecidableEq, Repr

def NewChannel.read (fields : Fields) : Checked NewChannel := do
  return ⟨← required fields "name" Channel.newName⟩

structure AnnounceChange where
  announce : Bool
  deriving DecidableEq, Repr

def AnnounceChange.read (fields : Fields) : Checked AnnounceChange := do
  return ⟨← required fields "announce" flag⟩

structure PublishAttempt where
  url : Option RawText
  name : Option RawText
  key : RawText
  deriving DecidableEq, Repr

namespace PublishAttempt

def isBlank (s : Option RawText) : Bool :=
  s.all RawText.isEmpty

/-- The fields of a publisher. Once each is valid, one of URL and name must be there. -/
def read (fields : Fields) : Checked PublishAttempt := do
  let ((url, name), key) ← ((optional fields "url" (nullable rawText) none).both
    (optional fields "name" (nullable rawText) none)).both (optional fields "key" rawText "")
  if isBlank url ∧ isBlank name then
    .error [⟨.refused "either url or name is required", []⟩]
  else return ⟨url, name, key⟩

end PublishAttempt

structure ChallengeAttempt where
  ftlId : String
  nonce : Bytes
  digest : Bytes
  deriving DecidableEq, Repr

def ChallengeAttempt.read (fields : Fields) : Checked ChallengeAttempt := do
  let (ftlId, nonce, digest) ← (required fields "channel_id" (textFrom 1)).both
    ((required fields "nonce" hexBytes).both (required fields "digest" hexBytes))
  return ⟨ftlId, nonce, digest⟩

end OnAir.Submission
