import OnAir.Validation.Field

/-!
# Identities

Who is signed in, as the login cookie tells it. An identity without an id is nobody's.
-/

namespace OnAir.Login

open Validation (Checked Fields optional rawText)

structure Identity where
  id : RawText
  username : RawText
  discriminator : RawText
  avatar : RawText
  deriving DecidableEq, Repr

namespace Identity

def anonymous : Identity := ⟨"", "", "", ""⟩

def isAnonymous (identity : Identity) : Bool :=
  identity.id.isEmpty

/-- Reads an identity from its fields, none of which must be given. -/
def read (fields : Fields) : Checked Identity := do
  let ((id, username), discriminator, avatar) ←
    ((optional fields "id" rawText "").both (optional fields "username" rawText "")).both
      ((optional fields "discriminator" rawText "").both (optional fields "avatar" rawText ""))
  return ⟨id, username, discriminator, avatar⟩

def ofJson? (value : Json) : Checked Identity := do
  read (← Validation.objectOr (.notRecord "SessionIdentity") value)

def toJson (identity : Identity) : Json :=
  .obj [("id", .str identity.id), ("username", .str identity.username),
    ("discriminator", .str identity.discriminator), ("avatar", .str identity.avatar)]

end Identity
end OnAir.Login
