import OnAir.Url.Percent
import OnAir.Validation.Field

/-!
# Channels

A channel as the registry knows it, as its owner sees it, and as the media engine is told about it
once a publisher has been let in.
-/

namespace OnAir.Channel

open Validation (Checked Fields required optional nullable filledText flag)

structure Identity where
  owner : String
  name : String
  secret : String
  ftlId : Option String
  announce : Bool
  deriving DecidableEq, Repr

structure Definition where
  name : String
  key : String
  announce : Bool
  publishDir : String
  publishName : String
  deriving DecidableEq, Repr

structure Authorization where
  owner : String
  name : String
  announced : Bool
  deriving DecidableEq, Repr

def Identity.read (fields : Fields) : Checked Identity := do
  let ((owner, name), secret, ftlId, announce) ←
    ((required fields "owner_id" filledText).both (required fields "name" filledText)).both
      ((required fields "secret" filledText).both
        ((optional fields "ftl_id" (nullable filledText) none).both
          (optional fields "announce" flag true)))
  return ⟨owner, name, secret, ftlId, announce⟩

def publishName (name secret : String) : String :=
  Url.segment name ++ "?" ++ String.ofList (Url.Form.encode [("key", secret)])

def Definition.ofIdentity (identity : Identity) (publishDir : String) : Definition where
  name := identity.name
  key := identity.secret
  announce := identity.announce
  publishDir := publishDir
  publishName := Channel.publishName identity.name identity.secret

def Definition.read (fields : Fields) : Checked Definition := do
  let ((name, key), announce, dir, base) ←
    ((required fields "name" filledText).both (required fields "key" filledText)).both
      ((required fields "announce" flag).both
        ((required fields "rtmp_dir" filledText).both (required fields "rtmp_base" filledText)))
  return ⟨name, key, announce, dir, base⟩

def Definition.toJson (d : Definition) : Json :=
  .obj [("name", .str d.name), ("key", .str d.key), ("announce", .bool d.announce),
    ("rtmp_dir", .str d.publishDir), ("rtmp_base", .str d.publishName)]

def Authorization.read (fields : Fields) : Checked Authorization := do
  let (owner, name, announced) ← (required fields "owner_id" filledText).both
    ((required fields "name" filledText).both (required fields "effective_announce" flag))
  return ⟨owner, name, announced⟩

def Authorization.toJson (a : Authorization) : Json :=
  .obj [("owner_id", .str a.owner), ("name", .str a.name),
    ("effective_announce", .bool a.announced)]

def isNameChar (c : Char) : Bool :=
  ('a' ≤ c && c ≤ 'z') || ('A' ≤ c && c ≤ 'Z') || ('0' ≤ c && c ≤ '9') || c == '_' || c == '-'

def newName : Validation.Reader String := fun value => do
  let name ← Validation.textFrom 1 value
  if 64 < name.length then throw (.tooLong 64)
  if !name.toList.all isNameChar then throw (.noMatch "^[A-Za-z0-9_-]+$")
  return name

end OnAir.Channel
