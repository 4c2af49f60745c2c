import OnAir.Channel.Service
import OnAir.Digest.Hmac
import OnAir.Url.Publish

/-!
# Letting publishers in

Publishers show that they know the secret of their channel: in the URL they publish to, or by a
keyed hash of a challenge. Every refusal is the same failure, so that an unknown channel and a
wrong key cannot be told apart, and a comparison is made even if there is nothing to compare with.
-/

namespace OnAir.Ingest

open Channel (Authorization Column RegistryError ServiceError serviceError)

inductive Error
  | service (e : ServiceError)
  | url (e : Url.SplitError)
  | surrogate (e : SurrogateError)
  deriving DecidableEq, Repr

def standIn : String :=
  String.ofList (List.replicate 48 '0')

def challengeDigest (secret : String) (nonce : Bytes) : Bytes :=
  Hmac.mac Hmac.sha512 (Utf8.ofString secret) nonce

/-- The channel with a value in a column and its secret; without a channel, the stand-in. -/
def lookUp (column : Column) (value : RawText) : Act Error (Option Authorization × String) :=
  let find := Channel.Registry.find column value
  ((fun (auth, secret) => (some auth, secret)) <$> find : Act RegistryError _).handle fun
    | .notFound _ => pure (none, standIn)
    | e => Act.fail (.service (serviceError (fun _ => none) e))

def refuse {α : Type} : Act Error α :=
  Act.fail (.service (.failure .userNotFound))

def byKey (name key : RawText) : Act Error Authorization := do
  let (auth, secret) ← lookUp .name name
  let key ← Act.ofExcept (key.proper.mapError .surrogate)
  let matched := Utf8.ofString key = Utf8.ofString secret
  match auth with
  | some auth => if matched then return auth else refuse
  | none => refuse

def plainCredentials (url : String) : Except Url.SplitError (String × String) := do
  let parts ← Url.split url.toList
  let name := Url.unquote (Url.lastSegment parts.path)
  let key := ((Url.Form.decode false parts.query).lookup "key").getD ""
  return (String.ofList name, key)

/-- The channel name and the key in a publish URL. Halves of surrogate pairs are characters like any
other here. -/
def credentials : RawText → Except Url.SplitError (RawText × RawText)
  | .text url => do
    let (name, key) ← plainCredentials url
    return (name, key)
  | broken => do
    let seen := broken.filled.toList
    let block := RawText.freeBlock (seen ++ Url.unquote seen)
    let (name, key) ← plainCredentials (broken.standingIn block)
    return (.ofStandingIn block name, .ofStandingIn block key)

def byUrl (url : RawText) : Act Error Authorization := do
  let (name, key) ← Act.ofExcept ((credentials url).mapError .url)
  byKey name key

def byChallenge (ftlId : RawText) (nonce digest : Bytes) : Act Error Authorization := do
  let (auth, secret) ← lookUp .ftlId ftlId
  let matched := challengeDigest secret nonce = digest
  match auth with
  | some auth =>
    if matched then return auth
    else
      Act.note .error ("hmac digest mismatch for FTL channel " ++ auth.name)
      refuse
  | none => refuse

end OnAir.Ingest
