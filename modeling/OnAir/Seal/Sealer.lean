import OnAir.Seal.Token
import OnAir.Validation.Field

/-!
# Sealing values into cookies

A sealer turns a value into a token that only the holder of the secret can make, and back. A token
is good for one purpose, the name of its cookie, and until its lifetime is over. Every way in which
a token can be refused has a case of its own.
-/

namespace OnAir.Seal

/-- A holder of the secret. -/
structure Sealer where
  secret : String
  deriving DecidableEq, Repr

structure CookieChange where
  name : String
  value : String
  maxAge : Int
  deriving DecidableEq, Repr

def CookieChange.clears (change : CookieChange) : Bool :=
  change.maxAge ≤ 0

def CookieChange.clear (name : String) : CookieChange :=
  ⟨name, "", 0⟩

inductive SealError
  | noSecret
  | lifetime (e : Json.IntegerError)
  | writing (e : WriteError)
  | surrogate (e : SurrogateError)
  | clock
  deriving DecidableEq, Repr

def SealError.message : SealError → String
  | .noSecret => "cookie secret must not be empty"
  | .lifetime e => e.message
  | .writing e => e.message
  | .surrogate e => e.message
  | .clock => "int too large to convert"

def SealError.name : SealError → String
  | .noSecret => "ValueError"
  | .lifetime e => e.name
  | .writing e => e.name
  | .surrogate e => e.name
  | .clock => "error"

def Sealer.make (secret : String) : Except SealError Sealer :=
  if secret = "" then .error .noSecret else .ok ⟨secret⟩

inductive UnsealError
  | missing
  | badSignature
  | malformed
  | expired
  | date (e : Calendar.RangeError)
  | payload (e : PayloadError)
  | lifetime (e : Json.IntegerError)
  | surrogate (e : SurrogateError)
  deriving DecidableEq, Repr

def UnsealError.message : UnsealError → String
  | .missing => "missing token"
  | .badSignature => "bad signature"
  | .malformed => "malformed payload"
  | .expired => "expired"
  | .date e => e.message
  | .payload e => e.message
  | .lifetime e => e.message
  | .surrogate e => e.message

def UnsealError.name : UnsealError → String
  | .date e => e.name
  | .payload _ => "BadPayload"
  | .lifetime e => e.name
  | .surrogate e => e.name
  | _ => "SealError"

/-- Whether the seal itself is refused, as opposed to a sealed text that no sealer wrote and to texts
that cannot be looked at. -/
def UnsealError.isRefusal : UnsealError → Bool
  | .missing | .badSignature | .malformed | .expired => true
  | .date _ | .payload _ | .lifetime _ | .surrogate _ => false

/-- Whether a token that fails in this way counts as no token at all: the seal is refused, the token
is broken, or a number in it cannot be read. -/
def UnsealError.isTolerated : UnsealError → Bool
  | .date (.year _) | .lifetime (.unreadable _) | .lifetime .notNumber | .surrogate _ => true
  | e => e.isRefusal

def purposeText : RawText → Except SurrogateError String
  | .text purpose => .ok purpose
  | .broken codes => .error ⟨"streamgate.".toList.map Char.toNat ++ codes⟩

def Sealer.tokenAt (sealer : Sealer) (value : Json) (lifetime : Int) (purpose : String)
    (seconds : Nat) : Bytes :=
  sign (signingKey sealer.secret purpose) (signedText value lifetime seconds)

/-- Seals a value for a purpose that is text. The document must keep to its limits, the value must be
text throughout, and the clock must lie in the range of an eight-byte count of seconds. -/
def Sealer.sealText (sealer : Sealer) (value : Json) (lifetime : Int) (purpose : String)
    (now : Instant) : Except SealError String :=
  let seconds := now.wholeSeconds
  match Json.check documentLimits Json.depthLimit (document value lifetime) with
  | .error e => .error (.writing e)
  | .ok () =>
    if value.isBroken then .error (.surrogate ⟨(document value lifetime).codes⟩)
    else if seconds < 0 ∨ Nat.pow 2 64 ≤ seconds then .error .clock
    else
      .ok (String.ofList (Utf8.decodeLossy (sealer.tokenAt value lifetime purpose seconds.toNat)))

def Sealer.seal (sealer : Sealer) (value : Json) (lifetime : Int) (purpose : RawText)
    (now : Instant) : Except SealError String := do
  sealer.sealText value lifetime (← (purposeText purpose).mapError .surrogate) now

/-- Whether a text signed at a second is past its lifetime. The age is rounded as clock readings
are. -/
def isExpired (lifetime : Int) (signed : Nat) (now : Instant) : Bool :=
  lifetime ≤ 0 || (lifetime : Rat) < (Double.ofRat (now.seconds.toRat - (signed : Rat))).toRat

/-- The value of a document, unless it has expired. A document without a lifetime has none. -/
def openDocument (body : Json) (signed : Nat) (now : Instant) : Except UnsealError Json :=
  match body.get? "v" with
  | none => .error .malformed
  | some value =>
    match ((body.get? "ttl").getD (.int 0)).toInteger with
    | .error e => .error (.lifetime e)
    | .ok lifetime => if isExpired lifetime signed now then .error .expired else .ok value

def openText (text : Bytes) (now : Instant) : Except UnsealError Json := do
  let (part, stamp) ← ((Text.cutLast? point text).elim (.error .badSignature) .ok)
  let signed ← ((decodeStamp? stamp).elim (.error .badSignature) .ok)
  (Calendar.check signed).mapError .date
  let body ← (readPayload part).mapError .payload
  openDocument body signed now

def Sealer.unseal (sealer : Sealer) (token purpose : RawText) (now : Instant) :
    Except UnsealError Json :=
  if token.isEmpty then .error .missing
  else do
    let purpose ← (purposeText purpose).mapError .surrogate
    let token ← token.proper.mapError .surrogate
    match signedText? (signingKey sealer.secret purpose) (Utf8.ofString token) with
    | none => .error .badSignature
    | some text => openText text now

def Sealer.cookie (sealer : Sealer) (name : String) (value : Json) (lifetime : Int)
    (now : Instant) : Except SealError CookieChange := do
  let token ← sealer.seal value lifetime name now
  return ⟨name, token, lifetime⟩

def Sealer.sealFor (sealer : Sealer) (value lifetime : Json) (purpose : RawText) (now : Instant) :
    Except SealError String := do
  let purpose ← (purposeText purpose).mapError .surrogate
  sealer.sealText value (← lifetime.toInteger.mapError .lifetime) purpose now

inductive CookieError
  | sealing (e : SealError)
  | invalid (complaints : List Validation.Complaint)
  deriving DecidableEq, Repr

/-- The change that sets a cookie whose lifetime is given by a value of any kind. The value must
make sense as a lifetime both inside the token and outside. -/
def Sealer.cookieFor (sealer : Sealer) (name : String) (value lifetime : Json) (now : Instant) :
    Except CookieError CookieChange := do
  let token ← (sealer.sealFor value lifetime name now).mapError .sealing
  let maxAge ← (Validation.required [("max_age", lifetime)] "max_age" Validation.integer).mapError
    .invalid
  return ⟨name, token, maxAge⟩

end OnAir.Seal
