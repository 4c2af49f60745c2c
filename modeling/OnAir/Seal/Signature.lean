import OnAir.Bytes.Base64
import OnAir.Digest.Hmac
import OnAir.Text.Cut
import OnAir.Text.Utf8

/-!
# Signed texts

A signed text carries its signature after its last point. The key depends on the secret and on the
purpose of the text, so a text signed for one purpose does not verify for another.
-/

namespace OnAir.Seal

def point : UInt8 := 46

def signingKey (secret purpose : String) : Bytes :=
  Sha1.digest (Utf8.ofString ("streamgate." ++ purpose ++ "signer" ++ secret))

def signature (key text : Bytes) : Bytes :=
  Hmac.mac Hmac.sha1 key text

def encodePart (part : Bytes) : Bytes :=
  Utf8.encode (Base64.encode Base64.urlSafe part)

def sign (key text : Bytes) : Bytes :=
  text ++ point :: encodePart (signature key text)

def verifies (key text spelled : Bytes) : Bool :=
  Base64.decode? spelled = some (signature key text)

def signedText? (key token : Bytes) : Option Bytes :=
  match Text.cutLast? point token with
  | some (text, spelled) => if verifies key text spelled then some text else none
  | none => none

end OnAir.Seal
