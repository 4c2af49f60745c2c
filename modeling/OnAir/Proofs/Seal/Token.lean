import OnAir.Proofs.Bytes.Base64
import OnAir.Proofs.Json.RoundTrip
import OnAir.Proofs.Text.Cut
import OnAir.Proofs.Text.Utf8
import OnAir.Seal.Sealer
import OnAir.Url.Percent

/-!
# Signed texts and what they say

A token carries a text, and the text determines the value, the lifetime and the second it was made
from: whoever reads it gets these three back. The second is spelled by as few bytes as its number
allows. What the browser holds is the token's bytes as text, and no byte is lost in that.
-/

namespace OnAir

-- -----------------------------------------------------------------------------
-- Numbers spelled by bytes
-- -----------------------------------------------------------------------------

namespace Bytes

theorem toNat_append (a : Bytes) (b : UInt8) : toNat (a ++ [b]) = toNat a * 256 + b.toNat := by
  simp [toNat]

theorem toNat_ofNat (n : Nat) : toNat (ofNat n) = n := by
  fun_induction ofNat n with
  | case1 => rfl
  | case2 n _ ih =>
    rw [toNat_append, ih, UInt8.toNat_ofNat']
    exact Nat.div_add_mod' n 256

theorem length_ofNat_le {n k : Nat} (h : n < Nat.pow 256 k) : (ofNat n).length ≤ k := by
  induction k generalizing n with
  | zero =>
    have hn : n = 0 := Nat.lt_one_iff.mp h
    simp [hn, ofNat]
  | succ k ih =>
    rw [ofNat]
    split
    · exact Nat.zero_le _
    · have hk : n / 256 < Nat.pow 256 k := Nat.div_lt_of_lt_mul (by rwa [Nat.mul_comm])
      simpa using ih hk

end Bytes

namespace Seal

open Base64 (urlSafe alphabets)

theorem urlSafe_mem : urlSafe ∈ alphabets :=
  List.mem_cons_self

-- -----------------------------------------------------------------------------
-- Parts
-- -----------------------------------------------------------------------------

@[simp] theorem decode?_encodePart (part : Bytes) :
    Base64.decode? (encodePart part) = some part :=
  Base64.decode?_encode urlSafe_mem part

theorem point_notMem_encodePart (part : Bytes) : point ∉ encodePart part :=
  Base64.not_mem_encode urlSafe_mem rfl part

/-- The bytes of a part are those of its symbols, with a point or without one before them. -/
theorem point_cons_encodePart (part : Bytes) :
    point :: encodePart part = Utf8.encode ('.' :: Base64.encode urlSafe part) := by
  rw [Utf8.encode_cons, Utf8.encodeChar_ascii (by decide)]
  rfl

theorem signedText?_sign (key text : Bytes) : signedText? key (sign key text) = some text := by
  rw [signedText?, sign, Text.cutLast?_append text (point_notMem_encodePart _)]
  simp [verifies]

theorem decodeStamp?_encodeStamp {seconds : Nat} (h : seconds < Nat.pow 256 8) :
    decodeStamp? (encodeStamp seconds) = some seconds := by
  simp [decodeStamp?, encodeStamp, Bytes.length_ofNat_le h, Bytes.toNat_ofNat]

theorem readPayload_encodePart (bytes : Bytes) :
    readPayload (encodePart bytes) = readDocument bytes := by
  have hhead : ¬(encodePart bytes).head? = some point :=
    fun h => point_notMem_encodePart bytes (List.mem_of_head? h)
  simp [readPayload, hhead]

-- -----------------------------------------------------------------------------
-- Documents
-- -----------------------------------------------------------------------------

abbrev Sealable (value : Json) (lifetime : Int) : Prop :=
  Json.Readable Json.depthLimit (document value lifetime)

theorem document_isBroken (value : Json) (lifetime : Int) :
    (document value lifetime).isBroken = value.isBroken := by
  simp [document, Json.isBroken, Json.brokenFields, RawText.text?]

theorem document_isExact (value : Json) (lifetime : Int) :
    (document value lifetime).isExact = value.isExact := by
  simp [document, Json.isExact, Json.exactFields]

theorem document_digits (value : Json) (lifetime : Int) :
    (document value lifetime).digits
      = max value.digits (Integer.natText lifetime.natAbs).length := by
  simp [document, Json.digits, Json.fieldsDigits]

theorem document_depth (value : Json) (lifetime : Int) :
    (document value lifetime).depth = value.depth + 1 := by
  simp [document, Json.depth, Json.fieldsDepth]

theorem then_ok {ε : Type} {x y : Except ε Unit} :
    (x >>= fun _ => y) = .ok () ↔ x = .ok () ∧ y = .ok () := by
  cases x <;> simp [bind, Except.bind]

mutual

/-- The check of a document admits what can be read back, as far as numbers and depth go. -/
theorem check_ok : ∀ (value : Json) {depth : Nat},
    Json.check documentLimits depth value = .ok ()
      ↔ value.digits ≤ Integer.digitLimit ∧ value.depth ≤ depth
  | .null, _ => by simp [Json.check, Json.digits, Json.depth]
  | .bool _, _ => by simp [Json.check, Json.digits, Json.depth]
  | .float _, _ => by simp [Json.check, Json.digits, Json.depth]
  | .str _, _ => by simp [Json.check, documentLimits, Json.digits, Json.depth]
  | .int n, _ => by
    simp only [Json.check, documentLimits, Json.digits, Json.depth]
    split <;> simp <;> omega
  | .arr items, 0 => by simp [Json.check, Json.depth]
  | .arr items, depth + 1 => by simp [Json.check, Json.digits, Json.depth, checkItems_ok items]
  | .obj fields, 0 => by simp [Json.check, Json.depth]
  | .obj fields, depth + 1 => by simp [Json.check, Json.digits, Json.depth, checkFields_ok fields]

theorem checkItems_ok : ∀ (items : List Json) {depth : Nat},
    Json.checkItems documentLimits depth items = .ok ()
      ↔ Json.itemsDigits items ≤ Integer.digitLimit ∧ Json.itemsDepth items ≤ depth
  | [], _ => by simp [Json.checkItems, Json.itemsDigits, Json.itemsDepth]
  | item :: rest, depth => by
    simp only [Json.checkItems, then_ok, Json.itemsDigits, Json.itemsDepth, Nat.max_le]
    simp only [check_ok item, checkItems_ok rest]
    omega

theorem checkFields_ok : ∀ (fields : List (RawText × Json)) {depth : Nat},
    Json.checkFields documentLimits depth fields = .ok ()
      ↔ Json.fieldsDigits fields ≤ Integer.digitLimit ∧ Json.fieldsDepth fields ≤ depth
  | [], _ => by simp [Json.checkFields, Json.fieldsDigits, Json.fieldsDepth]
  | (key, value) :: rest, depth => by
    have hkey : documentLimits.string key = .ok () := rfl
    simp only [Json.checkFields, then_ok, Json.fieldsDigits, Json.fieldsDepth, Nat.max_le]
    simp only [hkey, true_and, check_ok value, checkFields_ok rest]
    omega

end

theorem readDocument_documentBytes {value : Json} {lifetime : Int} (h : Sealable value lifetime) :
    readDocument (documentBytes value lifetime) = .ok (document value lifetime) := by
  have hread : Json.read (Json.text Json.tokenLayout (document value lifetime)) = _ :=
    Json.read_text h (c := '{') rfl (by decide)
  rw [readDocument, documentBytes, Utf8.decode?_encode]
  simp only [hread]
  rfl

theorem openDocument_document (value : Json) (lifetime : Int) (signed : Nat) (now : Instant) :
    openDocument (document value lifetime) signed now
      = if isExpired lifetime signed now then .error .expired else .ok value := by
  have hvalue : (document value lifetime).get? "v" = some value := rfl
  have hlifetime : (document value lifetime).get? "ttl" = some (.int lifetime) := rfl
  rw [openDocument, hvalue, hlifetime]
  rfl

-- -----------------------------------------------------------------------------
-- Texts
-- -----------------------------------------------------------------------------

theorem cutLast?_signedText (value : Json) (lifetime : Int) (seconds : Nat) :
    Text.cutLast? point (signedText value lifetime seconds)
      = some (encodePart (documentBytes value lifetime), encodeStamp seconds) :=
  Text.cutLast?_append _ (point_notMem_encodePart _)

theorem openText_signedText {value : Json} {lifetime : Int} {seconds : Nat}
    (h : Sealable value lifetime) (hcheck : Calendar.check seconds = .ok ())
    (hseconds : seconds < Nat.pow 256 8) (now : Instant) :
    openText (signedText value lifetime seconds) now
      = if isExpired lifetime seconds now then .error .expired else .ok value := by
  have hdate : (Calendar.check seconds).mapError UnsealError.date = .ok () := by
    rw [hcheck]
    rfl
  have hbody : (readPayload (encodePart (documentBytes value lifetime))).mapError
      UnsealError.payload = .ok (document value lifetime) := by
    rw [readPayload_encodePart, readDocument_documentBytes h]
    rfl
  simp [openText, cutLast?_signedText, decodeStamp?_encodeStamp hseconds, hdate, hbody,
    openDocument_document, bind, Except.bind]

theorem eq_of_openText {value opened : Json} {lifetime : Int} {seconds : Nat} {now : Instant}
    (h : Sealable value lifetime) (hseconds : seconds < Nat.pow 256 8)
    (hopen : openText (signedText value lifetime seconds) now = .ok opened) : opened = value := by
  cases hcheck : Calendar.check seconds with
  | error e =>
    have hdate : (Calendar.check seconds).mapError UnsealError.date = .error (.date e) := by
      rw [hcheck]
      rfl
    simp [openText, cutLast?_signedText, decodeStamp?_encodeStamp hseconds, hdate, bind,
      Except.bind] at hopen
  | ok u =>
    rw [openText_signedText h hcheck hseconds] at hopen
    split at hopen
    · cases hopen
    · cases hopen
      rfl

-- -----------------------------------------------------------------------------
-- Tokens
-- -----------------------------------------------------------------------------

section
variable {sealer : Sealer} {value : Json} {lifetime : Int} {purpose : String} {seconds : Nat}
  {now : Instant} {token : String}

def tokenChars (sealer : Sealer) (value : Json) (lifetime : Int) (purpose : String)
    (seconds : Nat) : List Char :=
  Base64.encode urlSafe (documentBytes value lifetime)
    ++ '.' :: Base64.encode urlSafe (Bytes.ofNat seconds)
    ++ '.' :: Base64.encode urlSafe (signature (signingKey sealer.secret purpose)
      (signedText value lifetime seconds))

theorem tokenAt_eq_encode (sealer : Sealer) (value : Json) (lifetime : Int) (purpose : String)
    (seconds : Nat) :
    sealer.tokenAt value lifetime purpose seconds
      = Utf8.encode (tokenChars sealer value lifetime purpose seconds) := by
  rw [tokenChars, Utf8.encode_append, Utf8.encode_append, ← point_cons_encodePart,
    ← point_cons_encodePart]
  rfl

theorem isUnreserved_symbol (v : UInt8) : Url.isUnreserved (Base64.symbol urlSafe v) = true := by
  rw [← Base64.symbol_and]
  refine Base64.sixBits_all (P := fun v => Url.isUnreserved (Base64.symbol urlSafe v) = true) ?_ v
  decide +kernel

theorem isUnreserved_of_mem_tokenChars {c : Char}
    (hc : c ∈ tokenChars sealer value lifetime purpose seconds) : Url.isUnreserved c = true := by
  have hpart {bytes : Bytes} (hc : c ∈ Base64.encode urlSafe bytes) :
      Url.isUnreserved c = true := by
    obtain ⟨v, rfl⟩ := Base64.exists_symbol hc
    exact isUnreserved_symbol v
  simp only [tokenChars, List.mem_append, List.mem_cons] at hc
  rcases hc with (hc | rfl | hc) | rfl | hc
  · exact hpart hc
  · rfl
  · exact hpart hc
  · rfl
  · exact hpart hc

theorem ofString_tokenAt :
    Utf8.ofString (String.ofList (Utf8.decodeLossy (sealer.tokenAt value lifetime purpose seconds)))
      = sealer.tokenAt value lifetime purpose seconds := by
  rw [tokenAt_eq_encode, Utf8.decodeLossy_encode, Utf8.ofString_ofList]

theorem seal_text : sealer.seal value lifetime purpose now
    = sealer.sealText value lifetime purpose now :=
  rfl

theorem exists_purpose {purpose : RawText}
    (h : sealer.seal value lifetime purpose now = .ok token) : ∃ text : String, purpose = text := by
  cases purpose with
  | text text => exact ⟨text, rfl⟩
  | broken codes => cases h

/-- What has been sealed: it could be written, the clock was in range, and this is the token. -/
theorem seal_ok (h : sealer.seal value lifetime purpose now = .ok token) :
    (value.digits ≤ Integer.digitLimit ∧ (Integer.natText lifetime.natAbs).length
        ≤ Integer.digitLimit) ∧ value.depth < Json.depthLimit ∧ value.isBroken = false
      ∧ 0 ≤ now.wholeSeconds ∧ now.wholeSeconds < Nat.pow 2 64
      ∧ token = String.ofList (Utf8.decodeLossy
          (sealer.tokenAt value lifetime purpose now.wholeSeconds.toNat)) := by
  simp only [seal_text, Sealer.sealText] at h
  split at h
  · cases h
  · next hcheck =>
    rw [check_ok, document_digits, document_depth] at hcheck
    split at h
    · cases h
    · next hbroken =>
      split at h
      · cases h
      · next hrange =>
        have htoken := (Except.ok.inj h).symm
        exact ⟨by omega, by omega, by simpa using hbroken, by omega, by omega, htoken⟩

theorem seal_eq (hdigits : value.digits ≤ Integer.digitLimit)
    (hlifetime : (Integer.natText lifetime.natAbs).length ≤ Integer.digitLimit)
    (hdepth : value.depth < Json.depthLimit) (hproper : value.isBroken = false)
    (hlow : 0 ≤ now.wholeSeconds) (hhigh : now.wholeSeconds < Nat.pow 2 64) :
    sealer.seal value lifetime purpose now = .ok (String.ofList (Utf8.decodeLossy
      (sealer.tokenAt value lifetime purpose now.wholeSeconds.toNat))) := by
  have hcheck : Json.check documentLimits Json.depthLimit (document value lifetime) = .ok () := by
    rw [check_ok, document_digits, document_depth]
    omega
  have hrange : ¬(now.wholeSeconds < 0 ∨ Nat.pow 2 64 ≤ now.wholeSeconds) := by omega
  simp only [seal_text, Sealer.sealText, hcheck, hproper, Bool.false_eq_true, if_false, if_neg hrange]

theorem sealable_of_seal_ok (hexact : value.isExact = true)
    (h : sealer.seal value lifetime purpose now = .ok token) : Sealable value lifetime := by
  obtain ⟨hdigits, hdepth, hproper, -⟩ := seal_ok h
  refine ⟨?_, ?_, ?_, ?_⟩
  · rw [document_isExact, hexact]
  · rw [document_isBroken, hproper]
  · rw [document_digits]; omega
  · rw [document_depth]; omega

theorem signedText?_of_seal_ok (h : sealer.seal value lifetime purpose now = .ok token) :
    signedText? (signingKey sealer.secret purpose) (Utf8.ofString token)
      = some (signedText value lifetime now.wholeSeconds.toNat) := by
  obtain ⟨-, -, -, -, -, rfl⟩ := seal_ok h
  rw [ofString_tokenAt, Sealer.tokenAt, signedText?_sign]

theorem isUnreserved_of_seal_ok (h : sealer.seal value lifetime purpose now = .ok token) :
    ∀ c ∈ token.toList, Url.isUnreserved c = true := by
  obtain ⟨-, -, -, -, -, rfl⟩ := seal_ok h
  rw [tokenAt_eq_encode, Utf8.decodeLossy_encode, String.toList_ofList]
  exact fun c hc => isUnreserved_of_mem_tokenChars hc

theorem ne_empty_of_signedText? {key text : Bytes}
    (h : signedText? key (Utf8.ofString token) = some text) : token ≠ "" := by
  rintro rfl
  cases h

theorem unseal_text (token purpose : String) (now : Instant) :
    sealer.unseal token purpose now
      = if token = "" then .error .missing
        else match signedText? (signingKey sealer.secret purpose) (Utf8.ofString token) with
          | none => .error .badSignature
          | some text => openText text now := by
  simp only [Sealer.unseal, RawText.isEmpty, RawText.text.injEq, decide_eq_true_eq]
  rfl

theorem unseal_of_signedText? {text : Bytes}
    (h : signedText? (signingKey sealer.secret purpose) (Utf8.ofString token) = some text)
    (now : Instant) : sealer.unseal token purpose now = openText text now := by
  simp only [unseal_text, if_neg (ne_empty_of_signedText? h), h]

theorem eq_of_unseal {opened : Json} {later : Instant} (hexact : value.isExact = true)
    (hseal : sealer.seal value lifetime purpose now = .ok token)
    (hopen : sealer.unseal token purpose later = .ok opened) : opened = value := by
  obtain ⟨-, -, -, -, hlt, -⟩ := seal_ok hseal
  rw [unseal_of_signedText? (signedText?_of_seal_ok hseal)] at hopen
  refine eq_of_openText (sealable_of_seal_ok hexact hseal) ?_ hopen
  have hpos : 0 < Nat.pow 2 64 := by decide
  rw [show Nat.pow 256 8 = Nat.pow 2 64 by decide]
  omega

end
end Seal
end OnAir
