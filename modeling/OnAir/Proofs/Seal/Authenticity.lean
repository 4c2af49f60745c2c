import Mathlib
import OnAir.Proofs.Seal.Expiry

/-!
# Tokens cannot be made into anything new

Of the keyed hash only this is asked: when a presented token verifies for a purpose, its text was
signed for that purpose before. Nothing is asked about how the token is spelled, for the signature is
compared after it has been read, and the text byte by byte. Whatever is opened was then sealed, for
this purpose, and within its lifetime. Everything else is refused in one of the four regular ways,
but for what is no text: of a broken token, or one for a broken purpose, nothing is looked at.
-/

namespace OnAir.Seal

open Instant (horizon)

/-- One call of a sealer. -/
structure Sealing where
  value : Json
  lifetime : ℤ
  purpose : RawText
  clock : ℤ

namespace Sealing

def second (s : Sealing) : ℕ :=
  (Instant.wholeSeconds s.clock).toNat

def text (s : Sealing) : Bytes :=
  signedText s.value s.lifetime s.second

/-- A call that gave a token, of a value that holds no doubles, at a clock up to the horizon. -/
structure Minted (sealer : Sealer) (s : Sealing) : Prop where
  exact : s.value.isExact = true
  started : 0 ≤ s.clock
  timely : s.clock < horizon
  sealed : ∃ token, sealer.seal s.value s.lifetime s.purpose s.clock = .ok token

theorem second_lt {s : Sealing} (h : s.clock < horizon) : s.second < 17179869184 := by
  have := Instant.wholeSeconds_lt h
  simp only [second]
  omega

end Sealing

section
variable {sealer : Sealer} {minted : Set Sealing} {purpose token : RawText}

/-- Whatever verifies about a token was signed by a sealing for the same purpose. -/
def Authentic (sealer : Sealer) (minted : Set Sealing) (purpose token : RawText) : Prop :=
  ∀ key presented : String, purpose = key → token = presented → ∀ text,
    signedText? (signingKey sealer.secret key) (Utf8.ofString presented) = some text →
      ∃ s ∈ minted, s.purpose = purpose ∧ s.text = text

def Sealing.Signs (s : Sealing) (token : RawText) : Prop :=
  ∃ (presented : String) (spelled : Bytes), token = presented
    ∧ Text.cutLast? point (Utf8.ofString presented) = some (s.text, spelled)

/-- Whether a text is given of which not both are proper: a token, and the purpose it is for. -/
def Unreadable (token purpose : RawText) : Prop :=
  token ≠ "" ∧ (token.text? = none ∨ purpose.text? = none)

theorem cutLast?_of_signedText? {key bytes text : Bytes} (h : signedText? key bytes = some text) :
    ∃ spelled, Text.cutLast? point bytes = some (text, spelled) := by
  simp only [signedText?] at h
  split at h
  · next before spelled hcut =>
    split at h
    · cases h
      exact ⟨spelled, hcut⟩
    · cases h
  · cases h

theorem unseal_of_signedText?_none {purpose token : String}
    (h : signedText? (signingKey sealer.secret purpose) (Utf8.ofString token) = none) (now : ℤ) :
    sealer.unseal token purpose now
      = .error (if token = "" then .missing else .badSignature) := by
  simp only [unseal_text, h]
  split <;> rfl

theorem Sealing.Minted.openText {s : Sealing} (h : s.Minted sealer) (now : ℤ) :
    openText s.text now
      = if isExpired s.lifetime s.second now then .error .expired else .ok s.value := by
  obtain ⟨sealed, hseal⟩ := h.sealed
  obtain ⟨purpose, hpurpose⟩ := exists_purpose hseal
  rw [hpurpose] at hseal
  have hsecond := Sealing.second_lt h.timely
  refine openText_signedText (sealable_of_seal_ok h.exact hseal) (Calendar.check_ok hsecond) ?_ now
  simp only [Double.natPow_eq]
  omega

theorem Sealing.authentic {s : Sealing} {token : String} (hs : s ∈ minted)
    (hseal : sealer.seal s.value s.lifetime s.purpose s.clock = .ok token) :
    Authentic sealer minted s.purpose token := by
  intro key presented hkey hpresented text htext
  cases hpresented
  rw [hkey] at hseal
  rw [signedText?_of_seal_ok hseal, Option.some.injEq] at htext
  exact ⟨s, hs, rfl, htext⟩

-- -----------------------------------------------------------------------------
-- Texts that are none
-- -----------------------------------------------------------------------------

theorem unseal_unreadable (sealer : Sealer) (h : Unreadable token purpose) (now : ℤ) :
    ∃ e, sealer.unseal token purpose now = .error (.surrogate e) := by
  obtain ⟨hgiven, hbroken⟩ := h
  have hempty : token.isEmpty = false := by simpa [RawText.isEmpty] using hgiven
  simp only [Sealer.unseal, hempty]
  cases purpose with
  | broken codes => exact ⟨_, rfl⟩
  | text purpose =>
    cases token with
    | broken codes => exact ⟨_, rfl⟩
    | text token => simp [RawText.text?] at hbroken

theorem exists_text_of_readable (sealer : Sealer) (h : ¬Unreadable token purpose) (now : ℤ) :
    sealer.unseal token purpose now = .error .missing
      ∨ ∃ presented key : String, token = presented ∧ purpose = key := by
  by_cases hempty : token = ""
  · exact .inl (by simp [Sealer.unseal, RawText.isEmpty, hempty])
  · cases token with
    | broken codes => exact absurd ⟨hempty, .inl rfl⟩ h
    | text token => cases purpose with
      | broken codes => exact absurd ⟨hempty, .inr rfl⟩ h
      | text purpose => exact .inr ⟨token, purpose, rfl, rfl⟩

-- -----------------------------------------------------------------------------
-- All tokens
-- -----------------------------------------------------------------------------

/-- A token is refused, or cannot be read, or opens as one of the sealings for its purpose, if that
has not expired. -/
theorem Authentic.unseal (hauthentic : Authentic sealer minted purpose token)
    (hminted : ∀ s ∈ minted, s.Minted sealer) (hreadable : ¬Unreadable token purpose) (now : ℤ) :
    (∃ e, sealer.unseal token purpose now = .error e ∧ e.isRefusal = true)
      ∨ ∃ s ∈ minted, s.purpose = purpose ∧ s.Signs token
          ∧ isExpired s.lifetime s.second now = false
          ∧ sealer.unseal token purpose now = .ok s.value := by
  rcases exists_text_of_readable sealer hreadable now with
    hmissing | ⟨presented, key, rfl, rfl⟩
  · exact .inl ⟨_, hmissing, rfl⟩
  cases htext : signedText? (signingKey sealer.secret key) (Utf8.ofString presented) with
  | none => exact .inl ⟨_, unseal_of_signedText?_none htext now, by split <;> rfl⟩
  | some text =>
    obtain ⟨s, hs, hpurpose, rfl⟩ := hauthentic key presented rfl rfl text htext
    have hopen := (unseal_of_signedText? htext now).trans ((hminted s hs).openText now)
    cases hexpired : isExpired s.lifetime s.second now with
    | true => exact .inl ⟨.expired, by rw [hopen, hexpired]; rfl, rfl⟩
    | false =>
      obtain ⟨spelled, hcut⟩ := cutLast?_of_signedText? htext
      exact .inr ⟨s, hs, hpurpose, ⟨presented, spelled, rfl, hcut⟩, hexpired,
        by rw [hopen, hexpired]; rfl⟩

/-- Any string is refused or opens as what was sealed for the purpose and is still alive; a text that
was signed for other purposes only is refused. What is no text is another matter: it raises the error
of encoding it, and nothing else does. -/
theorem unseal_of_minted (sealer : Sealer) {minted : Set Sealing} {purpose token : RawText}
    (hminted : ∀ s ∈ minted, s.Minted sealer) (hauthentic : Authentic sealer minted purpose token)
    (now : ℤ) :
    ((∃ e, sealer.unseal token purpose now = .error e ∧ e.isRefusal = true)
      ∨ (∃ s ∈ minted, s.purpose = purpose ∧ 0 < s.lifetime
          ∧ isExpired s.lifetime s.second now = false
          ∧ (now < horizon → now ≤ (s.clock / 1000000 + s.lifetime) * 1000000)
          ∧ sealer.unseal token purpose now = .ok s.value)
      ∨ ∃ e, sealer.unseal token purpose now = .error (.surrogate e))
    ∧ ((∃ e, sealer.unseal token purpose now = .error (.surrogate e)) ↔ Unreadable token purpose)
    ∧ ((∀ s ∈ minted, s.Signs token → s.purpose ≠ purpose) →
        ∃ e, sealer.unseal token purpose now = .error e
          ∧ (e.isRefusal = true ∨ Unreadable token purpose)) := by
  by_cases hreadable : Unreadable token purpose
  · obtain ⟨e, hunseal⟩ := unseal_unreadable sealer hreadable now
    exact ⟨.inr (.inr ⟨e, hunseal⟩), iff_of_true ⟨e, hunseal⟩ hreadable,
      fun _ => ⟨_, hunseal, .inr hreadable⟩⟩
  rcases hauthentic.unseal hminted hreadable now with
    ⟨e, hunseal, hrefusal⟩ | ⟨s, hs, hpurpose, hsigns, hexpired, hunseal⟩
  · refine ⟨.inl ⟨e, hunseal, hrefusal⟩, iff_of_false ?_ hreadable,
      fun _ => ⟨e, hunseal, .inl hrefusal⟩⟩
    rintro ⟨e', hbroken⟩
    cases hunseal.symm.trans hbroken
    cases hrefusal
  · have hm := hminted s hs
    have hlifetime : 0 < s.lifetime := by
      have halive := hexpired
      simp only [isExpired, Bool.or_eq_false_iff, decide_eq_false_iff_not] at halive
      omega
    refine ⟨.inr (.inl ⟨s, hs, hpurpose, hlifetime, hexpired, fun hnow => ?_, hunseal⟩),
      iff_of_false ?_ hreadable, fun hother => absurd hpurpose (hother s hs hsigns)⟩
    · exact ((isExpired_wholeSeconds hm.started hm.timely hnow).mp hexpired).2
    · rintro ⟨e, hbroken⟩
      cases hunseal.symm.trans hbroken

end

theorem unseal_of_minted_single :
    ∃ token : String, ∃ minted : Set Sealing,
      minted = {⟨.obj [("id", .str "42")], 900, "login", 1700000000250000⟩} ∧
      ((∃ e, Sealer.unseal ⟨"secret"⟩ token "login" 1700000600000000 = .error e
          ∧ e.isRefusal = true)
        ∨ (∃ s ∈ minted, s.purpose = "login" ∧ 0 < s.lifetime
            ∧ isExpired s.lifetime s.second 1700000600000000 = false
            ∧ ((1700000600000000 : ℤ) < horizon →
                1700000600000000 ≤ (s.clock / 1000000 + s.lifetime) * 1000000)
            ∧ Sealer.unseal ⟨"secret"⟩ token "login" 1700000600000000 = .ok s.value)
        ∨ ∃ e, Sealer.unseal ⟨"secret"⟩ token "login" 1700000600000000 = .error (.surrogate e))
      ∧ ((∃ e, Sealer.unseal ⟨"secret"⟩ token "login" 1700000600000000 = .error (.surrogate e))
          ↔ Unreadable token "login")
      ∧ ((∀ s ∈ minted, s.Signs token → s.purpose ≠ "login") →
          ∃ e, Sealer.unseal ⟨"secret"⟩ token "login" 1700000600000000 = .error e
            ∧ (e.isRefusal = true ∨ Unreadable token "login")) := by
  obtain ⟨token, hseal⟩ : ∃ token, Sealer.seal ⟨"secret"⟩ (.obj [("id", .str "42")]) 900 "login"
      1700000000250000 = .ok token :=
    exists_seal _ _ _ _ (by decide) (by decide) (by decide) (by decide) (by decide) (by decide)
  refine ⟨token, _, rfl, unseal_of_minted ⟨"secret"⟩ ?_ ?_ 1700000600000000⟩
  · rintro s rfl
    exact ⟨rfl, by decide, by decide, token, hseal⟩
  · exact Sealing.authentic (s := ⟨.obj [("id", .str "42")], 900, "login", 1700000000250000⟩)
      (Set.mem_singleton _) hseal

/-- Half of a surrogate pair, as a token, is neither refused nor opened, though nothing was ever
sealed. -/
theorem broken_token_not_refused : ∃ (minted : Set Sealing) (token : RawText),
    (∀ s ∈ minted, s.Minted ⟨"s"⟩) ∧ Authentic ⟨"s"⟩ minted "login" token
      ∧ (∀ e, Sealer.unseal ⟨"s"⟩ token "login" 1714564800000000 = .error e → e.isRefusal = false)
      ∧ ∀ value, Sealer.unseal ⟨"s"⟩ token "login" 1714564800000000 ≠ .ok value := by
  have hunseal : Sealer.unseal ⟨"s"⟩ (.broken [0xd800]) "login" 1714564800000000
      = .error (.surrogate ⟨[0xd800]⟩) := rfl
  refine ⟨∅, .broken [0xd800], nofun, nofun, ?_, ?_⟩
  · intro e he
    cases hunseal.symm.trans he
    rfl
  · intro value hvalue
    cases hunseal.symm.trans hvalue

end OnAir.Seal
