import OnAir.Proofs.Channel.Beside
import OnAir.Proofs.Ingest.Verdict

/-!
# Two attempts side by side

An attempt to publish looks up a channel with its secret, but all that it makes of the secret is
whether it accepts it. So it ends alike over stores in which it finds the same channel and accepts its
secret in both or in neither.
-/

namespace OnAir.Ingest

open Act (Alike)
open Channel (Authorization Column Registry.map_find_alike Registry.row?)
open Store (ChannelRow Reads Side Tables)

namespace Attempt

def row? (t : Tables) : Attempt → Option ChannelRow
  | key name _ => Registry.row? .name name.filled t
  | url address =>
    match credentials address with
    | .ok (name, _) => Registry.row? .name name.filled t
    | .error _ => none
  | challenge ftlId _ _ => Registry.row? .ftlId ftlId.filled t

/-- Whether an attempt that finds a secret accepts it as the one that its key or its digest is made
of. -/
def accepts (secret : String) : Attempt → Bool
  | key _ given => given = .text secret
  | url address =>
    match credentials address with
    | .ok (_, given) => given = .text secret
    | .error _ => false
  | challenge _ nonce digest => challengeDigest secret nonce = digest

/-- What an attempt finds out: what is told about the channel, and whether the secret is accepted. -/
def finding (attempt : Attempt) (t : Tables) : Option (Authorization × Bool) :=
  (attempt.row? t).map fun row => (authorization t row, attempt.accepts row.secret)

end Attempt

-- -----------------------------------------------------------------------------
-- Comparing
-- -----------------------------------------------------------------------------

/-- How an attempt ends once it is known which channel it is for and whether the secret is accepted. -/
def settle (mismatched : Authorization → Act Error Authorization) :
    Option Authorization × Bool → Act Error Authorization
  | (some auth, accepted) => if accepted then pure auth else mismatched auth
  | (none, _) => refuse

def judge (accepts : String → Bool) (found : Option Authorization × String) :
    Option Authorization × Bool :=
  (found.1, accepts found.2)

theorem byKey_eq (name : RawText) (key : String) :
    byKey name (.text key) = lookUp .name name >>= fun found =>
      settle (fun _ => refuse) (judge (fun secret => .text key = RawText.text secret) found) := by
  rw [byKey]
  refine congrArg _ (funext fun (auth, secret) => ?_)
  have hmatch : Utf8.ofString key = Utf8.ofString secret ↔ RawText.text key = .text secret :=
    ⟨fun heq => congrArg _ (Utf8.ofString_injective heq), fun heq => by cases heq; rfl⟩
  cases auth with
  | none => rfl
  | some auth =>
    change (if Utf8.ofString key = Utf8.ofString secret then pure auth else refuse) = _
    simp only [hmatch, settle, judge, decide_eq_true_eq]

theorem byChallenge_eq (ftlId : RawText) (nonce digest : Bytes) :
    byChallenge ftlId nonce digest = lookUp .ftlId ftlId >>= fun found =>
      settle (fun auth => do
          Act.note .error ("hmac digest mismatch for FTL channel " ++ auth.name)
          refuse)
        (judge (fun secret => challengeDigest secret nonce = digest) found) := by
  rw [byChallenge]
  refine congrArg _ (funext fun (auth, secret) => ?_)
  cases auth with
  | none => rfl
  | some auth => simp only [settle, judge, decide_eq_true_eq]

section
variable {T : Tables → Tables → Prop} {R : World → World → Prop}

theorem settle_alike {mismatched : Authorization → Act Error Authorization}
    (h : ∀ auth, Alike R (mismatched auth)) (found : Option Authorization × Bool) :
    Alike R (settle mismatched found) := by
  obtain ⟨_ | auth, accepted⟩ := found
  · exact .fail _
  · exact .ite (.pure auth) (h auth)

theorem reads_judged {attempt : Attempt} (column : Column) (value : RawText)
    (hrow : ∀ t, attempt.row? t = Registry.row? column value.filled t)
    (h : Reads T attempt.finding) :
    Reads T fun t => (Registry.row? column value.filled t).map fun row =>
      judge attempt.accepts (some (authorization t row), row.secret) := by
  intro t u htu
  have hfinding := congrArg (Option.map fun found => (some found.1, found.2)) (h htu)
  simp only [Attempt.finding, Option.map_map, hrow] at hfinding
  exact hfinding

variable (hR : Side T R)
include hR

theorem bind_lookUp_alike {α β : Type} {column : Column} {value : RawText}
    {f : Option Authorization × String → α}
    (h : Reads T fun t => (Registry.row? column value.filled t).map fun row =>
      f (some (authorization t row), row.secret)) (next : α → Act Error β)
    (hnext : ∀ a, Alike R (next a)) :
    Alike R (lookUp column value >>= fun found => next (f found)) := by
  rw [← bind_map_left]
  refine Alike.bind ?_ hnext
  rw [lookUp, Act.map_handle, ← comp_map]
  refine (Registry.map_find_alike hR (f ∘ fun found => (some found.1, found.2)) h).handle fun e => ?_
  cases e with
  | notFound => exact (Alike.pure _).map f
  | conflict | unavailable | unknownColumn | raised => exact (Alike.fail _).map f

theorem byKey_alike {name given : RawText} (h : Reads T (Attempt.key name given).finding) :
    Alike R (byKey name given) := by
  have hjudged := reads_judged .name name (fun _ => rfl) h
  cases given with
  | text key =>
    rw [byKey_eq]
    exact bind_lookUp_alike hR hjudged _ (settle_alike fun _ => .fail _)
  | broken codes =>
    exact bind_lookUp_alike hR hjudged (fun _ => Act.fail (.surrogate ⟨codes⟩)) fun _ => .fail _

theorem Attempt.act_alike {attempt : Attempt} (h : Reads T attempt.finding) :
    Alike R attempt.act := by
  cases attempt with
  | key name given => exact byKey_alike hR h
  | url address =>
    cases hsplit : credentials address with
    | error e =>
      rw [act, byUrl_error hsplit]
      exact .fail _
    | ok pair =>
      obtain ⟨name, given⟩ := pair
      rw [act, byUrl_eq hsplit]
      refine byKey_alike hR fun t u htu => ?_
      have hfinding := h htu
      simp only [finding, row?, accepts, hsplit] at hfinding
      exact hfinding
  | challenge ftlId nonce digest =>
    rw [act, byChallenge_eq]
    exact bind_lookUp_alike hR (reads_judged .ftlId ftlId (fun _ => rfl) h) _
      (settle_alike fun _ => (hR.note _ _).bind fun _ => .fail _)

end
end OnAir.Ingest
