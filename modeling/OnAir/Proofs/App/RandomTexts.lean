import OnAir.Proofs.App.Deed

/-!
# Texts of random bytes

The state of a login and the key of a channel are random bytes in symbols. Each of the two spellings
is undone by its reader, so nothing of the bytes is lost: two texts are the same only if the bytes are.
And they are spelled in characters that mean themselves in a URL, so where they are sent out they
stand as they are.
-/

namespace OnAir

open Act (run)
open Channel (isNameChar newSecret publishName)
open Login (newState)

def World.upcoming (w : World) (count : ℕ) : Bytes :=
  (List.range count).map fun k => w.random.byteAt (w.random.drawn + k)

def World.after (w : World) (count : ℕ) : World :=
  { w with random := Channel.skip w.random count }

/-- A text that is drawn spells the bytes of its world: a reader brings them back, and only where
the same bytes come next the same text is drawn. -/
structure Exact {ε : Type} (draw : Act ε String) (count : ℕ) (read? : String → Option Bytes)
    (w : World) (text : String) : Prop where
  drawn : run draw w = (.ok text, w.after count)
  length : (w.upcoming count).length = count
  reads : read? text = some (w.upcoming count)
  same_iff : ∀ w', (run draw w').1 = .ok text ↔ w'.upcoming count = w.upcoming count

theorem exact_of_reads {ε : Type} {write : Bytes → String} {read? : String → Option Bytes}
    (h : ∀ bytes, read? (write bytes) = some bytes) (count : ℕ) (w : World) :
    Exact (write <$> (Act.draw count : Act ε Bytes)) count read? w (write (w.upcoming count)) := by
  have hrun (w : World) : run (write <$> (Act.draw count : Act ε Bytes)) w
      = (.ok (write (w.upcoming count)), w.after count) := rfl
  refine ⟨hrun w, by simp [World.upcoming], h _, fun w' => ?_⟩
  rw [hrun w']
  constructor
  · intro hsame
    have hread := congrArg read? (Except.ok.inj hsame)
    rw [h, h] at hread
    exact Option.some.inj hread
  · intro hsame
    rw [hsame]

structure Url.Unquoted (text : String) : Prop where
  form : Form.quote text.toList = text.toList
  segment : Url.segment text = text

theorem Url.unquoted_of_unreserved {text : String}
    (h : ∀ c ∈ text.toList, isUnreserved c = true) : Unquoted text :=
  ⟨Form.quote_of_unreserved h, segment_of_unreserved h⟩

-- -----------------------------------------------------------------------------
-- States
-- -----------------------------------------------------------------------------

theorem isNameChar_symbol (v : UInt8) : isNameChar (Base64.symbol Base64.urlSafe v) = true := by
  rw [← Base64.symbol_and]
  refine Base64.sixBits_all (P := fun v => isNameChar (Base64.symbol Base64.urlSafe v) = true) ?_ v
  decide +kernel

def stateOf (bytes : Bytes) : String :=
  String.ofList (Base64.encode Base64.urlSafe bytes)

example : stateOf [0, 16, 131, 16, 81, 135, 251, 239, 255] = "ABCDEFGH--__" := by decide +kernel

theorem decode?_stateOf (bytes : Bytes) :
    Base64.decode? (Utf8.ofString (stateOf bytes)) = some bytes := by
  rw [stateOf, Utf8.ofString_ofList]
  exact Base64.decode?_encode (by decide) bytes

theorem isNameChar_of_mem_stateOf {bytes : Bytes} {c : Char} (hc : c ∈ (stateOf bytes).toList) :
    isNameChar c = true := by
  rw [stateOf, String.toList_ofList] at hc
  obtain ⟨v, rfl⟩ := Base64.exists_symbol hc
  exact isNameChar_symbol v

theorem length_stateOf {bytes : Bytes} (h : bytes.length = 9) : (stateOf bytes).length = 12 := by
  rw [stateOf, String.length_ofList, Base64.length_encode, h]

theorem unquoted_stateOf (bytes : Bytes) : Url.Unquoted (stateOf bytes) :=
  Url.unquoted_of_unreserved fun _ hc =>
    Channel.isUnreserved_of_isNameChar (isNameChar_of_mem_stateOf hc)

theorem Provider.Client.authorizationUrl_append (client : Client) {state : String}
    (h : Url.Unquoted state) :
    client.authorizationUrl state = client.authorizationUrl "" ++ state := by
  have hlast : Url.Form.encode (client.parameters state)
      = Url.Form.encode (client.parameters "") ++ Url.Form.quote state.toList :=
    Url.Form.encode_concat ((client.parameters state).dropLast) "state" state
  rw [authorizationUrl, authorizationUrl, hlast, h.form, String.ofList_append, String.ofList_toList,
    ← String.append_assoc]

-- -----------------------------------------------------------------------------
-- Secrets
-- -----------------------------------------------------------------------------

def secretOf (bytes : Bytes) : String :=
  String.ofList (Hex.encode bytes)

theorem decode?_secretOf (bytes : Bytes) :
    Hex.decode? (secretOf bytes).toList = some bytes := by
  rw [secretOf, String.toList_ofList, Hex.decode?_encode]

theorem isLower_of_mem_secretOf {bytes : Bytes} {c : Char} (hc : c ∈ (secretOf bytes).toList) :
    Hex.isLower c = true := by
  rw [secretOf, String.toList_ofList] at hc
  exact Hex.isLower_of_mem_encode hc

theorem isNameChar_of_isLower {c : Char} (h : Hex.isLower c = true) : isNameChar c = true := by
  simp only [Hex.isLower, isNameChar, Bool.or_eq_true, Bool.and_eq_true, decide_eq_true_eq] at h ⊢
  rcases h with h | h
  · exact .inl (.inl (.inr h))
  · exact .inl (.inl (.inl (.inl ⟨h.1, Char.le_trans h.2 (by decide)⟩)))

theorem length_secretOf {bytes : Bytes} (h : bytes.length = 24) : (secretOf bytes).length = 48 := by
  rw [secretOf, String.length_ofList, Hex.length_encode, h]

theorem unquoted_secretOf (bytes : Bytes) : Url.Unquoted (secretOf bytes) :=
  Url.unquoted_of_unreserved fun _ hc =>
    Channel.isUnreserved_of_isNameChar (isNameChar_of_isLower (isLower_of_mem_secretOf hc))

theorem Channel.publishName_append (name : String) {secret : String} (h : Url.Unquoted secret) :
    publishName name secret = publishName name "" ++ secret := by
  have hlast : Url.Form.encode [("key", secret)]
      = Url.Form.encode [("key", "")] ++ Url.Form.quote secret.toList :=
    Url.Form.encode_concat [] "key" secret
  rw [publishName, publishName, hlast, h.form, String.ofList_append, String.ofList_toList,
    ← String.append_assoc]

-- -----------------------------------------------------------------------------
-- Both
-- -----------------------------------------------------------------------------

/-- In every world a new state is the next nine bytes in twelve letters, digits, hyphens and
underscores, and a new secret is the next 24 bytes in 48 hexadecimal digits of lower case. Base 64 and
hexadecimal bring the bytes back, so the same texts are drawn only where the same bytes come next. Both
need no quoting: in the address that a login starts at and in that of a publisher they stand as they
are. -/
theorem random_texts_exact {ε : Type} (w : World) :
    (∃ state, Exact (newState : Act ε String) 9
        (fun text => Base64.decode? (Utf8.ofString text)) w state
      ∧ state.length = 12 ∧ (∀ c ∈ state.toList, isNameChar c = true) ∧ Url.Unquoted state
      ∧ ∀ client : Provider.Client,
        client.authorizationUrl state = client.authorizationUrl "" ++ state)
    ∧ ∃ secret, Exact (newSecret : Act ε String) 24 (fun text => Hex.decode? text.toList) w secret
      ∧ secret.length = 48 ∧ (∀ c ∈ secret.toList, Hex.isLower c = true) ∧ Url.Unquoted secret
      ∧ ∀ name, publishName name secret = publishName name "" ++ secret := by
  constructor
  · have hexact : Exact (newState : Act ε String) 9
        (fun text => Base64.decode? (Utf8.ofString text)) w (stateOf (w.upcoming 9)) :=
      exact_of_reads decode?_stateOf 9 w
    have hplain := unquoted_stateOf (w.upcoming 9)
    exact ⟨_, hexact, length_stateOf hexact.length, fun c => isNameChar_of_mem_stateOf, hplain,
      fun client => client.authorizationUrl_append hplain⟩
  · have hexact : Exact (newSecret : Act ε String) 24 (fun text => Hex.decode? text.toList) w
        (secretOf (w.upcoming 24)) :=
      exact_of_reads decode?_secretOf 24 w
    have hplain := unquoted_secretOf (w.upcoming 24)
    exact ⟨_, hexact, length_secretOf hexact.length, fun c => isLower_of_mem_secretOf, hplain,
      fun name => Channel.publishName_append name hplain⟩

end OnAir
