import OnAir.Proofs.App.Beside
import OnAir.Proofs.Channel.Beside
import OnAir.Proofs.Store.Secrecy

/-!
# Keys stay secret

Two worlds that are the same but for the keys of one owner's channels. Whoever is not this owner
asking for the list of channels, and does not try to publish, gets the same answers in both, and the
same lines are logged, those of statements and requests included. Whoever tries to publish learns
whether the key was right.
-/

namespace OnAir

open Act (Alike SameEnd run)
open Channel (Column Identity Registry.row?)
open Http (Request)
open Store (Apart ChannelRow Query Reads SameButKeys StoreError Tables)

-- -----------------------------------------------------------------------------
-- Attempts
-- -----------------------------------------------------------------------------

namespace Ingest

variable {owner : String} {t u : Tables}

theorem authorization_withoutKeys (owner : String) (t : Tables) (row : ChannelRow) :
    authorization (t.withoutKeys owner) (row.withoutKey owner) = authorization t row := by
  simp [authorization]

namespace Attempt

variable {attempt : Attempt}

/-- The attempt is one for a channel, and its key or digest matches the key of the channel. -/
def Matches (attempt : Attempt) (t : Tables) : Prop :=
  ∃ row, attempt.row? t = some row ∧ attempt.accepts row.secret = true

theorem row?_withoutKeys (attempt : Attempt) (owner : String) (t : Tables) :
    attempt.row? (t.withoutKeys owner) = (attempt.row? t).map (·.withoutKey owner) := by
  cases attempt with
  | key name given => simp [row?, Registry.row?]
  | url address =>
    simp only [row?, Registry.row?]
    split <;> simp
  | challenge ftlId nonce digest => simp [row?, Registry.row?]

theorem finding_eq (h : SameButKeys owner t u) (hmatches : attempt.Matches t ↔ attempt.Matches u) :
    attempt.finding t = attempt.finding u := by
  have hrows : (attempt.row? t).map (·.withoutKey owner)
      = (attempt.row? u).map (·.withoutKey owner) := by
    rw [← row?_withoutKeys, ← row?_withoutKeys]
    exact congrArg attempt.row? h
  unfold finding
  cases ht : attempt.row? t with
  | none =>
    rw [ht] at hrows
    rw [Option.map_eq_none_iff.mp hrows.symm]
    rfl
  | some row =>
    rw [ht, Option.map_some] at hrows
    obtain ⟨row', hu, hrow⟩ := Option.map_eq_some_iff.mp hrows.symm
    have hauth : authorization t row = authorization u row' := by
      rw [← authorization_withoutKeys owner, ← authorization_withoutKeys owner u, hrow, h]
    have haccepts : attempt.accepts row.secret = attempt.accepts row'.secret := by
      simp only [Matches, ht, hu, Option.some.injEq, exists_eq_left'] at hmatches
      exact Bool.eq_iff_iff.mpr hmatches
    rw [hu, Option.map_some, Option.map_some, hauth, haccepts]

end Attempt
end Ingest

-- -----------------------------------------------------------------------------
-- What returns keys
-- -----------------------------------------------------------------------------

namespace Channel

def Identity.withoutKey (identity : Identity) : Identity :=
  { identity with secret := "" }

variable {owner : String} {w v : World}

theorem withoutKey_identityOf (owner : String) (row : ChannelRow) :
    (Registry.identityOf (row.withoutKey owner)).withoutKey
      = (Registry.identityOf row).withoutKey := by
  simp [Registry.identityOf, Identity.withoutKey]

theorem find_sameEnd (h : Apart (SameButKeys owner) w v) (column : Column) (value : RawText) :
    SameEnd (Apart (SameButKeys owner)) (run (Prod.fst <$> Registry.find column value) w)
      (run (Prod.fst <$> Registry.find column value) v) := by
  refine (Registry.map_find_alike (Apart.side _) Prod.fst ?_).sameEnd h
  refine Store.reads_of_withoutKeys fun t => ?_
  cases column <;> simp [Registry.row?, Function.comp_def]

theorem channelsOf_sameEnd (h : Apart (SameButKeys owner) w v) (who : RawText) :
    SameEnd (Apart (SameButKeys owner))
      (run (List.map Identity.withoutKey <$> Registry.channelsOf who) w)
      (run (List.map Identity.withoutKey <$> Registry.channelsOf who) v) := by
  let shown (t : Tables) : List Identity :=
    (t.channelsOf who.filled).map fun row => (Registry.identityOf row).withoutKey
  have hreads : Reads (SameButKeys owner) shown := by
    refine Store.reads_of_withoutKeys fun t => ?_
    simp only [shown, Tables.channelsOf_map_withoutKey, List.map_map, Function.comp_def,
      withoutKey_identityOf]
  have hsession : List.map Identity.withoutKey <$> Registry.channelsOf who
      = session "get_channels_by_owner" (Store.select (Registry.channelsQuery who) shown) := by
    have hmap := map_session_select "get_channels_by_owner" (Registry.channelsQuery who)
      (List.map fun row => (Registry.identityOf row).withoutKey) (·.channelsOf who.filled)
    rw [← hmap, Registry.channelsOf, ← map_eq_pure_bind, Functor.map_map]
    simp only [List.map_map, Function.comp_def]
  rw [hsession]
  exact (session_select_alike (Apart.side _) fun _ => hreads).sameEnd h

end Channel

-- -----------------------------------------------------------------------------
-- Calls and requests
-- -----------------------------------------------------------------------------

/-- A call that returns no keys of this owner's channels and compares with none. -/
structure Service.Call.Withholds (owner : String) (call : Service.Call) : Prop where
  list : call ≠ .owner (.text owner) .list
  attempt : call.attempt? = none

theorem Service.Call.Withholds.shows {owner : String} {call : Service.Call}
    (h : call.Withholds owner) : call.Shows (SameButKeys owner) where
  channels other hcall := by
    refine Store.reads_channelsOf ?_
    rintro rfl
    exact h.list hcall
  finding attempt hattempt := nomatch h.attempt.symm.trans hattempt

namespace App

/-- A request that returns no keys of this owner's channels and compares with none: it does not try
to publish, and it does not come from the owner asking for the list of channels. -/
structure Withholds (app : App) (owner : String) (request : Request) (w : World) : Prop where
  publisher : Http.destination request.method request.path ≠ .endpoint .admitPublisher
  challenger : Http.destination request.method request.path ≠ .endpoint .admitChallenger
  list : Http.destination request.method request.path = .endpoint .listChannels →
    ∀ identity, (run (app.signedIn request) (w.noting [request.arrival])).1 = .ok identity →
      identity.id ≠ .text owner

variable {app : App} {request : Request} {owner : String} {w v : World}

theorem listChannels_sameEnd (h : Apart (SameButKeys owner) w v)
    (hother : ∀ identity, (run (app.signedIn request) w).1 = .ok identity →
      identity.id ≠ .text owner) :
    SameEnd (Apart (SameButKeys owner)) (run (app.listChannels request) w)
      (run (app.listChannels request) v) := by
  have hside := Apart.side (SameButKeys owner)
  refine (app.owner_alike request hside.toAmbient.quiet).bind_at h fun identity w' hrun => ?_
  have hid : identity.id ≠ .text owner := by
    refine hother identity ?_
    have hresult := congrArg Prod.fst hrun
    rw [App.owner, Act.run_mapError] at hresult
    exact mapError_ok.mp hresult
  refine ((Channel.Service.list_alike hside fun who hwho => ?_).mapError _).bind fun _ => .pure _
  refine Store.reads_channelsOf ?_
  rintro rfl
  exact hid hwho

theorem Withholds.serve (hrequest : app.Withholds owner request w)
    (h : Apart (SameButKeys owner) w v) :
    SameEnd (Apart (SameButKeys owner)) (app.serve request w) (app.serve request v) := by
  have hquiet := (Apart.ambient (SameButKeys owner)).quiet
  by_cases hlist : Http.destination request.method request.path = .endpoint .listChannels
  · have hrespond : app.respond request = app.listChannels request := by
      unfold App.respond
      rw [hlist]
      rfl
    refine serve_sameEnd hquiet ?_
    rw [hrespond]
    exact listChannels_sameEnd (hquiet.noting _ h) (hrequest.list hlist)
  · have halike : Alike (Apart (SameButKeys owner)) (app.respond request) := by
      refine app.respond_alike_of request fun endpoint hendpoint => ?_
      refine handle_alike_of (Apart.side _) app request (Store.steady_sameButKeys owner)
        (Store.public_sameButKeys owner) ?_ ?_
      · rintro rfl
        exact absurd hendpoint hlist
      · rintro (rfl | rfl)
        · exact absurd hendpoint hrequest.publisher
        · exact absurd hendpoint hrequest.challenger
    exact serve_sameEnd_of_alike hquiet halike h

end App

-- -----------------------------------------------------------------------------
-- Confidentiality
-- -----------------------------------------------------------------------------

/-- Over two worlds that are the same but for the keys of one owner's channels, calls and requests that
withhold these keys end with the same results, and the worlds are once more the same but for the keys,
log lines included. So does each attempt to publish whose key or digest matches in both worlds or in
neither. What returns keys differs in nothing else. And no statement leaves another line for other
arguments. -/
theorem keys_confidential (owner : String) {w v : World} (h : Apart (SameButKeys owner) w v) :
    (∀ (publishDir : String) (call : Service.Call), call.Withholds owner →
        SameEnd (Apart (SameButKeys owner)) (run (call.act publishDir) w)
          (run (call.act publishDir) v))
      ∧ (∀ (app : App) (request : Request), app.Withholds owner request w →
        SameEnd (Apart (SameButKeys owner)) (app.serve request w) (app.serve request v))
      ∧ (∀ attempt : Ingest.Attempt, (attempt.Matches w.tables ↔ attempt.Matches v.tables) →
        SameEnd (Apart (SameButKeys owner)) (run attempt.act w) (run attempt.act v))
      ∧ (∀ column value, SameEnd (Apart (SameButKeys owner))
        (run (Prod.fst <$> Channel.Registry.find column value) w)
        (run (Prod.fst <$> Channel.Registry.find column value) v))
      ∧ (∀ who, SameEnd (Apart (SameButKeys owner))
        (run (List.map Identity.withoutKey <$> Channel.Registry.channelsOf who) w)
        (run (List.map Identity.withoutKey <$> Channel.Registry.channelsOf who) v))
      ∧ ∀ {α : Type} (query : Query) (arguments : List Store.Argument) (body : Act StoreError α),
        Store.logged { query with arguments } body = Store.logged query body := by
  refine ⟨fun publishDir call hcall => ?_, fun app request hrequest => hrequest.serve h,
    fun attempt hmatches => ?_, Channel.find_sameEnd h, Channel.channelsOf_sameEnd h,
    fun query arguments body => Store.logged_arguments rfl rfl body⟩
  · exact (call.act_alike_of (Apart.side _) publishDir (Store.steady_sameButKeys owner)
      (Store.public_sameButKeys owner) hcall.shows).sameEnd h
  · -- the two tables are looked at under the condition that the attempt matches in both or in neither
    let T (t u : Tables) : Prop :=
      SameButKeys owner t u ∧ (attempt.Matches t ↔ attempt.Matches u)
    have halike : Alike (Apart T) attempt.act :=
      attempt.act_alike (Apart.side T) fun _ _ htu => Ingest.Attempt.finding_eq htu.1 htu.2
    have hend := halike.sameEnd (h.mono fun hkeys => ⟨hkeys, hmatches⟩)
    exact ⟨hend.result, hend.world.mono And.left⟩

/-- While a fault is to come, the owner deletes a channel, viewers ask what is on air, and somebody
guesses at the key: nothing of it tells whether the key is one or the other. -/
theorem keys_confidential_guessed : ∃ (w v : World) (app : App) (request : Request),
    w.tables ≠ v.tables ∧ w.faults ≠ []
      ∧ Http.destination request.method request.path = .endpoint .directory
      ∧ SameEnd (Apart (SameButKeys "ann"))
        (run ((Service.Call.owner "ann" (.delete "show")).act "") w)
        (run ((Service.Call.owner "ann" (.delete "show")).act "") v)
      ∧ SameEnd (Apart (SameButKeys "ann")) (app.serve request w) (app.serve request v)
      ∧ SameEnd (Apart (SameButKeys "ann")) (run (Ingest.Attempt.key "show" "guess").act w)
        (run (Ingest.Attempt.key "show" "guess").act v) := by
  let settings : Settings := ⟨false, "", 0, 1, "", "", "", "", "", "", [], "", false, "state",
    "login", "", "", "", "", 1, .ofInt 5, "key"⟩
  let flow : Login.Flow := ⟨some ⟨"secret"⟩, ⟨"", "", "", "", "", "", []⟩, "state", "login", ""⟩
  let app : App := ⟨settings, "", .make "" 1 (.ofInt 5), flow⟩
  let request : Request := ⟨"", "GET", "/channels.json", [], [], [], none, "", "", ""⟩
  let t (key : String) : Tables := ⟨[⟨"ann", true⟩], [⟨"ann", "show", key, none, true⟩], []⟩
  let w : World :=
    { Store.holding (t "one") with faults := [⟨.release, 1, ⟨.outage, "", "gone"⟩⟩] }
  let v : World := { w with tables := t "other" }
  have hpath : Http.destination "GET" "/channels.json" = .endpoint .directory := by decide
  have hdiffer : t "one" ≠ t "other" := by decide
  have hkeys : SameButKeys "ann" (t "one") (t "other") := by decide
  have hcall : (Service.Call.owner "ann" (.delete "show")).Withholds "ann" :=
    ⟨by decide, by decide⟩
  have hrequest : app.Withholds "ann" request w :=
    ⟨by decide, by decide, fun hlist => nomatch hpath.symm.trans hlist⟩
  have hguess (key : String) (hkey : "guess" ≠ key) :
      ¬(Ingest.Attempt.key "show" "guess").Matches (t key) := by
    rintro ⟨row, hrow, haccepts⟩
    cases hrow
    exact hkey (RawText.text.inj (of_decide_eq_true haccepts))
  obtain ⟨hcalls, hserves, hattempts, -, -, -⟩ := keys_confidential "ann" (.mk w hkeys : Apart _ w v)
  exact ⟨w, v, app, request, hdiffer, List.cons_ne_nil _ _, hpath, hcalls "" _ hcall,
    hserves app request hrequest,
    hattempts _ (iff_of_false (hguess "one" (by decide)) (hguess "other" (by decide)))⟩

end OnAir
