import OnAir.Config.Settings
import OnAir.Proofs.Config.StoreUrl

/-!
# Blanks in a configuration

Configurations are alike if the trimmed text of every name is the same, so that a name that is
missing, has no value, or has a blank one makes no difference. Alike configurations lead to the
same settings, or to the same refusal, and to the same URL of the store, but for four names whose
blank values do not give way to their defaults: the switch for secure cookies, while not
debugging, and the user, host and port of a URL that is put together.
-/

namespace OnAir

-- -----------------------------------------------------------------------------
-- Values
-- -----------------------------------------------------------------------------

namespace Config

theorem lookup_cons_eq (entry : String × Option String) (rest : Config) (name : String) :
    List.lookup name (entry :: rest)
      = if name = entry.1 then some entry.2 else rest.lookup name := by
  rw [List.lookup_cons]
  by_cases h : name = entry.1
  · rw [beq_iff_eq.mpr h, if_pos h]
  · rw [beq_false_of_ne h, if_neg h]

theorem lookup_put (config : Config) (name other : String) (value : Option String) :
    (config.put name value).lookup other
      = if other = name then some value else config.lookup other := by
  induction config with
  | nil => rw [put, lookup_cons_eq]
  | cons entry rest ih =>
    rw [put]
    by_cases hentry : entry.1 = name
    · rw [if_pos hentry, lookup_cons_eq, lookup_cons_eq, hentry]
      by_cases h : other = name
      · rw [if_pos h, if_pos h]
      · rw [if_neg h, if_neg h, if_neg h]
    · rw [if_neg hentry, lookup_cons_eq, lookup_cons_eq, ih]
      by_cases h : other = entry.1
      · rw [if_pos h, if_pos h, if_neg (h ▸ hentry)]
      · rw [if_neg h, if_neg h]

theorem text_put (config : Config) (name other value : String) :
    (config.put name (some value)).text other
      = if other = name then value else config.text other := by
  simp only [text, get?, lookup_put]
  split <;> rfl

def Alike (config config' : Config) : Prop :=
  ∀ name, trimmed (config.text name) = trimmed (config'.text name)

/-- A name has a text in both configurations or in neither. Alike configurations differ in this only
where one of them has a blank text. -/
def EmptyAlike (config config' : Config) (name : String) : Prop :=
  config.text name = "" ↔ config'.text name = ""

theorem alike_put {config : Config} {name value : String}
    (h : trimmed (config.text name) = trimmed value) :
    config.Alike (config.put name (some value)) := by
  intro other
  rw [text_put]
  split
  next heq => rw [heq, h]
  next => rfl

end Config

-- -----------------------------------------------------------------------------
-- Settings
-- -----------------------------------------------------------------------------

namespace Settings

variable {config config' : Config} {name : String}

theorem plain_alike (h : config.Alike config') (name : String) :
    plain config' name = plain config name :=
  (h name).symm

theorem bare_alike (h : config.Alike config') (name : String) :
    bare config' name = bare config name := by
  rw [bare, bare, plain_alike h]

theorem integer_alike (h : config.Alike config') (name : String) (default : ℤ) :
    integer config' name default = integer config name default := by
  rw [integer, integer, plain_alike h]

theorem number_alike (h : config.Alike config') (name : String) (default : Double) :
    number config' name default = number config name default := by
  rw [number, number, plain_alike h]

theorem flag_eq (config : Config) (name : String) (default : Bool) :
    flag config name default = if config.text name = "" then default
      else decide (Text.lower (trimmed (config.text name)).toList = "true".toList) := by
  simp [flag, trimmed]

theorem flag_off (config : Config) (name : String) :
    flag config name false
      = decide (Text.lower (trimmed (config.text name)).toList = "true".toList) := by
  rw [flag_eq]
  split
  next h =>
    rw [h]
    rfl
  next => rfl

theorem flag_off_alike (h : config.Alike config') (name : String) :
    flag config' name false = flag config name false := by
  rw [flag_off, flag_off, h]

theorem flag_on_eq_iff (h : config.Alike config') (name : String) :
    flag config name true = flag config' name true ↔ config.EmptyAlike config' name := by
  have hoff {s : String} (hs : s = "") :
      decide (Text.lower (trimmed s).toList = "true".toList) = false := by
    rw [hs]
    decide
  rw [flag_eq, flag_eq, Config.EmptyAlike]
  by_cases hempty : config.text name = "" <;> by_cases hempty' : config'.text name = ""
  · rw [if_pos hempty, if_pos hempty']
    exact iff_of_true rfl ⟨fun _ => hempty', fun _ => hempty⟩
  · rw [if_pos hempty, if_neg hempty', ← h, hoff hempty]
    exact iff_of_false (by decide) fun he => hempty' (he.mp hempty)
  · rw [if_neg hempty, if_pos hempty', h, hoff hempty']
    exact iff_of_false (by decide) fun he => hempty (he.mpr hempty')
  · rw [if_neg hempty, if_neg hempty', h]
    exact iff_of_true rfl ⟨fun he => absurd he hempty, fun he => absurd he hempty'⟩

theorem ofConfig_alike (h : config.Alike config') :
    ofConfig config' = (ofConfig config).map fun settings =>
      { settings with cookieSecure := flag config' "COOKIE_SECURE" (!settings.debug) } := by
  simp only [ofConfig, flag_off_alike h, integer_alike h, number_alike h, bare_alike h,
    funext (plain_alike h)]
  cases integer config "API_PORT" 8080 with
  | error e => rfl
  | ok apiPort =>
    cases integer config "API_WORKERS" 1 with
    | error e => rfl
    | ok apiWorkers =>
      cases integer config "PG_POOL_MAX_SIZE" 10 with
      | error e => rfl
      | ok poolMaxSize =>
        cases number config "PG_COMMAND_TIMEOUT" (.ofInt 5) with
        | error e => rfl
        | ok commandTimeout => simp only [bind, Except.bind, pure, Except.pure, Except.map]

theorem switches_of_ofConfig {settings : Settings} (h : ofConfig config = .ok settings) :
    settings.debug = flag config "DEBUG" false
      ∧ settings.cookieSecure = flag config "COOKIE_SECURE" (!settings.debug) := by
  simp only [ofConfig, bind, Except.bind, pure, Except.pure] at h
  repeat' split at h
  all_goals cases h
  exact ⟨rfl, rfl⟩

theorem ofConfig_eq_iff (h : config.Alike config') :
    ofConfig config = ofConfig config' ↔ (∃ e, ofConfig config = .error e)
      ∨ flag config "DEBUG" false = true ∨ config.EmptyAlike config' "COOKIE_SECURE" := by
  rw [ofConfig_alike h]
  cases hsettings : ofConfig config with
  | error e => exact iff_of_true rfl (.inl ⟨e, rfl⟩)
  | ok settings =>
    obtain ⟨hdebug, hsecure⟩ := switches_of_ofConfig hsettings
    have hsame : Except.ok settings = (Except.ok settings : Except ReadError Settings).map
          (fun settings => { settings with
            cookieSecure := flag config' "COOKIE_SECURE" (!settings.debug) })
        ↔ flag config "COOKIE_SECURE" (!settings.debug)
          = flag config' "COOKIE_SECURE" (!settings.debug) := by
      rw [← hsecure]
      constructor
      · intro heq
        exact congrArg cookieSecure (Except.ok.inj heq)
      · intro heq
        rw [Except.map, ← heq]
    rw [hsame, ← hdebug]
    cases settings.debug with
    | true => exact iff_of_true (flag_off_alike h _).symm (.inr (.inl rfl))
    | false => simp [flag_on_eq_iff h]

end Settings

-- -----------------------------------------------------------------------------
-- The URL of the store
-- -----------------------------------------------------------------------------

namespace Config

variable {config config' : Config}

theorem Alike.usesParts (h : config.Alike config') (hparts : config.UsesParts) :
    config'.UsesParts :=
  ⟨h _ ▸ hparts.noDefault, h _ ▸ hparts.noUrl, h _ ▸ hparts.database⟩

theorem EmptyAlike.textOr (h : config.Alike config') {name : String}
    (hempty : config.EmptyAlike config' name) (default : String) :
    config.textOr name default = config'.textOr name default := by
  rw [Config.textOr, Config.textOr]
  by_cases hname : config.text name = ""
  · simp only [hname, hempty.mp hname]
  · simp only [if_neg hname, if_neg (mt hempty.mpr hname), h name]

/-- A default does not begin like what follows it in the URL, so whether it stands there can be
seen. -/
theorem Alike.emptyAlike_of_append (h : config.Alike config') {name default : String} {a : Char}
    {rest rest' : List Char} (hdefault : (trimmed default).toList.head? = some a)
    (hrest : rest.head? ≠ some a) (hrest' : rest'.head? ≠ some a)
    (heq : (config.textOr name default).toList ++ rest
      = (config'.textOr name default).toList ++ rest') :
    config.EmptyAlike config' name ∧ rest = rest' := by
  have hhead (rest : List Char) : ((trimmed default).toList ++ rest).head? = some a := by
    rw [List.head?_append, hdefault]
    rfl
  have hblank : trimmed "" = "" := rfl
  by_cases hempty : config.text name = "" <;> by_cases hempty' : config'.text name = ""
  · have hboth : config.EmptyAlike config' name := ⟨fun _ => hempty', fun _ => hempty⟩
    rw [hboth.textOr h] at heq
    exact ⟨hboth, List.append_cancel_left heq⟩
  · have hname := h name
    rw [hempty, hblank] at hname
    simp only [textOr, if_pos hempty, if_neg hempty', ← hname] at heq
    exact absurd (congrArg List.head? heq ▸ hhead rest) hrest'
  · have hname := h name
    rw [hempty', hblank] at hname
    simp only [textOr, if_pos hempty', if_neg hempty, hname] at heq
    exact absurd (congrArg List.head? heq.symm ▸ hhead rest') hrest
  · have hneither : config.EmptyAlike config' name :=
      ⟨fun he => absurd he hempty, fun he => absurd he hempty'⟩
    rw [hneither.textOr h] at heq
    exact ⟨hneither, List.append_cancel_left heq⟩

def secret (config : Config) : List Char :=
  if trimmed (config.text "PGPASSWORD") = "" then []
  else ':' :: (trimmed (config.text "PGPASSWORD")).toList

theorem toList_parts (h : config.UsesParts) :
    config.storeUrl.toList = "postgresql://".toList ++ ((config.textOr "PGUSER" "postgres").toList
      ++ (config.secret ++ '@' :: ((config.textOr "PGHOST" "localhost").toList
        ++ ':' :: ((config.textOr "PGPORT" "5432").toList
          ++ '/' :: (trimmed (config.text "PGDATABASE")).toList)))) := by
  rw [storeUrl_parts h, credentials, secret, place]
  split <;> simp

theorem storeUrl_whole (h : ¬config.UsesParts) :
    config.storeUrl = ((["POSTGRES_URL_DEFAULT", "POSTGRES_URL"].map fun name =>
      trimmed (config.text name)).find? (· ≠ "")).getD "postgresql://localhost:5432/postgres" := by
  rw [storeUrl]
  cases hfind : (["POSTGRES_URL_DEFAULT", "POSTGRES_URL"].map fun name =>
      trimmed (config.text name)).find? (· ≠ "") with
  | some url => rfl
  | none =>
    have hdatabase : trimmed (config.text "PGDATABASE") = "" := by
      by_contra hne
      simp only [List.map_cons, List.map_nil, List.find?_eq_none, List.forall_mem_cons,
        decide_eq_true_iff, not_not] at hfind
      exact h ⟨hfind.1, hfind.2.1, hne⟩
    simp only [if_pos hdatabase, Option.getD_none]

theorem Alike.storeUrl_eq_iff (h : config.Alike config') :
    config.storeUrl = config'.storeUrl ↔ ¬config.UsesParts
      ∨ ∀ name ∈ ["PGUSER", "PGHOST", "PGPORT"], config.EmptyAlike config' name := by
  by_cases hparts : config.UsesParts
  · have hsecret : config'.secret = config.secret := by rw [secret, secret, h]
    rw [← String.toList_inj, toList_parts hparts, toList_parts (h.usesParts hparts), hsecret, ← h,
      List.append_cancel_left_eq]
    have hrest (rest : List Char) : (config.secret ++ '@' :: rest).head? ≠ some 'p' := by
      rw [secret]
      split <;> simp
    constructor
    · intro heq
      refine .inr ?_
      obtain ⟨huser, heq⟩ :=
        h.emptyAlike_of_append (a := 'p') (by decide +kernel) (hrest _) (hrest _) heq
      have heq := (List.cons.inj (List.append_cancel_left heq)).2
      obtain ⟨hhost, heq⟩ :=
        h.emptyAlike_of_append (a := 'l') (by decide +kernel) (by simp) (by simp) heq
      have heq := (List.cons.inj heq).2
      obtain ⟨hport, -⟩ :=
        h.emptyAlike_of_append (a := '5') (by decide +kernel) (by simp) (by simp) heq
      simp [huser, hhost, hport]
    · intro hempty
      have hall := hempty.resolve_left (not_not.mpr hparts)
      rw [(hall "PGUSER" (by simp)).textOr h, (hall "PGHOST" (by simp)).textOr h,
        (hall "PGPORT" (by simp)).textOr h]
  · have hparts' : ¬config'.UsesParts := fun h' =>
      hparts (Alike.usesParts (fun name => (h name).symm) h')
    refine iff_of_true ?_ (.inl hparts)
    rw [storeUrl_whole hparts, storeUrl_whole hparts', funext h]

-- -----------------------------------------------------------------------------
-- Both
-- -----------------------------------------------------------------------------

open Settings (ofConfig)

/-- Nothing but the trimmed values counts: numbers are read alike, so that it is the same setting
that is refused, if one is, and in the same words; otherwise the settings are the same but for the
switch for secure cookies, and so is that one, exactly unless a blank turns it off while not
debugging. The URL of the store is the same, exactly unless it is put together with a blank user,
host or port where one of the configurations has none at all. -/
theorem trimmed_values_decide (h : config.Alike config') :
    (∀ name default, Settings.integer config name default = Settings.integer config' name default)
    ∧ (∀ name default, Settings.number config name default = Settings.number config' name default)
    ∧ ofConfig config' = (ofConfig config).map (fun settings => { settings with
        cookieSecure := Settings.flag config' "COOKIE_SECURE" (!settings.debug) })
    ∧ (ofConfig config = ofConfig config' ↔ (∃ e, ofConfig config = .error e)
      ∨ Settings.flag config "DEBUG" false = true ∨ config.EmptyAlike config' "COOKIE_SECURE")
    ∧ (config.storeUrl = config'.storeUrl ↔ ¬config.UsesParts
      ∨ ∀ name ∈ ["PGUSER", "PGHOST", "PGPORT"], config.EmptyAlike config' name) :=
  ⟨fun name default => (Settings.integer_alike h name default).symm,
    fun name default => (Settings.number_alike h name default).symm,
    Settings.ofConfig_alike h, Settings.ofConfig_eq_iff h, h.storeUrl_eq_iff⟩

/-- Blanks around a number, and a blank one, in configurations that put the URL together. -/
theorem trimmed_values_decide_number : ∃ config config' : Config, config.Alike config'
    ∧ config.UsesParts ∧ config'.text "API_PORT" = "\t80 " ∧ config'.text "API_WORKERS" = "  "
    ∧ (ofConfig config).toOption.map Settings.apiPort = some 80 ∧ ofConfig config = ofConfig config'
    ∧ config.storeUrl = config'.storeUrl := by
  let config : Config := [("API_PORT", some "80"), ("PGDATABASE", some "gate")]
  let config' : Config := (config.put "API_PORT" (some "\t80 ")).put "API_WORKERS" (some "  ")
  have halike : config.Alike config' := fun name =>
    (alike_put (by decide +kernel) name).trans (alike_put (by decide +kernel) name)
  have hparts : config.UsesParts := ⟨rfl, rfl, by decide +kernel⟩
  obtain ⟨-, -, -, hsettings, hurl⟩ := trimmed_values_decide halike
  refine ⟨config, config', halike, hparts, by decide, by decide, by decide +kernel,
    hsettings.mpr (.inr (.inr (iff_of_true rfl rfl))), hurl.mpr (.inr ?_)⟩
  simp only [List.forall_mem_cons]
  exact ⟨iff_of_true rfl rfl, iff_of_true rfl rfl, iff_of_true rfl rfl, nofun⟩

/-- A line that gives the switch for secure cookies a blank value takes it away from its default. -/
theorem blank_turns_off : ∃ (config : Config) (blank : String) (settings settings' : Settings),
    trimmed blank = "" ∧ config.text "COOKIE_SECURE" = ""
    ∧ config.Alike (config.put "COOKIE_SECURE" (some blank))
    ∧ ofConfig config = .ok settings
    ∧ ofConfig (config.put "COOKIE_SECURE" (some blank)) = .ok settings'
    ∧ settings.debug = false ∧ settings.cookieSecure = true ∧ settings'.cookieSecure = false :=
  ⟨[], " ", _, _, by decide +kernel, rfl, alike_put (by decide +kernel), rfl, rfl, rfl, rfl,
    by decide +kernel⟩

end Config
end OnAir
