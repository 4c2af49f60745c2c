import Mathlib.Data.List.TakeWhile
import OnAir.Config.StoreUrl
import OnAir.Proofs.Url.Publish

/-!
# The URL of the store and its parts

Where no setting names the URL as a whole, it is put together from a user, a password, a host, a
port and a database, none of which is quoted. A client of the store takes the URL apart at its
delimiters and unquotes what it finds. So it finds what was put in exactly if user, password and
database stand for themselves: they hold no delimiter that would end them early and nothing that
unquoting would change.
-/

namespace OnAir

-- -----------------------------------------------------------------------------
-- Schemes
-- -----------------------------------------------------------------------------

namespace StoreUrl

def mark : List Char := "://".toList

def assembled (scheme user password place : List Char) : List Char :=
  scheme ++ mark ++ (user ++ ':' :: password ++ '@' :: place)

theorem cutScheme?_append {scheme : List Char} (h : ¬mark <:+: scheme) (rest : List Char) :
    cutScheme? (scheme ++ mark ++ rest) = some (scheme, rest) := by
  induction scheme with
  | nil => rfl
  | cons c scheme ih =>
    have hscheme : ¬mark <:+: scheme :=
      fun hin => h (hin.trans (List.suffix_cons c scheme).isInfix)
    -- a mark at the front would have to reach into the one behind the scheme
    have hnone : Text.after? mark (c :: (scheme ++ mark ++ rest)) = none := by
      cases hafter : Text.after? mark (c :: (scheme ++ mark ++ rest)) with
      | none => rfl
      | some after =>
        have htext := Text.eq_append_of_after? hafter
        match scheme with
        | [] => simp [mark] at htext
        | [d] => simp [mark] at htext
        | d :: e :: scheme =>
          simp only [mark, String.reduceToList, List.cons_append, List.cons.injEq] at htext
          obtain ⟨rfl, rfl, rfl, -⟩ := htext
          exact absurd (List.prefix_append mark scheme).isInfix h
    rw [List.cons_append, List.cons_append, cutScheme?, ← mark, hnone, ih hscheme]
    rfl

theorem mark_notIn_postgresql : ¬mark <:+: "postgresql".toList := by
  intro hin
  have hcolon : ':' ∈ "postgresql".toList := hin.subset (by decide)
  exact absurd hcolon (by decide)

end StoreUrl

-- -----------------------------------------------------------------------------
-- Putting together
-- -----------------------------------------------------------------------------

namespace Config

/-- No setting names the URL as a whole, and there is a database to put one together for. -/
structure UsesParts (config : Config) : Prop where
  noDefault : trimmed (config.text "POSTGRES_URL_DEFAULT") = ""
  noUrl : trimmed (config.text "POSTGRES_URL") = ""
  database : trimmed (config.text "PGDATABASE") ≠ ""

def place (config : Config) : String :=
  config.textOr "PGHOST" "localhost" ++ ":" ++ config.textOr "PGPORT" "5432" ++ "/"
    ++ trimmed (config.text "PGDATABASE")

def credentials (config : Config) : String :=
  if trimmed (config.text "PGPASSWORD") = "" then config.textOr "PGUSER" "postgres"
  else config.textOr "PGUSER" "postgres" ++ ":" ++ trimmed (config.text "PGPASSWORD")

variable {config : Config}

theorem storeUrl_parts (h : config.UsesParts) :
    config.storeUrl = "postgresql://" ++ config.credentials ++ "@" ++ config.place := by
  simp [storeUrl, h.noDefault, h.noUrl, h.database, credentials, place, String.append_assoc]

theorem toList_storeUrl (h : config.UsesParts)
    (hpassword : trimmed (config.text "PGPASSWORD") ≠ "") :
    config.storeUrl.toList
      = StoreUrl.assembled "postgresql".toList (config.textOr "PGUSER" "postgres").toList
          (trimmed (config.text "PGPASSWORD")).toList config.place.toList := by
  simp [storeUrl_parts h, credentials, hpassword, StoreUrl.assembled, StoreUrl.mark]

end Config

-- -----------------------------------------------------------------------------
-- Taking apart
-- -----------------------------------------------------------------------------

namespace StoreUrl

structure Parts where
  user : List Char
  password : List Char
  host : List Char
  port : List Char
  database : List Char
  deriving DecidableEq, Repr

def inPath (c : Char) : Bool :=
  c ≠ '?' ∧ c ≠ '#'

/-- Takes a URL apart: the authority ends at the first slash, question mark or number sign, the user
information at the last at sign in it, the user at the first colon. Nothing if a part is missing. -/
def read? (url : List Char) : Option Parts := do
  let (_, rest) ← cutScheme? url
  let (userInfo, place) ← Text.cutLast? '@' (rest.takeWhile Url.inAuthority)
  let (user, password) ← Text.cutFirst? ':' userInfo
  let (host, port) ← Text.cutFirst? ':' place
  let database ← Text.after? ['/'] ((rest.dropWhile Url.inAuthority).takeWhile inPath)
  return ⟨Url.unquote user, Url.unquote password, host, port, Url.unquote database⟩

/-- A text that stands for itself at its place: it holds none of the delimiters, and unquoting
leaves it as it is. -/
structure Stands (delimiters text : List Char) : Prop where
  free : ∀ c ∈ delimiters, c ∉ text
  unquoted : Url.unquote text = text

instance (delimiters text : List Char) : Decidable (Stands delimiters text) :=
  decidable_of_iff (delimiters.all (fun c => !text.contains c) = true ∧ Url.unquote text = text)
    ⟨fun h => ⟨by simpa using h.1, h.2⟩, fun h => ⟨by simpa using h.free, h.unquoted⟩⟩

variable {scheme user password host port database text : List Char} {p : Char → Bool}

theorem takeWhile_of_unquote (h : Url.unquote (text.takeWhile p) = text) :
    text.takeWhile p = text := by
  have hlength := Url.length_unquote_le (text.takeWhile p)
  rw [h] at hlength
  exact (List.takeWhile_prefix p).eq_of_length_le hlength

theorem length_userInfo {authority userInfo place : List Char}
    (hcut : Text.cutLast? '@' authority = some (userInfo, place))
    (hcut' : Text.cutFirst? ':' userInfo = some (user, password)) :
    user.length + 1 + password.length < authority.length := by
  rw [Text.eq_append_of_cutLast? hcut, Text.eq_append_of_cutFirst? hcut']
  simp only [List.length_append, List.length_cons]
  omega

/-- A host and a port: nothing in them ends an authority, a user information or a host. -/
structure IsPlace (host port : List Char) : Prop where
  host : ∀ c ∈ host, Url.isUnreserved c = true
  port : ∀ c ∈ port, c.isDigit = true

instance (host port : List Char) : Decidable (IsPlace host port) :=
  decidable_of_iff (host.all Url.isUnreserved = true ∧ port.all Char.isDigit = true)
    ⟨fun h => ⟨List.all_eq_true.mp h.1, List.all_eq_true.mp h.2⟩,
      fun h => ⟨List.all_eq_true.mpr h.host, List.all_eq_true.mpr h.port⟩⟩

theorem IsPlace.free (h : IsPlace host port) :
    ':' ∉ host ∧ ∀ d ∈ ['@', '/', '?', '#'], d ∉ host ++ ':' :: port := by
  have hname : ∀ d ∈ [':', '@', '/', '?', '#'], Url.isUnreserved d = false := by
    simp only [List.forall_mem_cons]
    exact ⟨rfl, rfl, rfl, rfl, rfl, nofun⟩
  have hdigit : ∀ d ∈ [':', '@', '/', '?', '#'], d.isDigit = false := by
    simp only [List.forall_mem_cons]
    exact ⟨rfl, rfl, rfl, rfl, rfl, nofun⟩
  have hhost {d : Char} (hd : d ∈ [':', '@', '/', '?', '#']) : d ∉ host := fun hmem =>
    absurd (h.host d hmem) (by rw [hname d hd]; decide)
  refine ⟨hhost (by decide), fun d hd hmem => ?_⟩
  have hd' : d ∈ [':', '@', '/', '?', '#'] := List.mem_cons_of_mem _ hd
  rcases List.mem_append.mp hmem with hmem | hmem
  · exact hhost hd' hmem
  rcases List.mem_cons.mp hmem with rfl | hmem
  · exact absurd hd (by decide)
  · exact absurd (h.port d hmem) (by rw [hdigit d hd']; decide)

theorem all_inAuthority (h : ∀ d ∈ ['/', '?', '#'], d ∉ text) :
    ∀ c ∈ text, Url.inAuthority c = true := by
  intro c hc
  refine decide_eq_true ⟨?_, ?_, ?_⟩ <;> rintro rfl <;> exact h _ (by decide) hc

theorem read?_assembled (hscheme : ¬mark <:+: scheme) (hplace : IsPlace host port)
    (hall : ∀ c ∈ user ++ ':' :: password, Url.inAuthority c = true) :
    read? (assembled scheme user password (host ++ ':' :: (port ++ '/' :: database)))
      = (Text.cutFirst? ':' (user ++ ':' :: password)).map fun (user, password) =>
        ⟨Url.unquote user, Url.unquote password, host, port,
          Url.unquote (database.takeWhile inPath)⟩ := by
  obtain ⟨hcolon, hfree⟩ := hplace.free
  have hall' : ∀ c ∈ user ++ ':' :: password ++ '@' :: (host ++ ':' :: port),
      Url.inAuthority c = true := by
    rw [List.forall_mem_append, List.forall_mem_cons]
    exact ⟨hall, rfl, all_inAuthority fun d hd => hfree d (List.mem_cons_of_mem _ hd)⟩
  have hrest : user ++ ':' :: password ++ '@' :: (host ++ ':' :: (port ++ '/' :: database))
      = (user ++ ':' :: password ++ '@' :: (host ++ ':' :: port)) ++ '/' :: database := by simp
  have hstop : ¬Url.inAuthority '/' = true := by decide
  rw [read?, assembled, cutScheme?_append hscheme, hrest]
  simp only [Option.bind_eq_bind, Option.bind_some, List.takeWhile_append_of_pos hall',
    List.dropWhile_append_of_pos hall', List.takeWhile_cons_of_neg hstop,
    List.dropWhile_cons_of_neg hstop, List.append_nil]
  rw [Text.cutLast?_append _ (hfree '@' (by decide)), Option.bind_some]
  cases hcut : Text.cutFirst? ':' (user ++ ':' :: password) with
  | none => rfl
  | some found =>
    rw [Option.bind_some, Text.cutFirst?_append hcolon]
    rfl

theorem stands_of_found (hall : ∀ c ∈ user ++ ':' :: password, Url.inAuthority c = true)
    (h : (Text.cutFirst? ':' (user ++ ':' :: password)).map (fun (user, password) =>
        (⟨Url.unquote user, Url.unquote password, host, port,
          Url.unquote (database.takeWhile inPath)⟩ : Parts))
      = some ⟨user, password, host, port, database⟩) :
    Stands [':', '/', '?', '#'] user ∧ Stands ['/', '?', '#'] password
      ∧ Stands ['?', '#'] database := by
  have hcolon : ':' ∉ user := by
    obtain ⟨rest, hcut⟩ : ∃ rest, Text.cutFirst? ':' (user ++ ':' :: password)
        = some (user.takeWhile (· ≠ ':'), rest ++ password) :=
      Text.cutFirst?_takeWhile user password
    rw [hcut] at h
    simp only [Option.map_some, Option.some.injEq, Parts.mk.injEq] at h
    have huser := List.takeWhile_eq_self_iff.mp (takeWhile_of_unquote h.1)
    exact fun hmem => of_decide_eq_true (huser ':' hmem) rfl
  rw [Text.cutFirst?_append hcolon] at h
  simp only [Option.map_some, Option.some.injEq, Parts.mk.injEq] at h
  obtain ⟨huser, hpassword, -, -, hdatabase⟩ := h
  have hfree : ∀ d ∈ ['/', '?', '#'], d ∉ user ++ ':' :: password := by
    have hstop : ∀ d ∈ ['/', '?', '#'], Url.inAuthority d = false := by
      simp only [List.forall_mem_cons]
      exact ⟨rfl, rfl, rfl, nofun⟩
    exact fun d hd hmem => absurd (hall d hmem) (by rw [hstop d hd]; decide)
  have hpath := takeWhile_of_unquote hdatabase
  rw [hpath] at hdatabase
  refine ⟨⟨fun d hd => ?_, huser⟩, ⟨fun d hd hmem => hfree d hd ?_, hpassword⟩, fun d hd hmem => ?_,
    hdatabase⟩
  · rcases List.mem_cons.mp hd with rfl | hd
    · exact hcolon
    · exact fun hmem => hfree d hd (List.mem_append_left _ hmem)
  · exact List.mem_append_right _ (List.mem_cons_of_mem _ hmem)
  · have hstop : ∀ d ∈ ['?', '#'], inPath d = false := by
      simp only [List.forall_mem_cons]
      exact ⟨rfl, rfl, nofun⟩
    exact absurd (List.takeWhile_eq_self_iff.mp hpath d hmem) (by rw [hstop d hd]; decide)

theorem read?_ne_of_ended (hscheme : ¬mark <:+: scheme) {place : List Char}
    (h : ¬∀ c ∈ user ++ ':' :: password, Url.inAuthority c = true) :
    read? (assembled scheme user password place) ≠ some ⟨user, password, host, port, database⟩ := by
  intro hread
  rw [read?, assembled, cutScheme?_append hscheme] at hread
  simp only [Option.bind_eq_bind, Option.bind_some, Option.bind_eq_some_iff] at hread
  obtain ⟨⟨userInfo, _⟩, hcut, ⟨user', password'⟩, hcut', ⟨_, _⟩, -, path, -, hparts⟩ := hread
  have hparts := Option.some.inj hparts
  simp only [Parts.mk.injEq] at hparts
  obtain ⟨huser, hpassword, -⟩ := hparts
  have hlt : ((user ++ ':' :: password).takeWhile Url.inAuthority).length
      ≠ (user ++ ':' :: password).length := fun hlength =>
    h (List.takeWhile_eq_self_iff.mp ((List.takeWhile_prefix _).eq_of_length hlength))
  have hle :=
    (List.takeWhile_prefix (p := Url.inAuthority) (l := user ++ ':' :: password)).length_le
  rw [List.takeWhile_append, if_neg hlt] at hcut
  have hfound := length_userInfo hcut hcut'
  have huser' := Url.length_unquote_le user'
  have hpassword' := Url.length_unquote_le password'
  rw [huser] at huser'
  rw [hpassword] at hpassword'
  simp only [List.length_append, List.length_cons] at hle
  omega

/-- The parts of a URL come back exactly if user, password and database stand for themselves. -/
theorem read?_assembled_iff (hscheme : ¬mark <:+: scheme) (hplace : IsPlace host port) :
    read? (assembled scheme user password (host ++ ':' :: (port ++ '/' :: database)))
        = some ⟨user, password, host, port, database⟩
      ↔ Stands [':', '/', '?', '#'] user ∧ Stands ['/', '?', '#'] password
        ∧ Stands ['?', '#'] database := by
  constructor
  · intro h
    by_cases hall : ∀ c ∈ user ++ ':' :: password, Url.inAuthority c = true
    · exact stands_of_found hall ((read?_assembled hscheme hplace hall).symm.trans h)
    · exact absurd h (read?_ne_of_ended hscheme hall)
  · rintro ⟨huser, hpassword, hdatabase⟩
    have hall : ∀ c ∈ user ++ ':' :: password, Url.inAuthority c = true := by
      refine all_inAuthority fun d hd hmem => ?_
      rcases List.mem_append.mp hmem with hmem | hmem
      · exact huser.free d (List.mem_cons_of_mem _ hd) hmem
      rcases List.mem_cons.mp hmem with rfl | hmem
      · exact absurd hd (by decide)
      · exact hpassword.free d hd hmem
    have hpath : database.takeWhile inPath = database := by
      refine List.takeWhile_eq_self_iff.mpr fun c hc => decide_eq_true ⟨?_, ?_⟩ <;> rintro rfl <;>
        exact hdatabase.free _ (by decide) hc
    rw [read?_assembled hscheme hplace hall, Text.cutFirst?_append (huser.free ':' (by decide)),
      Option.map_some]
    simp only [huser.unquoted, hpassword.unquoted, hpath, hdatabase.unquoted]

end StoreUrl

-- -----------------------------------------------------------------------------
-- Configurations
-- -----------------------------------------------------------------------------

namespace Config

open StoreUrl (Stands read?)

/-- The text of a setting that is used as it is: there is something, and no blanks are around it. -/
structure Gives (config : Config) (name value : String) : Prop where
  text : config.text name = value
  ne_empty : value ≠ ""
  trimmed_eq : trimmed value = value

/-- A configuration that gives the five parts of the URL, and the URL by nothing else. -/
structure Spells (config : Config) (user password host port database : String) : Prop where
  noDefault : trimmed (config.text "POSTGRES_URL_DEFAULT") = ""
  noUrl : trimmed (config.text "POSTGRES_URL") = ""
  isPlace : StoreUrl.IsPlace host.toList port.toList
  user : config.Gives "PGUSER" user
  password : config.Gives "PGPASSWORD" password
  host : config.Gives "PGHOST" host
  port : config.Gives "PGPORT" port
  database : config.Gives "PGDATABASE" database

variable {config : Config} {name value user password host port database : String}

theorem Gives.trimmed_text (h : config.Gives name value) : trimmed (config.text name) = value := by
  rw [h.text, h.trimmed_eq]

theorem Gives.textOr (h : config.Gives name value) (default : String) :
    config.textOr name default = value := by
  rw [Config.textOr, h.text]
  simp only [if_neg h.ne_empty, h.trimmed_eq]

theorem Spells.toList_storeUrl (h : config.Spells user password host port database) :
    config.storeUrl.toList = StoreUrl.assembled "postgresql".toList user.toList password.toList
      (host.toList ++ ':' :: (port.toList ++ '/' :: database.toList)) := by
  have hparts : config.UsesParts :=
    ⟨h.noDefault, h.noUrl, by rw [h.database.trimmed_text]; exact h.database.ne_empty⟩
  have hpassword : trimmed (config.text "PGPASSWORD") ≠ "" := by
    rw [h.password.trimmed_text]
    exact h.password.ne_empty
  rw [Config.toList_storeUrl hparts hpassword, h.user.textOr, h.password.trimmed_text, place,
    h.host.textOr, h.port.textOr, h.database.trimmed_text]
  simp

/-- Whoever reads the URL of the store finds user, password, host, port and database as they are
configured exactly if none of the three texts among them holds a delimiter that would end it
early, or anything that unquoting would change. -/
theorem storeUrl_reads_back_iff (h : config.Spells user password host port database) :
    read? config.storeUrl.toList
        = some ⟨user.toList, password.toList, host.toList, port.toList, database.toList⟩
      ↔ Stands [':', '/', '?', '#'] user.toList ∧ Stands ['/', '?', '#'] password.toList
        ∧ Stands ['?', '#'] database.toList := by
  rw [h.toList_storeUrl]
  exact StoreUrl.read?_assembled_iff StoreUrl.mark_notIn_postgresql h.isPlace

def ofParts (user password host port database : String) : Config :=
  [("PGUSER", some user), ("PGPASSWORD", some password), ("PGHOST", some host),
    ("PGPORT", some port), ("PGDATABASE", some database)]

theorem spells_ofParts (hplace : StoreUrl.IsPlace host.toList port.toList)
    (h : ∀ value ∈ [user, password, host, port, database], value ≠ "" ∧ trimmed value = value) :
    (ofParts user password host port database).Spells user password host port database := by
  simp only [List.forall_mem_cons] at h
  obtain ⟨huser, hpassword, hhost, hport, hdatabase, -⟩ := h
  exact ⟨rfl, rfl, hplace, ⟨rfl, huser.1, huser.2⟩, ⟨rfl, hpassword.1, hpassword.2⟩,
    ⟨rfl, hhost.1, hhost.2⟩, ⟨rfl, hport.1, hport.2⟩, ⟨rfl, hdatabase.1, hdatabase.2⟩⟩

/-- A user with an at sign, a password with more delimiters and a percent sign, and a database
with a slash and a blank. -/
theorem storeUrl_reads_back_iff_awkward : ∃ config : Config,
    config.Spells "ann@home" "p:w@%zz" "db-1.test" "6543" "gate/ü x"
    ∧ read? config.storeUrl.toList = some ⟨"ann@home".toList, "p:w@%zz".toList, "db-1.test".toList,
      "6543".toList, "gate/ü x".toList⟩ := by
  have hspells : (ofParts "ann@home" "p:w@%zz" "db-1.test" "6543" "gate/ü x").Spells _ _ _ _ _ :=
    spells_ofParts (by decide +kernel) (by decide +kernel)
  exact ⟨_, hspells, (storeUrl_reads_back_iff hspells).mpr (by decide +kernel)⟩

/-- A password with an at sign and a slash leads to another host, with another password. -/
theorem storeUrl_leads_elsewhere : ∃ config : Config,
    config.Spells "svc" "pw@other:1/x" "db" "6543" "gate"
    ∧ read? config.storeUrl.toList = some ⟨"svc".toList, "pw".toList, "other".toList, "1".toList,
      "x@db:6543/gate".toList⟩
    ∧ read? config.storeUrl.toList ≠ some ⟨"svc".toList, "pw@other:1/x".toList, "db".toList,
      "6543".toList, "gate".toList⟩ :=
  ⟨ofParts "svc" "pw@other:1/x" "db" "6543" "gate",
    spells_ofParts (by decide +kernel) (by decide +kernel), by decide +kernel, by decide +kernel⟩

end Config
end OnAir
