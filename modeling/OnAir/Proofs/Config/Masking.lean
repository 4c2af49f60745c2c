import OnAir.Proofs.Config.Blanks
import OnAir.Store.Pool

/-!
# Masked passwords

What log lines show of the store's URL does not depend on the password, whatever delimiters stand
in it, if there is a name in front of it. A URL that gives a password without a name is shown as
it is, so two such URLs look alike only if their passwords are the same.
-/

namespace OnAir

-- -----------------------------------------------------------------------------
-- URLs
-- -----------------------------------------------------------------------------

namespace StoreUrl

def nameOf (user : List Char) : List Char :=
  user.takeWhile (· ≠ ':')

/-- The host in what follows the password: what comes after the last at sign, or all of it. -/
def hostOf (place : List Char) : List Char :=
  ((Text.cutLast? '@' place).map (·.2)).getD place

variable {scheme user password password' place : List Char}

theorem cutCredentials?_append (scheme user password place : List Char) :
    ∃ more, cutCredentials? scheme (user ++ ':' :: password ++ '@' :: place)
      = some (user ++ ':' :: (password ++ more), hostOf place) := by
  rw [cutCredentials?, Text.cutLast?_append_cons, hostOf]
  cases Text.cutLast? '@' place with
  | none => exact ⟨[], by rw [List.append_nil]; rfl⟩
  | some parts => exact ⟨'@' :: parts.1, by simp⟩

theorem masked_assembled (hscheme : ¬mark <:+: scheme) (hpassword : password ≠ []) :
    masked (assembled scheme user password place)
      = if nameOf user = [] then assembled scheme user password place
        else scheme ++ mark ++ nameOf user ++ ":***@".toList ++ hostOf place := by
  obtain ⟨more, hcredentials⟩ := cutCredentials?_append scheme user password place
  obtain ⟨rest, hcut⟩ : ∃ rest, Text.cutFirst? ':' (user ++ ':' :: (password ++ more))
      = some (nameOf user, rest ++ (password ++ more)) := Text.cutFirst?_takeWhile _ _
  have hne : rest ++ (password ++ more) ≠ [] := by simp [hpassword]
  rw [masked, assembled, cutScheme?_append hscheme]
  simp only [hcredentials, hcut]
  by_cases hname : nameOf user = []
  · rw [if_pos hname, if_neg (fun h => h.1 hname)]
  · rw [if_neg hname, if_pos ⟨hname, hne⟩, mark]

theorem masked_eq_iff (hscheme : ¬mark <:+: scheme) (hpassword : password ≠ [])
    (hpassword' : password' ≠ []) :
    masked (assembled scheme user password place) = masked (assembled scheme user password' place)
      ↔ nameOf user ≠ [] ∨ password = password' := by
  rw [masked_assembled hscheme hpassword, masked_assembled hscheme hpassword']
  by_cases hname : nameOf user = []
  · simp [hname, assembled]
  · simp [hname]

end StoreUrl

-- -----------------------------------------------------------------------------
-- Configurations
-- -----------------------------------------------------------------------------

namespace Config

/-- Two configurations with passwords that need not be the same, and with nothing else that
differs. -/
structure DifferInPassword (config config' : Config) : Prop where
  others : ∀ name, name ≠ "PGPASSWORD" → config.text name = config'.text name
  given : trimmed (config.text "PGPASSWORD") ≠ ""
  given' : trimmed (config'.text "PGPASSWORD") ≠ ""

variable {config config' : Config}

theorem differInPassword_put (config : Config) {password password' : String}
    (h : trimmed password ≠ "") (h' : trimmed password' ≠ "") :
    (config.put "PGPASSWORD" (some password)).DifferInPassword
      (config.put "PGPASSWORD" (some password')) where
  others := fun name hname => by rw [text_put, text_put, if_neg hname, if_neg hname]
  given := by rwa [text_put, if_pos rfl]
  given' := by rwa [text_put, if_pos rfl]

theorem DifferInPassword.textOr (h : config.DifferInPassword config') {name : String}
    (hname : name ≠ "PGPASSWORD") (default : String) :
    config.textOr name default = config'.textOr name default := by
  rw [Config.textOr, Config.textOr, h.others name hname]

theorem DifferInPassword.place (h : config.DifferInPassword config') :
    config.place = config'.place := by
  rw [Config.place, Config.place, h.textOr (by decide), h.textOr (by decide),
    h.others _ (by decide)]

theorem DifferInPassword.usesParts (h : config.DifferInPassword config')
    (hparts : config.UsesParts) : config'.UsesParts where
  noDefault := by rw [← h.others _ (by decide)]; exact hparts.noDefault
  noUrl := by rw [← h.others _ (by decide)]; exact hparts.noUrl
  database := by rw [← h.others _ (by decide)]; exact hparts.database

/-- The URLs of two such configurations are shown alike exactly if there is a name, or the
passwords are the same. -/
theorem DifferInPassword.safe_eq_iff (h : config.DifferInPassword config')
    (hparts : config.UsesParts) :
    StoreUrl.safe config.storeUrl = StoreUrl.safe config'.storeUrl
      ↔ StoreUrl.nameOf (config.textOr "PGUSER" "postgres").toList ≠ []
        ∨ trimmed (config.text "PGPASSWORD") = trimmed (config'.text "PGPASSWORD") := by
  rw [StoreUrl.safe, StoreUrl.safe, String.ofList_inj, toList_storeUrl hparts h.given,
    toList_storeUrl (h.usesParts hparts) h.given', ← h.place, ← h.textOr (by decide),
    StoreUrl.masked_eq_iff StoreUrl.mark_notIn_postgresql (mt String.toList_eq_nil_iff.mp h.given)
      (mt String.toList_eq_nil_iff.mp h.given'), String.toList_inj]

end Config

namespace StoreUrl

open Store (PoolOwner)

theorem safeDsn_make (dsn : String) (maxSize : ℤ) (timeout : Double) :
    (PoolOwner.make dsn maxSize timeout).safeDsn = safe dsn :=
  rfl

/-- What is shown of a URL with a password is the same for all passwords if there is a name, and
otherwise for no two of them; so it is with what the owner of a pool shows of the URL that is put
together from a configuration. -/
theorem masked_without_password (scheme user place password password' : List Char)
    (config config' : Config) (maxSize : ℤ) (timeout : Double) :
    (¬mark <:+: scheme → password ≠ [] → password' ≠ [] →
      (masked (assembled scheme user password place)
          = masked (assembled scheme user password' place)
        ↔ nameOf user ≠ [] ∨ password = password'))
    ∧ (config.DifferInPassword config' → config.UsesParts →
      ((PoolOwner.make config.storeUrl maxSize timeout).safeDsn
          = (PoolOwner.make config'.storeUrl maxSize timeout).safeDsn
        ↔ nameOf (config.textOr "PGUSER" "postgres").toList ≠ []
          ∨ trimmed (config.text "PGPASSWORD") = trimmed (config'.text "PGPASSWORD"))) := by
  refine ⟨masked_eq_iff, fun h hparts => ?_⟩
  rw [safeDsn_make, safeDsn_make]
  exact h.safe_eq_iff hparts

/-- Two passwords full of delimiters, behind a name and with an at sign in the database. -/
theorem masked_without_password_delimiters : ∃ config config' : Config,
    config.DifferInPassword config' ∧ config.UsesParts ∧ config.storeUrl ≠ config'.storeUrl
    ∧ (PoolOwner.make config.storeUrl 10 (.ofInt 5)).safeDsn
      = (PoolOwner.make config'.storeUrl 10 (.ofInt 5)).safeDsn
    ∧ masked (assembled "a:/".toList "svc".toList "p:@/".toList "db".toList)
      = masked (assembled "a:/".toList "svc".toList "b://c@d".toList "db".toList) := by
  let config : Config := [("PGUSER", some "svc"), ("PGDATABASE", some "g@te")]
  have hdiffer : (config.put "PGPASSWORD" (some "p:@/")).DifferInPassword
      (config.put "PGPASSWORD" (some "b://c@d")) :=
    Config.differInPassword_put config (by decide +kernel) (by decide +kernel)
  have hparts : (config.put "PGPASSWORD" (some "p:@/")).UsesParts := ⟨rfl, rfl, by decide +kernel⟩
  have hname : nameOf ((config.put "PGPASSWORD" (some "p:@/")).textOr "PGUSER" "postgres").toList
      ≠ [] := by decide +kernel
  obtain ⟨hurl, hconfig⟩ := masked_without_password "a:/".toList "svc".toList "db".toList
    "p:@/".toList "b://c@d".toList _ _ 10 (.ofInt 5)
  exact ⟨_, _, hdiffer, hparts, by decide +kernel, (hconfig hdiffer hparts).mpr (.inl hname),
    (hurl (by decide +kernel) (by decide) (by decide)).mpr (.inl (by decide))⟩

/-- Without a name in front of it a password is shown. -/
theorem nameless_password_shown : ∃ scheme user host password password' : List Char,
    ¬mark <:+: scheme ∧ ':' ∉ user ∧ '@' ∉ user ∧ '@' ∉ host ∧ password ≠ [] ∧ password' ≠ []
    ∧ masked (assembled scheme user password host)
      ≠ masked (assembled scheme user password' host) :=
  ⟨"postgresql".toList, [], "db".toList, "secret".toList, "other".toList, mark_notIn_postgresql,
    by decide, by decide, by decide, by decide, by decide, by decide +kernel⟩

end StoreUrl
end OnAir
