import OnAir.Config.Layers

/-!
# The URL of the store

Two settings name the URL as a whole; otherwise it is put together from its parts. What is logged
of it never shows the password.
-/

namespace OnAir

namespace Config

/-- The trimmed value of a name, or a default where it has none. A value of blanks alone is trimmed
to nothing and stays so. -/
def textOr (config : Config) (name default : String) : String :=
  let value := config.text name
  trimmed (if value = "" then default else value)

def storeUrl (config : Config) : String :=
  let whole := ["POSTGRES_URL_DEFAULT", "POSTGRES_URL"].map fun name => trimmed (config.text name)
  match whole.find? (· ≠ "") with
  | some url => url
  | none =>
    let database := trimmed (config.text "PGDATABASE")
    if database = "" then "postgresql://localhost:5432/postgres"
    else
      let user := config.textOr "PGUSER" "postgres"
      let password := trimmed (config.text "PGPASSWORD")
      let host := config.textOr "PGHOST" "localhost"
      let port := config.textOr "PGPORT" "5432"
      let auth := if password = "" then user else user ++ ":" ++ password
      "postgresql://" ++ auth ++ "@" ++ host ++ ":" ++ port ++ "/" ++ database

end Config

namespace StoreUrl

def cutScheme? : List Char → Option (List Char × List Char)
  | [] => none
  | c :: rest =>
    match Text.after? "://".toList (c :: rest) with
    | some after => some ([], after)
    | none => (cutScheme? rest).map fun (before, after) => (c :: before, after)

/-- The credentials and the host of a URL without its scheme. If the only at sign stands in the
scheme, all that follows counts as both, but for the last character of the credentials. -/
def cutCredentials? (scheme rest : List Char) : Option (List Char × List Char) :=
  match Text.cutLast? '@' rest with
  | some parts => some parts
  | none => if scheme.contains '@' then some (rest.dropLast, rest) else none

/-- A URL with its password masked. Only a password after a non-empty user name counts as one. -/
def masked (url : List Char) : List Char :=
  match cutScheme? url with
  | none => url
  | some (scheme, rest) =>
    match cutCredentials? scheme rest with
    | none => url
    | some (auth, host) =>
      match Text.cutFirst? ':' auth with
      | some (user, password) =>
        if user ≠ [] ∧ password ≠ [] then
          scheme ++ "://".toList ++ user ++ ":***@".toList ++ host
        else url
      | none => url

def safe (url : String) : String :=
  String.ofList (masked url.toList)

end StoreUrl
end OnAir
