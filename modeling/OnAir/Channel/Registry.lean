import OnAir.Bytes.Hex
import OnAir.Channel.Basic
import OnAir.Number.Integer
import OnAir.Store.Statement

/-!
# The registry of channels

Reads and writes of the tables, each over a connection of its own and each a single statement, but
for the creation of a channel, which is one transaction. Whatever the store raises is taken
here for what it means to the operation. Keys come as raw text: a statement with a broken one fails,
so whatever follows a statement may take the keys as text.
-/

namespace OnAir.Channel

open Store (Argument Query StoreError Tables execute select)

inductive RegistryError
  | conflict (operation : String)
  | notFound (key : String)
  | unavailable (operation : String)
  | unknownColumn (shown : String)
  | raised (e : StoreError)
  deriving DecidableEq, Repr

def RegistryError.message : RegistryError → String
  | .conflict operation | .unavailable operation => operation
  | .notFound key => key
  | .unknownColumn shown => shown ++ " is not a valid LookupColumn"
  | .raised e => e.text

def RegistryError.name : RegistryError → String
  | .conflict _ => "RecordConflict"
  | .notFound _ => "RecordNotFound"
  | .unavailable _ => "StoreUnavailable"
  | .unknownColumn _ => "ValueError"
  | .raised e => e.name

inductive Column
  | name
  | ftlId
  deriving DecidableEq, Repr

def Column.read : Option String → Except RegistryError Column
  | some "name" => .ok .name
  | some "ftl_id" => .ok .ftlId
  | some other => .error (.unknownColumn (quoted other))
  | none => .error (.unknownColumn "None")

def Column.text : Column → String
  | .name => "name"
  | .ftlId => "ftl_id"

def newSecret {ε : Type} : Act ε String :=
  (fun bytes => String.ofList (Hex.encode bytes)) <$> Act.draw 24

/-- What follows the last space of a text; all of it if it has none. -/
def lastWord (text : RawText) : RawText :=
  .ofCodes (((Text.cutLast? ' '.toNat text.codes).map (·.2)).getD text.codes)

def rowsAffected (tag : Json) : Int :=
  match tag with
  | .str tag => match lastWord tag with
    | .text word => match Integer.read word.toList with
      | .ok n => n
      | .error _ => 0
    | .broken _ => 0
  | _ => 0

def interpret {α : Type} (operation : String) (e : StoreError) : Act RegistryError α :=
  match e.family with
  | .uniqueViolation => Act.fail (.conflict operation)
  | .outage => do
    Act.note .error ("registry " ++ operation ++ " failed: " ++ e.name ++ ": " ++ e.text)
    Act.fail (.unavailable operation)
  | .other => Act.fail (.raised e)

def session {α : Type} (operation : String) (body : Act StoreError α) : Act RegistryError α :=
  (Store.withConnection body).handle (interpret operation)

namespace Registry

-- -----------------------------------------------------------------------------
-- Statements
-- -----------------------------------------------------------------------------

def statement (operation : String) (line : Nat) (text : String) (arguments : List Argument) :
    Query where
  text := text
  arguments := arguments
  caller := some ("streamgate.domain.channel.registry:" ++ operation ++ ":" ++ toString line)

def schemaQuery : Query :=
  statement "init_schema" 84 "
CREATE TABLE IF NOT EXISTS users (
    user_id text PRIMARY KEY,
    announce boolean NOT NULL DEFAULT true
);
CREATE TABLE IF NOT EXISTS channel_defs (
    user_id text NOT NULL,
    name text PRIMARY KEY,
    key text NOT NULL,
    ftl_id text UNIQUE,
    announce boolean NOT NULL DEFAULT true
);
CREATE INDEX IF NOT EXISTS channel_defs_user_id ON channel_defs (user_id);
CREATE TABLE IF NOT EXISTS thumbs (
    name text PRIMARY KEY,
    thumb bytea NOT NULL,
    updated timestamptz NOT NULL DEFAULT now()
);
" []

def channelsQuery (owner : RawText) : Query :=
  statement "get_channels_by_owner" 88
    ("SELECT user_id, name, key, ftl_id, announce FROM channel_defs "
      ++ "WHERE user_id = $1 ORDER BY name") [.text owner]

def addUserQuery (owner : RawText) : Query :=
  statement "create_channel" 104
    "INSERT INTO users (user_id) VALUES ($1) ON CONFLICT (user_id) DO NOTHING" [.text owner]

def addChannelQuery (owner name : RawText) (secret : String) : Query :=
  statement "create_channel" 108
    "INSERT INTO channel_defs (user_id, name, key, announce) VALUES ($1, $2, $3, true)"
    [.text owner, .text name, .text secret]

def setAnnounceQuery (owner name : RawText) (announce : Bool) : Query :=
  statement "set_announce" 119
    "UPDATE channel_defs SET announce = $1 WHERE user_id = $2 AND name = $3"
    [.flag announce, .text owner, .text name]

def setOwnerAnnounceQuery (owner : RawText) (announce : Bool) : Query :=
  statement "set_owner_announce" 130
    ("INSERT INTO users (user_id, announce) VALUES ($1, $2) "
      ++ "ON CONFLICT (user_id) DO UPDATE SET announce = EXCLUDED.announce")
    [.text owner, .flag announce]

def deleteQuery (owner name : RawText) : Query :=
  statement "delete_channel" 139 "DELETE FROM channel_defs WHERE user_id = $1 AND name = $2"
    [.text owner, .text name]

def findQuery (column : Column) (value : RawText) : Query :=
  statement "find_channel_by_column" 154
    ("SELECT channel_defs.user_id, channel_defs.name, channel_defs.key, "
      ++ "COALESCE(channel_defs.announce AND users.announce, false) AS effective_announce "
      ++ "FROM channel_defs LEFT JOIN users USING (user_id) "
      ++ "WHERE channel_defs." ++ column.text ++ " = $1") [.text value]

def thumbnailQuery (name : RawText) : Query :=
  statement "get_thumbnail" 172 "SELECT thumb FROM thumbs WHERE name = $1" [.text name]

def putThumbnailQuery (name : RawText) (picture : Bytes) : Query :=
  statement "put_thumbnail" 179
    ("INSERT INTO thumbs (name, thumb) VALUES ($1, $2) "
      ++ "ON CONFLICT (name) DO UPDATE SET thumb = EXCLUDED.thumb, updated = now()")
    [.text name, .bytes picture]

def livenessQuery : Query :=
  statement "list_liveness" 193
    ("SELECT thumbs.name, thumbs.updated, now() AS now FROM thumbs "
      ++ "JOIN channel_defs USING (name) LEFT JOIN users USING (user_id) "
      ++ "WHERE COALESCE(channel_defs.announce AND users.announce, false) "
      ++ "ORDER BY thumbs.name") []

section
variable (owner name value : RawText)

@[simp] theorem schemaQuery_texts : schemaQuery.texts = [] :=
  rfl

@[simp] theorem channelsQuery_texts : (channelsQuery owner).texts = [owner] :=
  rfl

@[simp] theorem addUserQuery_texts : (addUserQuery owner).texts = [owner] :=
  rfl

@[simp] theorem addChannelQuery_texts (secret : String) :
    (addChannelQuery owner name secret).texts = [owner, name, .text secret] :=
  rfl

@[simp] theorem setAnnounceQuery_texts (announce : Bool) :
    (setAnnounceQuery owner name announce).texts = [owner, name] :=
  rfl

@[simp] theorem setOwnerAnnounceQuery_texts (announce : Bool) :
    (setOwnerAnnounceQuery owner announce).texts = [owner] :=
  rfl

@[simp] theorem deleteQuery_texts : (deleteQuery owner name).texts = [owner, name] :=
  rfl

@[simp] theorem findQuery_texts (column : Column) : (findQuery column value).texts = [value] :=
  rfl

@[simp] theorem thumbnailQuery_texts : (thumbnailQuery name).texts = [name] :=
  rfl

@[simp] theorem putThumbnailQuery_texts (picture : Bytes) :
    (putThumbnailQuery name picture).texts = [name] :=
  rfl

@[simp] theorem livenessQuery_texts : livenessQuery.texts = [] :=
  rfl

end

-- -----------------------------------------------------------------------------
-- Operations
-- -----------------------------------------------------------------------------

def initSchema : Act RegistryError Unit := do
  let _ ← session "init_schema" (Store.createTables schemaQuery)

def identityOf (row : Store.ChannelRow) : Identity :=
  ⟨row.owner, row.name, row.secret, row.ftlId, row.announce⟩

def channelsOf (owner : RawText) : Act RegistryError (List Identity) := do
  let rows ← session "get_channels_by_owner" (select (channelsQuery owner) (·.channelsOf owner.filled))
  return rows.map identityOf

def insert (owner name : RawText) (secret : String) : Act StoreError Unit := do
  let _ ← execute (addUserQuery owner) "INSERT 0" fun t _ => some (t.addUser owner.filled)
  let _ ← execute (addChannelQuery owner name secret) "INSERT 0" fun t _ =>
    (t.addChannel? owner.filled name.filled secret).map (·, 1)

def create (owner name : RawText) : Act RegistryError Identity := do
  let secret ← newSecret
  session "create_channel" (Store.transaction (insert owner name secret))
  Act.note .info ("created channel " ++ name.filled ++ " for owner " ++ owner.filled)
  return ⟨owner.filled, name.filled, secret, none, true⟩

def setAnnounce (owner name : RawText) (announce : Bool) : Act RegistryError Unit := do
  let tag ← session "set_announce"
    (execute (setAnnounceQuery owner name announce) "UPDATE" fun t _ =>
      some (t.setChannel owner.filled name.filled announce))
  if rowsAffected (.str tag) = 0 then Act.fail (.notFound name.filled)

def setOwnerAnnounce (owner : RawText) (announce : Bool) : Act RegistryError Unit := do
  let _ ← session "set_owner_announce"
    (execute (setOwnerAnnounceQuery owner announce) "INSERT 0" fun t _ =>
      some (t.setUser owner.filled announce, 1))

def delete (owner name : RawText) : Act RegistryError Unit := do
  let _ ← session "delete_channel"
    (execute (deleteQuery owner name) "DELETE" fun t _ =>
      some (t.deleteChannel owner.filled name.filled))

def row? (column : Column) (value : String) (t : Tables) : Option Store.ChannelRow :=
  match column with
  | .name => t.channelNamed? value
  | .ftlId => t.channelWithFtlId? value

def authorize (channel : Store.ChannelRow) (owner : Option Store.UserRow) : Authorization where
  owner := channel.owner
  name := channel.name
  announced := (Tables.and? (some channel.announce) (owner.map (·.announce))).getD false

def find (column : Column) (value : RawText) : Act RegistryError (Authorization × String) := do
  let found ← session "find_channel" (select (findQuery column value) fun t =>
    (row? column value.filled t).map fun row =>
      (authorize row (t.userNamed? row.owner), row.secret))
  match found with
  | some result => return result
  | none => Act.fail (.notFound value.filled)

def thumbnail (name : RawText) : Act RegistryError Bytes := do
  match ← session "get_thumbnail" (select (thumbnailQuery name) (·.thumbNamed? name.filled)) with
  | some row => return row.picture
  | none => Act.fail (.notFound name.filled)

def putThumbnail (name : RawText) (picture : Bytes) : Act RegistryError Unit := do
  let _ ← session "put_thumbnail"
    (execute (putThumbnailQuery name picture) "INSERT 0" fun t now =>
      some (t.setThumb name.filled picture now, 1))

/-- The pictures of announced channels and the time of the store. Each row brings two times, which
must be dates. -/
def datedThumbs : Act StoreError (List Store.ThumbRow × Instant) :=
  Store.logged livenessQuery do
    Store.send livenessQuery
    let rows ← Act.look (·.tables.announcedThumbs)
    let now ← Act.storeNow
    rows.forM fun row => Store.checkDates [row.updated, now]
    return (rows, now)

/-- The names of announced channels with the times of their pictures, and the time of the store,
which only comes along with rows. -/
def liveness : Act RegistryError (List (String × Instant) × Option Instant) := do
  let (rows, now) ← session "list_liveness" datedThumbs
  return (rows.map fun row => (row.name, row.updated), if rows.isEmpty then none else some now)

end Registry
end OnAir.Channel
