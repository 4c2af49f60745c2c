import OnAir.Channel.Service

/-!
# The directory of live channels

Thumbnails double as signs of life: the fresher the picture, the higher its channel is listed.
Everything within the last minute counts as equally fresh and is listed by name.
-/

namespace OnAir.Directory

open Channel (ServiceError serving serviceError)

structure LivenessRow where
  name : String
  updated : Instant
  deriving DecidableEq, Repr

def freshness : Int := 60000000

def staleness (row : LivenessRow) (now : Instant) : Int :=
  if now - row.updated < freshness then freshness else now - row.updated

/-- Whether a row is listed before another one or has the same place: by staleness, then by name. -/
def listedBefore (now : Instant) (a b : LivenessRow) : Bool :=
  staleness a now < staleness b now ||
    (staleness a now == staleness b now && Text.notAfter a.name.toList b.name.toList)

def ordered (rows : List LivenessRow) (now : Instant) : List LivenessRow :=
  rows.mergeSort (listedBefore now)

/-- A channel in the short listing: its name and the milliseconds of its newest picture. -/
structure LiveChannel where
  name : String
  last : Int
  deriving DecidableEq, Repr

structure Entry where
  name : String
  live : Bool
  last : Int
  thumb : String
  liveUrl : String
  deriving DecidableEq, Repr

def Entry.toJson (e : Entry) : Json :=
  .obj [("name", .str e.name), ("live", .bool e.live), ("last", .int e.last),
    ("thumb", .str e.thumb), ("live_url", .str e.liveUrl)]

def orderedRows : Act ServiceError (List LivenessRow) := do
  let (rows, storeNow) ← serving Channel.Registry.liveness
  let clock ← Act.now
  return ordered (rows.map fun (name, updated) => ⟨name, updated⟩) (storeNow.getD clock)

def listLive : Act ServiceError (List LiveChannel) := do
  return (← orderedRows).map fun row => ⟨row.name, row.updated.millis⟩

def list (thumbBase liveBase : String) : Act ServiceError (List Entry) := do
  let rows ← orderedRows
  let live ← Act.look (·.live)
  let thumbBase := withoutSlashes thumbBase
  let liveBase := withoutSlashes liveBase
  return rows.map fun row =>
    let segment := Url.segment row.name
    { name := row.name
      live := live.any (·.contains row.name)
      last := row.updated.millis
      thumb := thumbBase ++ "/" ++ segment ++ ".jpg"
      liveUrl := liveBase ++ "/" ++ segment }

def thumbnail (name : RawText) : Act ServiceError Bytes :=
  (Channel.Registry.thumbnail name).mapError (serviceError fun
    | .notFound _ => some (.noThumbnail name.filled)
    | _ => none)

def putThumbnail (name : RawText) (picture : Bytes) : Act ServiceError Unit := do
  serving (Channel.Registry.putThumbnail name picture)
  Act.note .debug
    ("thumbnail updated for " ++ name.filled ++ " (" ++ toString picture.length ++ " bytes)")

end OnAir.Directory
