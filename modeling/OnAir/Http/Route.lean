import OnAir.Text.Cut

/-!
# Routes

Which endpoint a request is for. A pattern is a path, or a path with one open segment; a line feed
at the end of a path does not count. A path that only has slashes too many at its end leads to the
path without them.
-/

namespace OnAir.Http

inductive Endpoint
  | initiate
  | callback
  | logout
  | user
  | listChannels
  | createChannel
  | setAnnounce (name : String)
  | deleteChannel (name : String)
  | setOwnerAnnounce
  | directory
  | thumbnail (name : String)
  | admitPublisher
  | admitChallenger
  | putThumbnail (name : String)
  | health
  deriving DecidableEq, Repr

inductive Pattern
  | path (text : String)
  | segment (before after : String)
  deriving DecidableEq, Repr

def withoutEnd? (ending path : List Char) : Option (List Char) :=
  (Text.before? ending path).orElse fun _ => Text.before? (ending ++ ['\n']) path

/-- The name in a path that fits a pattern; it is empty if the pattern has none. A name takes a line
feed along if it stands at the end. -/
def Pattern.match? (pattern : Pattern) (path : String) : Option String :=
  match pattern with
  | .path text => if withoutEnd? text.toList path.toList = some [] then some "" else none
  | .segment before after => do
    let rest ← Text.after? before.toList path.toList
    let name ← withoutEnd? after.toList rest
    if name = [] ∨ '/' ∈ name then none else return String.ofList name

/-- A route: a method, a pattern, and the endpoint for the name in the path. -/
structure Route where
  method : String
  pattern : Pattern
  endpoint : String → Endpoint

def Route.endpoint? (route : Route) (path : String) : Option Endpoint :=
  (route.pattern.match? path).map route.endpoint

def routes : List Route := [
  ⟨"GET", .path "/oauth2/initiate", fun _ => .initiate⟩,
  ⟨"GET", .path "/oauth2/cb", fun _ => .callback⟩,
  ⟨"POST", .path "/oauth2/logout", fun _ => .logout⟩,
  ⟨"GET", .path "/oauth2/user", fun _ => .user⟩,
  ⟨"GET", .path "/api/defs", fun _ => .listChannels⟩,
  ⟨"POST", .path "/api/defs", fun _ => .createChannel⟩,
  ⟨"PUT", .segment "/api/defs/" "", .setAnnounce⟩,
  ⟨"DELETE", .segment "/api/defs/" "", .deleteChannel⟩,
  ⟨"PUT", .path "/api/user/announce", fun _ => .setOwnerAnnounce⟩,
  ⟨"GET", .path "/channels.json", fun _ => .directory⟩,
  ⟨"GET", .segment "/thumbs/" ".jpg", .thumbnail⟩,
  ⟨"POST", .path "/ingest/rtmp", fun _ => .admitPublisher⟩,
  ⟨"POST", .path "/ingest/ftl", fun _ => .admitChallenger⟩,
  ⟨"PUT", .segment "/ingest/thumbs/" "", .putThumbnail⟩,
  ⟨"GET", .path "/health", fun _ => .health⟩]

inductive Destination
  | endpoint (e : Endpoint)
  | wrongMethod (allowed : String)
  | elsewhere (path : String)
  | nowhere
  deriving DecidableEq, Repr

def strayed (path : String) : Destination :=
  let bare := String.ofList (Text.dropTail (· == '/') path.toList)
  if path ≠ "/" ∧ bare ≠ path ∧ routes.any fun route => (route.endpoint? bare).isSome then
    .elsewhere bare
  else .nowhere

/-- Where a request leads. Of the routes with its path, the first with its method counts; without
one, the first tells the method to use. -/
def destination (method path : String) : Destination :=
  let fitting := routes.filterMap fun route => (route.endpoint? path).map (route.method, ·)
  match fitting.lookup method, fitting with
  | some endpoint, _ => .endpoint endpoint
  | none, (allowed, _) :: _ => .wrongMethod allowed
  | none, [] => strayed path

end OnAir.Http
