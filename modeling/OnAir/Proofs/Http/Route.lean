import OnAir.Http.Route
import OnAir.Proofs.Text.Cut

/-!
# Which endpoints a path leads to

A path begins as the pattern does that it fits, so the front of a path tells which endpoints a
request can reach, whatever its method and whatever follows.
-/

namespace OnAir.Http

variable {method path : String} {endpoint : Endpoint}

def Endpoint.isOwners : Endpoint → Bool
  | .listChannels | .createChannel | .setAnnounce _ | .deleteChannel _ | .setOwnerAnnounce => true
  | _ => false

def Endpoint.isEngines : Endpoint → Bool
  | .admitPublisher | .admitChallenger | .putThumbnail _ => true
  | _ => false

def Pattern.front : Pattern → List Char
  | .path text => text.toList
  | .segment before _ => before.toList

theorem eq_of_withoutEnd? {ending front text : List Char} (h : withoutEnd? ending text = some front) :
    text = front ++ ending ∨ text = front ++ (ending ++ ['\n']) := by
  rw [withoutEnd?, Option.orElse_eq_or, Option.or_eq_some_iff] at h
  rcases h with h | ⟨-, h⟩
  · exact .inl (Text.eq_append_of_before? h)
  · exact .inr (Text.eq_append_of_before? h)

theorem Pattern.front_of_match? {pattern : Pattern} {name : String}
    (h : pattern.match? path = some name) : pattern.front <+: path.toList := by
  cases pattern with
  | path text =>
    rw [match?] at h
    split at h
    next hfits =>
      rcases eq_of_withoutEnd? hfits with heq | heq
      · exact ⟨[], by simp [front, heq]⟩
      · exact ⟨['\n'], by simp [front, heq]⟩
    next => cases h
  | segment before after =>
    obtain ⟨rest, hrest, -⟩ := Option.bind_eq_some_iff.mp h
    exact ⟨rest, (Text.eq_append_of_after? hrest).symm⟩

/-- A name between the two parts of a pattern is found there, also if it ends in what the pattern ends
in. -/
theorem Pattern.match?_segment {before after name : String} (hname : name ≠ "")
    (hslash : '/' ∉ name.toList) :
    (segment before after).match? (before ++ name ++ after) = some name := by
  have hname' : ¬(name.toList = [] ∨ '/' ∈ name.toList) :=
    not_or_intro (mt String.toList_eq_nil_iff.mp hname) hslash
  have hend : withoutEnd? after.toList (name.toList ++ after.toList) = some name.toList := by
    rw [withoutEnd?, Text.before?_append, Option.orElse_some]
  rw [match?, String.toList_append, String.toList_append, List.append_assoc, Text.after?_append]
  simp only [Option.bind_eq_bind, Option.bind_some, hend, if_neg hname', Option.pure_def,
    String.ofList_toList]

theorem Route.endpoint?_eq_none {route : Route} {front : List Char} (hpath : front <+: path.toList)
    (h : ¬(route.pattern.front.isPrefixOf front ∨ front.isPrefixOf route.pattern.front)) :
    route.endpoint? path = none := by
  rw [endpoint?, Option.map_eq_none_iff]
  cases hmatch : route.pattern.match? path with
  | none => rfl
  | some name =>
    rw [List.isPrefixOf_iff_prefix, List.isPrefixOf_iff_prefix] at h
    exact absurd (List.prefix_or_prefix_of_prefix (Pattern.front_of_match? hmatch) hpath) h

theorem destination_thumbnail {name : String} (hname : name ≠ "") (hslash : '/' ∉ name.toList) :
    destination "GET" ("/thumbs/" ++ name ++ ".jpg") = .endpoint (.thumbnail name) := by
  have hpath : "/thumbs/".toList <+: ("/thumbs/" ++ name ++ ".jpg").toList := by
    simp only [String.toList_append, List.append_assoc]
    exact List.prefix_append _ _
  have hnone (others : List Route) (h : ∀ route ∈ others,
      ¬(route.pattern.front.isPrefixOf "/thumbs/".toList
        ∨ "/thumbs/".toList.isPrefixOf route.pattern.front)) :
      (others.filterMap fun route =>
        (route.endpoint? ("/thumbs/" ++ name ++ ".jpg")).map (route.method, ·)) = [] := by
    refine List.filterMap_eq_nil_iff.mpr fun route hroute => ?_
    rw [Route.endpoint?_eq_none hpath (h route hroute), Option.map_none]
  have hroutes : routes = routes.take 10
      ++ ⟨"GET", .segment "/thumbs/" ".jpg", .thumbnail⟩ :: routes.drop 11 := rfl
  have hfitting : (routes.filterMap fun route =>
      (route.endpoint? ("/thumbs/" ++ name ++ ".jpg")).map (route.method, ·))
        = [("GET", .thumbnail name)] := by
    rw [hroutes, List.filterMap_append, List.filterMap_cons, hnone (routes.take 10),
      hnone (routes.drop 11)]
    · simp only [Route.endpoint?, Pattern.match?_segment hname hslash, Option.map_some,
        List.nil_append]
    · simp [routes, Pattern.front]
    · simp [routes, Pattern.front]
  simp only [destination, hfitting]
  rfl

theorem exists_route (h : destination method path = .endpoint endpoint) :
    ∃ route ∈ routes, ∃ name, route.endpoint name = endpoint ∧ route.pattern.front <+: path.toList := by
  unfold destination at h
  dsimp only at h
  split at h
  next found hlookup =>
    cases h
    obtain ⟨before, after, hsplit, -⟩ := List.lookup_eq_some_iff.mp hlookup
    have hmem : (method, endpoint) ∈ before ++ (method, endpoint) :: after := by simp
    rw [← hsplit] at hmem
    obtain ⟨route, hroute, heq⟩ := List.mem_filterMap.mp hmem
    obtain ⟨_, he, hpair⟩ := Option.map_eq_some_iff.mp heq
    obtain ⟨name, hname, rfl⟩ := Option.map_eq_some_iff.mp he
    exact ⟨route, hroute, name, congrArg Prod.snd hpair, Pattern.front_of_match? hname⟩
  next => cases h
  next =>
    rw [strayed] at h
    split at h <;> cases h

/-- What holds of the endpoints of all routes that may share a front with a path holds of the
endpoint that the path leads to. -/
theorem endpoint_below {front : List Char} {P : Endpoint → Bool}
    (hroutes : ∀ route ∈ routes,
      route.pattern.front.isPrefixOf front ∨ front.isPrefixOf route.pattern.front →
        ∀ name, P (route.endpoint name))
    (hpath : front <+: path.toList) (h : destination method path = .endpoint endpoint) :
    P endpoint := by
  obtain ⟨route, hroute, name, rfl, hfront⟩ := exists_route h
  refine hroutes route hroute ?_ name
  rw [List.isPrefixOf_iff_prefix, List.isPrefixOf_iff_prefix]
  exact List.prefix_or_prefix_of_prefix hfront hpath

theorem isOwners_of_path (hpath : "/api/".toList <+: path.toList)
    (h : destination method path = .endpoint endpoint) : endpoint.isOwners :=
  endpoint_below (P := Endpoint.isOwners)
    (by simp [routes, Pattern.front, Endpoint.isOwners]) hpath h

/-- Whatever can be asked for below the address of the media engine is for the media engine. -/
theorem isEngines_of_path (hpath : "/ingest/".toList <+: path.toList)
    (h : destination method path = .endpoint endpoint) : endpoint.isEngines :=
  endpoint_below (P := Endpoint.isEngines)
    (by simp [routes, Pattern.front, Endpoint.isEngines]) hpath h

end OnAir.Http
