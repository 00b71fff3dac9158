import SchemaCompiler.Proofs.Compilation.References
import SchemaCompiler.Proofs.Route.Outcomes
import SchemaCompiler.Proofs.Route.Placeholders

/-!
Placeholders in the paths of routes.

Whether the placeholders of an operation are declared is checked on the object that its parameters in the
path make up.  This object gets a name, under which it is resolved.  So the part of the route points at
an entry that may have absorbed it, but that still requires the same properties.

* `Compilation.Covers`: a route points at an object that requires its placeholders;
* `Document.covers_of_mem_routes`: every route does so;
* `Document.mem_routeErrors_iff`: when an operation is dropped for its placeholders;
* `Document.placeholders_covered`: the two together.
-/

namespace SchemaCompiler

/-- A route has a part for its parameters in the path if there are placeholders, and this points at an
object that requires all of them. -/
structure Compilation.Covers (compilation : Compilation) (route : Route) (names : List String) : Prop where
  part : names ≠ [] → ∃ s, (.params, s) ∈ route.slots
  object : ∀ s, (.params, s) ∈ route.slots → ∃ target rules, s = .ofName target ∧
    Table.get? compilation.table target = some (.mk (.object rules) false) ∧
    ∀ name ∈ names, name ∈ Table.keys rules.properties ∧ name ∈ rules.required

namespace Document

variable {document : Document} {registry : Registry} {options : Options} {compilation : Compilation}

/-- The object of the parameters in the path stands behind an entry that requires what it does. -/
lemma exists_object_of_resolve {components candidates : Table Schema} {resolution : Resolution}
    (distinct : (Table.keys (components ++ candidates)).Nodup)
    (ok : Resolution.resolve components candidates = .ok resolution) {name : String}
    {groups : ParameterGroups} (mem : (name, groups.object .path) ∈ candidates) :
    ∃ rules, Table.get? resolution.table (resolution.canonicalName name) =
        some (.mk (.object rules) false) ∧
      (∀ key, key ∈ Table.keys rules.properties ↔ key ∈ Table.keys groups.path.properties) ∧
      ∀ key, key ∈ rules.required ↔ key ∈ groups.path.required := by
  obtain ⟨t, f, found, -, same, -⟩ :=
    Resolution.exists_renaming_of_resolve distinct ok (List.mem_append_right _ mem)
  obtain ⟨rules, rfl, each⟩ := Schema.exists_object_of_normal same
  exact ⟨rules, found, each⟩

/-- Every route covers its placeholders. -/
theorem covers_of_mem_routes (distinct : document.Distinct)
    (ok : document.compile registry options = .ok compilation) (withRoutes : options.includeRoutes = true)
    {route : Route} (kept : route ∈ compilation.routes) :
    ∃ names, PathTemplate.placeholders route.site.path = .ok names ∧ compilation.Covers route names := by
  obtain ⟨components, built, compiled⟩ := compile_cases ok
  obtain ⟨-, nodup⟩ := Components.parseSchemas_eq_ok distinct.schemas compiled.parsed
  obtain ⟨candidates, fresh, resolved, planned⟩ := routeTable_cases compiled.routed
  obtain ⟨plans, errors, named, planned, given, routes⟩ := planned withRoutes
  rw [compiled.routes, routes] at kept
  -- from the route back to its plan and from there to its operation
  obtain ⟨before, mem, rfl⟩ := List.mem_map.1 kept
  obtain ⟨plan, among, becomes⟩ := exists_mem_of_forall₂ given.routes.flip mem
  obtain ⟨endpoint, -, own⟩ := planAll_cases planned plan among
  obtain ⟨-, -, -, -, -, -, -, site, -, -, -⟩ := RouteContext.plan_cases own
  obtain ⟨names, groups, parsed, grouped, required⟩ := RouteContext.required_of_plan own
  refine ⟨names, ?_, fun some => ?_, fun s mem => ?_⟩
  · rwa [Route.rename, becomes.site, site]
  · obtain ⟨name, mem⟩ := List.exists_mem_of_ne_nil names some
    have part := RouteContext.mem_slots_of_required own grouped (required name mem)
    obtain ⟨⟨slot, s⟩, there, as⟩ := exists_mem_of_forall₂ becomes.slots part
    obtain rfl : slot = .params := as.slot_eq
    exact ⟨_, List.mem_map_of_mem there⟩
  · obtain ⟨⟨_, _⟩, there, eq⟩ := List.mem_map.1 mem
    obtain ⟨rfl, rfl⟩ := Prod.mk.inj eq
    obtain ⟨⟨slot, s⟩, planned, as⟩ := exists_mem_of_forall₂ becomes.slots.flip there
    obtain rfl : .params = slot := as.slot_eq
    obtain rfl := (RouteContext.source_of_mem_slots own planned).1.eq_object grouped
    obtain ⟨name, rfl, among⟩ := as.exists_name fun ⟨_, eq⟩ => by cases eq
    obtain ⟨rules, found, keys, same⟩ := exists_object_of_resolve (nodup_inputs nodup fresh) resolved among
    refine ⟨_, rules, rfl, ?_, fun key mem => ?_⟩
    · rw [compiled.table]
      exact found
    · rw [keys, same]
      exact ⟨RouteContext.mem_keys_path_of_required grouped (required key mem), required key mem⟩

/-- Operations are dropped for the reasons for which they cannot be planned. -/
lemma exists_mem_routeErrors_iff (ok : document.compile registry options = .ok compilation)
    (withRoutes : options.includeRoutes = true) :
    ∃ context : RouteContext, context.components = document.components ∧
      ∀ cause, cause ∈ compilation.routeErrors ↔
        cause.isRouteScoped = true ∧
          ∃ endpoint ∈ document.endpoints, context.planOf endpoint = .error cause := by
  obtain ⟨-, components, built, -, routed, rfl⟩ := compile_eq_ok_iff.1 ok
  rw [routeTable, if_pos withRoutes] at routed
  obtain ⟨plans, errors, resolution, planned, -, rfl⟩ := build_eq_ok_iff.1 routed
  obtain ⟨droppable, -, rfl⟩ := RouteContext.planAll_eq_ok_iff.1 planned
  refine ⟨⟨document.components, Table.keys components, document.components.sanitizing⟩, rfl,
    fun cause => ?_⟩
  rw [assemble, List.mem_filterMap]
  constructor
  · rintro ⟨endpoint, mem, failed⟩
    have failed := fault?_eq_some_iff.1 failed
    exact ⟨droppable endpoint mem cause failed, endpoint, mem, failed⟩
  · rintro ⟨-, endpoint, mem, failed⟩
    exact ⟨endpoint, mem, fault?_eq_some_iff.2 failed⟩

/-- An operation is reported for placeholders if and only if nothing declares some of them. -/
theorem mem_routeErrors_iff (distinct : document.Distinct)
    (ok : document.compile registry options = .ok compilation) (withRoutes : options.includeRoutes = true)
    {endpoint : Endpoint} (mem : endpoint ∈ document.endpoints) {names missing : List String}
    {declared : List (Located Parameter)}
    (parsed : PathTemplate.placeholders endpoint.site.path = .ok names)
    (resolved : document.components.asWritten.declarations endpoint.site endpoint.item endpoint.operation =
      .ok declared)
    (parses : ∀ parameter ∈ standing declared, parameter.value.location ≠ .cookie →
      ∃ s, document.components.asWritten.parameterSchema parameter = .ok s) :
    .undeclaredPlaceholders endpoint.site.method.name endpoint.site.path missing ∈ compilation.routeErrors ↔
      missing = undeclared declared names ∧ missing ≠ [] := by
  obtain ⟨context, same, each⟩ := exists_mem_routeErrors_iff ok withRoutes
  rw [← same] at resolved parses
  obtain ⟨groups, grouped⟩ := RouteContext.exists_parameterGroups resolved parses
  have grouped' : context.parameterGroups endpoint.site endpoint.item endpoint.operation =
      .ok (groups.rename context.sanitized) := by
    rw [RouteContext.parameterGroups_eq, grouped]
    rfl
  have resolved' : context.declarations endpoint.site endpoint.item endpoint.operation = .ok declared :=
    resolved
  rw [each, ← RouteContext.plan_eq_undeclared_iff parsed resolved' grouped']
  constructor
  · rintro ⟨droppable, other, there, failed⟩
    have drops := context.drops_plan other.site other.item other.operation _ failed droppable
    obtain rfl := endpoint_eq distinct there mem (drops.site_eq (.placeholders missing))
    exact failed
  · exact fun failed => ⟨rfl, endpoint, mem, failed⟩

/-- **Routes cover the placeholders of their paths.**  What a route points at for its parameters in the path
is an object that requires all placeholders.  An operation whose parameters can be found and read is dropped
for its placeholders if and only if its path and the operation itself leave some of them undeclared, and then
the error lists these in the order of the template. -/
theorem placeholders_covered (distinct : document.Distinct)
    (ok : document.compile registry options = .ok compilation) (withRoutes : options.includeRoutes = true) :
    (∀ route ∈ compilation.routes, ∃ names,
      PathTemplate.placeholders route.site.path = .ok names ∧ compilation.Covers route names) ∧
    ∀ endpoint ∈ document.endpoints, ∀ names declared,
      PathTemplate.placeholders endpoint.site.path = .ok names →
      document.components.asWritten.declarations endpoint.site endpoint.item endpoint.operation =
        .ok declared →
      (∀ parameter ∈ standing declared, parameter.value.location ≠ .cookie →
        ∃ s, document.components.asWritten.parameterSchema parameter = .ok s) →
      ∀ missing, .undeclaredPlaceholders endpoint.site.method.name endpoint.site.path missing ∈
          compilation.routeErrors ↔ missing = undeclared declared names ∧ missing ≠ [] :=
  ⟨fun _ kept => covers_of_mem_routes distinct ok withRoutes kept,
    fun _ mem _ _ parsed resolved parses _ =>
      mem_routeErrors_iff distinct ok withRoutes mem parsed resolved parses⟩

/-- A path with one operation. -/
def soleItem (operation : Operation) : PathItem :=
  ⟨[], fun method => if method = .get then some operation else none⟩

/-- An operation that declares its placeholder. -/
def placed : Operation := RouteContext.inlineOperation [RouteContext.flagged "id" .path true]

/-- An operation that declares nothing. -/
def unplaced : Operation := RouteContext.inlineOperation []

/-- A document with two operations on paths with a placeholder, of which only the first declares it. -/
def places : Document where
  openapi := "3.0.3"
  info := ⟨"", "", none⟩
  paths := [("/pets/\x7bid\x7d", soleItem placed), ("/owners/\x7bid\x7d", soleItem unplaced)]
  components := ⟨[], [], [], []⟩

/-- The object of the parameters of `placed`. -/
def placedRules : ObjectRules Schema := ⟨[("id", .mk .boolean false)], ["id"], .unspecified⟩

/-- The plan of the first operation of `places`. -/
def placesPlan : RoutePlan :=
  ⟨⟨.get, "/pets/\x7bid\x7d"⟩, none, [(.params, .mk (.object placedRules) false)], false, []⟩

/-- The schema of the parameters of `placed`. -/
def placesCandidates : Table Schema := [("GetPetsIdParams", .mk (.object placedRules) false)]

lemma distinct_places : places.Distinct where
  schemas := List.nodup_nil
  paths := show ["/pets/\x7bid\x7d", "/owners/\x7bid\x7d"].Nodup by decide

lemma parsed_placed : PathTemplate.placeholders "/pets/\x7bid\x7d" = .ok ["id"] := by decide

lemma parsed_unplaced : PathTemplate.placeholders "/owners/\x7bid\x7d" = .ok ["id"] := by decide

lemma planAll_places (context : RouteContext) :
    context.planAll places.endpoints =
      .ok ([placesPlan], [.undeclaredPlaceholders "GET" "/owners/\x7bid\x7d" ["id"]]) := by
  have schema : ∀ pointer, context.parameterSchema ⟨RouteContext.flagged "id" .path true, pointer⟩ =
      .ok (.mk .boolean false) := fun pointer =>
    RouteContext.parse_eq_ok_iff.2 ⟨_, Schema.ofJson?_boolean, rfl⟩
  have grouped : context.parameterGroups ⟨.get, "/pets/\x7bid\x7d"⟩ (soleItem placed) placed =
      .ok ⟨placedRules, .empty, .empty, []⟩ :=
    bind_eq_ok_iff.2 ⟨[⟨RouteContext.flagged "id" .path true, _⟩], rfl,
      bind_eq_ok_iff.2 ⟨_, bind_eq_ok_iff.2 ⟨_, schema _, rfl⟩, rfl⟩⟩
  have planned : context.planOf ⟨⟨.get, "/pets/\x7bid\x7d"⟩, soleItem placed, placed⟩ =
      .ok placesPlan := by
    rw [RouteContext.planOf, RouteContext.plan, parsed_placed]
    exact bind_eq_ok_iff.2 ⟨_, rfl, bind_eq_ok_iff.2 ⟨_, grouped, rfl⟩⟩
  have dropped : context.planOf ⟨⟨.get, "/owners/\x7bid\x7d"⟩, soleItem unplaced, unplaced⟩ =
      .error (.undeclaredPlaceholders "GET" "/owners/\x7bid\x7d" ["id"]) := by
    have nothing : context.declarations ⟨.get, "/owners/\x7bid\x7d"⟩ (soleItem unplaced) unplaced =
        .ok [] := rfl
    exact (RouteContext.plan_eq_undeclared_iff parsed_unplaced nothing rfl).2 ⟨rfl, by decide⟩
  change context.planAll [⟨⟨.get, "/pets/\x7bid\x7d"⟩, soleItem placed, placed⟩,
    ⟨⟨.get, "/owners/\x7bid\x7d"⟩, soleItem unplaced, unplaced⟩] = _
  rw [RouteContext.planAll_cons_ok planned, RouteContext.planAll_cons_error dropped]
  rfl

/-- What `places` is compiled to. -/
lemma exists_compile_places : ∃ compilation, places.compile .empty .standard = .ok compilation ∧
    ∃ route ∈ compilation.routes, route.site = ⟨.get, "/pets/\x7bid\x7d"⟩ := by
  have given : Naming.unique [] (Naming.routeSchema "GET" "/pets/\x7bid\x7d" .params) =
      "GetPetsIdParams" := by decide
  have named : (nameRoutes [] [] [placesPlan]).1 = placesCandidates := by
    rw [placesCandidates, ← given]
    rfl
  obtain ⟨resolution, resolved⟩ : ∃ resolution, Resolution.resolve [] placesCandidates = .ok resolution :=
    exists_eq_ok_of_isSome (by decide +kernel)
  exact ⟨_, compile_of_planAll hasPrefix_version rfl rfl (planAll_places _) (Prod.ext named rfl) resolved, _,
    List.mem_singleton_self _, rfl⟩

/-- One operation covers its placeholder, and the other one is dropped for it. -/
theorem placeholders_covered_places :
    places.Distinct ∧ Options.standard.includeRoutes = true ∧
      ∃ compilation, places.compile .empty .standard = .ok compilation ∧
        (∃ route ∈ compilation.routes, compilation.Covers route ["id"]) ∧
        .undeclaredPlaceholders "GET" "/owners/\x7bid\x7d" ["id"] ∈ compilation.routeErrors := by
  obtain ⟨compilation, ok, route, kept, site⟩ := exists_compile_places
  obtain ⟨covered, reported⟩ := placeholders_covered distinct_places ok rfl
  refine ⟨distinct_places, rfl, compilation, ok, ⟨route, kept, ?_⟩, ?_⟩
  · obtain ⟨names, parsed, covers⟩ := covered route kept
    rw [site, parsed_placed] at parsed
    rwa [Except.ok.inj parsed]
  · exact (reported ⟨⟨.get, "/owners/\x7bid\x7d"⟩, soleItem unplaced, unplaced⟩
      (List.mem_cons_of_mem _ List.mem_cons_self) ["id"] [] parsed_unplaced rfl nofun _).2 ⟨rfl, by decide⟩

end Document

end SchemaCompiler
