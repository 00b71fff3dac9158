import SchemaCompiler.Proofs.Compilation.References
import SchemaCompiler.Proofs.Resolution.Idempotence
import SchemaCompiler.Proofs.Route.Sources

/-!
What the parts of routes point at.

Each schema of a part that is not just a name gets a name for itself, under which it is resolved together
with the components.  So the part points at an entry that may stand for a component or for other parts as
well, and that may be called after an error.  Still it is an entry for the schema of this part.

* `Components.Denotes`: the schema that a part stands for, which is that of a component if the part is
  just the name of one;
* `Compilation.HasForm`: an entry has the form of a schema with its names changed;
* `Compilation.LeadsOn`: the mappings in a schema lead where they still lead after resolution;
* `Document.exists_entry_of_part`: what the parts of a route point at;
* `Document.misses_shelter_parts`: a part that is just the name of a component has no entry of its form,
  and neither has one in which a mapping leads to another part.
-/

namespace SchemaCompiler

/-- The schema that a part of an operation stands for: the one that it is given, unless that is just the
name of a component. -/
inductive Components.Denotes (components : Components) : Schema → Schema → Prop where
  | own {s : Schema} (own : ¬s.IsName) : Denotes components s s
  | component {name component : String} {fragment : Json} {s : Schema}
      (mem : (component, fragment) ∈ components.schemas)
      (same : components.sanitizing.apply component = components.sanitizing.apply name)
      (read : Schema.ofJson? fragment = .ok s) : Denotes components (.ofName name) s

/-- A name that is that of a component stands for this component. -/
theorem Components.Denotes.exists_of_known {components : Components} {name : String} {s : Schema}
    (denotes : components.Denotes (.ofName name) s) (known : name ∈ Table.keys components.schemas) :
    ∃ fragment, (name, fragment) ∈ components.schemas ∧ Schema.ofJson? fragment = .ok s := by
  generalize eq : Schema.ofName name = written at denotes
  cases denotes with
  | own own => exact absurd ⟨name, eq.symm⟩ own
  | @component other component fragment _ mem same read =>
      cases eq
      obtain rfl := Components.apply_sanitized_inj (List.mem_map_of_mem mem) known same
      exact ⟨fragment, mem, read⟩

/-- A schema has the canonical form of another one whose names were changed. -/
def Compilation.HasForm (compilation : Compilation) (t s : Schema) : Prop :=
  ∃ form, Canonical.ofSchema t = .ok form ∧
    Canonical.ofSchema ((s.rename (.ofTable compilation.sanitized)).rename
      (.ofTable compilation.renames)) = .ok form

/-- The mappings in a schema lead to components, or to nothing that another entry took the place of. -/
def Compilation.LeadsOn (compilation : Compilation) (document : Document) (s : Schema) : Prop :=
  ∀ target, s.MapsTo target →
    target ∈ Table.keys document.components.schemas ∨ Table.get? compilation.renames target = none

namespace Document

variable {document : Document} {registry : Registry} {options : Options} {compilation : Compilation}

section Resolved

variable {components candidates : Table Schema} {built : RouteTable}

/-- A schema that is resolved has an entry of its form, unless a mapping in it leads to what another entry
took the place of. -/
lemma exists_entry_of_input (distinct : document.Distinct)
    (compiled : document.CompilesTo registry options components built compilation)
    (fresh : FreshNames (Table.keys components) candidates)
    (resolved : Resolution.resolve components candidates = .ok built.resolution) {name : String}
    {s : Schema} (mem : (name, s.rename document.components.sanitizing) ∈ components ++ candidates) :
    ∃ t, Table.get? compilation.table ((Renaming.ofTable compilation.renames).apply name) = some t ∧
      (compilation.LeadsOn document s → compilation.HasForm t s) := by
  obtain ⟨read, nodup⟩ := Components.parseSchemas_eq_ok distinct.schemas compiled.parsed
  obtain ⟨t, found, ⟨form, formed⟩, same⟩ :=
    Resolution.entry_of_resolve (nodup_inputs nodup fresh) resolved mem
  obtain ⟨_, written⟩ := Resolution.formed_of_resolve nodup resolved _ _ mem
  obtain ⟨form', renamed⟩ := Resolution.exists_canonical_rename written (.ofTable built.resolution.renames)
  refine ⟨t, ?_, fun leads => ⟨form, formed, ?_⟩⟩
  · rw [compiled.table, compiled.renames]
    exact found
  · rw [Compilation.LeadsOn, compiled.renames] at leads
    rw [(Schema.canonical_eq_iff formed renamed).2 (same (Components.placed_of_mapped read leads)),
      compiled.renames, compiled.sanitized]
    exact renamed

/-- What stands for a component is the name that it goes by. -/
lemma exists_component_of_known
    (read : List.Forall₂ document.components.Reads document.components.schemas components) {name : String}
    (known : document.components.sanitizing.apply name ∈ Table.keys components) :
    ∃ s, document.components.Denotes (.ofName name) s ∧
      (document.components.sanitizing.apply name, s.rename document.components.sanitizing) ∈ components := by
  obtain ⟨⟨_, _⟩, mem, eq⟩ := List.mem_map.1 known
  obtain ⟨⟨component, fragment⟩, there, rfl, s, parsed, rfl⟩ := exists_mem_of_forall₂ read.flip mem
  exact ⟨s, .component there eq parsed, eq ▸ mem⟩

end Resolved

/-- **Every part of a route points at an entry for its schema**, whatever the schema was merged with, and
whatever the entry is called. -/
theorem exists_entry_of_part (distinct : document.Distinct)
    (ok : document.compile registry options = .ok compilation) (withRoutes : options.includeRoutes = true)
    {route : Route} (kept : route ∈ compilation.routes) :
    ∃ endpoint ∈ document.endpoints, endpoint.site = route.site ∧
      ∀ slot s, (slot, s) ∈ route.slots → ∃ written denoted name t,
        document.components.asWritten.Source endpoint.site endpoint.item endpoint.operation slot written ∧
        document.components.Denotes written denoted ∧
        s = .ofName name ∧ Table.get? compilation.table name = some t ∧
        (compilation.LeadsOn document denoted → compilation.HasForm t denoted) := by
  obtain ⟨components, built, compiled⟩ := compile_cases ok
  obtain ⟨read, nodup⟩ := Components.parseSchemas_eq_ok distinct.schemas compiled.parsed
  obtain ⟨candidates, fresh, resolved, planned⟩ := routeTable_cases compiled.routed
  obtain ⟨plans, errors, named, planned, given, routes⟩ := planned withRoutes
  rw [compiled.routes, routes] at kept
  obtain ⟨before, mem, rfl⟩ := List.mem_map.1 kept
  obtain ⟨endpoint, there, site, parts⟩ := RouteContext.exists_source_of_part planned given mem
  refine ⟨endpoint, there, site, fun slot s mem => ?_⟩
  obtain ⟨⟨_, _⟩, part, eq⟩ := List.mem_map.1 mem
  obtain ⟨rfl, rfl⟩ := Prod.mk.inj eq
  obtain ⟨written, name, source, rfl, ⟨old, rfl, rfl, known⟩ | ⟨own, mem⟩⟩ := parts _ _ part
  · obtain ⟨denoted, denotes, mem⟩ := exists_component_of_known read known
    obtain ⟨t, found, form⟩ :=
      exists_entry_of_input distinct compiled fresh resolved (List.mem_append_left _ mem)
    rw [compiled.renames] at found
    exact ⟨_, denoted, _, t, source, denotes, rfl, found, form⟩
  · obtain ⟨t, found, form⟩ :=
      exists_entry_of_input distinct compiled fresh resolved (List.mem_append_right _ mem)
    rw [compiled.renames] at found
    exact ⟨written, written, _, t, source, .own own, rfl, found, form⟩

/-! ### Parts without an entry of their form -/

/-- The fragment of a reference to the only component of `shelter`. -/
def adopted : Json := .object [("$ref", .string "#/components/schemas/Adopted")]

/-- The fragment of a union that maps a tag to the second response of `shelter`. -/
def tagged : Json := .object [("oneOf", .array [adopted]), ("discriminator",
  .object [("propertyName", .string "kind"),
    ("mapping", .object [("a", .string "#/components/schemas/GetPets201Response")])])]

/-- The schema that `tagged` is read to. -/
def taggedSchema : Schema :=
  .mk (.union .oneOf [.ofName "Adopted"]
    (some ⟨"kind", [("a", "#/components/schemas/GetPets201Response")]⟩) false) false

/-- A response that is JSON. -/
def jsonResponse (fragment : Json) : Linked Response := .inline ⟨[("application/json", ⟨some fragment⟩)]⟩

/-- The operation of `shelter`. -/
def shelterOperation : Operation where
  operationId := none
  parameters := []
  requestBody := none
  responses := [("200", jsonResponse tagged), ("201", jsonResponse (.object [("type", .string "boolean")])),
    ("202", jsonResponse adopted)]

/-- The place of the operation of `shelter`. -/
def shelterSite : Site := ⟨.get, "/pets"⟩

/-- The only path of `shelter`. -/
def shelterItem : PathItem := ⟨[], fun method => if method = .get then some shelterOperation else none⟩

/-- A document of a component and an operation with three responses: one that maps a tag to the next, one
like the component, and one that is just the name of the component. -/
def shelter : Document where
  openapi := "3.0.3"
  info := ⟨"", "", none⟩
  paths := [("/pets", shelterItem)]
  components := ⟨[("Adopted", .object [("type", .string "boolean")])], [], [], []⟩

/-- The component that `shelter` is read to. -/
def shelterComponents : Table Schema := [("Adopted", .mk .boolean false)]

/-- The parts of the operation of `shelter`. -/
def shelterParts : List (Naming.RouteSlot × Schema) :=
  [(.response "200", taggedSchema), (.response "201", .mk .boolean false), (.response "202", .ofName "Adopted")]

/-- The schemas of the parts of `shelter` that get names. -/
def shelterCandidates : Table Schema :=
  [("GetPets200Response", taggedSchema), ("GetPets201Response", .mk .boolean false)]

lemma distinct_shelter : shelter.Distinct where
  schemas := show ["Adopted"].Nodup by decide
  paths := show ["/pets"].Nodup by decide

lemma ofJson?_adopted : Schema.ofJson? adopted = .ok (.ofName "Adopted") :=
  Schema.ofJson?_reference (eq_ok_of_toOption (by decide +kernel))

lemma ofJson?_tagged : Schema.ofJson? tagged = .ok taggedSchema := by
  refine Schema.ofJson?_eq_ok_iff.2 ⟨_, .composition (.union .oneOf), none, rfl, rfl, rfl,
    ⟨rfl, rfl, rfl, rfl, ⟨[adopted], rfl, by simp, .cons ofJson?_adopted .nil⟩, by decide, _, rfl, ?_⟩,
    by simp [Form.keywords, UnionKeyword.text]⟩
  exact parseDiscriminator_eq_ok_iff.2 ⟨_, rfl, rfl, .inr rfl, by simp⟩

lemma sanitized_shelter : shelter.components.sanitized = [] := by decide

/-- The only route of `shelter` before its schemas are resolved. -/
def shelterRoute : Route where
  site := shelterSite
  operationId := none
  slots := [(.response "200", .ofName "GetPets200Response"), (.response "201", .ofName "GetPets201Response"),
    (.response "202", .ofName "Adopted")]
  bodyRequired := false

/-- What the routes of `shelter` are planned with. -/
def shelterContext : RouteContext := ⟨shelter.components, ["Adopted"], .ofTable []⟩

lemma jsonMedia?_json (fragment : Json) :
    jsonMedia? [("application/json", ⟨some fragment⟩)] = some ("application/json", ⟨some fragment⟩) := by
  have json : hasMediaType MediaType.isJson ("application/json", ⟨some fragment⟩) = true :=
    show (MediaType.ofText? "application/json").any MediaType.isJson = true by decide
  rw [jsonMedia?, List.find?_cons_of_pos json, Option.some_or]

lemma planResponse_shelter {fragment : Json} {s : Schema} (status : String)
    (read : Schema.ofJson? fragment = .ok s)
    (known : ∀ name, s = .mk (.reference name) false → name ∈ ["Adopted"]) :
    shelterContext.planResponse shelterSite status (jsonResponse fragment) =
      .ok ⟨[(.response status, s)], []⟩ := by
  have parsed : ∀ pointer, shelterContext.parse fragment pointer = .ok s := fun pointer =>
    RouteContext.parse_eq_ok_iff.2 ⟨s, read, (Schema.rename_eq_self fun _ _ => rfl).symm⟩
  have taken : ∀ pointer, shelterContext.slotSchema shelterSite fragment pointer = .ok s := fun pointer =>
    RouteContext.slotSchema_eq_ok_iff.2 ⟨parsed pointer, known⟩
  have planned : ∀ pointer, shelterContext.planContents shelterSite (.response status) pointer
      [("application/json", ⟨some fragment⟩)] = .ok ⟨[(.response status, s)], []⟩ := by
    intro pointer
    rw [RouteContext.planContents, jsonMedia?_json]
    exact bind_eq_ok_iff.2 ⟨s, taken _, rfl⟩
  exact bind_eq_ok_iff.2 ⟨_, rfl, planned _⟩

lemma planAll_shelter :
    shelterContext.planAll shelter.endpoints = .ok ([⟨shelterSite, none, shelterParts, false, []⟩], []) := by
  have template : PathTemplate.placeholders shelterSite.path = .ok [] := by decide
  have first := planResponse_shelter "200" ofJson?_tagged fun name eq => by cases eq
  have second := planResponse_shelter "201" Schema.ofJson?_boolean fun name eq => by cases eq
  have third := planResponse_shelter "202" ofJson?_adopted fun name eq => by
    cases eq
    exact List.mem_singleton_self _
  change shelterContext.planAll [⟨shelterSite, _, _⟩] = _
  rw [RouteContext.planAll, RouteContext.plan, template]
  simp only [shelterOperation, List.mapM_cons, first, second, third]
  rfl

lemma nameRoutes_shelter :
    nameRoutes ["Adopted"] [] [⟨shelterSite, none, shelterParts, false, []⟩] =
      (shelterCandidates, [shelterRoute]) := by
  have first : Naming.unique ["Adopted"] (Naming.routeSchema "GET" "/pets" (.response "200")) =
      "GetPets200Response" := by decide
  have second : Naming.unique ["Adopted", "GetPets200Response"]
      (Naming.routeSchema "GET" "/pets" (.response "201")) = "GetPets201Response" := by decide
  rw [shelterCandidates, shelterRoute, ← second, ← first]
  rfl

/-- The resolved schemas of `shelter`: the second response is the component, but the mapping still leads to
its old name. -/
def shelterResolution : Resolution where
  table := [("Adopted", .mk .boolean false), ("GetPets200Response", taggedSchema)]
  renames := [("GetPets201Response", "Adopted")]
  cycles := []

lemma resolve_shelter : Resolution.resolve shelterComponents shelterCandidates = .ok shelterResolution := by
  obtain ⟨form, formed⟩ : ∃ form, Canonical.ofSchema (.mk .boolean false) = .ok form :=
    Schema.exists_canonical_iff.2 rfl
  obtain ⟨form', formed'⟩ : ∃ form, Canonical.ofSchema taggedSchema = .ok form :=
    Schema.exists_canonical_iff.2 rfl
  have ne : form ≠ form' := fun eq => by
    have normal := (Schema.canonical_eq_iff formed formed').1 eq
    cases normal
  have merged : Resolution.merge shelterComponents = .ok (shelterComponents, []) := by
    refine Resolution.merge_of_apart (by decide) fun m s n t foundM foundN => ?_
    obtain ⟨rfl, rfl⟩ := Prod.mk.inj (List.mem_singleton.1 (Table.mem_of_get? foundM))
    obtain ⟨rfl, rfl⟩ := Prod.mk.inj (List.mem_singleton.1 (Table.mem_of_get? foundN))
    exact ⟨⟨form, formed⟩, fun _ => rfl⟩
  have kept : ∀ s : Schema, s.rename (.ofTable []) = s := fun s => Schema.rename_eq_self fun _ _ => rfl
  have first : Resolution.Progress.add ⟨shelterComponents, [], [(form, "Adopted")], []⟩
      "GetPets200Response" taggedSchema = .ok ⟨shelterResolution.table, [],
        [(form', "GetPets200Response"), (form, "Adopted")],
        [("GetPets200Response", ["GetPets200Response"])]⟩ := by
    refine bind_eq_ok_iff.2 ⟨form', ?_, ?_⟩
    · rw [kept]
      exact formed'
    · have unmet : [(form, "Adopted")].lookup form' = none := by
        rw [Resolution.lookup_cons, if_neg (Ne.symm ne), List.lookup_nil]
      simp only [unmet]
      rfl
  have second : Resolution.Progress.add ⟨shelterResolution.table, [],
      [(form', "GetPets200Response"), (form, "Adopted")], [("GetPets200Response", ["GetPets200Response"])]⟩
      "GetPets201Response" (.mk .boolean false) = .ok ⟨shelterResolution.table, shelterResolution.renames,
        [(form', "GetPets200Response"), (form, "Adopted")],
        [("GetPets200Response", ["GetPets200Response"])]⟩ := by
    refine bind_eq_ok_iff.2 ⟨form, formed, ?_⟩
    have met : [(form', "GetPets200Response"), (form, "Adopted")].lookup form = some "Adopted" := by
      rw [Resolution.lookup_cons, if_neg ne, Resolution.lookup_cons, if_pos rfl]
    simp only [met]
    rfl
  refine Resolution.resolve_eq_ok_iff.2 ⟨shelterComponents, [], [(form, "Adopted")],
    ⟨shelterResolution.table, shelterResolution.renames, [(form', "GetPets200Response"), (form, "Adopted")],
      [("GetPets200Response", ["GetPets200Response"])]⟩, merged, ?_, ?_, ?_, ?_⟩
  · exact mapM_eq_ok_iff.2 (.cons (bind_eq_ok_iff.2 ⟨form, formed, rfl⟩) .nil)
  · exact bind_eq_ok_iff.2 ⟨_, first, bind_eq_ok_iff.2 ⟨_, second, rfl⟩⟩
  · change Resolution.dangling? shelterResolution.table shelterResolution.table = none
    exact Option.isNone_iff_eq_none.1 (by decide)
  · have order : ReferenceGraph.emissionOrder shelterResolution.table =
        ["Adopted", "GetPets200Response"] := by decide +kernel
    have cycles : ReferenceGraph.cycles shelterResolution.table = [] := by decide
    change shelterResolution = ⟨Resolution.ordered shelterResolution.table
      (ReferenceGraph.emissionOrder shelterResolution.table), shelterResolution.renames,
      ReferenceGraph.cycles shelterResolution.table⟩
    rw [order, cycles]
    rfl

/-- `shelter` compiles. -/
lemma exists_compile_shelter : ∃ compilation,
    shelter.compile .empty .standard = .ok compilation ∧
      compilation.table = shelterResolution.table ∧ compilation.renames = shelterResolution.renames ∧
      compilation.sanitized = [] ∧
      compilation.routes = [shelterRoute.rename (.ofTable shelterResolution.renames)] := by
  have parsed : shelter.components.parseSchemas = .ok shelterComponents := by
    rw [Components.parseSchemas, sanitized_shelter]
    simp only [shelter, Components.parseSchema, Schema.parse, Schema.ofJson?_boolean, List.mapM_cons,
      List.mapM_nil]
    rfl
  have planned := planAll_shelter
  rw [shelterContext, ← sanitized_shelter] at planned
  exact ⟨_, compile_of_planAll hasPrefix_version rfl parsed planned nameRoutes_shelter resolve_shelter, rfl,
    rfl, sanitized_shelter, rfl⟩

/-- `shelter` has one route, whose parts point at entries. -/
theorem exists_entry_of_part_shelter :
    shelter.Distinct ∧ Options.standard.includeRoutes = true ∧
      ∃ compilation, shelter.compile .empty .standard = .ok compilation ∧
        ∃ route ∈ compilation.routes, ∃ endpoint ∈ shelter.endpoints, endpoint.site = route.site ∧
          ∀ slot s, (slot, s) ∈ route.slots → ∃ written denoted name t,
            shelter.components.asWritten.Source endpoint.site endpoint.item endpoint.operation slot
              written ∧
            shelter.components.Denotes written denoted ∧
            s = .ofName name ∧ Table.get? compilation.table name = some t ∧
            (compilation.LeadsOn shelter denoted → compilation.HasForm t denoted) := by
  obtain ⟨compilation, ok, -, -, -, routes⟩ := exists_compile_shelter
  have kept : shelterRoute.rename (.ofTable shelterResolution.renames) ∈ compilation.routes := by
    rw [routes]
    exact List.mem_singleton_self _
  exact ⟨distinct_shelter, rfl, compilation, ok, _, kept, exists_entry_of_part distinct_shelter ok rfl kept⟩

/-- The fragments that the compilation of `shelter` takes. -/
lemma fragments_shelter {compilation : Compilation} {fragment : Json}
    (takes : shelter.Takes compilation fragment) :
    fragment ∈ [.object [("type", .string "boolean")], tagged, adopted] := by
  cases takes with
  | component mem =>
      obtain ⟨rfl, rfl⟩ := Prod.mk.inj (List.mem_singleton.1 mem)
      exact List.mem_cons_self
  | @route endpoint route context _ mem kept same own takes =>
      have only : shelter.endpoints = [⟨shelterSite, shelterItem, shelterOperation⟩] := rfl
      rw [only, List.mem_singleton] at mem
      obtain rfl := mem
      cases takes with
      | @parameter earlier later _ _ declared =>
          have none : earlier ++ _ :: later = [] := (Except.ok.inj declared).symm
          cases (List.append_eq_nil_iff.1 none).2
      | body given => cases given
      | @response status response located key _ mem found chosen =>
          have each : ∀ other, response = jsonResponse other → fragment = other := by
            rintro other rfl
            obtain rfl := Except.ok.inj found
            have same := Option.some.inj ((jsonMedia?_json other).symm.trans chosen)
            cases same
            rfl
          have among : (status, response) ∈ [("200", jsonResponse tagged),
              ("201", jsonResponse (.object [("type", .string "boolean")])), ("202", jsonResponse adopted)] := mem
          simp only [List.mem_cons, List.not_mem_nil, or_false, Prod.mk.injEq] at among ⊢
          rcases among with ⟨-, eq⟩ | ⟨-, eq⟩ | ⟨-, eq⟩
          · exact .inr (.inl (each _ eq))
          · exact .inl (each _ eq)
          · exact .inr (.inr (each _ eq))

/-- All references in `shelter` name its component. -/
lemma references_shelter {compilation : Compilation} {fragment reference : Json}
    (takes : shelter.Takes compilation fragment) (refers : fragment.RefersTo reference) :
    ∃ name ∈ Table.keys shelter.components.schemas, Reference.ofJson? reference = .ok name := by
  have named : ∀ {s : Schema}, Schema.ofJson? fragment = .ok s → s.references ⊆ ["Adopted"] →
      ∃ name ∈ Table.keys shelter.components.schemas, Reference.ofJson? reference = .ok name := by
    intro s read subset
    obtain ⟨name, mem, denotes⟩ := Schema.exists_mem_references read refers
    exact ⟨name, subset mem, denotes⟩
  have mem := fragments_shelter takes
  simp only [List.mem_cons, List.not_mem_nil, or_false] at mem
  rcases mem with rfl | rfl | rfl
  · exact named Schema.ofJson?_boolean (List.nil_subset _)
  · exact named ofJson?_tagged (List.Subset.refl _)
  · exact named ofJson?_adopted (List.Subset.refl _)

/-- A part of a route points at an entry that does not have the form of the schema that the part is
given. -/
def Misses (document : Document) (compilation : Compilation) (slot : Naming.RouteSlot) : Prop :=
  ∃ endpoint ∈ document.endpoints, ∃ route ∈ compilation.routes, route.site = endpoint.site ∧
    ∃ written name t, (slot, .ofName name) ∈ route.slots ∧
      document.components.asWritten.Source endpoint.site endpoint.item endpoint.operation slot written ∧
      Table.get? compilation.table name = some t ∧ ¬compilation.HasForm t written

lemma misses_shelter {compilation : Compilation} {status name : String} {fragment : Json} {written t : Schema}
    (routes : compilation.routes = [shelterRoute.rename (.ofTable shelterResolution.renames)])
    (mem : (status, jsonResponse fragment) ∈ shelterOperation.responses)
    (slot : (.response status, .ofName name) ∈
      (shelterRoute.rename (.ofTable shelterResolution.renames)).slots)
    (read : Schema.ofJson? fragment = .ok written) (found : Table.get? compilation.table name = some t)
    (differs : t.normal ≠ ((written.rename (.ofTable compilation.sanitized)).rename
      (.ofTable compilation.renames)).normal) : shelter.Misses compilation (.response status) := by
  refine ⟨⟨shelterSite, shelterItem, shelterOperation⟩, List.mem_singleton_self _, _,
    routes ▸ List.mem_singleton_self _, rfl, written, name, t, slot, ?_, found, ?_⟩
  · refine .response mem rfl (jsonMedia?_json fragment) (RouteContext.parse_eq_ok_iff.2 ⟨written, read, ?_⟩)
    exact (Schema.rename_eq_self fun _ _ => rfl).symm
  · rintro ⟨form, own, given⟩
    exact differs ((Schema.canonical_eq_iff own given).1 rfl)

/-- A part that is just the name of a component points at the entry of the component.  A mapping inside a
part does not follow when what it leads to is taken for a component later. -/
theorem misses_shelter_parts :
    shelter.Distinct ∧ Options.standard.includeRoutes = true ∧
      ∃ compilation, shelter.compile .empty .standard = .ok compilation ∧
        (∀ fragment reference, shelter.Takes compilation fragment → fragment.RefersTo reference →
          ∃ name ∈ Table.keys shelter.components.schemas, Reference.ofJson? reference = .ok name) ∧
        shelter.Misses compilation (.response "202") ∧ shelter.Misses compilation (.response "200") := by
  obtain ⟨compilation, ok, table, renames, sanitized, routes⟩ := exists_compile_shelter
  refine ⟨distinct_shelter, rfl, compilation, ok, fun _ _ => references_shelter, ?_, ?_⟩
  · refine misses_shelter routes (.tail _ (.tail _ (.head _))) (.tail _ (.tail _ (.head _))) ofJson?_adopted
      (by rw [table]; rfl) ?_
    rw [renames, sanitized]
    exact fun eq => by cases eq
  · refine misses_shelter routes (.head _) (.head _) ofJson?_tagged (by rw [table]; rfl) ?_
    have target : renameTarget (.ofTable shelterResolution.renames)
        "#/components/schemas/GetPets201Response" = "#/components/schemas/Adopted" :=
      renameTarget_append _ "GetPets201Response"
    have kept : taggedSchema.rename (.ofTable []) = taggedSchema := Schema.rename_eq_self fun _ _ => rfl
    have single : ∀ entry : String × String, Table.sort [entry] = [entry] := fun _ =>
      List.mergeSort_singleton _
    rw [renames, sanitized, kept]
    intro eq
    obtain ⟨-, -, selected, -⟩ := SchemaKind.union.inj (Schema.mk.inj eq).1
    have mapping : Table.sort [("a", "#/components/schemas/GetPets201Response")] = Table.sort [("a",
        renameTarget (.ofTable shelterResolution.renames) "#/components/schemas/GetPets201Response")] :=
      (Discriminator.mk.inj (Option.some.inj selected)).2
    rw [single, single, target] at mapping
    simp at mapping

end Document

end SchemaCompiler
