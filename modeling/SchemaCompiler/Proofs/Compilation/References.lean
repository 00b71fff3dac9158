import SchemaCompiler.Proofs.Compilation.Components
import SchemaCompiler.Proofs.Resolution.Candidates
import SchemaCompiler.Proofs.Route.Plan

/-!
What the references in a document can name.

References are checked against the resolved table.  That has the components under the names that they go
by, but also entries for the schemas of routes.  So a reference that names none of the components of the
document is found out, unless it happens to name something that the compilation made up.

* `Document.Takes`: the fragments that the compilation of a document takes;
* `Document.reference_named`: what a reference in one of them names;
* `Document.references_made_up`: names that are made up can be named.
-/

namespace SchemaCompiler

/-- A name is one that the compilation made up: the new name of a component, the name of a schema of a
route, or that of an error. -/
inductive Compilation.MakesUp (compilation : Compilation) (name : String) : Prop where
  | sanitized {component : String} (mem : (component, name) ∈ compilation.sanitized) :
      MakesUp compilation name
  | route {route : Route} (mem : route ∈ compilation.routes) (names : route.site.Names name) :
      MakesUp compilation name
  | error (title : Resolution.Title name) : MakesUp compilation name

namespace Document

/-- The fragments of schemas that the compilation of a document takes: those of its components, and those
of the operations that became routes. -/
inductive Takes (document : Document) (compilation : Compilation) : Json → Prop where
  | component {name : String} {fragment : Json}
      (mem : (name, fragment) ∈ document.components.schemas) : Takes document compilation fragment
  | route {endpoint : Endpoint} {route : Route} {context : RouteContext} {fragment : Json}
      (mem : endpoint ∈ document.endpoints) (kept : route ∈ compilation.routes)
      (same : route.site = endpoint.site) (own : context.components = document.components)
      (takes : context.Takes endpoint.site endpoint.item endpoint.operation fragment) :
      Takes document compilation fragment

variable {document : Document} {registry : Registry} {options : Options} {compilation : Compilation}
  {components candidates : Table Schema}

/-- An operation is found at its place. -/
lemma endpoint_cases {e : Endpoint} (mem : e ∈ document.endpoints) :
    (e.site.path, e.item) ∈ document.paths ∧ e.item.operation? e.site.method = some e.operation := by
  obtain ⟨⟨path, item⟩, there, among⟩ := List.mem_flatMap.1 mem
  obtain ⟨⟨method, operation⟩, own, rfl⟩ := List.mem_map.1 among
  obtain ⟨method', -, found⟩ := List.mem_filterMap.1 own
  obtain ⟨operation', given, eq⟩ := Option.map_eq_some_iff.1 found
  obtain ⟨rfl, rfl⟩ := Prod.mk.inj eq
  exact ⟨there, given⟩

/-- An operation is given by its place. -/
lemma endpoint_eq (distinct : document.Distinct) {a b : Endpoint} (memA : a ∈ document.endpoints)
    (memB : b ∈ document.endpoints) (same : a.site = b.site) : a = b := by
  obtain ⟨thereA, foundA⟩ := endpoint_cases memA
  obtain ⟨thereB, foundB⟩ := endpoint_cases memB
  obtain ⟨site, item, operation⟩ := a
  obtain ⟨site', item', operation'⟩ := b
  obtain rfl : site = site' := same
  obtain rfl : item = item' := Option.some.inj
    (((Table.get?_eq_some_iff distinct.paths).2 thereA).symm.trans
      ((Table.get?_eq_some_iff distinct.paths).2 thereB))
  obtain rfl : operation = operation' := Option.some.inj (foundA.symm.trans foundB)
  rfl

/-- What stands for a component is named by a component, or by the new name of one. -/
lemma named_of_apply
    (read : List.Forall₂ document.components.Reads document.components.schemas components)
    {name : String} (mem : document.components.sanitizing.apply name ∈ Table.keys components) :
    name ∈ Table.keys document.components.schemas ∨
      ∃ component, (component, name) ∈ document.components.sanitized := by
  rw [Components.keys_of_reads read] at mem
  obtain ⟨component, known, same⟩ := List.mem_map.1 mem
  rw [Renaming.apply, Renaming.apply, Components.sanitizing, Renaming.ofTable] at same
  cases renamed : Table.get? document.components.sanitized name with
  | some new => exact .inl (Components.mem_keys_of_sanitized renamed)
  | none =>
      rw [renamed, Option.getD_none] at same
      cases moved : Table.get? document.components.sanitized component with
      | none =>
          rw [moved, Option.getD_none] at same
          exact .inl (same ▸ known)
      | some new =>
          rw [moved, Option.getD_some] at same
          exact .inr ⟨component, same ▸ Table.mem_of_get? moved⟩

/-- What a name stands for when the components go by their names. -/
lemma named_of_known
    (read : List.Forall₂ document.components.Reads document.components.schemas components)
    (sanitized : compilation.sanitized = document.components.sanitized)
    (routes : ∀ name ∈ Table.keys candidates, ∃ route ∈ compilation.routes, route.site.Names name)
    {name : String} (known : document.components.sanitizing.apply name ∈
      Table.keys (components ++ candidates) ∨
        Resolution.Title (document.components.sanitizing.apply name)) :
    name ∈ Table.keys document.components.schemas ∨ compilation.MakesUp name := by
  cases renamed : Table.get? document.components.sanitized name with
  | some new => exact .inl (Components.mem_keys_of_sanitized renamed)
  | none =>
      have self := Components.apply_of_kept renamed
      rcases known with known | title
      · rcases Table.mem_keys_append_iff.1 known with own | made
        · refine (named_of_apply read own).imp_right fun ⟨component, mem⟩ => ?_
          exact .sanitized (sanitized ▸ mem)
        · rw [self] at made
          obtain ⟨route, mem, names⟩ := routes name made
          exact .inr (.route mem names)
      · rw [self] at title
        exact .inr (.error title)

/-- **What a reference names** in a document that compiles with its routes: a component of the document,
unless it is a name that the compilation made up. -/
theorem reference_named (distinct : document.Distinct)
    (ok : document.compile registry options = .ok compilation) (withRoutes : options.includeRoutes = true)
    {fragment reference : Json} (takes : document.Takes compilation fragment)
    (refers : fragment.RefersTo reference) :
    ∃ name, Reference.ofJson? reference = .ok name ∧
      (name ∈ Table.keys document.components.schemas ∨ compilation.MakesUp name) := by
  obtain ⟨components, built, compiled⟩ := compile_cases ok
  obtain ⟨read, nodup⟩ := Components.parseSchemas_eq_ok distinct.schemas compiled.parsed
  obtain ⟨candidates, fresh, resolved, planned⟩ := routeTable_cases compiled.routed
  obtain ⟨plans, errors, named, planned, given, routes⟩ := planned withRoutes
  -- the routes are those of the plans, and so the names of schemas are those of routes
  have site_iff : ∀ site, (∃ plan ∈ plans, plan.site = site) ↔
      ∃ route ∈ compilation.routes, route.site = site := by
    intro site
    have sites : compilation.routes.map Route.site = plans.map RoutePlan.site := by
      rw [compiled.routes, routes, List.map_map, ← given.sites]
      rfl
    rw [← List.mem_map, ← List.mem_map, sites]
  have own : ∀ name ∈ Table.keys candidates, ∃ route ∈ compilation.routes, route.site.Names name := by
    intro name mem
    obtain ⟨route, mem, part, -, own⟩ := given.exists_part mem
    refine ⟨route.rename (.ofTable built.resolution.renames), ?_, own.names⟩
    rw [compiled.routes, routes]
    exact List.mem_map_of_mem mem
  have inputs := nodup_inputs nodup fresh
  cases takes with
  | @component name fragment mem =>
      obtain ⟨⟨_, _⟩, among, -, s, parsed, rfl⟩ := exists_mem_of_forall₂ read mem
      obtain ⟨target, mentioned, denotes⟩ := Schema.exists_mem_references parsed refers
      refine ⟨target, denotes, named_of_known read compiled.sanitized own ?_⟩
      exact Resolution.reference_cases inputs resolved (List.mem_append_left _ among)
        (Schema.mem_references_rename_iff.2 ⟨target, mentioned, rfl⟩)
  | @route endpoint route context fragment mem kept same shared takes =>
      obtain ⟨plan, among, site⟩ := (site_iff route.site).2 ⟨route, kept, rfl⟩
      obtain ⟨other, there, ok⟩ := planAll_cases planned plan among
      obtain rfl : other = endpoint := by
        obtain ⟨-, -, -, -, -, -, -, site', -, -, -⟩ := RouteContext.plan_cases ok
        exact endpoint_eq distinct there mem ((site'.symm.trans site).trans same)
      obtain ⟨t, parsed, holds⟩ := RouteContext.holds_of_takes ok (takes.congr shared)
      obtain ⟨target, mentioned, denotes⟩ := Schema.exists_mem_references parsed refers
      refine ⟨target, denotes, named_of_known read compiled.sanitized own ?_⟩
      rcases holds _ (Schema.mem_references_rename_iff.2 ⟨target, mentioned, rfl⟩) with
        known | ⟨entry, part, unnamed, mentioned⟩
      · exact .inl (Table.mem_keys_append_iff.2 (.inl known))
      · obtain ⟨name, candidate⟩ := given.given plan among entry part unnamed
        exact Resolution.reference_cases inputs resolved (List.mem_append_right _ candidate) mentioned

/-! ### Made-up names -/

/-- A document of two components, one with a name that cannot be declared and one that is just a
reference, and an operation with a truth value as its response. -/
def pets (reference : String) : Document where
  openapi := "3.0.3"
  info := ⟨"", "", none⟩
  paths := [("/pets", ⟨[], fun method => if method = .get then
    some ⟨none, [], none, [("200", .inline ⟨[("application/json", ⟨some (.object [("type",
      .string "boolean")])⟩)]⟩)]⟩
    else none⟩)]
  components := ⟨[("pet-v1", .object []), ("Owner", .object [("$ref", .string reference)])], [], [], []⟩

/-- The components that `pets` is read to. -/
def petsComponents (name : String) : Table Schema :=
  [("PetV1", .mk .any false),
    ("Owner", .ofName ((Renaming.ofTable [("pet-v1", "PetV1")]).apply name))]

/-- The schema of the response of `pets`. -/
def petsCandidates : Table Schema := [("GetPets200Response", .mk .boolean false)]

lemma distinct_pets (reference : String) : (pets reference).Distinct where
  schemas := show ["pet-v1", "Owner"].Nodup by decide
  paths := show ["/pets"].Nodup by decide

lemma parseSchemas_pets {reference name : String} (denotes : Reference.name? reference = .ok name) :
    (pets reference).components.parseSchemas = .ok (petsComponents name) := by
  have sanitized : (pets "").components.sanitized = [("pet-v1", "PetV1")] := by decide
  replace sanitized : (pets reference).components.sanitized = [("pet-v1", "PetV1")] := sanitized
  have owner := Schema.ofJson?_reference denotes
  rw [Components.parseSchemas, sanitized]
  simp only [pets, Components.parseSchema, Schema.parse, Schema.ofJson?_any, owner, List.mapM_cons, List.mapM_nil]
  rfl

/-- The plan of the operation of `pets`. -/
def petsPlan : RoutePlan := ⟨⟨.get, "/pets"⟩, none, [(.response "200", .mk .boolean false)], false, []⟩

/-- A response that is a truth value has one part. -/
lemma planResponse_boolean (context : RouteContext) (site : Site) (status : String) :
    context.planResponse site status (.inline ⟨[("application/json",
      ⟨some (.object [("type", .string "boolean")])⟩)]⟩) =
      .ok ⟨[(.response status, .mk .boolean false)], []⟩ := by
  have slot : ∀ pointer, context.slotSchema site (.object [("type", .string "boolean")]) pointer =
      .ok (.mk .boolean false) := by
    intro pointer
    rw [RouteContext.slotSchema, RouteContext.parse, Schema.parse, Schema.ofJson?_boolean]
    rfl
  exact bind_eq_ok_iff.2 ⟨_, rfl, bind_eq_ok_iff.2 ⟨_, slot _, rfl⟩⟩

lemma planAll_pets (reference : String) (context : RouteContext) :
    context.planAll (pets reference).endpoints = .ok ([petsPlan], []) := by
  have template : PathTemplate.placeholders "/pets" = .ok [] := by decide
  change context.planAll [⟨⟨.get, "/pets"⟩, _, _⟩] = _
  rw [RouteContext.planAll, RouteContext.plan, template]
  simp only [List.mapM_cons, planResponse_boolean]
  rfl

/-- A document with the components and the route of `pets` compiles if its schemas can be resolved. -/
lemma exists_compile_of_planAll {document : Document} {reference name : String}
    {errors : List CompileError} (version : document.openapi = "3.0.3")
    (components : document.components = (pets reference).components)
    (planned : ∀ names sanitized, RouteContext.planAll ⟨document.components, names, sanitized⟩
      document.endpoints = .ok ([petsPlan], errors))
    (denotes : Reference.name? reference = .ok name)
    (resolves : (Resolution.resolve (petsComponents name) petsCandidates).toOption.isSome = true) :
    ∃ compilation, document.compile .empty .standard = .ok compilation ∧
      compilation.routeErrors = errors := by
  have given : Naming.unique ["PetV1", "Owner"]
      (Naming.routeSchema "GET" "/pets" (.response "200")) = "GetPets200Response" := by
    decide
  obtain ⟨resolution, resolved⟩ := exists_eq_ok_of_isSome resolves
  have parsed := components ▸ parseSchemas_pets denotes
  have named : (nameRoutes (Table.keys (petsComponents name)) [] [petsPlan]).1 = petsCandidates := by
    rw [petsCandidates, ← given]
    rfl
  exact ⟨_, compile_of_planAll (version ▸ hasPrefix_version) rfl parsed (planned _ _) (Prod.ext named rfl)
    resolved, rfl⟩

/-- `pets` compiles if its schemas can be resolved. -/
lemma exists_compile_pets {reference name : String} (denotes : Reference.name? reference = .ok name)
    (resolves : (Resolution.resolve (petsComponents name) petsCandidates).toOption.isSome = true) :
    ∃ compilation, (pets reference).compile .empty .standard = .ok compilation := by
  obtain ⟨compilation, ok, -⟩ := exists_compile_of_planAll rfl rfl
    (fun _ _ => planAll_pets reference _) denotes resolves
  exact ⟨compilation, ok⟩

/-- The reference in `pets` is in a fragment that its compilation takes. -/
lemma takes_pets (reference : String) (compilation : Compilation) :
    (pets reference).Takes compilation (.object [("$ref", .string reference)]) :=
  .component (List.mem_cons_of_mem _ List.mem_cons_self)

lemma refersTo_pets (reference : String) :
    Json.RefersTo (.object [("$ref", .string reference)]) (.string reference) :=
  ⟨_, .self _, rfl⟩

/-- A component is named by its own name, whatever it goes by. -/
theorem reference_named_pets :
    (pets "#/components/schemas/pet-v1").Distinct ∧ Options.standard.includeRoutes = true ∧
      ∃ compilation, (pets "#/components/schemas/pet-v1").compile .empty .standard = .ok compilation ∧
        (pets "#/components/schemas/pet-v1").Takes compilation
          (.object [("$ref", .string "#/components/schemas/pet-v1")]) ∧
        ∃ name, Reference.ofJson? (.string "#/components/schemas/pet-v1") = .ok name ∧
          (name ∈ Table.keys (pets "#/components/schemas/pet-v1").components.schemas ∨
            compilation.MakesUp name) := by
  obtain ⟨compilation, ok⟩ := exists_compile_pets
    (show Reference.name? "#/components/schemas/pet-v1" = .ok "pet-v1" from
      eq_ok_of_toOption (by decide +kernel)) (by decide +kernel)
  exact ⟨distinct_pets _, rfl, compilation, ok, takes_pets _ _,
    reference_named (distinct_pets _) ok rfl (takes_pets _ _) (refersTo_pets _)⟩

/-- A document compiles although a reference in it names no component. -/
def LetsThrough (document : Document) (name : String) : Prop :=
  name ∉ Table.keys document.components.schemas ∧
    ∃ compilation fragment reference, document.compile .empty .standard = .ok compilation ∧
      document.Takes compilation fragment ∧ fragment.RefersTo reference ∧
      Reference.ofJson? reference = .ok name

lemma letsThrough_pets {reference name : String} (denotes : Reference.name? reference = .ok name)
    (resolves : (Resolution.resolve (petsComponents name) petsCandidates).toOption.isSome = true)
    (other : name ∉ ["pet-v1", "Owner"]) : (pets reference).LetsThrough name := by
  obtain ⟨compilation, ok⟩ := exists_compile_pets denotes resolves
  exact ⟨other, compilation, _, _, ok, takes_pets _ _, refersTo_pets _, denotes⟩

/-- The new name of a component can be named, and so can the schema of a response. -/
theorem references_made_up :
    (pets "#/components/schemas/PetV1").LetsThrough "PetV1" ∧
      (pets "#/components/schemas/GetPets200Response").LetsThrough "GetPets200Response" := by
  constructor
  · exact letsThrough_pets (eq_ok_of_toOption (by decide +kernel)) (by decide +kernel) (by decide)
  · exact letsThrough_pets (eq_ok_of_toOption (by decide +kernel)) (by decide +kernel) (by decide)

end Document

end SchemaCompiler
