import SchemaCompiler.Proofs.Compilation.References
import SchemaCompiler.Proofs.Route.Outcomes

/-!
Operations that are dropped leave no trace.

An operation is planned before anything is named for it, and a plan is all or nothing.  So what other
operations become does not depend on those that are dropped.

* `Document.without`: a document without the operations at some places;
* `Document.Outcomes`: what the operations of a document yield in a compilation, one by one;
* `Document.compile_without`: a document compiles to the same without the operations that are dropped.
-/

namespace SchemaCompiler

/-- A path without the operations at some places. -/
def PathItem.without (item : PathItem) (path : String) (sites : List Site) : PathItem :=
  { item with operation? := fun method =>
      if sites.contains ⟨method, path⟩ then none else item.operation? method }

/-- A document without the operations at some places. -/
def Document.without (document : Document) (sites : List Site) : Document :=
  { document with paths := document.paths.map fun (path, item) => (path, item.without path sites) }

/-- An operation in a document without those at some places. -/
def Endpoint.without (sites : List Site) (endpoint : Endpoint) : Endpoint :=
  { endpoint with item := endpoint.item.without endpoint.site.path sites }

/-- The places of the operations that are dropped. -/
def droppedSites (outcomes : List (Endpoint × Except CompileError Route)) : List Site :=
  outcomes.filterMap fun (endpoint, result) => (fault? result).map fun _ => endpoint.site

/-- What the operations of a document yield in a compilation, one by one. -/
structure Document.Outcomes (document : Document) (compilation : Compilation)
    (outcomes : List (Endpoint × Except CompileError Route)) : Prop where
  endpoints : outcomes.map Prod.fst = document.endpoints
  yields : ∀ outcome ∈ outcomes, outcome.1.Yields outcome.2
  routes : compilation.routes = outcomes.filterMap fun outcome => outcome.2.toOption
  errors : compilation.routeErrors = outcomes.filterMap fun outcome => fault? outcome.2

namespace Document

variable {document : Document} {registry : Registry} {options : Options} {compilation : Compilation}
  {context : RouteContext} {sites : List Site} {endpoint : Endpoint}

/-! ### Fewer operations -/

lemma endpoints_without (document : Document) (sites : List Site) :
    (document.without sites).endpoints =
      (document.endpoints.filter fun endpoint => !sites.contains endpoint.site).map
        (Endpoint.without sites) := by
  have each : ∀ (path : String) (item : PathItem),
      (item.without path sites).operations.map
        (fun entry => (⟨⟨entry.1, path⟩, item.without path sites, entry.2⟩ : Endpoint)) =
      ((item.operations.map fun entry => (⟨⟨entry.1, path⟩, item, entry.2⟩ : Endpoint)).filter
        fun endpoint => !sites.contains endpoint.site).map (Endpoint.without sites) := by
    intro path item
    simp only [PathItem.operations, List.map_filterMap, List.filter_filterMap]
    refine List.filterMap_congr fun method _ => ?_
    change Option.map _ (Option.map _ (if sites.contains ⟨method, path⟩ then none else _)) = _
    cases item.operation? method with
    | none => simp
    | some operation =>
        by_cases gone : (⟨method, path⟩ : Site) ∈ sites <;> simp [gone, Endpoint.without]
  rw [endpoints, endpoints, without, List.flatMap_map, List.filter_flatMap, List.map_flatMap]
  exact List.flatMap_congr fun entry _ => each entry.1 entry.2

/-- The plan of an operation does not depend on the others. -/
lemma planOf_without (context : RouteContext) (sites : List Site) (endpoint : Endpoint) :
    context.planOf (endpoint.without sites) = context.planOf endpoint := rfl

/-- Without the operations that have no plan, the others have the plans that they had. -/
lemma planAll_without {plans : List RoutePlan} {errors : List CompileError}
    (planned : context.planAll document.endpoints = .ok (plans, errors))
    (dropped : ∀ endpoint ∈ document.endpoints,
      endpoint.site ∈ sites ↔ ∃ cause, context.planOf endpoint = .error cause) :
    context.planAll (document.without sites).endpoints = .ok (plans, []) := by
  obtain ⟨-, rfl, -⟩ := RouteContext.planAll_eq_ok_iff.1 planned
  rw [endpoints_without, RouteContext.planAll_eq_ok_iff]
  have kept : ∀ endpoint ∈ (document.endpoints.filter fun endpoint =>
      !sites.contains endpoint.site).map (Endpoint.without sites),
      ∃ plan, context.planOf endpoint = .ok plan := by
    intro endpoint mem
    obtain ⟨original, among, rfl⟩ := List.mem_map.1 mem
    obtain ⟨there, stays⟩ := List.mem_filter.1 among
    rw [planOf_without]
    cases planned : context.planOf original with
    | ok plan => exact ⟨plan, rfl⟩
    | error cause => simp [(dropped original there).2 ⟨cause, planned⟩] at stays
  -- no operation that is left fails, the plans are those of before, and there are no errors
  refine ⟨fun endpoint mem cause failed => ?_, ?_, ?_⟩
  · obtain ⟨plan, ok⟩ := kept endpoint mem
    rw [ok] at failed
    cases failed
  · rw [List.filterMap_map, List.filterMap_filter]
    refine List.filterMap_congr fun endpoint mem => ?_
    split
    · rfl
    · next gone =>
        obtain ⟨cause, failed⟩ := (dropped endpoint mem).1 (by simpa using gone)
        rw [failed, Except.toOption]
  · symm
    rw [List.filterMap_eq_nil_iff]
    intro endpoint mem
    obtain ⟨plan, ok⟩ := kept endpoint mem
    rw [ok, fault?]

/-! ### Outcomes -/

/-- The routes that plans become, in the place of the plans. -/
lemma exists_outcomes {components : Table Schema} {sanitized : Renaming} {built : RouteTable}
    (ok : RouteTable.build document components sanitized = .ok built) :
    ∃ outcomes : List (Endpoint × Except CompileError Route),
      outcomes.map Prod.fst = document.endpoints ∧
      (∀ outcome ∈ outcomes, Answers (fun plan route =>
          route.site = plan.site ∧ route.operationId = plan.operationId)
        (RouteContext.planOf ⟨document.components, Table.keys components, sanitized⟩ outcome.1)
        outcome.2) ∧
      outcomes.filterMap (fun outcome => outcome.2.toOption) = built.routes ∧
      outcomes.filterMap (fun outcome => fault? outcome.2) = built.errors := by
  obtain ⟨plans, errors, resolution, planned, -, rfl⟩ := build_eq_ok_iff.1 ok
  have given := nameRoutes_spec (Table.keys components) [] plans ⟨List.nodup_nil, nofun⟩
  obtain ⟨-, rfl, rfl⟩ := RouteContext.planAll_eq_ok_iff.1 planned
  refine exists_answers (List.forall₂_map_right_iff.2 (given.routes.imp fun plan route becomes => ?_))
  exact ⟨becomes.site, becomes.operationId⟩

/-- An operation yields what its plan becomes. -/
lemma yields_of_answers {result : Except CompileError Route}
    (droppable : ∀ cause, context.planOf endpoint = .error cause → cause.isRouteScoped = true)
    (answers : Answers (fun plan route => route.site = plan.site ∧
      route.operationId = plan.operationId) (context.planOf endpoint) result) :
    endpoint.Yields result := by
  generalize planned : context.planOf endpoint = plan? at answers
  cases answers with
  | @ok plan route same =>
      obtain ⟨-, -, -, -, -, -, -, site, operationId, -, -⟩ := RouteContext.plan_cases planned
      exact .route (same.1.trans site) (same.2.trans operationId)
  | error cause =>
      exact .error (context.drops_plan _ _ _ cause planned (droppable cause planned))

/-- The operations that are dropped are those that have no plan. -/
lemma mem_droppedSites_iff (distinct : document.Distinct)
    {outcomes : List (Endpoint × Except CompileError Route)} {R : RoutePlan → Route → Prop}
    (endpoints : outcomes.map Prod.fst = document.endpoints)
    (answers : ∀ outcome ∈ outcomes, Answers R (context.planOf outcome.1) outcome.2)
    (mem : endpoint ∈ document.endpoints) :
    endpoint.site ∈ droppedSites outcomes ↔ ∃ cause, context.planOf endpoint = .error cause := by
  rw [droppedSites, List.mem_filterMap]
  constructor
  · rintro ⟨⟨other, result⟩, among, dropped⟩
    obtain ⟨cause, failed, same⟩ := Option.map_eq_some_iff.1 dropped
    have there : other ∈ document.endpoints := endpoints ▸ List.mem_map_of_mem among
    obtain rfl := endpoint_eq distinct there mem same
    have answer := answers _ among
    cases result with
    | ok route => cases failed
    | error fault =>
        generalize context.planOf other = plan? at answer
        cases answer
        exact ⟨_, rfl⟩
  · rintro ⟨cause, failed⟩
    rw [← endpoints] at mem
    obtain ⟨⟨_, result⟩, among, rfl⟩ := List.mem_map.1 mem
    have answer := answers _ among
    rw [failed] at answer
    cases answer
    exact ⟨_, among, rfl⟩

/-! ### Compiling without them -/

/-- The warnings about dropped operations come last, and go. -/
lemma filter_isDropped {kept renamed dropped : List Warning}
    (first : ∀ warning ∈ kept, warning.isDropped = false)
    (second : ∀ warning ∈ renamed, warning.isDropped = false)
    (last : ∀ warning ∈ dropped, warning.isDropped = true) :
    (kept ++ renamed ++ dropped).filter (fun warning => !warning.isDropped) = kept ++ renamed := by
  have go : dropped.filter (fun warning => !warning.isDropped) = [] := by
    rw [List.filter_eq_nil_iff]
    intro warning mem
    rw [last warning mem]
    exact Bool.false_ne_true
  have stay : (kept ++ renamed).filter (fun warning => !warning.isDropped) = kept ++ renamed := by
    rw [List.filter_eq_self, List.forall_mem_append]
    exact ⟨fun warning mem => by rw [first warning mem, Bool.not_false],
      fun warning mem => by rw [second warning mem, Bool.not_false]⟩
  rw [List.filter_append, stay, go, List.append_nil]

/-- Of the warnings only those about dropped operations go when nothing is dropped. -/
lemma assemble_without_errors {components : Table Schema} {sanitized : Table String}
    {built : RouteTable} (kept : ∀ warning ∈ built.warnings, warning.isDropped = false) :
    assemble registry components sanitized { built with errors := [] } =
      { assemble registry components sanitized built with
        routeErrors := []
        warnings := (assemble registry components sanitized built).warnings.filter
          fun warning => !warning.isDropped } := by
  rw [assemble, assemble, filter_isDropped kept, List.map_nil, List.append_nil]
  · intro warning mem
    obtain ⟨entry, -, rfl⟩ := List.mem_map.1 mem
    rfl
  · intro warning mem
    obtain ⟨cause, -, rfl⟩ := List.mem_map.1 mem
    rfl

/-- **Operations that are dropped leave no trace.**  Every operation of a document that compiles yields
its route or the error for which it is dropped, in order.  Without those that are dropped the document
compiles to the same. -/
theorem compile_without (distinct : document.Distinct)
    (ok : document.compile registry options = .ok compilation)
    (withRoutes : options.includeRoutes = true) :
    ∃ outcomes, document.Outcomes compilation outcomes ∧
      (document.without (droppedSites outcomes)).compile registry options =
        .ok { compilation with
          routeErrors := []
          warnings := compilation.warnings.filter fun warning => !warning.isDropped } := by
  obtain ⟨version, components, built, parsed, routed, rfl⟩ := compile_eq_ok_iff.1 ok
  rw [routeTable, if_pos withRoutes] at routed
  obtain ⟨outcomes, endpoints, answers, routes, errors⟩ := exists_outcomes routed
  obtain ⟨plans, dropped, resolution, planned, resolved, eq⟩ := build_eq_ok_iff.1 routed
  have droppable := (RouteContext.planAll_eq_ok_iff.1 planned).1
  refine ⟨outcomes, ⟨endpoints, fun outcome mem => ?_, routes.symm, errors.symm⟩, ?_⟩
  · have there : outcome.1 ∈ document.endpoints := endpoints ▸ List.mem_map_of_mem mem
    exact yields_of_answers (droppable _ there) (answers outcome mem)
  · have planned' := planAll_without planned fun endpoint mem =>
      mem_droppedSites_iff distinct endpoints answers mem
    have routed' : RouteTable.build (document.without (droppedSites outcomes)) components
        document.components.sanitizing = .ok { built with errors := [] } :=
      build_eq_ok_iff.2 ⟨plans, [], resolution, planned', resolved, by rw [eq]⟩
    rw [← assemble_without_errors]
    · exact compile_eq_ok_iff.2
        ⟨version, components, _, parsed, (if_pos withRoutes).trans routed', rfl⟩
    · intro warning mem
      rw [eq] at mem
      obtain ⟨plan, among, mem⟩ := List.mem_flatMap.1 mem
      obtain ⟨endpoint, -, planned⟩ := planAll_cases planned plan among
      exact RouteContext.isDropped_of_plan _ _ planned warning mem

/-- An operation whose second response is lost. -/
def stray : Operation :=
  ⟨none, [], none, [("200", .inline ⟨[("application/json", ⟨some (.object [("type",
    .string "boolean")])⟩)]⟩), ("404", .reference "#/components/responses/Lost")]⟩

/-- The path of `stray`. -/
def strayPath : PathItem := ⟨[], fun method => if method = .get then some stray else none⟩

/-- A document with the operation of `pets` after `stray`, whose first schema would have the same
name. -/
def strays : Document :=
  let document := pets "#/components/schemas/pet-v1"
  { document with paths := ("/pets/", strayPath) :: document.paths }

lemma distinct_strays : strays.Distinct where
  schemas := show ["pet-v1", "Owner"].Nodup by decide
  paths := show ["/pets/", "/pets"].Nodup by decide

lemma planAll_strays (names : List String) (sanitized : Renaming) :
    RouteContext.planAll ⟨strays.components, names, sanitized⟩ strays.endpoints =
      .ok ([petsPlan], [.unresolvedComponent "GET" "/pets/" "#/components/responses/Lost"]) := by
  have template : PathTemplate.placeholders "/pets/" = .ok [] := by decide
  have lost : strays.components.responseSection.follow? [] "#/components/responses/Lost" = none := by
    rw [ComponentSection.follow?]
    split
    · rfl
    · rfl
  have failed : RouteContext.planResponse ⟨strays.components, names, sanitized⟩ ⟨.get, "/pets/"⟩ "404"
      (.reference "#/components/responses/Lost") =
        .error (.unresolvedComponent "GET" "/pets/" "#/components/responses/Lost") := by
    rw [RouteContext.planResponse, ComponentSection.locate, lost]
    rfl
  have unplanned : RouteContext.planOf ⟨strays.components, names, sanitized⟩
      ⟨⟨.get, "/pets/"⟩, strayPath, stray⟩ =
        .error (.unresolvedComponent "GET" "/pets/" "#/components/responses/Lost") := by
    rw [RouteContext.planOf, RouteContext.plan, template]
    simp only [stray, List.mapM_cons, planResponse_boolean, failed]
    rfl
  change RouteContext.planAll _ (⟨⟨.get, "/pets/"⟩, strayPath, stray⟩ :: (pets _).endpoints) = _
  rw [RouteContext.planAll_cons_error unplanned, planAll_pets]
  rfl

/-- The route keeps its name although the one before it was dropped after it had that name. -/
theorem compile_without_strays :
    strays.Distinct ∧ Options.standard.includeRoutes = true ∧
      ∃ compilation outcomes, strays.compile .empty .standard = .ok compilation ∧
        compilation.routeErrors =
          [.unresolvedComponent "GET" "/pets/" "#/components/responses/Lost"] ∧
        strays.Outcomes compilation outcomes ∧
        (strays.without (droppedSites outcomes)).compile .empty .standard =
          .ok { compilation with
            routeErrors := []
            warnings := compilation.warnings.filter fun warning => !warning.isDropped } := by
  have components : strays.components = (pets "#/components/schemas/pet-v1").components := rfl
  obtain ⟨compilation, ok, errors⟩ := exists_compile_of_planAll rfl components planAll_strays
    (show Reference.name? "#/components/schemas/pet-v1" = .ok "pet-v1" from
      eq_ok_of_toOption (by decide +kernel)) (by decide +kernel)
  obtain ⟨outcomes, each, same⟩ := compile_without distinct_strays ok rfl
  exact ⟨distinct_strays, rfl, compilation, outcomes, ok, errors, each, same⟩

end Document

end SchemaCompiler
