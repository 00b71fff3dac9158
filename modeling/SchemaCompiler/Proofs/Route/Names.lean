import SchemaCompiler.Proofs.Except
import SchemaCompiler.Proofs.List
import SchemaCompiler.Proofs.Naming
import SchemaCompiler.Proofs.Table
import SchemaCompiler.Route.Basic

/-!
The names of the schemas of routes.

* `Schema.IsName`: a schema is just the name of another one;
* `Naming.NamedAs`: what the schema of a part of an operation becomes in a route;
* `nameSlots_spec`, `nameRoutes_spec`: every schema of a part of an operation that is not just a name has
  a free name of its own, which tells the operation and the part;
* `RouteContext.planAll_eq_ok_iff`: the operations are planned one by one;
* `planAll_cases`: which operations have plans.
-/

namespace SchemaCompiler

/-- A schema is just the name of another one. -/
def Schema.IsName (s : Schema) : Prop := ∃ name, s = .mk (.reference name) false

/-- A name is that of the schema for a part of an operation, perhaps with a number. -/
def Site.Names (site : Site) (name : String) : Prop :=
  ∃ slot, Naming.Variant (Naming.routeSchema site.method.name site.path slot) name

/-- A name is that of the schema for a given part of an operation, perhaps with a number. -/
def Site.NamesPart (site : Site) (slot : Naming.RouteSlot) (name : String) : Prop :=
  Naming.Variant (Naming.routeSchema site.method.name site.path slot) name

lemma Site.NamesPart.names {site : Site} {slot : Naming.RouteSlot} {name : String}
    (own : site.NamesPart slot name) : site.Names name := ⟨slot, own⟩

/-- Names that are given are given once and were free. -/
structure FreshNames (used : List String) (named : Table Schema) : Prop where
  distinct : (Table.keys named).Nodup
  free : ∀ name ∈ Table.keys named, name ∉ used

/-- A free name can be given to one more schema. -/
lemma FreshNames.append {used : List String} {named : Table Schema} (fresh : FreshNames used named)
    (base : String) (s : Schema) :
    FreshNames used (named ++ [(Naming.unique (used ++ Table.keys named) base, s)]) := by
  have new := Naming.unique_notMem (used ++ Table.keys named) base
  rw [List.mem_append, not_or] at new
  constructor
  · rw [Table.keys, List.map_append, List.map_singleton, ← List.concat_eq_append]
    exact fresh.distinct.concat new.2
  · intro name mem
    rcases Table.mem_keys_append_iff.1 mem with mem | mem
    · exact fresh.free name mem
    · rw [List.mem_singleton.1 mem]
      exact new.1

/-- What the schema of a part becomes: one that is just a name stays, and any other is referred to by a
name of its own. -/
inductive Naming.NamedAs (after : Table Schema) :
    Naming.RouteSlot × Schema → Naming.RouteSlot × Schema → Prop where
  | stays (slot : Naming.RouteSlot) (name : String) : NamedAs after (slot, .ofName name) (slot, .ofName name)
  | named {slot : Naming.RouteSlot} {s : Schema} {name : String} (own : ¬s.IsName)
      (given : (name, s) ∈ after) : NamedAs after (slot, s) (slot, .ofName name)

/-- Names that are given later change nothing. -/
lemma Naming.NamedAs.mono {named after : Table Schema} (kept : named ⊆ after)
    {part slot : Naming.RouteSlot × Schema} (as : Naming.NamedAs named part slot) :
    Naming.NamedAs after part slot := by
  cases as with
  | stays slot name => exact .stays slot name
  | named own given => exact .named own (kept given)

lemma Naming.NamedAs.slot_eq {after : Table Schema} {part slot : Naming.RouteSlot × Schema}
    (as : Naming.NamedAs after part slot) : slot.1 = part.1 := by
  cases as <;> rfl

/-- A schema that is not just a name is given one. -/
lemma Naming.NamedAs.exists_name {after : Table Schema} {part slot : Naming.RouteSlot × Schema}
    (as : Naming.NamedAs after part slot) (own : ¬part.2.IsName) :
    ∃ name, slot.2 = .ofName name ∧ (name, part.2) ∈ after := by
  cases as with
  | stays slot name => exact absurd ⟨name, rfl⟩ own
  | named _ given => exact ⟨_, rfl, given⟩

/-- What naming the schemas of some parts gives. -/
structure Naming.Given (used : List String) (site : Site) (named after : Table Schema)
    (parts slots : List (Naming.RouteSlot × Schema)) : Prop where
  fresh : FreshNames used after
  kept : named ⊆ after
  slots : List.Forall₂ (Naming.NamedAs after) parts slots
  known : ∀ name ∈ Table.keys after,
    name ∈ Table.keys named ∨ ∃ part ∈ parts, site.NamesPart part.1 name

lemma nameSlots_spec (used : List String) (site : Site) (named : Table Schema)
    (parts : List (Naming.RouteSlot × Schema)) (fresh : FreshNames used named) :
    Naming.Given used site named (nameSlots used site named parts).1 parts
      (nameSlots used site named parts).2 := by
  fun_induction nameSlots used site named parts with
  | case1 named => exact ⟨fresh, fun _ mem => mem, .nil, fun name mem => .inl mem⟩
  | case2 named slot name rest after slots eq ih =>
      obtain ⟨fresh', kept, others, known⟩ := ih fresh
      rw [eq] at fresh' kept others known
      refine ⟨fresh', kept, .cons (.stays slot name) others, fun other mem => ?_⟩
      exact (known other mem).imp_right fun ⟨part, among, own⟩ => ⟨part, .tail _ among, own⟩
  | case3 named slot s rest other name after slots eq ih =>
      obtain ⟨fresh', kept, others, known⟩ := ih (fresh.append _ s)
      rw [eq] at fresh' kept others known
      refine ⟨fresh', fun entry mem => kept (List.mem_append_left _ mem),
        .cons (.named ?_ (kept (List.mem_append_right _ (List.mem_singleton_self _)))) others, ?_⟩
      · rintro ⟨name, eq⟩
        exact other name eq
      · intro other mem
        rcases known other mem with mem | ⟨part, among, own⟩
        · rcases Table.mem_keys_append_iff.1 mem with mem | mem
          · exact .inl mem
          · rw [List.mem_singleton.1 mem]
            exact .inr ⟨(slot, s), List.mem_cons_self, Naming.variant_unique _ _⟩
        · exact .inr ⟨part, .tail _ among, own⟩

/-- What a plan becomes: a route at its place, with its parts named. -/
structure Naming.Becomes (after : Table Schema) (plan : RoutePlan) (route : Route) : Prop where
  site : route.site = plan.site
  operationId : route.operationId = plan.operationId
  slots : List.Forall₂ (Naming.NamedAs after) plan.slots route.slots

/-- What naming the schemas of routes gives. -/
structure Naming.GivenAll (used : List String) (named after : Table Schema) (plans : List RoutePlan)
    (routes : List Route) : Prop where
  fresh : FreshNames used after
  kept : named ⊆ after
  routes : List.Forall₂ (Naming.Becomes after) plans routes
  known : ∀ name ∈ Table.keys after,
    name ∈ Table.keys named ∨ ∃ plan ∈ plans, ∃ part ∈ plan.slots, plan.site.NamesPart part.1 name

theorem nameRoutes_spec (used : List String) (named : Table Schema) (plans : List RoutePlan)
    (fresh : FreshNames used named) :
    Naming.GivenAll used named (nameRoutes used named plans).1 plans
      (nameRoutes used named plans).2 := by
  induction plans generalizing named with
  | nil => exact ⟨fresh, fun _ mem => mem, .nil, fun name mem => .inl mem⟩
  | cons plan rest ih =>
      have first := nameSlots_spec used plan.site named plan.slots fresh
      obtain ⟨fresh', kept, routes, known⟩ := ih _ first.fresh
      refine ⟨fresh', fun entry mem => kept (first.kept mem), .cons ⟨rfl, rfl, ?_⟩ routes, ?_⟩
      · exact first.slots.imp fun _ _ as => as.mono kept
      · intro name mem
        rcases known name mem with mem | ⟨other, mem, own⟩
        · exact (first.known name mem).imp_right fun own => ⟨plan, List.mem_cons_self, own⟩
        · exact .inr ⟨other, List.mem_cons_of_mem _ mem, own⟩

namespace Naming.GivenAll

variable {used : List String} {named after : Table Schema} {plans : List RoutePlan} {routes : List Route}

lemma sites (all : GivenAll used named after plans routes) :
    routes.map Route.site = plans.map RoutePlan.site := by
  have each : List.Forall₂ (fun route plan => route.site = plan.site) routes plans :=
    all.routes.flip.imp fun _ _ becomes => becomes.site
  rwa [← List.forall₂_map_right_iff, ← List.forall₂_map_left_iff, List.forall₂_eq_eq_eq] at each

/-- A name that is given is that of a part of a route. -/
lemma exists_part (all : GivenAll used [] after plans routes) {name : String}
    (given : name ∈ Table.keys after) :
    ∃ route ∈ routes, ∃ part ∈ route.slots, route.site.NamesPart part.1 name := by
  obtain ⟨plan, mem, part, among, own⟩ := (all.known name given).resolve_left List.not_mem_nil
  obtain ⟨route, mem, becomes⟩ := exists_mem_of_forall₂ all.routes mem
  obtain ⟨part', among, as⟩ := exists_mem_of_forall₂ becomes.slots among
  refine ⟨route, mem, part', among, ?_⟩
  rwa [becomes.site, as.slot_eq]

/-- Schemas of parts that are not just names are given names. -/
lemma given (all : GivenAll used named after plans routes) (plan : RoutePlan) (mem : plan ∈ plans)
    (part : RouteSlot × Schema) (among : part ∈ plan.slots) (own : ¬part.2.IsName) :
    ∃ name, (name, part.2) ∈ after := by
  obtain ⟨route, -, becomes⟩ := exists_mem_of_forall₂ all.routes mem
  obtain ⟨slot, -, as⟩ := exists_mem_of_forall₂ becomes.slots among
  obtain ⟨name, -, given⟩ := as.exists_name own
  exact ⟨name, given⟩

end Naming.GivenAll

/-! ### Plans -/

/-- The plan of an operation at its place. -/
def RouteContext.planOf (context : RouteContext) (endpoint : Endpoint) :
    Except CompileError RoutePlan :=
  context.plan endpoint.site endpoint.item endpoint.operation

section

variable {context : RouteContext} {endpoint : Endpoint} {rest endpoints : List Endpoint}
  {plans : List RoutePlan} {errors : List CompileError}

lemma RouteContext.planAll_cons_ok {plan : RoutePlan} (planned : context.planOf endpoint = .ok plan) :
    context.planAll (endpoint :: rest) =
      (context.planAll rest).map fun (plans, errors) => (plan :: plans, errors) := by
  rw [planOf] at planned
  rw [planAll, planned]
  cases context.planAll rest <;> rfl

lemma RouteContext.planAll_cons_error {cause : CompileError}
    (failed : context.planOf endpoint = .error cause) :
    context.planAll (endpoint :: rest) =
      if cause.isRouteScoped then
        (context.planAll rest).map fun (plans, errors) => (plans, cause :: errors)
      else .error cause := by
  rw [planOf] at failed
  rw [planAll, failed]
  cases context.planAll rest <;> rfl

/-- **The operations are planned one by one.**  Those without a plan do not stop the others if all of
them can be dropped. -/
theorem RouteContext.planAll_eq_ok_iff :
    context.planAll endpoints = .ok (plans, errors) ↔
      (∀ endpoint ∈ endpoints, ∀ cause, context.planOf endpoint = .error cause →
        cause.isRouteScoped = true) ∧
      plans = endpoints.filterMap (fun endpoint => (context.planOf endpoint).toOption) ∧
      errors = endpoints.filterMap fun endpoint => fault? (context.planOf endpoint) := by
  induction endpoints generalizing plans errors with
  | nil =>
      rw [planAll, Except.ok.injEq, Prod.mk.injEq, eq_comm, @eq_comm _ []]
      exact ⟨fun eq => ⟨nofun, eq⟩, fun eq => eq.2⟩
  | cons endpoint rest ih =>
      rw [List.forall_mem_cons, List.filterMap_cons, List.filterMap_cons]
      cases planned : context.planOf endpoint with
      | ok plan =>
          rw [planAll_cons_ok planned, map_eq_ok_iff]
          constructor
          · rintro ⟨⟨plans', errors'⟩, ok, eq⟩
            obtain ⟨droppable, rfl, rfl⟩ := ih.1 ok
            cases eq
            exact ⟨⟨nofun, droppable⟩, rfl, rfl⟩
          · rintro ⟨⟨-, droppable⟩, rfl, rfl⟩
            exact ⟨_, ih.2 ⟨droppable, rfl, rfl⟩, rfl⟩
      | error cause =>
          rw [planAll_cons_error planned]
          split
          · next drops =>
              rw [map_eq_ok_iff]
              constructor
              · rintro ⟨⟨plans', errors'⟩, ok, eq⟩
                obtain ⟨droppable, rfl, rfl⟩ := ih.1 ok
                cases eq
                exact ⟨⟨fun _ eq => Except.error.inj eq ▸ drops, droppable⟩, rfl, rfl⟩
              · rintro ⟨⟨-, droppable⟩, rfl, rfl⟩
                exact ⟨_, ih.2 ⟨droppable, rfl, rfl⟩, rfl⟩
          · next stops =>
              exact ⟨nofun, fun ⟨⟨droppable, _⟩, _⟩ => absurd (droppable cause rfl) stops⟩

/-- Only operations that can be planned have plans. -/
lemma planAll_cases (ok : context.planAll endpoints = .ok (plans, errors)) :
    ∀ plan ∈ plans, ∃ endpoint ∈ endpoints, context.planOf endpoint = .ok plan := by
  obtain ⟨-, rfl, -⟩ := RouteContext.planAll_eq_ok_iff.1 ok
  intro plan mem
  obtain ⟨endpoint, there, planned⟩ := List.mem_filterMap.1 mem
  exact ⟨endpoint, there, eq_ok_of_toOption planned⟩

end

end SchemaCompiler
