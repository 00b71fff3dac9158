import SchemaCompiler.Resolution
import SchemaCompiler.Route.Plan

/-!
Routes: the operations of a document, with a named schema for each of their parts.

An operation whose route cannot be planned for a reason of its own is dropped; all other faults stop
the document.  A schema that is just the name of another stays as it is, and all other schemas get
names of their own, which the resolution of the document then settles.

* `Route`: a route, with `Route.request` and `Route.responses` for its parts;
* `RouteContext.planAll`: the plans of all operations;
* `nameSlots`: the naming of schemas;
* `RouteTable.build`: the routes of a document.
-/

namespace SchemaCompiler

/-- A route. -/
structure Route where
  site : Site
  operationId : Option String
  /-- The parts of the operation that have a schema. -/
  slots : List (Naming.RouteSlot × Schema)
  bodyRequired : Bool

namespace Route

/-- The parts of a request. -/
def request (route : Route) : List (Naming.RouteSlot × Schema) :=
  route.slots.filter fun
    | (.response _, _) => false
    | _ => true

/-- The responses by status. -/
def responses (route : Route) : Table Schema :=
  route.slots.filterMap fun
    | (.response status, s) => some (status, s)
    | _ => none

/-- The route with the references in its schemas renamed. -/
def rename (f : Renaming) (route : Route) : Route :=
  { route with slots := route.slots.map fun (slot, s) => (slot, s.rename f) }

end Route

/-! ### Plans -/

/-- An operation at its place in a document. -/
structure Endpoint where
  site : Site
  item : PathItem
  operation : Operation

/-- The operations of a document, path by path. -/
def Document.endpoints (document : Document) : List Endpoint :=
  document.paths.flatMap fun (path, item) =>
    item.operations.map fun (method, operation) => ⟨⟨method, path⟩, item, operation⟩

/-- The plans of the operations that have one, and why the others have none. -/
def RouteContext.planAll (context : RouteContext) :
    List Endpoint → Except CompileError (List RoutePlan × List CompileError)
  | [] => .ok ([], [])
  | endpoint :: rest =>
    match context.plan endpoint.site endpoint.item endpoint.operation with
    | .ok plan => do
      let (plans, errors) ← planAll context rest
      return (plan :: plans, errors)
    | .error error =>
      if error.isRouteScoped then do
        let (plans, errors) ← planAll context rest
        return (plans, error :: errors)
      else .error error

/-! ### Names -/

/-- Names the schemas of parts of an operation, after the schemas that already have names.  Schemas
that are just names stay as they are. -/
def nameSlots (used : List String) (site : Site) (named : Table Schema) :
    List (Naming.RouteSlot × Schema) → Table Schema × List (Naming.RouteSlot × Schema)
  | [] => (named, [])
  | (slot, .mk (.reference name) false) :: rest =>
    let (named, slots) := nameSlots used site named rest
    (named, (slot, .ofName name) :: slots)
  | (slot, s) :: rest =>
    let name := Naming.unique (used ++ Table.keys named)
      (Naming.routeSchema site.method.name site.path slot)
    let (named, slots) := nameSlots used site (named ++ [(name, s)]) rest
    (named, (slot, .ofName name) :: slots)

/-- Names the schemas of routes. -/
def nameRoutes (used : List String) (named : Table Schema) :
    List RoutePlan → Table Schema × List Route
  | [] => (named, [])
  | plan :: rest =>
    let (named, slots) := nameSlots used plan.site named plan.slots
    let (named, routes) := nameRoutes used named rest
    (named, ⟨plan.site, plan.operationId, slots, plan.bodyRequired⟩ :: routes)

/-! ### The routes of a document -/

/-- The routes of a document, with all schemas resolved. -/
structure RouteTable where
  resolution : Resolution
  routes : List Route
  /-- Why operations were dropped. -/
  errors : List CompileError
  warnings : List Warning

/-- The routes of a document with some schemas. -/
def RouteTable.build (document : Document) (components : Table Schema) (sanitized : Renaming) :
    Except CompileError RouteTable := do
  let names := Table.keys components
  let (plans, errors) ←
    RouteContext.planAll ⟨document.components, names, sanitized⟩ document.endpoints
  let (candidates, routes) := nameRoutes names [] plans
  let resolution ← Resolution.resolve components candidates
  return {
    resolution
    routes := routes.map (Route.rename (.ofTable resolution.renames))
    errors
    warnings := plans.flatMap RoutePlan.warnings }

end SchemaCompiler
