import SchemaCompiler.MediaType
import SchemaCompiler.Naming
import SchemaCompiler.Route.Link
import SchemaCompiler.Schema.Names
import SchemaCompiler.Schema.Parser
import SchemaCompiler.Warning

/-!
Plans of routes: the schemas of an operation, each for a part of it.

The parameters of an operation come before those of its path, and those at one place make up an
object.  Of the contents of a body or response only one that is JSON counts.

* `RouteContext`: what all routes of a document are planned with;
* `ParameterGroups`: the parameters of an operation as objects;
* `jsonMedia?`: the content that counts;
* `RoutePlan`, `RouteContext.plan`: the plan of a route, or why there is none.
-/

namespace SchemaCompiler

/-- The word for a part of an operation. -/
def Naming.RouteSlot.label : Naming.RouteSlot → String
  | params => "params"
  | query => "query"
  | headers => "headers"
  | body => "body"
  | response status => s!"response {status}"

/-- The pointer to a part of an operation. -/
def Site.pointer (site : Site) (segments : List String) : String :=
  "#" ++ Json.Pointer.render (["paths", site.path, site.method.keyword] ++ segments)

/-- What the routes of a document are planned with. -/
structure RouteContext where
  /-- The parts that operations can refer to. -/
  components : Components
  /-- The names of the schemas that routes can refer to. -/
  names : List String
  /-- The names that schemas go by, where these are not those in the document. -/
  sanitized : Renaming

/-- The plan of a route. -/
structure RoutePlan where
  site : Site
  operationId : Option String
  /-- The parts of the operation that have a schema. -/
  slots : List (Naming.RouteSlot × Schema)
  bodyRequired : Bool
  warnings : List Warning

namespace RouteContext

/-- The schema at a pointer. -/
def parse (context : RouteContext) (value : Json) (pointer : String) : Except CompileError Schema :=
  (Schema.parse value pointer).map (Schema.rename context.sanitized)

end RouteContext

/-! ### Parameters -/

/-- Whether two declarations are of one parameter. -/
def Parameter.isSame (a b : Parameter) : Bool := a.name = b.name && a.location = b.location

/-- Declares a parameter, in the place of an earlier declaration if there is one. -/
def declareParameter :
    List (Located Parameter) → Located Parameter → List (Located Parameter)
  | [], declared => [declared]
  | first :: rest, declared =>
    if first.value.isSame declared.value then declared :: rest
    else first :: declareParameter rest declared

/-- The rules of an object without properties. -/
def ObjectRules.empty : ObjectRules Schema := ⟨[], [], .unspecified⟩

/-- Gives an object a property. -/
def ObjectRules.addProperty (rules : ObjectRules Schema) (name : String) (isRequired : Bool)
    (property : Schema) : ObjectRules Schema :=
  { rules with
    properties := Table.insert rules.properties name property
    required :=
      if isRequired && !rules.required.contains name then rules.required ++ [name]
      else rules.required }

/-- The parameters of an operation as objects, and the names of those that are cookies. -/
structure ParameterGroups where
  path : ObjectRules Schema
  query : ObjectRules Schema
  headers : ObjectRules Schema
  cookies : List String

namespace RouteContext

/-- The parameters of a list, with the pointers to them. -/
def locateParameters (context : RouteContext) (site : Site) (pointer : Nat → String)
    (parameters : List (Linked Parameter)) : Except CompileError (List (Located Parameter)) :=
  parameters.zipIdx.mapM fun (parameter, i) =>
    context.components.parameterSection.locate site (pointer i) parameter

/-- The parameters of an operation: those of its path, with its own in the place of them. -/
def parameters (context : RouteContext) (site : Site) (item : PathItem) (operation : Operation) :
    Except CompileError (List (Located Parameter)) := do
  let ofPath ← context.locateParameters site
    (fun i => "#" ++ Json.Pointer.render ["paths", site.path, "parameters", toString i])
    item.parameters
  let own ← context.locateParameters site (fun i => site.pointer ["parameters", toString i])
    operation.parameters
  return (ofPath ++ own).foldl declareParameter []

/-- The schema of a parameter.  Without one, anything is allowed. -/
def parameterSchema (context : RouteContext) (parameter : Located Parameter) :
    Except CompileError Schema :=
  match parameter.value.schema with
  | some value => context.parse value (parameter.pointer ++ "/schema")
  | none => .ok (.mk .any false)

/-- Puts a parameter into its group.  Parameters in the path are always required, and the names of
headers are in small letters. -/
def addParameter (context : RouteContext) (groups : ParameterGroups)
    (parameter : Located Parameter) : Except CompileError ParameterGroups :=
  let name := parameter.value.name
  let isRequired := parameter.value.required
  match parameter.value.location with
  | .path => do
    let s ← context.parameterSchema parameter
    return { groups with path := groups.path.addProperty name true s }
  | .query => do
    let s ← context.parameterSchema parameter
    return { groups with query := groups.query.addProperty name isRequired s }
  | .header => do
    let s ← context.parameterSchema parameter
    return { groups with headers := groups.headers.addProperty name.toLower isRequired s }
  | .cookie => return { groups with cookies := groups.cookies ++ [name] }

/-- Puts parameters into their groups. -/
def addParameters (context : RouteContext) :
    ParameterGroups → List (Located Parameter) → Except CompileError ParameterGroups
  | groups, [] => .ok groups
  | groups, parameter :: rest => do
    addParameters context (← context.addParameter groups parameter) rest

/-- The parameters of an operation in their groups. -/
def parameterGroups (context : RouteContext) (site : Site) (item : PathItem)
    (operation : Operation) : Except CompileError ParameterGroups := do
  let parameters ← context.parameters site item operation
  context.addParameters ⟨.empty, .empty, .empty, []⟩ parameters

end RouteContext

/-- The part of an operation that an object describes, if the object has properties. -/
def objectSlot (slot : Naming.RouteSlot) (rules : ObjectRules Schema) :
    List (Naming.RouteSlot × Schema) :=
  if rules.properties.isEmpty then [] else [(slot, .mk (.object rules) false)]

/-! ### Contents -/

/-- Whether the media type of a content has a property. -/
def hasMediaType (test : MediaType → Bool) (content : String × Media) : Bool :=
  (MediaType.ofText? content.1).any test

/-- The content that is JSON, or else the first that is written as JSON. -/
def jsonMedia? (contents : Table Media) : Option (String × Media) :=
  (contents.find? (hasMediaType MediaType.isJson)).or
    (contents.find? (hasMediaType MediaType.isStructuredJson))

/-- What a body or a response adds to a plan. -/
structure ContentPlan where
  slots : List (Naming.RouteSlot × Schema)
  warnings : List Warning

namespace RouteContext

/-- The schema at a pointer for a part of an operation.  If it is just the name of another one, then
that has to be there. -/
def slotSchema (context : RouteContext) (site : Site) (value : Json) (pointer : String) :
    Except CompileError Schema := do
  let s ← context.parse value pointer
  match s with
  | .mk (.reference name) false =>
    if context.names.contains name then return s
    else throw (.danglingReference s!"{site.method.name} {site.path}" name)
  | _ => return s

/-- The plan for the contents at a pointer. -/
def planContents (context : RouteContext) (site : Site) (slot : Naming.RouteSlot)
    (pointer : String) (contents : Table Media) : Except CompileError ContentPlan :=
  match jsonMedia? contents with
  | none =>
    let warnings :=
      if contents.isEmpty then []
      else [.noJsonContent site.method.name site.path slot.label]
    .ok ⟨[], warnings⟩
  | some (_, ⟨none⟩) => .ok ⟨[], []⟩
  | some (key, ⟨some value⟩) => do
    let s ← context.slotSchema site value
      (pointer ++ Json.Pointer.render ["content", key, "schema"])
    return ⟨[(slot, s)], []⟩

/-- The plan for the body of a request, and whether there has to be one. -/
def planBody (context : RouteContext) (site : Site) :
    Option (Linked RequestBody) → Except CompileError (ContentPlan × Bool)
  | none => .ok (⟨[], []⟩, false)
  | some body => do
    let body ← context.components.bodySection.locate site (site.pointer ["requestBody"]) body
    let plan ← context.planContents site .body body.pointer body.value.content
    return (plan, !plan.slots.isEmpty && body.value.required)

/-- The plan for the response of a status. -/
def planResponse (context : RouteContext) (site : Site) (status : String)
    (response : Linked Response) : Except CompileError ContentPlan := do
  let response ←
    context.components.responseSection.locate site (site.pointer ["responses", status]) response
  context.planContents site (.response status) response.pointer response.value.content

/-! ### Routes -/

/-- The plan of a route.  Its path has to be a template, and all placeholders in it have to be
parameters. -/
def plan (context : RouteContext) (site : Site) (item : PathItem) (operation : Operation) :
    Except CompileError RoutePlan := do
  let method := site.method.name
  let placeholders ← match PathTemplate.placeholders site.path with
    | .ok placeholders => .ok placeholders
    | .error cause => .error (.invalidTemplate method site.path cause)
  let groups ← context.parameterGroups site item operation
  let missing := placeholders.filter fun name => !groups.path.required.contains name
  if !missing.isEmpty then throw (.undeclaredPlaceholders method site.path missing)
  let (body, bodyRequired) ← context.planBody site operation.requestBody
  let responses ← operation.responses.mapM fun (status, response) =>
    context.planResponse site status response
  return {
    site
    operationId := operation.operationId
    slots := objectSlot .params groups.path ++ objectSlot .query groups.query ++
      objectSlot .headers groups.headers ++ body.slots ++ responses.flatMap ContentPlan.slots
    bodyRequired
    warnings := groups.cookies.map (.cookieIgnored method site.path ·) ++ body.warnings ++
      responses.flatMap ContentPlan.warnings }

end RouteContext

end SchemaCompiler
