import SchemaCompiler.Proofs.Route.Parameters

/-!
The schemas that the parts of an operation are given.

* `RouteContext.Source`: the schema of a part, be it the object of the parameters at one location, or the
  schema of a body or a response in the content that is JSON;
* `RouteContext.source_of_mem_slots`: a part of a plan has the schema that it is given;
* `Components.asWritten`: the context in which schemas are read as they are written;
* `RouteContext.parameterGroups_eq`: parameters are grouped before names are changed as they are after;
* `RouteContext.Source.exists_asWritten`: what a part is given is what is written with its names changed;
* `RouteContext.exists_source_of_part`: what the parts of a route are named for.
-/

namespace SchemaCompiler

/-- The part of an operation that the parameters at one location make up. -/
def ParameterLocation.slot? : ParameterLocation → Option Naming.RouteSlot
  | .path => some .params
  | .query => some .query
  | .header => some .headers
  | .cookie => none

/-- The schema that a part of an operation is given. -/
inductive RouteContext.Source (context : RouteContext) (site : Site) (item : PathItem)
    (operation : Operation) : Naming.RouteSlot → Schema → Prop where
  | parameters {location : ParameterLocation} {slot : Naming.RouteSlot} {groups : ParameterGroups}
      (part : location.slot? = some slot)
      (grouped : context.parameterGroups site item operation = .ok groups) :
      Source context site item operation slot (groups.object location)
  | body {body : Linked RequestBody} {located : Located RequestBody} {key : String} {fragment : Json}
      {s : Schema} (given : operation.requestBody = some body)
      (located_eq : context.components.bodySection.locate site (site.pointer ["requestBody"]) body =
        .ok located)
      (chosen : jsonMedia? located.value.content = some (key, ⟨some fragment⟩))
      (read : context.parse fragment
        (located.pointer ++ Json.Pointer.render ["content", key, "schema"]) = .ok s) :
      Source context site item operation .body s
  | response {status : String} {response : Linked Response} {located : Located Response} {key : String}
      {fragment : Json} {s : Schema} (mem : (status, response) ∈ operation.responses)
      (located_eq : context.components.responseSection.locate site
        (site.pointer ["responses", status]) response = .ok located)
      (chosen : jsonMedia? located.value.content = some (key, ⟨some fragment⟩))
      (read : context.parse fragment
        (located.pointer ++ Json.Pointer.render ["content", key, "schema"]) = .ok s) :
      Source context site item operation (.response status) s

/-! ### The parts of a plan -/

namespace RouteContext

variable {context : RouteContext} {site : Site} {item : PathItem} {operation : Operation}
  {slot : Naming.RouteSlot} {s : Schema}

/-- What contents add to a plan. -/
lemma planContents_cases {part : Naming.RouteSlot} {pointer : String} {contents : Table Media}
    {plan : ContentPlan} (ok : context.planContents site part pointer contents = .ok plan)
    (mem : (slot, s) ∈ plan.slots) :
    slot = part ∧ ∃ key fragment, jsonMedia? contents = some (key, ⟨some fragment⟩) ∧
      context.slotSchema site fragment (pointer ++ Json.Pointer.render ["content", key, "schema"]) =
        .ok s := by
  rw [planContents] at ok
  split at ok
  · cases ok
    cases mem
  · cases ok
    cases mem
  · next key fragment chosen =>
      obtain ⟨t, taken, ok⟩ := bind_eq_ok_iff.1 ok
      cases ok
      obtain ⟨rfl, rfl⟩ := Prod.mk.inj (List.mem_singleton.1 mem)
      exact ⟨rfl, key, fragment, chosen, taken⟩

/-- **A part of a plan has the schema that it is given.**  If that is just a name, then it is known. -/
theorem source_of_mem_slots {plan : RoutePlan} (ok : context.plan site item operation = .ok plan)
    (mem : (slot, s) ∈ plan.slots) :
    context.Source site item operation slot s ∧
      ∀ name, s = .mk (.reference name) false → name ∈ context.names := by
  obtain ⟨groups, body, bodyRequired, responses, grouped, planned, answered, -, -, -, slots⟩ :=
    plan_cases ok
  have parameters : ∀ (location : ParameterLocation) (part : Naming.RouteSlot),
      location.slot? = some part → (slot, s) ∈ objectSlot part (groups.at location) →
      context.Source site item operation slot s ∧
        ∀ name, s = .mk (.reference name) false → name ∈ context.names := by
    intro location part own mem
    rw [objectSlot] at mem
    split at mem
    · cases mem
    · obtain ⟨rfl, rfl⟩ := Prod.mk.inj (List.mem_singleton.1 mem)
      exact ⟨.parameters own grouped, fun name eq => by cases eq⟩
  rw [slots] at mem
  simp only [List.mem_append] at mem
  rcases mem with (((mem | mem) | mem) | mem) | mem
  · exact parameters .path .params rfl mem
  · exact parameters .query .query rfl mem
  · exact parameters .header .headers rfl mem
  · cases given : operation.requestBody with
    | none =>
        rw [given] at planned
        cases planned
        cases mem
    | some request =>
        rw [given] at planned
        obtain ⟨located, found, planned⟩ := bind_eq_ok_iff.1 planned
        obtain ⟨contents, taken, eq⟩ := bind_eq_ok_iff.1 planned
        cases eq
        obtain ⟨rfl, key, fragment, chosen, read⟩ := planContents_cases taken mem
        obtain ⟨parsed, known⟩ := slotSchema_eq_ok_iff.1 read
        exact ⟨.body given found chosen parsed, known⟩
  · obtain ⟨contents, among, mem⟩ := List.mem_flatMap.1 mem
    obtain ⟨⟨status, response⟩, own, planned⟩ :=
      exists_mem_of_forall₂ (mapM_eq_ok_iff.1 answered).flip among
    obtain ⟨located, found, planned⟩ := bind_eq_ok_iff.1 planned
    obtain ⟨rfl, key, fragment, chosen, read⟩ := planContents_cases planned mem
    obtain ⟨parsed, known⟩ := slotSchema_eq_ok_iff.1 read
    exact ⟨.response own found chosen parsed, known⟩

end RouteContext

/-! ### Names as they are written -/

/-- What routes are planned with when schemas are read as they are written. -/
def Components.asWritten (components : Components) : RouteContext := ⟨components, [], fun _ => none⟩

/-- The groups with the references in their schemas renamed. -/
def ParameterGroups.rename (f : Renaming) (groups : ParameterGroups) : ParameterGroups :=
  ⟨groups.path.rename f, groups.query.rename f, groups.headers.rename f, groups.cookies⟩

lemma ObjectRules.rename_addProperty (f : Renaming) (rules : ObjectRules Schema) (name : String)
    (isRequired : Bool) (property : Schema) :
    rename f (rules.addProperty name isRequired property) =
      (rename f rules).addProperty name isRequired (property.rename f) := by
  rw [rename_eq, rename_eq, map, map, addProperty, addProperty, Table.mapValues_insert]

lemma ParameterGroups.object_rename (f : Renaming) (groups : ParameterGroups)
    (location : ParameterLocation) :
    (groups.rename f).object location = (groups.object location).rename f := by
  cases location <;> rfl

namespace RouteContext

variable {context : RouteContext} {site : Site} {item : PathItem} {operation : Operation}
  {slot : Naming.RouteSlot} {s : Schema}

lemma parse_eq (fragment : Json) (pointer : String) :
    context.parse fragment pointer =
      (context.components.asWritten.parse fragment pointer).map (Schema.rename context.sanitized) := by
  have same : ∀ s : Schema, s.rename (fun _ => none) = s := fun s =>
    Schema.rename_eq_self fun name _ => rfl
  rw [parse, parse]
  cases Schema.parse fragment pointer with
  | error fault => rfl
  | ok s => exact congrArg (fun t => Except.ok (t.rename context.sanitized)) (same s).symm

lemma parameterSchema_eq (parameter : Located Parameter) :
    context.parameterSchema parameter =
      (context.components.asWritten.parameterSchema parameter).map (Schema.rename context.sanitized) := by
  rw [parameterSchema, parameterSchema]
  cases parameter.value.schema with
  | none => rfl
  | some fragment => exact parse_eq _ _

/-- It makes no difference whether names are changed before a parameter is put into its group. -/
lemma addParameter_eq (groups : ParameterGroups) (parameter : Located Parameter) :
    context.addParameter (groups.rename context.sanitized) parameter =
      (context.components.asWritten.addParameter groups parameter).map
        (ParameterGroups.rename context.sanitized) := by
  rw [addParameter, addParameter, parameterSchema_eq]
  cases place : parameter.value.location with
  | cookie => rfl
  | _ =>
      cases context.components.asWritten.parameterSchema parameter with
      | error fault => rfl
      | ok s => exact congrArg Except.ok (by simp [ParameterGroups.rename, ObjectRules.rename_addProperty])

lemma addParameters_eq (groups : ParameterGroups) (parameters : List (Located Parameter)) :
    context.addParameters (groups.rename context.sanitized) parameters =
      (context.components.asWritten.addParameters groups parameters).map
        (ParameterGroups.rename context.sanitized) := by
  induction parameters generalizing groups with
  | nil => rfl
  | cons first rest ih =>
      rw [addParameters, addParameters, addParameter_eq]
      cases context.components.asWritten.addParameter groups first with
      | error fault => rfl
      | ok next => exact ih next

/-- Parameters are grouped in the same way whether names are changed before or after. -/
theorem parameterGroups_eq :
    context.parameterGroups site item operation =
      (context.components.asWritten.parameterGroups site item operation).map
        (ParameterGroups.rename context.sanitized) := by
  have listed : context.components.asWritten.parameters site item operation =
      context.parameters site item operation := rfl
  rw [parameterGroups, parameterGroups, listed]
  cases context.parameters site item operation with
  | error fault => rfl
  | ok parameters => exact addParameters_eq ⟨.empty, .empty, .empty, []⟩ parameters

/-- **What a part is given is what is written**, with its names changed. -/
theorem Source.exists_asWritten (source : context.Source site item operation slot s) :
    ∃ written, context.components.asWritten.Source site item operation slot written ∧
      s = written.rename context.sanitized := by
  cases source with
  | parameters part grouped =>
      rw [parameterGroups_eq, map_eq_ok_iff] at grouped
      obtain ⟨groups, grouped', rfl⟩ := grouped
      exact ⟨_, .parameters part grouped', ParameterGroups.object_rename _ _ _⟩
  | body given located chosen read =>
      rw [parse_eq, map_eq_ok_iff] at read
      obtain ⟨written, read', rfl⟩ := read
      exact ⟨written, .body given located chosen read', rfl⟩
  | response mem located chosen read =>
      rw [parse_eq, map_eq_ok_iff] at read
      obtain ⟨written, read', rfl⟩ := read
      exact ⟨written, .response mem located chosen read', rfl⟩

/-! ### The parts of a route -/

/-- A schema that has become a name was one. -/
lemma exists_eq_ofName_of_rename {f : Renaming} {s : Schema} {name : String}
    (eq : Schema.ofName name = s.rename f) : ∃ old, s = .ofName old ∧ name = f.apply old := by
  obtain ⟨kind, nullable⟩ := s
  rw [Schema.rename_mk, Schema.ofName] at eq
  cases kind with
  | reference old =>
      cases eq
      exact ⟨old, rfl, rfl⟩
  | _ => cases eq

/-- **What the parts of a route are named for**: a schema that is written as the name of something known,
or any other schema, under a name of its own. -/
theorem exists_source_of_part {endpoints : List Endpoint} {plans : List RoutePlan}
    {errors : List CompileError} {used : List String} {named after : Table Schema} {routes : List Route}
    (planned : context.planAll endpoints = .ok (plans, errors))
    (given : Naming.GivenAll used named after plans routes) {route : Route} (mem : route ∈ routes) :
    ∃ endpoint ∈ endpoints, endpoint.site = route.site ∧ ∀ slot s, (slot, s) ∈ route.slots →
      ∃ written name, context.components.asWritten.Source endpoint.site endpoint.item endpoint.operation
          slot written ∧ s = .ofName name ∧
        ((∃ old, written = .ofName old ∧ name = context.sanitized.apply old ∧ name ∈ context.names) ∨
          ¬written.IsName ∧ (name, written.rename context.sanitized) ∈ after) := by
  obtain ⟨plan, among, becomes⟩ := exists_mem_of_forall₂ given.routes.flip mem
  obtain ⟨endpoint, there, ok⟩ := planAll_cases planned plan among
  obtain ⟨-, -, -, -, -, -, -, site, -, -, -⟩ := plan_cases ok
  refine ⟨endpoint, there, site.symm.trans becomes.site.symm, fun slot s mem => ?_⟩
  obtain ⟨part, planned, as⟩ := exists_mem_of_forall₂ becomes.slots.flip mem
  obtain ⟨source, known⟩ := source_of_mem_slots ok planned
  obtain ⟨written, source, renamed⟩ := source.exists_asWritten
  cases as with
  | stays _ name =>
      obtain ⟨old, rfl, rfl⟩ := exists_eq_ofName_of_rename renamed
      exact ⟨_, _, source, rfl, .inl ⟨old, rfl, rfl, known _ rfl⟩⟩
  | @named _ s name own given =>
      obtain rfl : s = written.rename context.sanitized := renamed
      refine ⟨written, name, source, rfl, .inr ⟨?_, given⟩⟩
      rintro ⟨old, rfl⟩
      exact own ⟨context.sanitized.apply old, rfl⟩

end RouteContext

end SchemaCompiler
