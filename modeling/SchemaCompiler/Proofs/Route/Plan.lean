import SchemaCompiler.Proofs.Route.Names
import SchemaCompiler.Proofs.Schema.Part

/-!
The schemas that a planned operation takes.

Of the parameters of an operation those that are sent in its path, its query or its headers take part,
and of headers whose names differ only in capital letters the last.  Of the contents of a body or a
response the one that is JSON does.

* `RouteContext.Takes`: the fragments of the schemas that an operation takes;
* `undoubled_parameters`: no parameter is declared twice;
* `RouteContext.holds_of_takes`: what a schema that is taken refers to is a component, or is referred to
  by a part of the plan.
-/

namespace SchemaCompiler

/-! ### Parameters -/

/-- The name under which a parameter is grouped. -/
def Parameter.key (parameter : Parameter) : String :=
  match parameter.location with
  | .header => parameter.name.toLower
  | _ => parameter.name

/-- The parameters at one location. -/
def ParameterGroups.at (groups : ParameterGroups) : ParameterLocation → ObjectRules Schema
  | .path => groups.path
  | .query => groups.query
  | .header => groups.headers
  | .cookie => .empty

/-- Parameters of which none is declared twice. -/
def Undoubled (parameters : List (Located Parameter)) : Prop :=
  parameters.Pairwise fun a b => a.value.isSame b.value = false

lemma Parameter.isSame_iff {a b : Parameter} :
    a.isSame b = true ↔ a.name = b.name ∧ a.location = b.location := by
  simp [isSame]

lemma mem_declareParameter {parameters : List (Located Parameter)}
    {declared parameter : Located Parameter} (mem : parameter ∈ declareParameter parameters declared) :
    parameter = declared ∨ parameter ∈ parameters := by
  induction parameters with
  | nil => exact .inl (List.mem_singleton.1 mem)
  | cons first rest ih =>
      rw [declareParameter] at mem
      split at mem
      · exact (List.mem_cons.1 mem).imp_right (List.mem_cons_of_mem _)
      · rcases List.mem_cons.1 mem with rfl | mem
        · exact .inr List.mem_cons_self
        · exact (ih mem).imp_right (List.mem_cons_of_mem _)

/-- A parameter takes the place of an earlier declaration. -/
lemma Undoubled.declare {parameters : List (Located Parameter)} (undoubled : Undoubled parameters)
    (declared : Located Parameter) : Undoubled (declareParameter parameters declared) := by
  induction parameters with
  | nil => exact List.pairwise_singleton _ _
  | cons first rest ih =>
      obtain ⟨apart, others⟩ := List.pairwise_cons.1 undoubled
      rw [declareParameter]
      split
      · next same =>
          refine List.pairwise_cons.2 ⟨fun parameter mem => ?_, others⟩
          obtain ⟨name, location⟩ := Parameter.isSame_iff.1 same
          have := apart parameter mem
          rwa [Parameter.isSame, name, location] at this
      · next other =>
          refine List.pairwise_cons.2 ⟨fun parameter mem => ?_, ih others⟩
          rcases mem_declareParameter mem with rfl | mem
          · exact Bool.eq_false_iff.2 other
          · exact apart parameter mem

lemma undoubled_foldl {before : List (Located Parameter)} (undoubled : Undoubled before)
    (declared : List (Located Parameter)) : Undoubled (declared.foldl declareParameter before) := by
  induction declared generalizing before with
  | nil => exact undoubled
  | cons first rest ih => exact ih (undoubled.declare first)

variable {context : RouteContext} {site : Site} {item : PathItem} {operation : Operation}

/-- No parameter of an operation is declared twice. -/
lemma undoubled_parameters {parameters : List (Located Parameter)}
    (ok : context.parameters site item operation = .ok parameters) : Undoubled parameters := by
  obtain ⟨ofPath, -, ok⟩ := bind_eq_ok_iff.1 ok
  obtain ⟨own, -, ok⟩ := bind_eq_ok_iff.1 ok
  cases ok
  exact undoubled_foldl List.Pairwise.nil _

/-- A later parameter at the same location has another key: parameters are not declared twice, though
headers can differ in capital letters alone. -/
lemma key_ne_of_later {earlier later : List (Located Parameter)} {parameter : Located Parameter}
    (declared : context.parameters site item operation = .ok (earlier ++ parameter :: later))
    (sent : parameter.value.location ≠ .cookie)
    (last : parameter.value.location = .header → ∀ other ∈ later, other.value.location = .header →
      other.value.name.toLower ≠ parameter.value.name.toLower)
    (other : Located Parameter) (mem : other ∈ later)
    (same : other.value.location = parameter.value.location) :
    other.value.key ≠ parameter.value.key := by
  rw [Parameter.key, Parameter.key, same]
  cases place : parameter.value.location with
  | header => exact last place other mem (same.trans place)
  | cookie => exact absurd place sent
  | _ =>
      have undoubled := (List.pairwise_append.1 (undoubled_parameters declared)).2.1
      have single := (List.pairwise_cons.1 undoubled).1 other mem
      exact fun eq => Bool.eq_false_iff.1 single (Parameter.isSame_iff.2 ⟨eq.symm, same.symm⟩)

/-! ### Grouping -/

lemma ObjectRules.get?_addProperty (rules : ObjectRules Schema) (name other : String)
    (isRequired : Bool) (property : Schema) :
    Table.get? (rules.addProperty name isRequired property).properties other =
      if name = other then some property else Table.get? rules.properties other :=
  Table.get?_insert rules.properties name other property

lemma ObjectRules.mem_required_addProperty_iff {rules : ObjectRules Schema} {name other : String}
    {isRequired : Bool} {property : Schema} :
    other ∈ (rules.addProperty name isRequired property).required ↔
      other ∈ rules.required ∨ isRequired = true ∧ name = other := by
  rw [addProperty]
  dsimp only
  by_cases there : name ∈ rules.required
  · simp only [List.contains_iff_mem.2 there, Bool.not_true, Bool.and_false, Bool.false_eq_true,
      if_false, iff_self_or, and_imp]
    rintro - rfl
    exact there
  · cases isRequired <;> simp [there, eq_comm]

/-- A parameter is a property of the rules of its location, and the rules of the others stay. -/
lemma addParameter_at {groups after : ParameterGroups} {parameter : Located Parameter}
    (ok : context.addParameter groups parameter = .ok after) (location : ParameterLocation) :
    ((parameter.value.location = location → location = .cookie) ∧
        after.at location = groups.at location) ∨
      parameter.value.location = location ∧ location ≠ .cookie ∧
        ∃ s, context.parameterSchema parameter = .ok s ∧
          after.at location = (groups.at location).addProperty parameter.value.key
            (location = .path || parameter.value.required) s := by
  rw [RouteContext.addParameter] at ok
  rw [Parameter.key]
  cases place : parameter.value.location with
  | cookie =>
      rw [place] at ok
      cases ok
      exact .inl ⟨Eq.symm, by cases location <;> rfl⟩
  | _ =>
      rw [place] at ok
      obtain ⟨s, parsed, ok⟩ := bind_eq_ok_iff.1 ok
      cases ok
      cases location <;>
        first
          | exact .inl ⟨nofun, rfl⟩
          | exact .inr ⟨rfl, nofun, s, parsed, rfl⟩

/-- A parameter is put into its group, and what has another place or name stays. -/
lemma addParameter_spec {groups after : ParameterGroups} {parameter : Located Parameter}
    (ok : context.addParameter groups parameter = .ok after) :
    (parameter.value.location ≠ .cookie → ∃ s, context.parameterSchema parameter = .ok s ∧
      Table.get? (after.at parameter.value.location).properties parameter.value.key = some s) ∧
    ∀ location key, (parameter.value.location = location → parameter.value.key ≠ key) →
      Table.get? (after.at location).properties key =
        Table.get? (groups.at location).properties key := by
  constructor
  · intro sent
    rcases addParameter_at ok parameter.value.location with ⟨stays, -⟩ | ⟨-, -, s, parsed, added⟩
    · exact absurd (stays rfl) sent
    · exact ⟨s, parsed, by rw [added, ObjectRules.get?_addProperty, if_pos rfl]⟩
  · intro location key other
    rcases addParameter_at ok location with ⟨-, same⟩ | ⟨place, -, s, -, added⟩
    · rw [same]
    · rw [added, ObjectRules.get?_addProperty, if_neg (other place)]

/-- What later parameters do not replace stays. -/
lemma addParameters_keep {groups after : ParameterGroups} {parameters : List (Located Parameter)}
    (ok : context.addParameters groups parameters = .ok after) {location : ParameterLocation}
    {key : String} (other : ∀ parameter ∈ parameters, parameter.value.location = location →
      parameter.value.key ≠ key) :
    Table.get? (after.at location).properties key = Table.get? (groups.at location).properties key := by
  induction parameters generalizing groups with
  | nil =>
      cases ok
      rfl
  | cons first rest ih =>
      rw [RouteContext.addParameters, bind_eq_ok_iff] at ok
      obtain ⟨next, added, ok⟩ := ok
      rw [ih ok fun parameter mem => other parameter (List.mem_cons_of_mem _ mem)]
      exact (addParameter_spec added).2 location key (other first List.mem_cons_self)

/-- A parameter that no later one replaces is a property of its group. -/
lemma addParameters_spec {groups after : ParameterGroups} {earlier later : List (Located Parameter)}
    {parameter : Located Parameter}
    (ok : context.addParameters groups (earlier ++ parameter :: later) = .ok after)
    (sent : parameter.value.location ≠ .cookie)
    (last : ∀ other ∈ later, other.value.location = parameter.value.location →
      other.value.key ≠ parameter.value.key) :
    ∃ s, context.parameterSchema parameter = .ok s ∧
      Table.get? (after.at parameter.value.location).properties parameter.value.key = some s := by
  induction earlier generalizing groups with
  | nil =>
      rw [List.nil_append, RouteContext.addParameters, bind_eq_ok_iff] at ok
      obtain ⟨next, added, ok⟩ := ok
      obtain ⟨s, parsed, there⟩ := (addParameter_spec added).1 sent
      exact ⟨s, parsed, by rw [addParameters_keep ok last, there]⟩
  | cons first rest ih =>
      rw [List.cons_append, RouteContext.addParameters, bind_eq_ok_iff] at ok
      obtain ⟨next, -, ok⟩ := ok
      exact ih ok

/-! ### Plans -/

/-- The fragments of the schemas that an operation takes. -/
inductive RouteContext.Takes (context : RouteContext) (site : Site) (item : PathItem)
    (operation : Operation) : Json → Prop where
  | parameter {earlier later : List (Located Parameter)} {parameter : Located Parameter}
      {fragment : Json}
      (declared : context.parameters site item operation = .ok (earlier ++ parameter :: later))
      (sent : parameter.value.location ≠ .cookie)
      (last : parameter.value.location = .header → ∀ other ∈ later, other.value.location = .header →
        other.value.name.toLower ≠ parameter.value.name.toLower)
      (given : parameter.value.schema = some fragment) : Takes context site item operation fragment
  | body {body : Linked RequestBody} {located : Located RequestBody} {key : String} {fragment : Json}
      (given : operation.requestBody = some body)
      (located_eq : context.components.bodySection.locate site (site.pointer ["requestBody"]) body =
        .ok located)
      (chosen : jsonMedia? located.value.content = some (key, ⟨some fragment⟩)) :
      Takes context site item operation fragment
  | response {status : String} {response : Linked Response} {located : Located Response} {key : String}
      {fragment : Json} (mem : (status, response) ∈ operation.responses)
      (located_eq : context.components.responseSection.locate site
        (site.pointer ["responses", status]) response = .ok located)
      (chosen : jsonMedia? located.value.content = some (key, ⟨some fragment⟩)) :
      Takes context site item operation fragment

/-- What an operation takes depends on the components alone. -/
lemma RouteContext.Takes.congr {other : RouteContext} (same : context.components = other.components)
    {fragment : Json} (takes : context.Takes site item operation fragment) :
    other.Takes site item operation fragment := by
  obtain ⟨components, names, sanitized⟩ := context
  obtain ⟨components', names', sanitized'⟩ := other
  obtain rfl : components = components' := same
  cases takes with
  | parameter declared sent last given => exact .parameter declared sent last given
  | body given located chosen => exact .body given located chosen
  | response mem located chosen => exact .response mem located chosen

/-- What a plan consists of. -/
lemma RouteContext.plan_cases {plan : RoutePlan} (ok : context.plan site item operation = .ok plan) :
    ∃ groups body bodyRequired responses,
      context.parameterGroups site item operation = .ok groups ∧
      context.planBody site operation.requestBody = .ok (body, bodyRequired) ∧
      operation.responses.mapM (fun (status, response) => context.planResponse site status response) =
        .ok responses ∧
      plan.site = site ∧ plan.operationId = operation.operationId ∧
      plan.warnings = groups.cookies.map (.cookieIgnored site.method.name site.path ·) ++
        body.warnings ++ responses.flatMap ContentPlan.warnings ∧
      plan.slots = objectSlot .params groups.path ++ objectSlot .query groups.query ++
        objectSlot .headers groups.headers ++ body.slots ++ responses.flatMap ContentPlan.slots := by
  rw [RouteContext.plan] at ok
  split at ok
  · next placeholders _ =>
      obtain ⟨_, -, ok⟩ := bind_eq_ok_iff.1 ok
      obtain ⟨groups, grouped, ok⟩ := bind_eq_ok_iff.1 ok
      dsimp only at ok
      split at ok
      · cases ok
      · obtain ⟨⟨body, bodyRequired⟩, planned, ok⟩ := bind_eq_ok_iff.1 ok
        obtain ⟨responses, answered, ok⟩ := bind_eq_ok_iff.1 ok
        cases ok
        exact ⟨groups, body, bodyRequired, responses, grouped, planned, answered, rfl, rfl, rfl, rfl⟩
  · cases ok

/-- A schema is held by the parts of a plan: what it refers to is a component or is referred to by a
part that gets a name of its own. -/
def RouteContext.Holds (context : RouteContext) (slots : List (Naming.RouteSlot × Schema))
    (s : Schema) : Prop :=
  ∀ target ∈ s.references, target ∈ context.names ∨
    ∃ entry ∈ slots, ¬entry.2.IsName ∧ target ∈ entry.2.references

lemma RouteContext.Holds.mono {slots others : List (Naming.RouteSlot × Schema)} {s : Schema}
    (holds : context.Holds slots s) (subset : slots ⊆ others) : context.Holds others s :=
  fun target refers => (holds target refers).imp_right fun ⟨entry, mem, rest⟩ =>
    ⟨entry, subset mem, rest⟩

/-- A part that gets a name of its own holds what is inside. -/
lemma RouteContext.holds_of_mem {slots : List (Naming.RouteSlot × Schema)}
    {entry : Naming.RouteSlot × Schema} (mem : entry ∈ slots) (own : ¬entry.2.IsName) {s : Schema}
    (within : entry.2.Within s) : context.Holds slots s :=
  fun _ refers => .inr ⟨entry, mem, own, within.references_subset refers⟩

/-- What is read at a pointer is what is read from the fragment, with its references renamed. -/
lemma RouteContext.parse_eq_ok_iff {fragment : Json} {pointer : String} {s : Schema} :
    context.parse fragment pointer = .ok s ↔
      ∃ t, Schema.ofJson? fragment = .ok t ∧ s = t.rename context.sanitized := by
  rw [parse, Schema.parse]
  cases Schema.ofJson? fragment with
  | ok t => simp [Except.map, eq_comm]
  | error fault => simp [Except.map]

/-- The schema of a part of an operation is what is read.  If it is just a name, then that is known. -/
lemma RouteContext.slotSchema_eq_ok_iff {fragment : Json} {pointer : String} {s : Schema} :
    context.slotSchema site fragment pointer = .ok s ↔
      context.parse fragment pointer = .ok s ∧
        ∀ name, s = .mk (.reference name) false → name ∈ context.names := by
  rw [slotSchema, bind_eq_ok_iff]
  constructor
  · rintro ⟨t, parsed, ok⟩
    split at ok
    · next name =>
        split at ok
        · next known =>
            cases ok
            refine ⟨parsed, fun other eq => ?_⟩
            cases eq
            exact List.contains_iff_mem.1 known
        · cases ok
    · next own =>
        cases ok
        exact ⟨parsed, fun name eq => absurd eq (own name)⟩
  · rintro ⟨parsed, known⟩
    refine ⟨s, parsed, ?_⟩
    split
    · next name =>
        rw [if_pos (List.contains_iff_mem.2 (known name rfl))]
        rfl
    · rfl

/-- A property of a group is inside the part that the group is. -/
lemma holds_objectSlot {rules : ObjectRules Schema} {key : String} {s : Schema}
    (there : Table.get? rules.properties key = some s) (slot : Naming.RouteSlot) :
    context.Holds (objectSlot slot rules) s := by
  have some : rules.properties.isEmpty = false := by
    cases properties : rules.properties with
    | nil =>
        rw [properties] at there
        cases there
    | cons => rfl
  have inside : s ∈ (Schema.mk (.object rules) false).children :=
    List.mem_append_left _ (List.mem_map_of_mem (Table.mem_of_get? there))
  have own : ¬(Schema.mk (.object rules) false).IsName := by
    rintro ⟨name, eq⟩
    cases eq
  rw [objectSlot, some]
  exact RouteContext.holds_of_mem (List.mem_singleton_self _) own (.child inside (.self s))

/-- The schema of contents is a part of the plan, unless it is the name of a component. -/
lemma RouteContext.holds_planContents {slot : Naming.RouteSlot} {pointer key : String}
    {contents : Table Media} {fragment : Json} {plan : ContentPlan}
    (ok : context.planContents site slot pointer contents = .ok plan)
    (chosen : jsonMedia? contents = some (key, ⟨some fragment⟩)) :
    ∃ t, Schema.ofJson? fragment = .ok t ∧ context.Holds plan.slots (t.rename context.sanitized) := by
  rw [planContents, chosen] at ok
  obtain ⟨s, taken, ok⟩ := bind_eq_ok_iff.1 ok
  cases ok
  obtain ⟨parsed, known⟩ := slotSchema_eq_ok_iff.1 taken
  obtain ⟨t, read, rfl⟩ := parse_eq_ok_iff.1 parsed
  refine ⟨t, read, ?_⟩
  by_cases own : (t.rename context.sanitized).IsName
  · obtain ⟨name, eq⟩ := own
    intro target refers
    rw [eq] at refers
    obtain rfl := List.mem_singleton.1 refers
    exact .inl (known target eq)
  · exact holds_of_mem (List.mem_singleton_self _) own (.self _)

/-- A property of the group of a location that is sent is inside a part of the plan. -/
lemma RouteContext.holds_group {groups : ParameterGroups} {location : ParameterLocation}
    (sent : location ≠ .cookie) {key : String} {s : Schema}
    (there : Table.get? (groups.at location).properties key = some s) :
    context.Holds (objectSlot .params groups.path ++ objectSlot .query groups.query ++
      objectSlot .headers groups.headers) s := by
  cases location with
  | cookie => exact absurd rfl sent
  | path =>
      exact (holds_objectSlot there .params).mono fun entry mem =>
        List.mem_append_left _ (List.mem_append_left _ mem)
  | query =>
      exact (holds_objectSlot there .query).mono fun entry mem =>
        List.mem_append_left _ (List.mem_append_right _ mem)
  | header => exact (holds_objectSlot there .headers).mono fun entry mem => List.mem_append_right _ mem

/-- **What an operation takes is in its plan**: what a schema that is taken refers to is a component, or
is referred to by a part of the plan. -/
theorem RouteContext.holds_of_takes {plan : RoutePlan} (ok : context.plan site item operation = .ok plan)
    {fragment : Json} (takes : context.Takes site item operation fragment) :
    ∃ t, Schema.ofJson? fragment = .ok t ∧ context.Holds plan.slots (t.rename context.sanitized) := by
  obtain ⟨groups, body, bodyRequired, responses, grouped, planned, answered, -, -, -, slots⟩ := plan_cases ok
  rw [slots]
  cases takes with
  | @parameter earlier later parameter fragment declared sent last given =>
      rw [parameterGroups, bind_eq_ok_iff] at grouped
      obtain ⟨parameters, declared', grouped⟩ := grouped
      obtain rfl := Except.ok.inj (declared.symm.trans declared')
      obtain ⟨s, parsed, there⟩ := addParameters_spec grouped sent (key_ne_of_later declared sent last)
      rw [parameterSchema, given] at parsed
      obtain ⟨t, read, rfl⟩ := parse_eq_ok_iff.1 parsed
      refine ⟨t, read, (holds_group sent there).mono fun entry mem => ?_⟩
      exact List.mem_append_left _ (List.mem_append_left _ mem)
  | @body body' located key fragment given located_eq chosen =>
      rw [given] at planned
      obtain ⟨located', found, planned⟩ := bind_eq_ok_iff.1 planned
      obtain rfl := Except.ok.inj (located_eq.symm.trans found)
      obtain ⟨contents, taken, eq⟩ := bind_eq_ok_iff.1 planned
      cases eq
      obtain ⟨t, read, holds⟩ := holds_planContents taken chosen
      refine ⟨t, read, holds.mono fun entry mem => ?_⟩
      exact List.mem_append_left _ (List.mem_append_right _ mem)
  | @response status response located key fragment mem located_eq chosen =>
      obtain ⟨contents, among, planned⟩ := exists_mem_of_forall₂ (mapM_eq_ok_iff.1 answered) mem
      obtain ⟨located', found, planned⟩ := bind_eq_ok_iff.1 planned
      obtain rfl := Except.ok.inj (located_eq.symm.trans found)
      obtain ⟨t, read, holds⟩ := holds_planContents planned chosen
      refine ⟨t, read, holds.mono fun entry mem' => ?_⟩
      exact List.mem_append_right _ (List.mem_flatMap.2 ⟨contents, among, mem'⟩)

end SchemaCompiler
