import SchemaCompiler.Proofs.Route.Plan

/-!
What becomes of an operation.

An operation that cannot be planned is dropped for a reason that is about itself, or stops the document.
What is left out of a plan is never the operation.

* `CompileError.Drops`: the errors for which the operation at a place is dropped;
* `DropsFor`: what drops an operation, if a computation fails with it, has a property;
* `RouteContext.drops_plan`: an operation is dropped for a reason of its own;
* `RouteContext.isDropped_of_plan`: the warnings of a plan are not about operations that are dropped;
* `Endpoint.Yields`: the route that an operation becomes, or the error for which it is dropped.
-/

namespace SchemaCompiler

/-- The errors for which the operation at a place is dropped. -/
inductive CompileError.Drops (site : Site) : CompileError → Prop where
  | placeholders (missing : List String) :
      Drops site (.undeclaredPlaceholders site.method.name site.path missing)
  | template (cause : TemplateError) :
      Drops site (.invalidTemplate site.method.name site.path cause)
  | reference (target : String) :
      Drops site (.unresolvedComponent site.method.name site.path target)

lemma Method.name_inj {a b : Method} (same : a.name = b.name) : a = b := by
  have distinct : (Method.all.map Method.name).Nodup := by decide
  have known : ∀ method, method ∈ Method.all := fun method => by cases method <;> decide
  exact List.inj_on_of_nodup_map distinct (known a) (known b) same

/-- An error tells the place of the operation that is dropped for it. -/
lemma CompileError.Drops.site_eq {a b : Site} {cause : CompileError} (atA : cause.Drops a)
    (atB : cause.Drops b) : a = b := by
  have joined : a.method.name = b.method.name → a.path = b.path → a = b := by
    cases a
    cases b
    exact fun names paths => congrArg₂ Site.mk (Method.name_inj names) paths
  generalize same : cause = cause' at atB
  cases atA <;> cases atB <;> injection same <;> exact joined ‹_› ‹_›

/-- An operation at a place refers to a part of the document that is not there. -/
inductive CompileError.Unresolved (site : Site) : CompileError → Prop where
  | reference (target : String) :
      Unresolved site (.unresolvedComponent site.method.name site.path target)

lemma CompileError.Unresolved.drops {site : Site} {cause : CompileError}
    (unresolved : cause.Unresolved site) : cause.Drops site := by
  cases unresolved
  exact .reference _

/-- If a computation fails with what drops an operation, then this has a property. -/
def DropsFor {α : Type} (P : CompileError → Prop) (x : Except CompileError α) : Prop :=
  ∀ cause, x = .error cause → cause.isRouteScoped = true → P cause

namespace DropsFor

variable {α β : Type} {P Q : CompileError → Prop}

lemma ok (a : α) : DropsFor P (.ok a : Except CompileError α) := Blames.ok a

lemma mono {x : Except CompileError α} (drops : DropsFor P x) (implies : ∀ cause, P cause → Q cause) :
    DropsFor Q x := Blames.mono drops fun cause => Function.comp (implies cause)

lemma bind {x : Except CompileError α} {f : α → Except CompileError β} (first : DropsFor P x)
    (next : ∀ a, DropsFor P (f a)) : DropsFor P (x >>= f) := Blames.bind first next

lemma mapM {f : α → Except CompileError β} (each : ∀ a, DropsFor P (f a)) (list : List α) :
    DropsFor P (list.mapM f) := Blames.mapM each list

/-- What stops the document drops no operation. -/
lemma of_fatal {cause : CompileError} (fatal : cause.isRouteScoped = false) :
    DropsFor P (.error cause : Except CompileError α) := by
  rintro _ ⟨⟩ droppable
  rw [fatal] at droppable
  cases droppable

end DropsFor

namespace RouteContext

variable (context : RouteContext) (site : Site)

lemma unresolved_parse (fragment : Json) (pointer : String) :
    DropsFor (CompileError.Unresolved site) (context.parse fragment pointer) := by
  rw [parse, Schema.parse]
  cases Schema.ofJson? fragment with
  | ok s => exact .ok _
  | error fault => exact .of_fatal rfl

lemma unresolved_locate {α : Type} (kind : ComponentSection α) (pointer : String) (part : Linked α) :
    DropsFor (CompileError.Unresolved site) (kind.locate site pointer part) := by
  cases part with
  | inline value => exact .ok _
  | reference target =>
      rw [ComponentSection.locate]
      split
      · exact .ok _
      · rintro _ ⟨⟩ -
        exact .reference target

lemma unresolved_parameters (item : PathItem) (operation : Operation) :
    DropsFor (CompileError.Unresolved site) (context.parameters site item operation) :=
  (DropsFor.mapM (fun _ => unresolved_locate site _ _ _) _).bind fun _ =>
    (DropsFor.mapM (fun _ => unresolved_locate site _ _ _) _).bind fun _ => .ok _

lemma unresolved_parameterSchema (parameter : Located Parameter) :
    DropsFor (CompileError.Unresolved site) (context.parameterSchema parameter) := by
  rw [parameterSchema]
  split
  · exact context.unresolved_parse site _ _
  · exact .ok _

lemma unresolved_addParameter (groups : ParameterGroups) (parameter : Located Parameter) :
    DropsFor (CompileError.Unresolved site) (context.addParameter groups parameter) := by
  have schema := context.unresolved_parameterSchema site parameter
  rw [addParameter]
  cases parameter.value.location with
  | cookie => exact .ok _
  | _ => exact schema.bind fun _ => .ok _

lemma unresolved_addParameters (groups : ParameterGroups) (parameters : List (Located Parameter)) :
    DropsFor (CompileError.Unresolved site) (context.addParameters groups parameters) := by
  induction parameters generalizing groups with
  | nil => exact .ok groups
  | cons parameter rest ih => exact (context.unresolved_addParameter site groups parameter).bind ih

lemma unresolved_parameterGroups (item : PathItem) (operation : Operation) :
    DropsFor (CompileError.Unresolved site) (context.parameterGroups site item operation) :=
  (context.unresolved_parameters site item operation).bind fun _ => context.unresolved_addParameters site _ _

lemma unresolved_slotSchema (fragment : Json) (pointer : String) :
    DropsFor (CompileError.Unresolved site) (context.slotSchema site fragment pointer) := by
  refine (context.unresolved_parse site fragment pointer).bind fun s => ?_
  split
  · split
    · exact .ok _
    · exact .of_fatal rfl
  · exact .ok _

lemma unresolved_planContents (slot : Naming.RouteSlot) (pointer : String) (contents : Table Media) :
    DropsFor (CompileError.Unresolved site) (context.planContents site slot pointer contents) := by
  rw [planContents]
  split
  · exact .ok _
  · exact .ok _
  · exact (context.unresolved_slotSchema site _ _).bind fun _ => .ok _

lemma unresolved_planBody (body : Option (Linked RequestBody)) :
    DropsFor (CompileError.Unresolved site) (context.planBody site body) := by
  cases body with
  | none => exact .ok _
  | some body =>
      exact (unresolved_locate site _ _ _).bind fun _ =>
        (context.unresolved_planContents site _ _ _).bind fun _ => .ok _

lemma unresolved_planResponse (status : String) (response : Linked Response) :
    DropsFor (CompileError.Unresolved site) (context.planResponse site status response) :=
  (unresolved_locate site _ _ _).bind fun _ => context.unresolved_planContents site _ _ _

/-- An operation whose parameters are grouped is dropped for the placeholders that these do not require, or
for what is not there. -/
lemma drops_of_grouped {item : PathItem} {operation : Operation} {names : List String}
    {groups : ParameterGroups} (parsed : PathTemplate.placeholders site.path = .ok names)
    (grouped : context.parameterGroups site item operation = .ok groups) :
    DropsFor (fun cause => cause.Unresolved site ∨
      ∃ missing, cause = .undeclaredPlaceholders site.method.name site.path missing ∧
        missing = names.filter (fun name => !groups.path.required.contains name) ∧ missing ≠ [])
      (context.plan site item operation) := by
  intro cause failed droppable
  rw [plan, parsed] at failed
  rcases bind_eq_error_iff.1 failed with eq | ⟨_, eq, failed⟩ <;> cases eq
  rcases bind_eq_error_iff.1 failed with failed | ⟨_, grouped', failed⟩
  · cases grouped.symm.trans failed
  · obtain rfl := Except.ok.inj (grouped.symm.trans grouped')
    dsimp only at failed
    split at failed
    · next some =>
        cases failed
        refine .inr ⟨_, rfl, rfl, fun none => ?_⟩
        rw [none] at some
        cases some
    · refine .inl ((DropsFor.bind (context.unresolved_planBody site _) fun body => ?_) cause failed droppable)
      exact (DropsFor.mapM (fun _ => context.unresolved_planResponse site _ _) _).bind fun _ => .ok _

/-- **An operation is dropped for a reason of its own.** -/
theorem drops_plan (item : PathItem) (operation : Operation) :
    DropsFor (CompileError.Drops site) (context.plan site item operation) := by
  intro cause failed droppable
  cases parsed : PathTemplate.placeholders site.path with
  | error fault =>
      rw [plan, parsed] at failed
      cases failed
      exact .template fault
  | ok names =>
      cases grouped : context.parameterGroups site item operation with
      | error fault =>
          rw [plan, parsed, grouped] at failed
          cases failed
          exact (context.unresolved_parameterGroups site item operation _ grouped droppable).drops
      | ok groups =>
          rcases context.drops_of_grouped site parsed grouped cause failed droppable with
            unresolved | ⟨missing, rfl, -⟩
          · exact unresolved.drops
          · exact .placeholders missing

/-- What is left out of contents is not the operation. -/
lemma isDropped_of_planContents {slot : Naming.RouteSlot} {pointer : String} {contents : Table Media}
    {plan : ContentPlan} (ok : context.planContents site slot pointer contents = .ok plan) :
    ∀ warning ∈ plan.warnings, warning.isDropped = false := by
  rw [planContents] at ok
  split at ok
  · cases ok
    dsimp only
    split
    · exact List.forall_mem_nil _
    · exact List.forall_mem_singleton.2 rfl
  · cases ok
    exact List.forall_mem_nil _
  · obtain ⟨s, -, ok⟩ := bind_eq_ok_iff.1 ok
    cases ok
    exact List.forall_mem_nil _

lemma isDropped_of_planBody {body : Option (Linked RequestBody)} {plan : ContentPlan}
    {isRequired : Bool} (ok : context.planBody site body = .ok (plan, isRequired)) :
    ∀ warning ∈ plan.warnings, warning.isDropped = false := by
  cases body with
  | none =>
      cases ok
      exact List.forall_mem_nil _
  | some body =>
      obtain ⟨located, -, ok⟩ := bind_eq_ok_iff.1 ok
      obtain ⟨contents, planned, ok⟩ := bind_eq_ok_iff.1 ok
      cases ok
      exact context.isDropped_of_planContents site planned

/-- **The warnings of a plan are about parts of it.** -/
theorem isDropped_of_plan {item : PathItem} {operation : Operation} {plan : RoutePlan}
    (ok : context.plan site item operation = .ok plan) :
    ∀ warning ∈ plan.warnings, warning.isDropped = false := by
  obtain ⟨groups, body, bodyRequired, responses, -, planned, answered, -, -, warnings, -⟩ :=
    plan_cases ok
  intro warning mem
  rw [warnings, List.mem_append, List.mem_append] at mem
  rcases mem with (mem | mem) | mem
  · obtain ⟨name, -, rfl⟩ := List.mem_map.1 mem
    rfl
  · exact context.isDropped_of_planBody site planned warning mem
  · obtain ⟨contents, among, mem⟩ := List.mem_flatMap.1 mem
    obtain ⟨⟨status, response⟩, -, answer⟩ :=
      exists_mem_of_forall₂ (mapM_eq_ok_iff.1 answered).flip among
    obtain ⟨located, -, planned⟩ := bind_eq_ok_iff.1 answer
    exact context.isDropped_of_planContents site planned warning mem

end RouteContext

/-- What an operation yields: the route at its place, or an error for which it is dropped. -/
inductive Endpoint.Yields (endpoint : Endpoint) : Except CompileError Route → Prop where
  | route {route : Route} (site : route.site = endpoint.site)
      (operationId : route.operationId = endpoint.operation.operationId) : Yields endpoint (.ok route)
  | error {cause : CompileError} (drops : cause.Drops endpoint.site) : Yields endpoint (.error cause)

end SchemaCompiler
