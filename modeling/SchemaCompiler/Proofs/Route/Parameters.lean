import SchemaCompiler.Proofs.Route.Plan
import SchemaCompiler.Proofs.Schema.WellFormed

/-!
The objects that the parameters of an operation make up.

* `ObjectRules.WellFormed.addProperty`: a property can be given to well-formed rules, once more too;
* `ParameterGroups.object`: the object of the parameters at one location;
* `ParameterGroups.wellFormed_of_parameterGroups`: these objects are well formed.
-/

namespace SchemaCompiler

/-- Rules stay well formed when a property is added or replaced. -/
lemma ObjectRules.WellFormed.addProperty {rules : ObjectRules Schema} (wellFormed : rules.WellFormed)
    (name : String) (isRequired : Bool) (property : Schema) :
    (rules.addProperty name isRequired property).WellFormed := by
  have known : ∀ other ∈ rules.required,
      other ∈ Table.keys (Table.insert rules.properties name property) := fun other mem =>
    Table.mem_keys_insert_iff.2 (.inr (wellFormed.known other mem))
  refine ⟨Table.nodup_keys_insert wellFormed.distinct name property, ?_, ?_⟩
  · rw [ObjectRules.addProperty]
    dsimp only
    split
    · next new =>
        rw [Bool.and_eq_true, Bool.not_eq_true', ← Bool.not_eq_true, List.contains_iff_mem] at new
        rw [← List.concat_eq_append]
        exact wellFormed.once.concat new.2
    · exact wellFormed.once
  · intro other mem
    rw [ObjectRules.addProperty] at mem ⊢
    dsimp only at mem ⊢
    split at mem
    · rcases List.mem_append.1 mem with mem | mem
      · exact known other mem
      · exact Table.mem_keys_insert_iff.2 (.inl (List.mem_singleton.1 mem))
    · exact known other mem

/-- The object of the parameters at one location. -/
def ParameterGroups.object (groups : ParameterGroups) (location : ParameterLocation) : Schema :=
  .mk (.object (groups.at location)) false

lemma Schema.wellFormed_object_iff {rules : ObjectRules Schema} {nullable : Bool} :
    (Schema.mk (.object rules) nullable).WellFormed ↔
      rules.WellFormed ∧ ∀ child ∈ rules.children, child.WellFormed := by
  rw [wellFormed_iff]
  refine and_congr_left fun _ => ⟨fun own => own rules rfl, fun own other eq => ?_⟩
  obtain rfl := Option.some.inj eq
  exact own

lemma ObjectRules.mem_children_addProperty {rules : ObjectRules Schema} {name : String}
    {isRequired : Bool} {property child : Schema}
    (mem : child ∈ (rules.addProperty name isRequired property).children) :
    child = property ∨ child ∈ rules.children := by
  rcases List.mem_append.1 mem with mem | mem
  · obtain ⟨entry, among, rfl⟩ := List.mem_map.1 mem
    rcases Table.mem_insert among with rfl | among
    · exact .inl rfl
    · exact .inr (List.mem_append_left _ (List.mem_map_of_mem among))
  · exact .inr (List.mem_append_right _ mem)

/-- An object stays well formed when it gets a well-formed property. -/
lemma Schema.WellFormed.addProperty {rules : ObjectRules Schema} {nullable : Bool}
    (wellFormed : (Schema.mk (.object rules) nullable).WellFormed) (name : String) (isRequired : Bool)
    {property : Schema} (inside : property.WellFormed) :
    (Schema.mk (.object (rules.addProperty name isRequired property)) nullable).WellFormed := by
  obtain ⟨own, children⟩ := wellFormed_object_iff.1 wellFormed
  refine wellFormed_object_iff.2 ⟨own.addProperty name isRequired property, fun child mem => ?_⟩
  rcases ObjectRules.mem_children_addProperty mem with rfl | mem
  · exact inside
  · exact children child mem

namespace ParameterGroups

variable {context : RouteContext} {site : Site} {item : PathItem} {operation : Operation}

/-- The schema of a parameter is well formed if its fragment is. -/
lemma wellFormed_of_parameterSchema {parameter : Located Parameter} {s : Schema}
    (given : ∀ fragment, parameter.value.schema = some fragment → fragment.WellFormed)
    (ok : context.parameterSchema parameter = .ok s) : s.WellFormed := by
  rw [RouteContext.parameterSchema] at ok
  split at ok
  · next fragment there =>
      obtain ⟨t, read, rfl⟩ := RouteContext.parse_eq_ok_iff.1 ok
      exact Schema.wellFormed_rename_iff.2 (Schema.wellFormed_of_ofJson? (given fragment there) read)
  · cases ok
    refine Schema.wellFormed_iff.2 ⟨fun rules eq => ?_, fun child mem => ?_⟩
    · cases eq
    · cases mem

lemma wellFormed_addParameter {groups after : ParameterGroups} {parameter : Located Parameter}
    (given : ∀ fragment, parameter.value.schema = some fragment → fragment.WellFormed)
    (wellFormed : ∀ location, (groups.object location).WellFormed)
    (ok : context.addParameter groups parameter = .ok after) (location : ParameterLocation) :
    (after.object location).WellFormed := by
  rcases addParameter_at ok location with ⟨-, same⟩ | ⟨-, -, s, parsed, added⟩
  · rw [object, same]
    exact wellFormed location
  · rw [object, added]
    exact (wellFormed location).addProperty _ _ (wellFormed_of_parameterSchema given parsed)

/-- **The objects of parameters are well formed.** -/
theorem wellFormed_of_parameterGroups {declared : List (Located Parameter)} {groups : ParameterGroups}
    (listed : context.parameters site item operation = .ok declared)
    (given : ∀ parameter ∈ declared, ∀ fragment, parameter.value.schema = some fragment →
      fragment.WellFormed)
    (ok : context.parameterGroups site item operation = .ok groups) (location : ParameterLocation) :
    (groups.object location).WellFormed := by
  rw [RouteContext.parameterGroups, listed] at ok
  change context.addParameters ⟨.empty, .empty, .empty, []⟩ declared = .ok groups at ok
  have all : ∀ before, (∀ location, (before.object location).WellFormed) →
      context.addParameters before declared = .ok groups →
      ∀ location, (groups.object location).WellFormed := by
    clear ok listed
    induction declared with
    | nil =>
        intro before wellFormed ok
        cases ok
        exact wellFormed
    | cons parameter rest ih =>
        intro before wellFormed ok
        obtain ⟨next, added, ok⟩ := bind_eq_ok_iff.1 ok
        refine ih (fun other mem => given other (List.mem_cons_of_mem _ mem)) next ?_ ok
        exact wellFormed_addParameter (given parameter List.mem_cons_self) wellFormed added
  refine all _ (fun location => ?_) ok location
  have bare : (Schema.mk (.object .bare) false).WellFormed :=
    Schema.wellFormed_object_iff.2 ⟨ObjectRules.wellFormed_bare, fun child mem => by cases mem⟩
  cases location <;> exact bare

end ParameterGroups

end SchemaCompiler
