import SchemaCompiler.Proofs.Route.Outcomes
import SchemaCompiler.Proofs.Route.Overriding
import SchemaCompiler.Proofs.Route.Sources

/-!
Placeholders in the paths of operations.

Every placeholder has to be declared as a parameter in the path, by the operation or by its path.  What
declares them is looked for in the object of these parameters, in which all keys are required.

* `undeclared`: the placeholders that nothing declares, in the order of the template;
* `RouteContext.filter_required_eq`: these are the ones that the object does not require;
* `RouteContext.plan_eq_undeclared_iff`: an operation is dropped for them if and only if there are any;
* `RouteContext.required_of_plan`: the object of an operation with a plan requires all placeholders.
-/

namespace SchemaCompiler

/-- The names for which no parameter in the path is declared. -/
def undeclared (declared : List (Located Parameter)) (names : List String) : List String :=
  names.filter fun name =>
    !declared.any fun parameter => parameter.value.location = .path && parameter.value.name = name

/-- Parameters in the path are grouped under their names. -/
lemma Parameter.isAt_path_iff {parameter : Parameter} {name : String} :
    parameter.isAt .path name = true ↔ parameter.location = .path ∧ parameter.name = name := by
  rw [isAt_iff]
  refine and_congr_right fun inPath => ?_
  rw [key, inPath]

namespace RouteContext

variable {context : RouteContext} {site : Site} {item : PathItem} {operation : Operation}
  {declared : List (Located Parameter)} {groups : ParameterGroups} {names missing : List String}

/-- The object of the parameters in the path requires what is declared. -/
lemma mem_required_path_iff (resolved : context.declarations site item operation = .ok declared)
    (grouped : context.parameterGroups site item operation = .ok groups) {name : String} :
    name ∈ groups.path.required ↔ ∃ parameter ∈ declared,
      parameter.value.location = .path ∧ parameter.value.name = name := by
  obtain ⟨_, resolved', described⟩ := describes_parameterGroups grouped
  obtain rfl := Except.ok.inj (resolved'.symm.trans resolved)
  have required := (described .path nofun).required name
  simp only [true_or, and_true] at required
  simp only [← Parameter.isAt_path_iff]
  exact required.trans exists_standing_iff

/-- The placeholders that the object does not require are those that nothing declares. -/
lemma filter_required_eq (resolved : context.declarations site item operation = .ok declared)
    (grouped : context.parameterGroups site item operation = .ok groups) (names : List String) :
    names.filter (fun name => !groups.path.required.contains name) = undeclared declared names := by
  refine List.filter_congr fun name _ => ?_
  rw [Bool.eq_iff_iff]
  simp [mem_required_path_iff resolved grouped]

/-- **An operation is dropped for its placeholders** if and only if nothing declares some of them, and then
the error lists these. -/
theorem plan_eq_undeclared_iff (parsed : PathTemplate.placeholders site.path = .ok names)
    (resolved : context.declarations site item operation = .ok declared)
    (grouped : context.parameterGroups site item operation = .ok groups) :
    context.plan site item operation =
        .error (.undeclaredPlaceholders site.method.name site.path missing) ↔
      missing = undeclared declared names ∧ missing ≠ [] := by
  constructor
  · intro failed
    rcases context.drops_of_grouped site parsed grouped _ failed rfl with unresolved | ⟨_, eq, rfl, any⟩
    · cases unresolved
    · cases eq
      exact ⟨filter_required_eq resolved grouped names, any⟩
  · rintro ⟨rfl, any⟩
    rw [← filter_required_eq resolved grouped names] at any ⊢
    rw [plan, parsed]
    simp only [grouped, bind, Except.bind]
    rw [if_pos (by simpa using any)]
    rfl

/-- What the object of the parameters in the path requires is one of its properties. -/
lemma mem_keys_path_of_required (grouped : context.parameterGroups site item operation = .ok groups)
    {name : String} (required : name ∈ groups.path.required) : name ∈ Table.keys groups.path.properties := by
  obtain ⟨_, -, described⟩ := describes_parameterGroups grouped
  obtain ⟨parameter, counts, own, -⟩ := ((described .path nofun).required name).1 required
  exact ((described .path nofun).keys name).2 ⟨parameter, counts, own⟩

/-- The object of an operation with a plan requires all placeholders of its path. -/
theorem required_of_plan {plan : RoutePlan} (ok : context.plan site item operation = .ok plan) :
    ∃ names groups, PathTemplate.placeholders site.path = .ok names ∧
      context.parameterGroups site item operation = .ok groups ∧
      ∀ name ∈ names, name ∈ groups.path.required := by
  rw [RouteContext.plan] at ok
  split at ok
  · next names parsed =>
      obtain ⟨_, eq, ok⟩ := bind_eq_ok_iff.1 ok
      cases eq
      obtain ⟨groups, grouped, ok⟩ := bind_eq_ok_iff.1 ok
      dsimp only at ok
      split at ok
      · cases ok
      · next complete =>
          refine ⟨names, groups, parsed, grouped, fun name mem => ?_⟩
          by_contra other
          have uncovered : name ∈ names.filter fun name => !groups.path.required.contains name :=
            List.mem_filter.2 ⟨mem, by simpa using other⟩
          rw [Bool.not_eq_true, Bool.not_eq_false', List.isEmpty_iff] at complete
          exact absurd uncovered (complete ▸ List.not_mem_nil)
  · cases ok

/-- The part of an operation that its parameters in the path make up is their object. -/
lemma Source.eq_object {s : Schema} (source : context.Source site item operation .params s)
    (grouped : context.parameterGroups site item operation = .ok groups) : s = groups.object .path := by
  cases source with
  | @parameters location _ _ part grouped' =>
      obtain rfl := Except.ok.inj (grouped.symm.trans grouped')
      cases location with
      | path => rfl
      | _ => cases part

/-- An operation whose placeholders are required has a part for its parameters in the path, if it has
placeholders. -/
lemma mem_slots_of_required {plan : RoutePlan} (ok : context.plan site item operation = .ok plan)
    (grouped : context.parameterGroups site item operation = .ok groups) {name : String}
    (required : name ∈ groups.path.required) : (.params, groups.object .path) ∈ plan.slots := by
  obtain ⟨_, _, _, _, grouped', -, -, -, -, -, slots⟩ := plan_cases ok
  obtain rfl := Except.ok.inj (grouped.symm.trans grouped')
  have some : groups.path.properties.isEmpty ≠ true := fun none =>
    List.ne_nil_of_mem (mem_keys_path_of_required grouped required)
      (by rw [List.isEmpty_iff.1 none]; rfl)
  rw [slots]
  simp only [List.append_assoc]
  refine List.mem_append_left _ ?_
  rw [objectSlot, if_neg some]
  exact List.mem_singleton_self _

end RouteContext

end SchemaCompiler
