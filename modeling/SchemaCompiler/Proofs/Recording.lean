import SchemaCompiler.Proofs.RoundTrip.Shape
import SchemaCompiler.Recording

/-!
The two compilers record the external names that stand in what they give.

Both look up one name for a kind, and no kind that has a name has schemas inside it.  So it makes no
difference that validators are compiled before the name is looked up and types after it.

* `Recorder.Gives`: a compiler gives a result and records names, whatever was recorded before;
* `Registry.used_eq`: the names for a schema are that for its kind and those for the schemas inside it;
* `Validator.gives_compile`, `TypeExpr.gives_compile`: the results, and the names;
* `Validator.externals_ofSchema`: these are the names that stand in the validator;
* `compilers_agree`: the compilers agree in shape and in the names that they record.
-/

namespace SchemaCompiler

/-! ### Recorders -/

lemma Text.sortedSet_eq_iff {a b : List String} :
    sortedSet a = sortedSet b ↔ ∀ s, s ∈ a ↔ s ∈ b := by
  have sorted : ∀ strings, sortedSet strings = sortStrings strings.eraseDups := fun strings => rfl
  rw [sorted, sorted, sortStrings_eq_iff_perm,
    List.perm_ext_iff_of_nodup (nodup_eraseDups a) (nodup_eraseDups b)]
  simp only [List.mem_eraseDups]

namespace Recorder

variable {α β : Type}

/-- A compiler gives a result and records names in addition to those that there are. -/
def Gives (recorder : Recorder α) (result : α) (recorded : List String) : Prop :=
  ∀ before, recorder.run before = (result, recorded.foldl insert before)

lemma Gives.pure (result : α) : Gives (Pure.pure result) result [] := fun _ => rfl

lemma Gives.bind {recorder : Recorder α} {next : α → Recorder β} {first : α} {second : β}
    {recorded further : List String} (gives : recorder.Gives first recorded)
    (then_gives : (next first).Gives second further) :
    Gives (recorder >>= next) second (recorded ++ further) := by
  intro before
  have own := gives before
  have other := then_gives (recorded.foldl insert before)
  rw [List.foldl_append]
  change (recorder.run before >>= fun step => (next step.1).run step.2) = _
  rw [own]
  exact other

/-- A result can be changed afterwards. -/
lemma Gives.map {recorder : Recorder α} {result : α} {recorded : List String}
    (gives : recorder.Gives result recorded) (f : α → β) :
    Gives (recorder >>= fun result => Pure.pure (f result)) (f result) recorded := by
  have all : Gives (recorder >>= fun result => Pure.pure (f result)) (f result) (recorded ++ []) :=
    gives.bind (.pure (f result))
  rwa [List.append_nil] at all

lemma Gives.record (name : Option String) : (record name).Gives name name.toList := by
  intro before
  cases name <;> rfl

/-- Recording one name after another makes the set of them. -/
lemma foldl_insert (before recorded : List String) :
    recorded.foldl insert (Text.sortedSet before) = Text.sortedSet (before ++ recorded) := by
  induction recorded generalizing before with
  | nil => rw [List.foldl_nil, List.append_nil]
  | cons name rest ih =>
      have step : insert (Text.sortedSet before) name = Text.sortedSet (before ++ [name]) :=
        Text.sortedSet_eq_iff.2 fun s => by simp [Text.mem_sortedSet]
      rw [List.foldl_cons, step, ih, List.append_assoc, List.singleton_append]

lemma Gives.result_eq {recorder : Recorder α} {result : α} {recorded : List String}
    (gives : recorder.Gives result recorded) : recorder.result = result := by
  rw [Recorder.result, gives]

/-- What a compiler records when nothing has been recorded before. -/
lemma Gives.names_eq {recorder : Recorder α} {result : α} {recorded : List String}
    (gives : recorder.Gives result recorded) : recorder.names = Text.sortedSet recorded := by
  have empty : Text.sortedSet [] = [] := by simp [Text.sortedSet]
  have all := foldl_insert [] recorded
  rw [empty, List.nil_append] at all
  rw [names, gives, all]

end Recorder

/-! ### The name for a kind -/

variable {registry : Registry}

lemma Registry.validatorName?_eq (kind : SchemaKind) :
    registry.validatorName? kind = registry.external? kind := by
  cases kind with
  | string rules =>
      obtain ⟨⟨format, _, _, _⟩, enumeration⟩ := rules
      cases enumeration <;> cases format <;> rfl
  | number rules =>
      obtain ⟨⟨integer, _, _, _, _, _, _⟩, enumeration⟩ := rules
      cases enumeration <;> cases integer <;> rfl
  | _ => rfl

lemma Registry.typeName?_eq (kind : SchemaKind) : registry.typeName? kind = registry.external? kind := by
  cases kind with
  | string rules =>
      obtain ⟨⟨format, _, _, _⟩, enumeration⟩ := rules
      cases enumeration <;> cases format <;> rfl
  | number rules =>
      obtain ⟨checks, enumeration⟩ := rules
      cases enumeration <;> rfl
  | _ => rfl

/-- There is no schema inside a kind that has a name. -/
lemma Registry.usedInside_eq_nil {kind : SchemaKind} {name : String}
    (found : registry.external? kind = some name) : registry.usedInside kind = [] := by
  cases kind <;> first | rfl | cases found

lemma Registry.usedInAll_eq (members : List Schema) :
    registry.usedInAll members = members.flatMap registry.used := by
  induction members with
  | nil => rfl
  | cons s rest ih => rw [usedInAll, ih, List.flatMap_cons]

lemma Registry.usedInRules_eq (rules : ObjectRules Schema) :
    registry.usedInRules rules = rules.children.flatMap registry.used := by
  obtain ⟨properties, required, extras⟩ := rules
  have inProperties : registry.usedInProperties properties =
      (properties.map Prod.snd).flatMap registry.used := by
    induction properties with
    | nil => rfl
    | cons entry rest ih => rw [usedInProperties, ih, List.map_cons, List.flatMap_cons]
  rw [usedInRules, inProperties, ObjectRules.children, List.flatMap_append]
  cases extras <;> simp [usedInExtras, Extras.toList]

/-- The external names for a schema are that for its kind and those for the schemas inside it. -/
lemma Registry.used_eq (s : Schema) :
    registry.used s = (registry.external? s.kind).toList ++ s.children.flatMap registry.used := by
  obtain ⟨kind, nullable⟩ := s
  rw [used, Schema.children, Schema.kind]
  congr 1
  cases kind with
  | array items bounds => exact (List.flatMap_singleton _ _).symm
  | object rules => exact usedInRules_eq rules
  | union keyword members discriminator objectTyped => exact usedInAll_eq members
  | intersection members inline objectTyped =>
      rw [usedInside, usedInAll_eq, SchemaKind.children, List.flatMap_append]
      cases inline with
      | none => rfl
      | some rules => exact congrArg _ (usedInRules_eq rules)
  | _ => rfl

/-! ### Validators -/

namespace Validator

open Recorder

lemma gives_compileAll {members : List Schema}
    (inside : ∀ s ∈ members, (compile registry s).Gives (ofSchema registry s) (registry.used s)) :
    (compileAll registry members).Gives (ofSchemas registry members) (registry.usedInAll members) := by
  induction members with
  | nil => exact .pure _
  | cons s rest ih =>
      have later := ih fun t mem => inside t (List.mem_cons_of_mem _ mem)
      rw [compileAll]
      exact (inside s List.mem_cons_self).bind (later.map _)

lemma gives_compileRules {rules : ObjectRules Schema}
    (inside : ∀ s ∈ rules.children, (compile registry s).Gives (ofSchema registry s) (registry.used s)) :
    (compileRules registry rules).Gives (ofRules registry rules) (registry.usedInRules rules) := by
  obtain ⟨properties, required, extras⟩ := rules
  have inProperties : (compileProperties registry required properties).Gives
      (ofProperties registry required properties) (registry.usedInProperties properties) := by
    have among : ∀ entry ∈ properties,
        (compile registry entry.2).Gives (ofSchema registry entry.2) (registry.used entry.2) :=
      fun entry mem => inside _ (List.mem_append_left _ (List.mem_map_of_mem mem))
    clear inside
    induction properties with
    | nil => exact .pure _
    | cons entry rest ih =>
        have later := ih fun other mem => among other (List.mem_cons_of_mem _ mem)
        rw [compileProperties]
        exact (among entry List.mem_cons_self).bind (later.map _)
  have inExtras : (compileExtras registry extras).Gives (ofExtras registry extras)
      (registry.usedInExtras extras) := by
    cases extras with
    | schema rule =>
        exact (inside rule (List.mem_append_right _ (List.mem_singleton_self rule))).map _
    | _ => exact .pure _
  exact inProperties.bind (inExtras.map _)

lemma gives_compileKind {kind : SchemaKind}
    (inside : ∀ s ∈ kind.children, (compile registry s).Gives (ofSchema registry s) (registry.used s)) :
    ∃ base, (compileKind registry kind).Gives base (registry.usedInside kind) ∧
      base.orExternal (registry.external? kind) = ofKind registry kind := by
  cases kind with
  | string rules =>
      obtain ⟨checks, enumeration⟩ := rules
      cases enumeration <;> exact ⟨_, .pure _, rfl⟩
  | number rules =>
      obtain ⟨checks, enumeration⟩ := rules
      cases enumeration <;> exact ⟨_, .pure _, rfl⟩
  | array items bounds => exact ⟨_, (inside items (List.mem_singleton_self items)).map _, rfl⟩
  | object rules => exact ⟨_, gives_compileRules inside, rfl⟩
  | union keyword members discriminator objectTyped => exact ⟨_, (gives_compileAll inside).map _, rfl⟩
  | intersection members inline objectTyped =>
      have all := gives_compileAll fun s mem => inside s (List.mem_append_left _ mem)
      cases inline with
      | none =>
          have none : (compileInline registry none).Gives [] (registry.usedInline none) := .pure _
          refine ⟨_, all.bind (none.map _), ?_⟩
          rw [List.append_nil]
          rfl
      | some rules =>
          have beside := gives_compileRules fun s mem => inside s (List.mem_append_right _ mem)
          exact ⟨_, all.bind ((beside.map fun v => [v]).map _), rfl⟩
  | _ => exact ⟨_, .pure _, rfl⟩

/-- A schema is compiled to its validator, and the names for what stands in it are recorded. -/
theorem gives_compile (s : Schema) :
    (compile registry s).Gives (ofSchema registry s) (registry.used s) := by
  induction s using Schema.induction with
  | step s ih =>
      obtain ⟨kind, nullable⟩ := s
      obtain ⟨base, gives, same⟩ := gives_compileKind ih
      dsimp only [Schema.kind] at gives same
      have looked := Gives.record (registry.external? kind)
      have names : registry.used (.mk kind nullable) =
          registry.usedInside kind ++ (registry.external? kind).toList := by
        rw [Registry.used]
        cases found : registry.external? kind with
        | none => rw [Option.toList_none, List.append_nil, List.nil_append]
        | some name =>
            rw [Registry.usedInside_eq_nil found, List.append_nil, List.nil_append]
      rw [compile, Registry.validatorName?_eq, names, ofSchema, ← same]
      exact gives.bind (looked.map fun name => (base.orExternal name).orNull nullable)

lemma externals_ofSchemas {members : List Schema}
    (inside : ∀ s ∈ members, (ofSchema registry s).externals = registry.used s) :
    externalsInAll (ofSchemas registry members) = registry.usedInAll members := by
  induction members with
  | nil => rfl
  | cons s rest ih =>
      rw [ofSchemas, externalsInAll, Registry.usedInAll, inside s List.mem_cons_self,
        ih fun t mem => inside t (List.mem_cons_of_mem _ mem)]

lemma externals_ofRules {rules : ObjectRules Schema}
    (inside : ∀ s ∈ rules.children, (ofSchema registry s).externals = registry.used s) :
    (ofRules registry rules).externals = registry.usedInRules rules := by
  obtain ⟨properties, required, extras⟩ := rules
  have inProperties : externalsInFields (ofProperties registry required properties) =
      registry.usedInProperties properties := by
    have among : ∀ entry ∈ properties, (ofSchema registry entry.2).externals = registry.used entry.2 :=
      fun entry mem => inside _ (List.mem_append_left _ (List.mem_map_of_mem mem))
    clear inside
    induction properties with
    | nil => rfl
    | cons entry rest ih =>
        rw [ofProperties, externalsInFields, Registry.usedInProperties, among entry List.mem_cons_self,
          ih fun other mem => among other (List.mem_cons_of_mem _ mem)]
  have inExtras : externalsInExtras (ofExtras registry extras) = registry.usedInExtras extras := by
    cases extras with
    | schema rule => exact inside rule (List.mem_append_right _ (List.mem_singleton_self rule))
    | _ => rfl
  rw [ofRules, externals, Registry.usedInRules, inProperties, inExtras]

lemma externals_ofKind {kind : SchemaKind}
    (inside : ∀ s ∈ kind.children, (ofSchema registry s).externals = registry.used s) :
    (ofKind registry kind).externals =
      (registry.external? kind).toList ++ registry.usedInside kind := by
  have named : ∀ (v : Validator) (name : Option String), v.externals = [] →
      (v.orExternal name).externals = name.toList ++ [] := by
    intro v name none
    cases name with
    | none => exact none
    | some name => rfl
  cases kind with
  | string rules =>
      obtain ⟨checks, enumeration⟩ := rules
      cases enumeration with
      | none => exact named _ _ rfl
      | some listed => rfl
  | number rules =>
      obtain ⟨checks, enumeration⟩ := rules
      cases enumeration with
      | none => exact named _ _ rfl
      | some listed => rfl
  | boolean => exact named _ _ rfl
  | array items bounds => exact inside items (List.mem_singleton_self items)
  | object rules => exact externals_ofRules inside
  | union keyword members discriminator objectTyped => exact externals_ofSchemas inside
  | intersection members inline objectTyped =>
      have all := externals_ofSchemas fun s mem => inside s (List.mem_append_left _ mem)
      cases inline with
      | none => exact all.trans (List.append_nil _).symm
      | some rules =>
          have beside := externals_ofRules fun s mem => inside s (List.mem_append_right _ mem)
          rw [externalsInAll_eq] at all
          rw [ofKind, externals, externalsInAll_eq, List.flatMap_append, all, List.flatMap_singleton,
            beside]
          rfl
  | _ => rfl

/-- The names that stand in the validator of a schema. -/
theorem externals_ofSchema (s : Schema) : (ofSchema registry s).externals = registry.used s := by
  induction s using Schema.induction with
  | step s ih =>
      obtain ⟨kind, nullable⟩ := s
      have inKind := externals_ofKind ih
      rw [Schema.kind] at inKind
      rw [Registry.used, ← inKind]
      cases nullable <;> rfl

end Validator

/-! ### Types -/

namespace TypeExpr

open Recorder

lemma gives_compileAll {members : List Schema}
    (inside : ∀ s ∈ members, (compile registry s).Gives (ofSchema registry s) (registry.used s)) :
    (compileAll registry members).Gives (ofSchemas registry members) (registry.usedInAll members) := by
  induction members with
  | nil => exact .pure _
  | cons s rest ih =>
      have later := ih fun t mem => inside t (List.mem_cons_of_mem _ mem)
      rw [compileAll]
      exact (inside s List.mem_cons_self).bind (later.map _)

lemma gives_compileRules {rules : ObjectRules Schema}
    (inside : ∀ s ∈ rules.children, (compile registry s).Gives (ofSchema registry s) (registry.used s)) :
    (compileRules registry rules).Gives (ofRules registry rules) (registry.usedInRules rules) := by
  obtain ⟨properties, required, extras⟩ := rules
  have inProperties : (compileProperties registry required properties).Gives
      (ofProperties registry required properties) (registry.usedInProperties properties) := by
    have among : ∀ entry ∈ properties,
        (compile registry entry.2).Gives (ofSchema registry entry.2) (registry.used entry.2) :=
      fun entry mem => inside _ (List.mem_append_left _ (List.mem_map_of_mem mem))
    clear inside
    induction properties with
    | nil => exact .pure _
    | cons entry rest ih =>
        have later := ih fun other mem => among other (List.mem_cons_of_mem _ mem)
        rw [compileProperties]
        exact (among entry List.mem_cons_self).bind (later.map _)
  have inExtras : (compileExtras registry extras).Gives (ofExtras registry extras)
      (registry.usedInExtras extras) := by
    cases extras with
    | schema rule =>
        exact (inside rule (List.mem_append_right _ (List.mem_singleton_self rule))).map _
    | _ => exact .pure _
  exact inProperties.bind (inExtras.map _)

/-- A kind that no name replaces is compiled to its type. -/
lemma gives_compileKind {kind : SchemaKind} (unnamed : registry.external? kind = none)
    (inside : ∀ s ∈ kind.children, (compile registry s).Gives (ofSchema registry s) (registry.used s)) :
    (compileKind registry kind).Gives (ofKind registry kind) (registry.usedInside kind) := by
  cases kind with
  | string rules =>
      obtain ⟨checks, enumeration⟩ := rules
      cases enumeration with
      | none =>
          rw [ofKind, unnamed]
          exact .pure _
      | some listed => exact .pure _
  | number rules =>
      obtain ⟨checks, enumeration⟩ := rules
      cases enumeration with
      | none =>
          rw [ofKind, unnamed]
          exact .pure _
      | some listed => exact .pure _
  | boolean =>
      rw [ofKind, unnamed]
      exact .pure _
  | array items bounds => exact (inside items (List.mem_singleton_self items)).map _
  | object rules => exact gives_compileRules inside
  | union keyword members discriminator objectTyped => exact (gives_compileAll inside).map _
  | intersection members inline objectTyped =>
      have all := gives_compileAll fun s mem => inside s (List.mem_append_left _ mem)
      cases inline with
      | none =>
          have none : (compileInline registry none).Gives [] (registry.usedInline none) := .pure _
          rw [ofKind, ← List.append_nil (ofSchemas registry members)]
          exact all.bind (none.map _)
      | some rules =>
          have beside := gives_compileRules fun s mem => inside s (List.mem_append_right _ mem)
          exact all.bind ((beside.map fun t => [t]).map _)
  | _ => exact .pure _

/-- What a named kind is compiled to. -/
lemma ofKind_of_external {kind : SchemaKind} {name : String}
    (found : registry.external? kind = some name) : ofKind registry kind = .external name := by
  cases kind with
  | string rules =>
      obtain ⟨checks, enumeration⟩ := rules
      cases enumeration with
      | none => rw [ofKind, found, orExternal]
      | some listed => cases found
  | number rules =>
      obtain ⟨checks, enumeration⟩ := rules
      cases enumeration with
      | none => rw [ofKind, found, orExternal]
      | some listed => cases found
  | boolean => rw [ofKind, found, orExternal]
  | _ => cases found

/-- A schema is compiled to its type, and the names for what stands in it are recorded. -/
theorem gives_compile (s : Schema) :
    (compile registry s).Gives (ofSchema registry s) (registry.used s) := by
  induction s using Schema.induction with
  | step s ih =>
      obtain ⟨kind, nullable⟩ := s
      have looked := Gives.record (registry.external? kind)
      rw [compile, Registry.typeName?_eq, Registry.used, ofSchema]
      refine looked.bind ?_
      cases found : registry.external? kind with
      | none => exact (gives_compileKind found ih).map fun type => type.orNull nullable
      | some name =>
          rw [Registry.usedInside_eq_nil found, ofKind_of_external found]
          exact .pure _

end TypeExpr

/-! ### Agreement -/

/-- **The two compilers agree**: what they give has one shape, and each records the external names that
stand in either. -/
theorem compilers_agree (registry : Registry) (s : Schema) :
    (Validator.compile registry s).result.shape = (TypeExpr.compile registry s).result.shape ∧
      (Validator.compile registry s).names = (TypeExpr.compile registry s).names ∧
      (Validator.compile registry s).names =
        Text.sortedSet (Validator.compile registry s).result.externals ∧
      (TypeExpr.compile registry s).names =
        Text.sortedSet (TypeExpr.compile registry s).result.externals := by
  have agrees := @Validator.agrees_ofSchema registry s
  have gives := @Validator.gives_compile registry s
  have gives' := @TypeExpr.gives_compile registry s
  have externals := @Validator.externals_ofSchema registry s
  rw [gives.result_eq, gives'.result_eq, gives.names_eq, gives'.names_eq, ← agrees.externals, externals]
  exact ⟨agrees.shape, rfl, rfl, rfl⟩

end SchemaCompiler
