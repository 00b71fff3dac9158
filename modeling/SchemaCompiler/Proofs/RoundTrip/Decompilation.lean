import SchemaCompiler.Proofs.Schema.Canonical
import SchemaCompiler.Proofs.Schema.WellFormed
import SchemaCompiler.Proofs.Validator.Basic
import SchemaCompiler.Validator.Schema

/-!
What is read off the validator of a schema.

A validator keeps everything that its schema says but for the order of required names, which are
listed in the order of the properties.

* `SchemaKind.listed`: a kind with its required names in this order;
* `Validator.readBack_eq`: the schema that is read off, for kinds `Validator.schema_ofKind`;
* `Validator.readBack_registry`: it is the same under every registry;
* `Validator.normal_readBack`: a validator stands for the normal form of its schema;
* `Validator.safe_readBack_iff`: the integers that are read off are those of the schema.
-/

namespace SchemaCompiler

/-! ### Required names in the order of the properties -/

/-- The rules with the required names in the order of the properties. -/
def ObjectRules.listed (rules : ObjectRules Schema) : ObjectRules Schema :=
  { rules with required := ((Table.keys rules.properties).filter rules.required.contains).eraseDups }

/-- The kind with the required names in the order of the properties. -/
def SchemaKind.listed : SchemaKind → SchemaKind
  | .object rules => .object rules.listed
  | .intersection members inline objectTyped =>
    .intersection members (inline.map ObjectRules.listed) objectTyped
  | kind => kind

@[simp]
lemma SchemaKind.children_listed (kind : SchemaKind) : kind.listed.children = kind.children := by
  cases kind with
  | intersection members inline objectTyped => cases inline <;> rfl
  | _ => rfl

namespace Validator

lemma schemas_eq (validators : List Validator) : schemas validators = validators.map schema := by
  induction validators with
  | nil => rfl
  | cons v rest ih => rw [schemas, ih, List.map_cons]

lemma fieldSchemas_eq (fields : List (Field Validator)) :
    fieldSchemas fields = fields.map fun field => (field.name, field.rule.schema) := by
  induction fields with
  | nil => rfl
  | cons field rest ih => rw [fieldSchemas, ih, List.map_cons]

/-- An external name stands for its base. -/
lemma schema_orExternal (base : Validator) (name : Option String) :
    (base.orExternal name).schema = base.schema := by
  cases name with
  | none => rfl
  | some name => rw [orExternal, schema]

variable {registry : Registry}

/-- The schema that is read off the validator of a schema. -/
abbrev readBack (registry : Registry) (s : Schema) : Schema := (ofSchema registry s).schema

/-- The rules that are read off the validator of rules. -/
lemma schema_ofRules (rules : ObjectRules Schema) :
    (ofRules registry rules).schema =
      .mk (.object (rules.listed.map (readBack registry))) false := by
  obtain ⟨properties, required, extras⟩ := rules
  have names : requiredNames (ofProperties registry required properties) =
      ((Table.keys properties).filter required.contains).eraseDups := by
    rw [requiredNames, ofProperties_eq, Table.keys, List.filter_map, List.filter_map, List.map_map]
    simp only [Function.comp_def, Bool.not_not]
  rw [ofRules, schema, names, fieldSchemas_eq, ofProperties_eq, List.map_map]
  cases extras <;> rfl

lemma intersectionKind_concat (members : List Schema) (rules : ObjectRules Schema) (objectTyped : Bool) :
    intersectionKind (members ++ [.mk (.object rules) false]) true objectTyped =
      .intersection members (some rules) objectTyped := by
  rw [intersectionKind.eq_def, List.getLast?_concat, List.dropLast_concat]

/-- The kind that is read off the validator of a kind. -/
lemma schema_ofKind (kind : SchemaKind) :
    (ofKind registry kind).schema = .mk (kind.listed.map (readBack registry) id id) false := by
  have read : ∀ list : List Schema, schemas (ofSchemas registry list) = list.map (readBack registry) := by
    intro list
    rw [schemas_eq, ofSchemas_eq, List.map_map]
    rfl
  cases kind with
  | string rules =>
      obtain ⟨checks, enumeration⟩ := rules
      cases enumeration with
      | none => exact schema_orExternal _ _
      | some listed => rfl
  | number rules =>
      obtain ⟨checks, enumeration⟩ := rules
      cases enumeration with
      | none => exact schema_orExternal _ _
      | some listed => rfl
  | boolean => exact schema_orExternal _ _
  | object rules => exact schema_ofRules rules
  | union keyword list discriminator objectTyped =>
      rw [ofKind, schema, read, SchemaKind.listed, SchemaKind.map, Option.map_id_apply]
      all_goals (intros; contradiction)
  | intersection list inline objectTyped =>
      cases inline with
      | none =>
          rw [ofKind, schema, read, intersectionKind]
          · rfl
          · intro rules inlined
            cases inlined
      | some rules =>
          rw [ofKind, schema, schemas_eq, List.map_append, ← schemas_eq, read, List.map_singleton,
            schema_ofRules, intersectionKind_concat]
          rfl
  | _ => rfl

/-- **What is read off the validator of a schema** is the schema with its required names in the order
of the properties, at every depth. -/
theorem readBack_eq (s : Schema) :
    readBack registry s = .mk (s.kind.listed.map (readBack registry) id id) s.nullable := by
  obtain ⟨kind, nullable⟩ := s
  cases nullable with
  | false => exact schema_ofKind kind
  | true => exact congrArg Schema.orNull (schema_ofKind kind)

/-- What is read off does not depend on what is registered. -/
theorem readBack_registry (registry registry' : Registry) (s : Schema) :
    readBack registry s = readBack registry' s := by
  induction s using Schema.induction with
  | step s ih =>
    have inside : ∀ child ∈ s.kind.listed.children, readBack registry child = readBack registry' child := by
      rw [SchemaKind.children_listed]
      exact ih
    rw [readBack_eq, readBack_eq,
      SchemaKind.map_congr inside (fun _ _ => rfl) fun _ _ _ _ _ => rfl]

end Validator

/-! ### Normal forms -/

section Normal

variable {f : Schema → Schema}

/-- Names that are required are listed in the order of the properties. -/
lemma ObjectRules.WellFormed.listed_perm {rules : ObjectRules Schema} (wellFormed : rules.WellFormed) :
    rules.listed.required.Perm rules.required := by
  refine (List.perm_ext_iff_of_nodup (nodup_eraseDups _) wellFormed.once).2 fun name => ?_
  rw [List.mem_eraseDups, List.mem_filter, List.contains_iff_mem, and_iff_right_iff_imp]
  exact wellFormed.known name

lemma ObjectRules.normal_listed {rules : ObjectRules Schema} (wellFormed : rules.WellFormed)
    (inside : ∀ child ∈ rules.children, (f child).normal = child.normal) :
    normal (rules.listed.map f) = normal rules := by
  have properties : Table.mapValues Schema.normal (Table.mapValues f rules.properties) =
      Table.mapValues Schema.normal rules.properties := by
    rw [Table.mapValues_mapValues]
    exact Table.mapValues_congr fun entry mem =>
      inside _ (List.mem_append_left _ (List.mem_map_of_mem mem))
  have extras : (rules.extras.map f).normal = rules.extras.normal := by
    cases given : rules.extras with
    | schema rule =>
        have inside := inside rule (List.mem_append_right _ (by simp [given, Extras.toList]))
        rw [Extras.map, Extras.normal, Extras.normal, inside]
    | _ => rfl
  have required := sortStrings_eq_iff_perm.2 wellFormed.listed_perm
  rw [ObjectRules.normal_eq, ObjectRules.normal_eq, ← required, ← properties, ← extras]
  rfl

/-- The order of required names does not matter to the normal form. -/
lemma SchemaKind.normal_listed {kind : SchemaKind}
    (wellFormed : ∀ rules, kind.rules? = some rules → rules.WellFormed)
    (inside : ∀ child ∈ kind.children, (f child).normal = child.normal) :
    (kind.listed.map f id id).normal = kind.normal := by
  have members : ∀ list : List Schema, (∀ child ∈ list, (f child).normal = child.normal) →
      Schema.normalAll (list.map f) = Schema.normalAll list := by
    intro list inside
    rw [Schema.normalAll_eq, Schema.normalAll_eq, List.map_map]
    exact List.map_congr_left inside
  cases kind with
  | array items bounds =>
      rw [listed, map, normal, normal, inside items (List.mem_singleton_self items)]
      all_goals (intros; contradiction)
  | object rules =>
      rw [listed, map, normal, normal, ObjectRules.normal_listed (wellFormed rules rfl) inside]
  | union keyword list discriminator objectTyped =>
      rw [listed, map, normal, normal, members list inside, Option.map_id_apply]
      all_goals (intros; contradiction)
  | intersection list inline objectTyped =>
      have inList := members list fun child mem => inside child (List.mem_append_left _ mem)
      cases inline with
      | none => rw [listed, map, normal, normal, inList]; rfl
      | some rules =>
          have beside := ObjectRules.normal_listed (wellFormed rules rfl) fun child mem =>
            inside child (List.mem_append_right _ mem)
          have bare : (rules.listed.map f).isBare = rules.isBare := by
            rw [← ObjectRules.isBare_normal, beside, ObjectRules.isBare_normal]
          rw [listed, map, normal, normal, inList, Option.map_some, Option.map_some,
            ObjectRules.normalInline, ObjectRules.normalInline, bare, beside]
  | _ => rfl

end Normal

namespace Validator

variable {registry : Registry}

/-- **A validator stands for its schema.** -/
theorem normal_readBack {s : Schema} (wellFormed : s.WellFormed) :
    (readBack registry s).normal = s.normal := by
  induction s using Schema.induction with
  | step s ih =>
      obtain ⟨own, inside⟩ := Schema.wellFormed_iff.1 wellFormed
      have kind := SchemaKind.normal_listed own fun child mem => ih child mem (inside child mem)
      rw [readBack_eq]
      obtain ⟨_, nullable⟩ := s
      exact congrArg (Schema.mk · nullable) kind

/-- The integers that are read off a validator are those of its schema. -/
theorem safe_readBack_iff {s : Schema} :
    (readBack registry s).fragment.Safe ↔ s.fragment.Safe := by
  induction s using Schema.induction with
  | step s ih =>
      have bounds : (s.kind.listed.map (readBack registry) id id).SafeBounds ↔ s.kind.SafeBounds := by
        cases s.kind <;> rfl
      rw [readBack_eq, Schema.safe_fragment_iff, Schema.safe_fragment_iff, Schema.children,
        Schema.kind, SchemaKind.children_map, SchemaKind.children_listed, List.forall_mem_map]
      exact and_congr bounds (forall₂_congr ih)

end Validator

end SchemaCompiler
