import SchemaCompiler.Proofs.List
import SchemaCompiler.Proofs.Recording
import SchemaCompiler.Proofs.Schema.Renaming

/-!
Renaming commutes with what is made of a schema.

* `Schema.mentions_rename`, `Schema.references_rename`: the names in a renamed schema;
* `Validator.rename`: a validator with its references and the targets of its mappings renamed;
* `Validator.ofSchema_rename`: the validator of a renamed schema is the renamed validator;
* `Validator.compile_rename`: and the same external names are recorded on the way;
* `Schema.rename_functorial`: renaming twice, the names after renaming, and compiling a renamed schema.
-/

namespace SchemaCompiler

variable {registry : Registry}

/-! ### Names in a renamed schema -/

namespace Schema

lemma reference?_rename (f : Renaming) (s : Schema) :
    (s.rename f).reference? = s.reference?.map f.apply := by
  obtain ⟨kind, nullable⟩ := s
  rw [rename_mk]
  cases kind <;> rfl

lemma mentions_rename (f : Renaming) (s : Schema) :
    (s.rename f).mentions = s.mentions.map f.apply := by
  induction s using Schema.induction with
  | step s ih =>
      rw [mentions_eq, mentions_eq s, reference?_rename, children_rename, List.map_append,
        List.map_flatMap, List.flatMap_map, List.flatMap_congr ih]
      cases s.reference? <;> rfl

/-- The references of a renamed schema are what the references of the schema become. -/
theorem references_rename (f : Renaming) (s : Schema) :
    (s.rename f).references = (s.references.map f.apply).eraseDups := by
  rw [references, mentions_rename, eraseDups_map, ← references]

end Schema

/-! ### Renamed validators -/

namespace Validator

mutual

/-- The validator with its references and the targets of its mappings renamed. -/
def rename (f : Renaming) : Validator → Validator
  | string checks => string checks
  | number checks => number checks
  | boolean => boolean
  | null => null
  | unknown => unknown
  | strings listed checks => strings listed checks
  | numbers listed checks => numbers listed checks
  | array item bounds => array (rename f item) bounds
  | object fields extras => object (renameFields f fields) (renameExtras f extras)
  | union keyword members discriminator objectTyped =>
    union keyword (renameAll f members) (discriminator.map (Discriminator.rename f)) objectTyped
  | intersection members inlined objectTyped =>
    intersection (renameAll f members) inlined objectTyped
  | reference name => reference (f.apply name)
  | external name base => external name (rename f base)
  | nullable inner => nullable (rename f inner)

/-- Renamed fields. -/
def renameFields (f : Renaming) : List (Field Validator) → List (Field Validator)
  | [] => []
  | ⟨name, rule, optional⟩ :: rest => ⟨name, rename f rule, optional⟩ :: renameFields f rest

/-- The renamed validator of further members. -/
def renameExtras (f : Renaming) : Extras Validator → Extras Validator
  | .unspecified => .unspecified
  | .allow => .allow
  | .forbid => .forbid
  | .schema rule => .schema (rename f rule)

/-- Several renamed validators. -/
def renameAll (f : Renaming) : List Validator → List Validator
  | [] => []
  | v :: rest => rename f v :: renameAll f rest

end

variable {f : Renaming}

lemma renameAll_eq (members : List Validator) : renameAll f members = members.map (rename f) := by
  induction members with
  | nil => rfl
  | cons v rest ih => rw [renameAll, ih, List.map_cons]

lemma renameFields_eq (fields : List (Field Validator)) :
    renameFields f fields = fields.map fun field => ⟨field.name, rename f field.rule, field.optional⟩ := by
  induction fields with
  | nil => rfl
  | cons field rest ih => rw [renameFields, ih, List.map_cons]

lemma rename_orExternal {base : Validator} (name : Option String) :
    (base.orExternal name).rename f = (base.rename f).orExternal name := by
  cases name <;> rfl

lemma rename_orNull {base : Validator} (admitsNull : Bool) :
    (base.orNull admitsNull).rename f = (base.rename f).orNull admitsNull := by
  cases admitsNull <;> rfl

lemma ofSchemas_rename {members : List Schema}
    (inside : ∀ s ∈ members, ofSchema registry (s.rename f) = (ofSchema registry s).rename f) :
    ofSchemas registry (members.map (Schema.rename f)) = renameAll f (ofSchemas registry members) := by
  rw [ofSchemas_eq, ofSchemas_eq, renameAll_eq, List.map_map, List.map_map]
  exact List.map_congr_left inside

lemma ofRules_rename {rules : ObjectRules Schema}
    (inside : ∀ s ∈ rules.children, ofSchema registry (s.rename f) = (ofSchema registry s).rename f) :
    ofRules registry (rules.map (Schema.rename f)) = (ofRules registry rules).rename f := by
  obtain ⟨properties, required, extras⟩ := rules
  have fields : ofProperties registry required (Table.mapValues (Schema.rename f) properties) =
      renameFields f (ofProperties registry required properties) := by
    rw [ofProperties_eq, ofProperties_eq, renameFields_eq, Table.mapValues, List.map_map, List.map_map]
    refine List.map_congr_left fun entry mem => ?_
    simp only [Function.comp_apply]
    rw [inside entry.2 (List.mem_append_left _ (List.mem_map_of_mem mem))]
  have further : ofExtras registry (extras.map (Schema.rename f)) =
      renameExtras f (ofExtras registry extras) := by
    cases extras with
    | schema rule =>
        rw [Extras.map, ofExtras, ofExtras, renameExtras,
          inside rule (List.mem_append_right _ List.mem_cons_self)]
    | _ => rfl
  rw [ObjectRules.map, ofRules, fields, further, ofRules, rename]

lemma ofKind_rename {kind : SchemaKind}
    (inside : ∀ s ∈ kind.children, ofSchema registry (s.rename f) = (ofSchema registry s).rename f) :
    ofKind registry (kind.map (Schema.rename f) f.apply (Discriminator.rename f)) =
      (ofKind registry kind).rename f := by
  cases kind with
  | string rules =>
      obtain ⟨checks, enumeration⟩ := rules
      cases enumeration with
      | none => rw [SchemaKind.map, ofKind, rename_orExternal, rename]
      | some listed => rfl
  | number rules =>
      obtain ⟨checks, enumeration⟩ := rules
      cases enumeration with
      | none => rw [SchemaKind.map, ofKind, rename_orExternal, rename]
      | some listed => rfl
  | boolean => rw [SchemaKind.map, ofKind, rename_orExternal, rename]
  | array items bounds => rw [SchemaKind.map, ofKind, inside items List.mem_cons_self, ofKind, rename]
  | object rules => exact ofRules_rename inside
  | union keyword members discriminator objectTyped =>
      have members' : ofSchemas registry (members.map (Schema.rename f)) =
          renameAll f (ofSchemas registry members) := ofSchemas_rename inside
      rw [SchemaKind.map, ofKind, members', ofKind, rename]
  | intersection members inline objectTyped =>
      have members' : ofSchemas registry (members.map (Schema.rename f)) =
          renameAll f (ofSchemas registry members) :=
        ofSchemas_rename fun s mem => inside s (List.mem_append_left _ mem)
      cases inline with
      | none => rw [SchemaKind.map, Option.map_none, ofKind, members', ofKind, rename]
      | some rules =>
          have beside : ofRules registry (rules.map (Schema.rename f)) =
              (ofRules registry rules).rename f :=
            ofRules_rename fun s mem => inside s (List.mem_append_right _ mem)
          rw [SchemaKind.map, Option.map_some, ofKind, members', beside, ofKind, rename, renameAll_eq,
            renameAll_eq, List.map_append, List.map_singleton]
  | _ => rfl

/-- The validator of a renamed schema is the renamed validator of the schema. -/
theorem ofSchema_rename (s : Schema) :
    ofSchema registry (s.rename f) = (ofSchema registry s).rename f := by
  induction s using Schema.induction with
  | step s ih =>
      obtain ⟨kind, nullable⟩ := s
      have inKind : ofKind registry (kind.map (Schema.rename f) f.apply (Discriminator.rename f)) =
          (ofKind registry kind).rename f := ofKind_rename ih
      rw [Schema.rename_mk, ofSchema, inKind, ofSchema, rename_orNull]

end Validator

/-! ### External names -/

/-- A renamed schema brings the same external names into the output. -/
lemma Registry.used_rename (f : Renaming) (s : Schema) : registry.used (s.rename f) = registry.used s := by
  induction s using Schema.induction with
  | step s ih =>
      have own : registry.external? (s.rename f).kind = registry.external? s.kind := by
        obtain ⟨kind, nullable⟩ := s
        rw [Schema.rename_mk]
        cases kind <;> rfl
      rw [used_eq, used_eq s, own, Schema.children_rename, List.flatMap_map, List.flatMap_congr ih]

/-- A renamed schema is compiled to the renamed validator, and the same names are recorded. -/
theorem Validator.compile_rename (f : Renaming) (s : Schema) :
    compile registry (s.rename f) = rename f <$> compile registry s := by
  have gives : (compile registry (s.rename f)).Gives ((ofSchema registry s).rename f)
      (registry.used s) := by
    rw [← ofSchema_rename, ← registry.used_rename f s]
    exact gives_compile (s.rename f)
  have renamed : Recorder.Gives (compile registry s >>= fun v => pure (v.rename f))
      ((ofSchema registry s).rename f) (registry.used s) := (gives_compile s).map (rename f)
  funext before
  exact (gives before).trans (renamed before).symm

/-- **Renaming is functorial.**  Renaming nothing changes nothing, and renaming twice is renaming by the
composition.  The references of a renamed schema are what the references become, each once and in order,
and compiling it gives the renamed validator and records the same external names. -/
theorem Schema.rename_functorial (registry : Registry) (f g : Renaming) (s : Schema) :
    s.rename (fun _ => none) = s ∧
      (s.rename f).rename g = s.rename (f.andThen g) ∧
      (s.rename f).references = (s.references.map f.apply).eraseDups ∧
      Validator.compile registry (s.rename f) = Validator.rename f <$> Validator.compile registry s :=
  ⟨rename_eq_self fun _ _ => rfl, rename_rename f g s, references_rename f s,
    Validator.compile_rename f s⟩

end SchemaCompiler
