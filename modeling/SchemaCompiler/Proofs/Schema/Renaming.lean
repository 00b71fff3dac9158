import SchemaCompiler.Proofs.Schema.Canonical
import SchemaCompiler.Schema.Names

/-!
Renaming the references of a schema.

* `Schema.Within`: a schema stands somewhere in another one;
* `Schema.Names`: a schema names a component by a reference or by the target of a mapping;
* `Schema.MapsTo`: a discriminator in a schema maps a tag to a component;
* `Schema.mem_references_iff`: the references of a schema are those that stand somewhere in it;
* `Schema.rename_rename`: one renaming after another is their composition;
* `Schema.rename_congr`: a renaming matters only for the names in a schema;
* `Schema.within_rename_iff`, `Schema.names_rename_iff`: what stands in a renamed schema, and its names;
* `Schema.normal_rename`: renaming goes through the normal form, so that schemas with one canonical
  form have one after renaming too;
* `Schema.mem_references_normal_iff`: the normal form refers to the same names;
* `Schema.exists_object_of_normal`: what has the normal form of an object has the same properties.
-/

namespace SchemaCompiler

/-! ### Names of components -/

/-- A schema stands somewhere in another one, or is the same. -/
inductive Schema.Within : Schema → Schema → Prop
  | self (s : Schema) : Within s s
  | child {s t u : Schema} (among : t ∈ s.children) (within : Within t u) : Within s u

/-- A kind names a component as a reference or in the target of a mapping. -/
inductive SchemaKind.Names : SchemaKind → String → Prop
  | reference (name : String) : Names (.reference name) name
  | target {keyword : UnionKeyword} {members : List Schema} {d : Discriminator} {objectTyped : Bool}
      {tag name : String} (mapped : (tag, componentPrefix ++ name) ∈ d.mapping) :
      Names (.union keyword members (some d) objectTyped) name

/-- A schema names a component somewhere. -/
def Schema.Names (s : Schema) (name : String) : Prop := ∃ t, s.Within t ∧ t.kind.Names name

lemma Schema.Within.trans {s t u : Schema} (within : s.Within t) (inner : t.Within u) : s.Within u := by
  induction within with
  | self => exact inner
  | child among _ ih => exact .child among (ih inner)

lemma Schema.names_iff {s : Schema} {name : String} :
    s.Names name ↔ s.kind.Names name ∨ ∃ child ∈ s.children, child.Names name := by
  constructor
  · rintro ⟨t, within, names⟩
    cases within with
    | self => exact .inl names
    | child among within => exact .inr ⟨_, among, t, within, names⟩
  · rintro (names | ⟨child, among, t, within, names⟩)
    · exact ⟨s, .self s, names⟩
    · exact ⟨t, .child among within, names⟩

lemma Schema.Names.of_child {s child : Schema} {name : String} (names : child.Names name)
    (among : child ∈ s.children) : s.Names name :=
  names_iff.2 (.inr ⟨child, among, names⟩)

/-! ### References -/

lemma Schema.mentionsAll_eq (members : List Schema) :
    mentionsAll members = members.flatMap mentions := by
  induction members with
  | nil => rfl
  | cons s rest ih => rw [mentionsAll, ih, List.flatMap_cons]

lemma ObjectRules.mentions_eq (rules : ObjectRules Schema) :
    mentions rules = rules.children.flatMap Schema.mentions := by
  obtain ⟨properties, required, extras⟩ := rules
  have inProperties : mentionsProperties properties =
      (properties.map Prod.snd).flatMap Schema.mentions := by
    induction properties with
    | nil => rfl
    | cons entry rest ih => rw [mentionsProperties, ih, List.map_cons, List.flatMap_cons]
  rw [mentions, inProperties, children, List.flatMap_append]
  cases extras <;> simp [Extras.mentions, Extras.toList]

/-- The names in a schema are its own, if it is a reference, and those in the schemas inside it. -/
lemma Schema.mentions_eq (s : Schema) :
    s.mentions = s.reference?.toList ++ s.children.flatMap mentions := by
  obtain ⟨kind, nullable⟩ := s
  cases kind with
  | array items bounds =>
      simp [mentions, SchemaKind.mentions, reference?, children, Schema.kind, SchemaKind.children]
  | object rules =>
      rw [mentions, SchemaKind.mentions, ObjectRules.mentions_eq]
      rfl
  | union keyword members discriminator objectTyped =>
      rw [mentions, SchemaKind.mentions, mentionsAll_eq]
      rfl
  | intersection members inline objectTyped =>
      rw [mentions, SchemaKind.mentions, mentionsAll_eq, children, Schema.kind, SchemaKind.children,
        List.flatMap_append]
      cases inline with
      | none => rfl
      | some rules => rw [ObjectRules.mentionsInline, ObjectRules.mentions_eq]; rfl
  | _ => rfl

/-- The references of a schema are those that stand somewhere in it. -/
theorem Schema.mem_references_iff {s : Schema} {name : String} :
    name ∈ s.references ↔ ∃ t, s.Within t ∧ t.kind = .reference name := by
  have own : ∀ t : Schema, name ∈ t.reference?.toList ↔ t.kind = .reference name := by
    rintro ⟨kind, nullable⟩
    cases kind <;> simp [reference?, Schema.kind, eq_comm]
  rw [references, List.mem_eraseDups]
  induction s using Schema.induction with
  | step s ih =>
      rw [mentions_eq, List.mem_append, own, List.mem_flatMap]
      constructor
      · rintro (here | ⟨child, among, mem⟩)
        · exact ⟨s, .self s, here⟩
        · obtain ⟨t, within, there⟩ := (ih child among).1 mem
          exact ⟨t, .child among within, there⟩
      · rintro ⟨t, within, there⟩
        cases within with
        | self => exact .inl there
        | child among within => exact .inr ⟨_, among, (ih _ among).2 ⟨t, within, there⟩⟩

/-- A discriminator somewhere in a schema maps a tag to a component. -/
def Schema.MapsTo (s : Schema) (name : String) : Prop :=
  ∃ keyword members d objectTyped nullable tag,
    s.Within (.mk (.union keyword members (some d) objectTyped) nullable) ∧
      (tag, componentPrefix ++ name) ∈ d.mapping

lemma Schema.names_cases {s : Schema} {name : String} (names : s.Names name) :
    name ∈ s.references ∨ s.MapsTo name := by
  obtain ⟨⟨kind, nullable⟩, within, names⟩ := names
  change kind.Names name at names
  cases names with
  | reference => exact .inl (mem_references_iff.2 ⟨_, within, rfl⟩)
  | target mapped => exact .inr ⟨_, _, _, _, nullable, _, within, mapped⟩

lemma Schema.Within.references_subset {s t : Schema} (within : s.Within t) :
    t.references ⊆ s.references := by
  intro name mem
  obtain ⟨u, inner, here⟩ := mem_references_iff.1 mem
  exact mem_references_iff.2 ⟨u, within.trans inner, here⟩

/-! ### Changing the parts of a kind -/

lemma Schema.renameAll_eq (f : Renaming) (members : List Schema) :
    renameAll f members = members.map (rename f) := by
  induction members with
  | nil => rfl
  | cons s rest ih => rw [renameAll, ih, List.map_cons]

lemma ObjectRules.renameProperties_eq (f : Renaming) (properties : List (String × Schema)) :
    renameProperties f properties = Table.mapValues (Schema.rename f) properties := by
  induction properties with
  | nil => rfl
  | cons entry rest ih => rw [renameProperties, ih, Table.mapValues, Table.mapValues, List.map_cons]

/-- The rule for further members with another schema. -/
def Extras.map (f : Schema → Schema) : Extras Schema → Extras Schema
  | .schema rule => .schema (f rule)
  | .unspecified => .unspecified
  | .allow => .allow
  | .forbid => .forbid

/-- The rules with other schemas inside them. -/
def ObjectRules.map (f : Schema → Schema) (rules : ObjectRules Schema) : ObjectRules Schema :=
  ⟨Table.mapValues f rules.properties, rules.required, rules.extras.map f⟩

/-- The kind with other schemas inside it, another name if it is a reference, and another
discriminator if it has one. -/
@[simp]
def SchemaKind.map (f : Schema → Schema) (name : String → String)
    (selection : Discriminator → Discriminator) : SchemaKind → SchemaKind
  | .array items bounds => .array (f items) bounds
  | .object rules => .object (rules.map f)
  | .union keyword members discriminator objectTyped =>
    .union keyword (members.map f) (discriminator.map selection) objectTyped
  | .intersection members inline objectTyped =>
    .intersection (members.map f) (inline.map (ObjectRules.map f)) objectTyped
  | .reference target => .reference (name target)
  | .string rules => .string rules
  | .number rules => .number rules
  | .boolean => .boolean
  | .null => .null
  | .any => .any

lemma ObjectRules.rename_eq (f : Renaming) (rules : ObjectRules Schema) :
    rename f rules = rules.map (Schema.rename f) := by
  obtain ⟨properties, required, extras⟩ := rules
  rw [rename, map, renameProperties_eq]
  cases extras <;> rfl

/-- Renaming changes the schemas inside, the name of a reference and a discriminator. -/
lemma Schema.rename_mk (f : Renaming) (kind : SchemaKind) (nullable : Bool) :
    rename f (.mk kind nullable) = .mk (kind.map (rename f) f.apply (Discriminator.rename f)) nullable := by
  rw [rename]
  cases kind with
  | object rules => rw [SchemaKind.rename, SchemaKind.map, ObjectRules.rename_eq]
  | union keyword members discriminator objectTyped =>
      rw [SchemaKind.rename, SchemaKind.map, renameAll_eq]
  | intersection members inline objectTyped =>
      rw [SchemaKind.rename, SchemaKind.map, renameAll_eq]
      cases inline with
      | none => rfl
      | some rules => rw [ObjectRules.renameInline, ObjectRules.rename_eq, Option.map_some]
  | _ => rfl

lemma ObjectRules.map_map (f g : Schema → Schema) (rules : ObjectRules Schema) :
    (rules.map f).map g = rules.map fun s => g (f s) := by
  obtain ⟨properties, required, extras⟩ := rules
  simp only [map, Table.mapValues_mapValues]
  cases extras <;> rfl

lemma ObjectRules.map_congr {f g : Schema → Schema} {rules : ObjectRules Schema}
    (h : ∀ child ∈ rules.children, f child = g child) : rules.map f = rules.map g := by
  have properties : Table.mapValues f rules.properties = Table.mapValues g rules.properties :=
    Table.mapValues_congr fun entry mem => h _ (List.mem_append_left _ (List.mem_map_of_mem mem))
  have extras : rules.extras.map f = rules.extras.map g := by
    cases eq : rules.extras with
    | schema rule =>
        rw [Extras.map, Extras.map, h rule (List.mem_append_right _ (by simp [eq, Extras.toList]))]
    | _ => rfl
  rw [map, map, properties, extras]

lemma ObjectRules.children_map (f : Schema → Schema) (rules : ObjectRules Schema) :
    (rules.map f).children = rules.children.map f := by
  obtain ⟨properties, required, extras⟩ := rules
  rw [map, children, children, List.map_append, List.map_map, Table.mapValues, List.map_map]
  cases extras <;> rfl

lemma SchemaKind.map_map {f g : Schema → Schema} {m n : String → String}
    {d e : Discriminator → Discriminator} (kind : SchemaKind) :
    (kind.map f m d).map g n e = kind.map (fun s => g (f s)) (fun a => n (m a)) fun a => e (d a) := by
  cases kind with
  | object rules => rw [map, map, map, ObjectRules.map_map]
  | union => simp only [map, List.map_map, Option.map_map, Function.comp_def]
  | intersection members inline objectTyped =>
      simp only [map, List.map_map, Option.map_map, Function.comp_def, ObjectRules.map_map]
  | _ => rfl

lemma SchemaKind.map_congr {f g : Schema → Schema} {m n : String → String}
    {d e : Discriminator → Discriminator} {kind : SchemaKind}
    (children : ∀ child ∈ kind.children, f child = g child)
    (names : ∀ name, kind = .reference name → m name = n name)
    (selections : ∀ keyword members used objectTyped,
      kind = .union keyword members (some used) objectTyped → d used = e used) :
    kind.map f m d = kind.map g n e := by
  cases kind with
  | array items bounds => rw [map, map, children items (List.mem_singleton_self _)]
  | object rules => rw [map, map, ObjectRules.map_congr children]
  | union keyword members discriminator objectTyped =>
      have inMembers : members.map f = members.map g := List.map_congr_left children
      rw [map, map, inMembers]
      cases discriminator with
      | none => rfl
      | some used => rw [Option.map_some, Option.map_some, selections _ _ _ _ rfl]
  | intersection members inline objectTyped =>
      have inMembers : members.map f = members.map g :=
        List.map_congr_left fun s mem => children s (List.mem_append_left _ mem)
      rw [map, map, inMembers]
      cases inline with
      | none => rfl
      | some rules =>
          rw [Option.map_some, Option.map_some,
            ObjectRules.map_congr fun s mem => children s (List.mem_append_right _ mem)]
  | reference name => rw [map, map, names name rfl]
  | _ => rfl

lemma ObjectRules.map_id (rules : ObjectRules Schema) : rules.map (fun s => s) = rules := by
  obtain ⟨properties, required, extras⟩ := rules
  rw [map, Table.mapValues_id]
  cases extras <;> rfl

lemma SchemaKind.map_id (kind : SchemaKind) :
    kind.map (fun s => s) (fun name => name) (fun d => d) = kind := by
  cases kind with
  | object rules => rw [map, ObjectRules.map_id]
  | union => simp
  | intersection members inline objectTyped =>
      rw [map, List.map_id']
      cases inline with
      | none => rfl
      | some rules => rw [Option.map_some, ObjectRules.map_id]
  | _ => rfl

lemma SchemaKind.children_map (f : Schema → Schema) (name : String → String)
    (selection : Discriminator → Discriminator) (kind : SchemaKind) :
    (kind.map f name selection).children = kind.children.map f := by
  cases kind with
  | object rules => rw [map, children, children, ObjectRules.children_map]
  | intersection members inline objectTyped =>
      rw [map, children, children, List.map_append]
      cases inline with
      | none => rfl
      | some rules => exact congrArg _ (ObjectRules.children_map _ rules)
  | _ => rfl

/-- The schemas inside a renamed schema. -/
lemma Schema.children_rename (f : Renaming) (s : Schema) :
    (s.rename f).children = s.children.map (rename f) := by
  obtain ⟨kind, nullable⟩ := s
  rw [rename_mk]
  exact SchemaKind.children_map _ _ _ _

/-! ### Targets of mappings -/

lemma renameTarget_append (f : Renaming) (name : String) :
    renameTarget f (componentPrefix ++ name) = componentPrefix ++ f.apply name := by
  rw [renameTarget, Text.stripPrefix?_eq_some_iff.2 rfl, Renaming.apply]
  dsimp only
  cases f name <;> rfl

/-- A target is the component prefix with a name, or stays as it is. -/
lemma renameTarget_cases (target : String) :
    (∃ name, target = componentPrefix ++ name) ∨ ∀ f, renameTarget f target = target := by
  cases found : Text.stripPrefix? componentPrefix target with
  | none =>
      refine .inr fun f => ?_
      rw [renameTarget, found]
  | some name => exact .inl ⟨name, Text.stripPrefix?_eq_some_iff.1 found⟩

/-! ### Laws of renaming -/

lemma Renaming.apply_andThen (f g : Renaming) (name : String) :
    (f.andThen g).apply name = g.apply (f.apply name) := by
  rw [apply, andThen, apply.eq_1 f]
  cases f name <;> rfl

lemma Discriminator.rename_rename (f g : Renaming) (d : Discriminator) :
    (d.rename f).rename g = d.rename (f.andThen g) := by
  rw [rename, rename, rename, Table.mapValues_mapValues]
  congr 1
  refine Table.mapValues_congr fun entry _ => ?_
  rcases renameTarget_cases entry.2 with ⟨name, eq⟩ | fixed
  · rw [eq, renameTarget_append, renameTarget_append, renameTarget_append, Renaming.apply_andThen]
  · rw [fixed, fixed, fixed]

lemma Discriminator.rename_congr {f g : Renaming} {d : Discriminator}
    (agree : ∀ tag name, (tag, componentPrefix ++ name) ∈ d.mapping → f.apply name = g.apply name) :
    d.rename f = d.rename g := by
  rw [rename, rename]
  congr 1
  refine Table.mapValues_congr fun entry mem => ?_
  rcases renameTarget_cases entry.2 with ⟨name, eq⟩ | fixed
  · rw [eq, renameTarget_append, renameTarget_append, agree entry.1 name (by rwa [← eq])]
  · rw [fixed, fixed]

lemma Discriminator.rename_eq_self {f : Renaming} {d : Discriminator}
    (keeps : ∀ tag name, (tag, componentPrefix ++ name) ∈ d.mapping → f.apply name = name) :
    d.rename f = d := by
  have mapping : Table.mapValues (renameTarget f) d.mapping = d.mapping := by
    conv_rhs => rw [← Table.mapValues_id d.mapping]
    refine Table.mapValues_congr fun entry mem => ?_
    rcases renameTarget_cases entry.2 with ⟨name, eq⟩ | fixed
    · rw [eq, renameTarget_append, keeps entry.1 name (by rwa [← eq])]
    · rw [fixed]
  rw [rename, mapping]

/-- One renaming after another is their composition. -/
theorem Schema.rename_rename (f g : Renaming) (s : Schema) :
    (s.rename f).rename g = s.rename (f.andThen g) := by
  induction s using Schema.induction with
  | step s ih =>
      obtain ⟨kind, nullable⟩ := s
      rw [rename_mk, rename_mk, rename_mk, SchemaKind.map_map]
      congr 1
      refine SchemaKind.map_congr ih ?_ ?_
      · exact fun name _ => (Renaming.apply_andThen f g name).symm
      · exact fun _ _ used _ _ => used.rename_rename f g

/-- A renaming matters only for the names in a schema. -/
theorem Schema.rename_congr {f g : Renaming} {s : Schema}
    (agree : ∀ name, s.Names name → f.apply name = g.apply name) : s.rename f = s.rename g := by
  induction s using Schema.induction with
  | step s ih =>
      have inside : ∀ child ∈ s.children, child.rename f = child.rename g := fun child mem =>
        ih child mem fun name names => agree name (names.of_child mem)
      have own : ∀ name, s.kind.Names name → f.apply name = g.apply name := fun name names =>
        agree name (names_iff.2 (.inl names))
      obtain ⟨kind, nullable⟩ := s
      rw [rename_mk, rename_mk]
      congr 1
      refine SchemaKind.map_congr inside ?_ ?_
      · rintro name rfl
        exact own name (.reference name)
      · rintro keyword members used objectTyped rfl
        exact Discriminator.rename_congr fun tag name mapped => own name (.target mapped)

/-- A renaming that keeps the names in a schema changes nothing. -/
theorem Schema.rename_eq_self {f : Renaming} {s : Schema}
    (keeps : ∀ name, s.Names name → f.apply name = name) : s.rename f = s := by
  induction s using Schema.induction with
  | step s ih =>
      have inside : ∀ child ∈ s.children, child.rename f = child := fun child mem =>
        ih child mem fun name names => keeps name (names.of_child mem)
      have own : ∀ name, s.kind.Names name → f.apply name = name := fun name names =>
        keeps name (names_iff.2 (.inl names))
      obtain ⟨kind, nullable⟩ := s
      rw [rename_mk]
      conv_rhs => rw [← SchemaKind.map_id kind]
      congr 1
      refine SchemaKind.map_congr inside ?_ ?_
      · rintro name rfl
        exact own name (.reference name)
      · rintro keyword members used objectTyped rfl
        exact Discriminator.rename_eq_self fun tag name mapped => own name (.target mapped)

lemma SchemaKind.names_map_iff {f : Renaming} {g : Schema → Schema} {kind : SchemaKind}
    {name : String} :
    (kind.map g f.apply (Discriminator.rename f)).Names name ↔
      ∃ old, kind.Names old ∧ f.apply old = name := by
  constructor
  · intro names
    cases kind with
    | reference old =>
        rw [map] at names
        cases names
        exact ⟨old, .reference old, rfl⟩
    | union keyword members discriminator objectTyped =>
        cases discriminator with
        | none => cases names
        | some d =>
            rw [map, Option.map_some] at names
            cases names with
            | target mapped =>
                obtain ⟨⟨tag, target⟩, mem, eq⟩ := List.mem_map.1 mapped
                obtain ⟨rfl, renamed⟩ := Prod.mk.inj eq
                -- a target that is no reference is not renamed, so it names what it did before
                rcases renameTarget_cases target with ⟨old, rfl⟩ | fixed
                · rw [renameTarget_append] at renamed
                  exact ⟨old, .target mem, (String.append_right_inj _).1 renamed⟩
                · rw [fixed] at renamed
                  subst renamed
                  refine ⟨name, .target mem, ?_⟩
                  have same := fixed f
                  rw [renameTarget_append] at same
                  exact (String.append_right_inj _).1 same
    | _ => cases names
  · rintro ⟨old, names, rfl⟩
    cases names with
    | reference => exact .reference _
    | @target keyword members d objectTyped tag old mapped =>
        exact .target (List.mem_map.2
          ⟨_, mapped, congrArg (Prod.mk tag) (renameTarget_append f old)⟩)

/-- What stands in a renamed schema is what stands in the schema, renamed. -/
theorem Schema.within_rename_iff {f : Renaming} {s u : Schema} :
    (s.rename f).Within u ↔ ∃ t, s.Within t ∧ u = t.rename f := by
  constructor
  · induction s using Schema.induction with
    | step s ih =>
        intro within
        cases within with
        | self => exact ⟨s, .self s, rfl⟩
        | child among within =>
            rw [children_rename] at among
            obtain ⟨child, mem, rfl⟩ := List.mem_map.1 among
            obtain ⟨t, within, eq⟩ := ih child mem within
            exact ⟨t, .child mem within, eq⟩
  · rintro ⟨t, within, rfl⟩
    induction within with
    | self s => exact .self _
    | child among within ih =>
        refine .child ?_ ih
        rw [children_rename]
        exact List.mem_map_of_mem among

lemma Schema.kind_rename (f : Renaming) (s : Schema) :
    (s.rename f).kind = s.kind.map (rename f) f.apply (Discriminator.rename f) := by
  obtain ⟨kind, nullable⟩ := s
  rw [rename_mk]
  rfl

/-- The names in a renamed schema. -/
theorem Schema.names_rename_iff {f : Renaming} {s : Schema} {name : String} :
    (s.rename f).Names name ↔ ∃ old, s.Names old ∧ f.apply old = name := by
  constructor
  · rintro ⟨u, within', names⟩
    obtain ⟨t, within, rfl⟩ := within_rename_iff.1 within'
    rw [kind_rename, SchemaKind.names_map_iff] at names
    obtain ⟨old, named, eq⟩ := names
    exact ⟨old, ⟨t, within, named⟩, eq⟩
  · rintro ⟨old, ⟨t, within, names⟩, eq⟩
    refine ⟨t.rename f, within_rename_iff.2 ⟨t, within, rfl⟩, ?_⟩
    rw [kind_rename, SchemaKind.names_map_iff]
    exact ⟨old, names, eq⟩

/-- The references of a renamed schema. -/
theorem Schema.mem_references_rename_iff {f : Renaming} {s : Schema} {name : String} :
    name ∈ (s.rename f).references ↔ ∃ old ∈ s.references, f.apply old = name := by
  have kind : ∀ t : Schema, (t.rename f).kind = .reference name ↔
      ∃ old, t.kind = .reference old ∧ f.apply old = name := by
    intro t
    rw [kind_rename]
    cases t.kind <;> simp
  simp only [mem_references_iff, within_rename_iff]
  constructor
  · rintro ⟨u, ⟨t, within, rfl⟩, here⟩
    obtain ⟨old, refers, eq⟩ := (kind t).1 here
    exact ⟨old, ⟨t, within, refers⟩, eq⟩
  · rintro ⟨old, ⟨t, within, here⟩, eq⟩
    exact ⟨t.rename f, ⟨t, within, rfl⟩, (kind t).2 ⟨old, here, eq⟩⟩

/-! ### Renaming and canonical forms -/

lemma Discriminator.normal_rename (f : Renaming) (d : Discriminator) :
    (d.rename f).normal = d.normal.rename f := by
  rw [rename, normal, normal, rename, Table.mapValues_sort]

lemma ObjectRules.normal_map {f : Schema → Schema} {rules : ObjectRules Schema}
    (h : ∀ child ∈ rules.children, (f child).normal = f child.normal) :
    (rules.map f).normal = rules.normal.map f := by
  have properties : Table.mapValues (fun s => (f s).normal) rules.properties =
      Table.mapValues (fun s => f s.normal) rules.properties :=
    Table.mapValues_congr fun entry mem => h _ (List.mem_append_left _ (List.mem_map_of_mem mem))
  have extras : (rules.extras.map f).normal = rules.extras.normal.map f := by
    cases eq : rules.extras with
    | schema rule =>
        simp only [Extras.map, Extras.normal,
          h rule (List.mem_append_right _ (by simp [eq, Extras.toList]))]
    | _ => rfl
  rw [normal_eq, normal_eq, map, map]
  simp only [Table.mapValues_mapValues, Table.mapValues_sort, properties, extras]

lemma ObjectRules.isBare_map (f : Schema → Schema) (rules : ObjectRules Schema) :
    (rules.map f).isBare = rules.isBare := by
  obtain ⟨properties, required, extras⟩ := rules
  cases properties <;> cases required <;> cases extras <;> rfl

lemma SchemaKind.normal_map {f : Schema → Schema} {name : String → String}
    {selection : Discriminator → Discriminator} {kind : SchemaKind}
    (children : ∀ child ∈ kind.children, (f child).normal = f child.normal)
    (selections : ∀ d : Discriminator, (selection d).normal = selection d.normal) :
    (kind.map f name selection).normal = kind.normal.map f name selection := by
  cases kind with
  | array items bounds => rw [map, normal, normal, map, children items (List.mem_singleton_self _)]
  | object rules => rw [map, normal, normal, map, ObjectRules.normal_map children]
  | union keyword members discriminator objectTyped =>
      have inMembers : members.map (fun s => (f s).normal) = members.map fun s => f s.normal :=
        List.map_congr_left children
      simp only [map, normal, Schema.normalAll_eq, List.map_map, Option.map_map, Function.comp_def,
        inMembers, selections]
  | intersection members inline objectTyped =>
      have inMembers : members.map (fun s => (f s).normal) = members.map fun s => f s.normal :=
        List.map_congr_left fun s mem => children s (List.mem_append_left _ mem)
      have inRules : ObjectRules.normalInline (inline.map (ObjectRules.map f)) =
          (ObjectRules.normalInline inline).map (ObjectRules.map f) := by
        cases inline with
        | none => rfl
        | some rules =>
            have inside := ObjectRules.normal_map fun s mem => children s (List.mem_append_right _ mem)
            rw [Option.map_some, ObjectRules.normalInline, ObjectRules.normalInline,
              ObjectRules.isBare_map, inside]
            split <;> rfl
      simp only [map, normal, Schema.normalAll_eq, List.map_map, Function.comp_def, inMembers, inRules]
  | _ => rfl

/-- Renaming goes through the normal form. -/
theorem Schema.normal_rename (f : Renaming) (s : Schema) :
    (s.rename f).normal = s.normal.rename f := by
  induction s using Schema.induction with
  | step s ih =>
      obtain ⟨kind, nullable⟩ := s
      rw [rename_mk, normal, normal, rename_mk]
      congr 1
      exact SchemaKind.normal_map ih (Discriminator.normal_rename f)

/-- The schemas inside a normal form are the normal forms of those that stand there, in some order. -/
lemma ObjectRules.children_normal_perm (rules : ObjectRules Schema) :
    (normal rules).children.Perm (rules.children.map Schema.normal) := by
  obtain ⟨properties, required, extras⟩ := rules
  have inProperties : ((Table.sort (Table.mapValues Schema.normal properties)).map Prod.snd).Perm
      ((properties.map Prod.snd).map Schema.normal) := by
    refine ((Table.sort_perm _).map Prod.snd).trans (List.Perm.of_eq ?_)
    rw [Table.mapValues, List.map_map, List.map_map]
    rfl
  have inExtras : extras.normal.toList = extras.toList.map Schema.normal := by
    cases extras <;> rfl
  rw [normal_eq, children, children, List.map_append, inExtras]
  exact inProperties.append_right _

lemma Schema.mem_children_normal_iff {s child : Schema} :
    child ∈ s.normal.children ↔ ∃ t ∈ s.children, t.normal = child := by
  have perm : s.normal.children.Perm (s.children.map normal) := by
    obtain ⟨kind, nullable⟩ := s
    cases kind with
    | object rules => exact ObjectRules.children_normal_perm rules
    | union keyword members discriminator objectTyped =>
        rw [normal, SchemaKind.normal, normalAll_eq]
        rfl
    | intersection members inline objectTyped =>
        rw [normal, SchemaKind.normal, normalAll_eq, children, children, Schema.kind, Schema.kind,
          SchemaKind.children, SchemaKind.children, List.map_append]
        refine List.Perm.append_left _ ?_
        cases inline with
        | none => exact .refl _
        | some rules =>
            rw [ObjectRules.normalInline]
            split
            · next bare =>
                rw [ObjectRules.isBare_iff.1 bare]
                exact .refl _
            · exact ObjectRules.children_normal_perm rules
    | _ => exact .refl _
  rw [perm.mem_iff, List.mem_map]

/-- A schema refers to what its normal form refers to. -/
theorem Schema.mem_references_normal_iff {s : Schema} {name : String} :
    name ∈ s.normal.references ↔ name ∈ s.references := by
  have own : ∀ t : Schema, t.normal.reference? = t.reference? := by
    rintro ⟨kind, nullable⟩
    cases kind <;> rfl
  rw [references, references, List.mem_eraseDups, List.mem_eraseDups]
  induction s using Schema.induction with
  | step s ih =>
      rw [mentions_eq, mentions_eq, own, List.mem_append, List.mem_append, List.mem_flatMap,
        List.mem_flatMap]
      refine or_congr_right ⟨?_, ?_⟩
      · rintro ⟨child, among, mem⟩
        obtain ⟨t, inside, rfl⟩ := mem_children_normal_iff.1 among
        exact ⟨t, inside, (ih t inside).1 mem⟩
      · rintro ⟨t, inside, mem⟩
        exact ⟨t.normal, mem_children_normal_iff.2 ⟨t, inside, rfl⟩, (ih t inside).2 mem⟩

/-- What has the normal form of an object, but for names, is an object with the same properties, of which
the same are required. -/
lemma Schema.exists_object_of_normal {t : Schema} {rules : ObjectRules Schema} {nullable : Bool}
    {f : Renaming} (same : t.normal = ((Schema.mk (.object rules) nullable).rename f).normal) :
    ∃ others, t = .mk (.object others) nullable ∧
      (∀ name, name ∈ Table.keys others.properties ↔ name ∈ Table.keys rules.properties) ∧
      ∀ name, name ∈ others.required ↔ name ∈ rules.required := by
  obtain ⟨kind, nullable'⟩ := t
  rw [rename_mk, SchemaKind.map, normal, normal] at same
  obtain ⟨kinds, rfl⟩ := Schema.mk.inj same
  cases kind with
  | object others =>
      rw [SchemaKind.normal, SchemaKind.normal, ObjectRules.normal_eq, ObjectRules.normal_eq] at kinds
      obtain ⟨properties, required, -⟩ := ObjectRules.mk.inj (SchemaKind.object.inj kinds)
      have keys : ∀ (table : Table Schema) (name : String),
          name ∈ Table.keys (Table.sort (Table.mapValues Schema.normal table)) ↔ name ∈ Table.keys table := by
        intro table name
        rw [Table.keys, ((Table.sort_perm _).map Prod.fst).mem_iff, ← Table.keys, Table.keys_mapValues]
      refine ⟨others, rfl, fun name => ?_, fun name => ?_⟩
      · rw [← keys, properties, keys, ObjectRules.map, Table.keys_mapValues]
      · rw [← mem_sortStrings, required, mem_sortStrings, ObjectRules.map]
  | _ => cases kinds

lemma SchemaKind.safeBounds_map (f : Schema → Schema) (name : String → String)
    (selection : Discriminator → Discriminator) (kind : SchemaKind) :
    (kind.map f name selection).SafeBounds ↔ kind.SafeBounds := by
  cases kind <;> rfl

/-- Renaming leaves integers alone. -/
lemma Schema.safe_rename_iff {f : Renaming} {s : Schema} :
    (s.rename f).fragment.Safe ↔ s.fragment.Safe := by
  induction s using Schema.induction with
  | step s ih =>
      have own : (s.rename f).kind.SafeBounds ↔ s.kind.SafeBounds := by
        obtain ⟨kind, nullable⟩ := s
        rw [rename_mk]
        exact SchemaKind.safeBounds_map _ _ _ _
      rw [safe_fragment_iff, safe_fragment_iff, children_rename, List.forall_mem_map, own]
      exact and_congr_right fun _ => forall₂_congr ih

end SchemaCompiler
