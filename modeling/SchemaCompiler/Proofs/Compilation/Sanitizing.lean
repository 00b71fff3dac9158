import SchemaCompiler.Proofs.Compilation.Components
import SchemaCompiler.Proofs.Schema.Place
import SchemaCompiler.Proofs.Schema.Parser

/-!
References follow the names of components.

The components of a document are written out one by one, under names that are distinct.  A reference is
renamed once, by the name that it has in the document, so that it follows the component that it names even
if that takes the name that another one has in the document.

* `Components.emission`: the names that components are written out under;
* `Components.LeadsTo`: what a reference in the document becomes;
* `Components.Follows`: what a component is written out as;
* `Components.parseSchemas_follows`: the components of a document whose schemas can be read.
-/

namespace SchemaCompiler

namespace Components

variable {components : Components} {table : Table Schema}

/-- The names that components are written out under, in the order of the document. -/
def emission (components : Components) (table : Table Schema) : Table String :=
  (Table.keys components.schemas).zip (Table.keys table)

/-- What a reference becomes: one to a component leads to the name that this is written out under, and any
other stays as it is. -/
def LeadsTo (components : Components) (table : Table Schema) (name target : String) : Prop :=
  (name, target) ∈ components.emission table ∨
    name ∉ Table.keys components.schemas ∧ target = name

/-- What a component is written out as.  It keeps its name if that is its own name of a type, and its
references, each at its place, lead on. -/
structure Follows (components : Components) (table : Table Schema) (entry : String × Json)
    (component : String × Schema) : Prop where
  kept : Naming.typeName entry.1 = entry.1 → component.1 = entry.1
  read : ∃ s, Schema.ofJson? entry.2 = .ok s ∧
    component.2 = s.rename (.ofTable (components.emission table)) ∧
    ∀ place target nullable, component.2.at? place = some (.mk (.reference target) nullable) ↔
      ∃ name, s.at? place = some (.mk (.reference name) nullable) ∧ components.LeadsTo table name target

/-- The names that components go by are those that they are written out under. -/
lemma get?_emission (keys : Table.keys table =
    (Table.keys components.schemas).map components.sanitizing.apply) (name : String) :
    Table.get? (components.emission table) name =
      if name ∈ Table.keys components.schemas then some (components.sanitizing.apply name) else none := by
  rw [emission, keys]
  generalize Table.keys components.schemas = names
  induction names with
  | nil => rfl
  | cons first rest ih =>
      rw [List.map_cons, List.zip_cons_cons, Table.get?_cons, ih]
      by_cases eq : first = name
      · subst eq
        simp
      · simp [eq, Ne.symm eq]

lemma apply_emission (keys : Table.keys table =
    (Table.keys components.schemas).map components.sanitizing.apply) (name : String) :
    (Renaming.ofTable (components.emission table)).apply name = components.sanitizing.apply name := by
  rw [Renaming.apply, Renaming.ofTable, get?_emission keys]
  split
  · rfl
  · next other =>
      rw [Option.getD_none, apply_of_kept]
      exact Option.eq_none_iff_forall_ne_some.2 fun new renamed => other (mem_keys_of_sanitized renamed)

/-- References lead where renaming takes them. -/
lemma leadsTo_iff (distinct : (Table.keys components.schemas).Nodup)
    (keys : Table.keys table = (Table.keys components.schemas).map components.sanitizing.apply)
    {name target : String} : components.LeadsTo table name target ↔
      (Renaming.ofTable (components.emission table)).apply name = target := by
  have domain : Table.keys (components.emission table) = Table.keys components.schemas := by
    rw [Table.keys, emission, List.map_fst_zip]
    rw [keys, List.length_map]
  rw [LeadsTo, ← Table.get?_eq_some_iff (domain ▸ distinct), Renaming.apply, Renaming.ofTable,
    get?_emission keys]
  split
  · next known => simp [known]
  · next other => simp [other, eq_comm]

end Components

/-- What is renamed to a reference is one. -/
lemma Schema.rename_eq_reference_iff {f : Renaming} {s : Schema} {target : String} {nullable : Bool} :
    s.rename f = .mk (.reference target) nullable ↔
      ∃ name, s = .mk (.reference name) nullable ∧ f.apply name = target := by
  obtain ⟨kind, n⟩ := s
  constructor
  · intro eq
    cases kind with
    | reference name =>
        obtain ⟨same, rfl⟩ := Schema.mk.inj eq
        exact ⟨name, rfl, SchemaKind.reference.inj same⟩
    | _ => cases eq
  · rintro ⟨name, ⟨⟩, rfl⟩
    rfl

namespace Components

variable {components : Components}

/-- The components of a document can be read if their schemas can. -/
lemma exists_parseSchemas
    (parses : ∀ entry ∈ components.schemas, ∃ s, Schema.ofJson? entry.2 = .ok s) :
    ∃ table, components.parseSchemas = .ok table := by
  have each : ∀ entry ∈ components.schemas, ∃ component,
      (do return (components.sanitizing.apply entry.1,
        ← parseSchema components.sanitizing entry.1 entry.2) : Except CompileError (String × Schema)) =
        .ok component := by
    intro entry mem
    obtain ⟨s, read⟩ := parses entry mem
    refine ⟨(components.sanitizing.apply entry.1, s.rename components.sanitizing), ?_⟩
    rw [parseSchema, Schema.parse, read]
    rfl
  obtain ⟨entries, ok⟩ := exists_mapM_eq_ok each
  exact ⟨Table.ofEntries entries, bind_eq_ok_iff.2 ⟨entries, ok, rfl⟩⟩

/-- **References follow the names of components.**  If the schemas of all components can be read, the
components are written out in the order of the document under distinct names, and their references lead to
the components that they name in the document. -/
theorem parseSchemas_follows (distinct : (Table.keys components.schemas).Nodup)
    (parses : ∀ entry ∈ components.schemas, ∃ s, Schema.ofJson? entry.2 = .ok s) :
    ∃ table, components.parseSchemas = .ok table ∧ (Table.keys table).Nodup ∧
      List.Forall₂ (components.Follows table) components.schemas table := by
  obtain ⟨table, ok⟩ := exists_parseSchemas parses
  obtain ⟨read, nodup⟩ := parseSchemas_eq_ok distinct ok
  have keys := keys_of_reads read
  have same : ∀ s : Schema, s.rename components.sanitizing =
      s.rename (.ofTable (components.emission table)) := fun s =>
    Schema.rename_congr fun name _ => (apply_emission keys name).symm
  have mem : ∀ entry ∈ components.schemas, entry.1 ∈ Table.keys components.schemas := fun entry among =>
    List.mem_map_of_mem among
  refine ⟨table, ok, nodup, ?_⟩
  refine ((List.forall₂_and_left _ _).2 ⟨mem, read⟩).imp fun entry component pair => ?_
  obtain ⟨known, goesBy, s, parsed, written⟩ := pair
  rw [same] at written
  refine ⟨fun own => ?_, s, parsed, written, fun place target nullable => ?_⟩
  · rw [goesBy, apply_of_kept ((sanitized_eq_none_iff known).2 own)]
  · rw [written, Schema.at?_rename, Option.map_eq_some_iff]
    simp only [Schema.rename_eq_reference_iff, leadsTo_iff distinct keys]
    constructor
    · rintro ⟨_, found, name, rfl, leads⟩
      exact ⟨name, found, leads⟩
    · rintro ⟨name, found, leads⟩
      exact ⟨_, found, name, rfl, leads⟩

/-- Three components, of which two would go by the name of the third and one refers to another. -/
def profiles : Components where
  schemas := [("user-profile", .object [("$ref", .string "#/components/schemas/pet.v1")]),
    ("pet.v1", .object [("type", .string "boolean")]), ("UserProfile", .object [])]
  parameters := []
  requestBodies := []
  responses := []

/-- The components of `profiles` follow each other. -/
theorem parseSchemas_follows_profiles :
    (Table.keys profiles.schemas).Nodup ∧
      (∀ entry ∈ profiles.schemas, ∃ s, Schema.ofJson? entry.2 = .ok s) ∧
      ∃ table, profiles.parseSchemas = .ok table ∧
        Table.keys table = ["UserProfile2", "PetV1", "UserProfile"] ∧
        (Table.keys table).Nodup ∧ List.Forall₂ (profiles.Follows table) profiles.schemas table := by
  have distinct : (Table.keys profiles.schemas).Nodup :=
    show ["user-profile", "pet.v1", "UserProfile"].Nodup by decide
  have denotes : Reference.name? "#/components/schemas/pet.v1" = .ok "pet.v1" :=
    eq_ok_of_toOption (by decide +kernel)
  have parses : ∀ entry ∈ profiles.schemas, ∃ s, Schema.ofJson? entry.2 = .ok s := by
    simp only [profiles, List.forall_mem_cons]
    exact ⟨⟨_, Schema.ofJson?_reference denotes⟩, ⟨_, Schema.ofJson?_boolean⟩, ⟨_, Schema.ofJson?_any⟩,
      nofun⟩
  obtain ⟨table, ok, nodup, follows⟩ := parseSchemas_follows distinct parses
  have keys : (Table.keys profiles.schemas).map profiles.sanitizing.apply =
      ["UserProfile2", "PetV1", "UserProfile"] := by decide +kernel
  refine ⟨distinct, parses, table, ok, ?_, nodup, follows⟩
  rw [keys_of_reads (parseSchemas_eq_ok distinct ok).1, keys]

end Components

end SchemaCompiler
