import SchemaCompiler.Proofs.Compilation.References
import SchemaCompiler.Proofs.Resolution.Anchors
import SchemaCompiler.Proofs.Validator.Basic

/-!
What the name of a component stands for in a compilation.

A component goes by a new name if its own cannot be declared, and after resolution by the name of the
entry that took its place.  Resolution loses no name, so that this is always the name of an entry.

* `Compilation.Declares`: a name has an entry, a validator and a type;
* `Document.anchored_of_compile`: the renames of a compilation lead from its components to its entries;
* `covers_and_declares`: names stay reachable, in resolution and in what is compiled.
-/

namespace SchemaCompiler

/-- A name has an entry in the table, and the validator and the type of this entry. -/
def Compilation.Declares (compilation : Compilation) (registry : Registry) (name : String) : Prop :=
  ∃ s, Table.get? compilation.table name = some s ∧
    compilation.validators.get? name = some (Validator.ofSchema registry s) ∧
    Table.get? compilation.types name = some (TypeExpr.ofSchema registry s)

namespace Document

variable {document : Document} {registry : Registry} {options : Options} {compilation : Compilation}

/-- What is compiled is resolved from the components under the names that they go by, and from schemas
of routes. -/
lemma anchored_of_compile (distinct : (Table.keys document.components.schemas).Nodup)
    (ok : document.compile registry options = .ok compilation) :
    ∃ inputs built, document.CompilesTo registry options inputs built compilation ∧
      Table.keys inputs =
        (Table.keys document.components.schemas).map document.components.sanitizing.apply ∧
      ∃ candidates, FreshNames (Table.keys inputs) candidates ∧
        Resolution.Anchored (Table.keys (inputs ++ candidates)) (Table.keys built.resolution.table)
          built.resolution.renames := by
  obtain ⟨components, built, compiled⟩ := compile_cases ok
  obtain ⟨read, nodup⟩ := Components.parseSchemas_eq_ok distinct compiled.parsed
  obtain ⟨candidates, fresh, resolved, -⟩ := routeTable_cases compiled.routed
  exact ⟨components, built, compiled, Components.keys_of_reads read, candidates, fresh,
    Resolution.anchored_of_resolve (nodup_inputs nodup fresh) resolved⟩

/-- The canonical name of a component is that of an entry. -/
theorem declares_canonicalName (distinct : (Table.keys document.components.schemas).Nodup)
    (ok : document.compile registry options = .ok compilation) {name : String}
    (known : name ∈ Table.keys document.components.schemas) :
    compilation.Declares registry (compilation.canonicalName name) := by
  obtain ⟨components, built, compiled, keys, candidates, -, anchored⟩ := anchored_of_compile distinct ok
  have input : document.components.sanitizing.apply name ∈ Table.keys (components ++ candidates) := by
    refine Table.mem_keys_append_iff.2 (.inl ?_)
    rw [keys]
    exact List.mem_map_of_mem known
  have canonical : compilation.canonicalName name =
      built.resolution.canonicalName (document.components.sanitizing.apply name) := by
    rw [Compilation.canonicalName, compiled.renames, compiled.sanitized]
    rfl
  obtain ⟨s, found⟩ := Table.exists_get?_iff.2 (anchored.canonicalName_mem input)
  rw [canonical]
  refine ⟨s, by rw [compiled.table, found], ?_, ?_⟩
  · rw [compiled.validators]
    exact Validator.Store.get?_ofSchemas anchored.distinct _ found
  · rw [compiled.types, Table.get?_mapValues, found]
    rfl

end Document

/-- **Every name stays reachable.**  After resolution each input is an entry or was renamed, but not
both, names are renamed to entries, no entry comes from nowhere, and canonical names are canonical.  So
in a compilation the canonical name of a component has an entry, a validator and a type. -/
theorem covers_and_declares :
    (∀ (components candidates : Table Schema) (resolution : Resolution),
      (Table.keys (components ++ candidates)).Nodup →
      Resolution.resolve components candidates = .ok resolution →
      Resolution.Covers (Table.keys (components ++ candidates)) resolution) ∧
    ∀ (document : Document) (registry : Registry) (options : Options) (compilation : Compilation),
      (Table.keys document.components.schemas).Nodup →
      document.compile registry options = .ok compilation →
      ∀ name ∈ Table.keys document.components.schemas,
        compilation.Declares registry (compilation.canonicalName name) := by
  constructor
  · intro components candidates resolution distinct ok
    exact (Resolution.anchored_of_resolve distinct ok).covers
  · intro document registry options compilation distinct ok name known
    exact Document.declares_canonicalName distinct ok known

/-- Three components, of which two are merged, with two schemas of routes, of which one is a component;
and a document with a component that goes by a new name. -/
theorem covers_and_declares_pets :
    let components : Table Schema :=
      [("Cat", .mk .boolean false), ("Dog", .mk .boolean false), ("Pet", .mk (.reference "Dog") false)]
    let candidates : Table Schema :=
      [("GetPet", .mk (.reference "Cat") false), ("GetNothing", .mk .null false)]
    let document := Document.pets "#/components/schemas/pet-v1"
    ∃ resolution compilation,
      (Table.keys (components ++ candidates)).Nodup ∧
      Resolution.resolve components candidates = .ok resolution ∧
      Table.keys resolution.table = ["Cat", "Pet", "GetNothing"] ∧
      resolution.renames = [("Dog", "Cat"), ("GetPet", "Pet")] ∧
      Resolution.Covers (Table.keys (components ++ candidates)) resolution ∧
      (Table.keys document.components.schemas).Nodup ∧
      document.compile .empty .standard = .ok compilation ∧
      "pet-v1" ∈ Table.keys document.components.schemas ∧
      compilation.Declares .empty (compilation.canonicalName "pet-v1") := by
  intro components candidates document
  have distinct : (Table.keys (components ++ candidates)).Nodup := by decide
  have found : (Resolution.resolve components candidates).toOption.map
      (fun r => (Table.keys r.table, r.renames)) =
      some (["Cat", "Pet", "GetNothing"], [("Dog", "Cat"), ("GetPet", "Pet")]) := by
    decide +kernel
  obtain ⟨compilation, compiled⟩ := Document.exists_compile_pets
    (show Reference.name? "#/components/schemas/pet-v1" = .ok "pet-v1" from
      eq_ok_of_toOption (by decide +kernel)) (by decide +kernel)
  have schemas := (Document.distinct_pets "#/components/schemas/pet-v1").schemas
  have known : "pet-v1" ∈ Table.keys document.components.schemas := List.mem_cons_self
  cases ok : Resolution.resolve components candidates with
  | error cause =>
      rw [ok] at found
      cases found
  | ok resolution =>
      rw [ok] at found
      obtain ⟨keys, renames⟩ := Prod.mk.inj (Option.some.inj found)
      exact ⟨resolution, compilation, distinct, rfl, keys, renames,
        covers_and_declares.1 components candidates resolution distinct ok, schemas, compiled, known,
        covers_and_declares.2 document .empty .standard compilation schemas compiled _ known⟩

end SchemaCompiler
