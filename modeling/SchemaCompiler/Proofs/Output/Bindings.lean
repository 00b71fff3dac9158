import SchemaCompiler.Proofs.Compilation.Declarations
import SchemaCompiler.Proofs.Output.Source
import SchemaCompiler.Proofs.Schema.WellFormed

/-!
The names that written modules bind.

A module cannot be loaded if it binds a name twice.  The names come from five sources: those that every
module of validators binds, the registry, components, schemas of routes, and errors.  Resolution keeps
the last three apart; nothing compares the others.

* `Compilation.exported`, `Compilation.constants`, `Compilation.fixedNames`: the names;
* `Compilation.disjoint_constants_of_suffix`: the end of their names keeps validators apart from the rest;
* `Document.names_nodup_iff`: when no name is bound twice.
-/

namespace SchemaCompiler

namespace Compilation

variable (compilation : Compilation) (options : Options) (header : FileHeader)

/-- The names that are exported as types. -/
def exported : List String := Table.keys compilation.table ++ Table.keys compilation.aliases

/-- The names of constants of validators. -/
def constants : List String := compilation.exported.map (· ++ options.suffix)

/-- The names that a module of validators binds besides those of the registry and of validators. -/
def fixedNames : List String :=
  "z" :: (if compilation.isAnnotated options then ["Types"] else []) ++
    if options.includeRoutes then ["Request", "Response"] else []

/-! ### Names -/

variable {compilation options}

/-- The names of a module of validators, in order. -/
lemma names_validatorSource
    (own : Table.keys compilation.validators.entries = Table.keys compilation.table) :
    (compilation.validatorSource options header).names =
      "z" :: compilation.externals ++ (if compilation.isAnnotated options then ["Types"] else []) ++
        (compilation.constants options ++
          if options.includeRoutes then ["Request", "Response"] else []) := by
  have types : (if compilation.isAnnotated options then
      [Statement.importAll "import type" "Types" options.typesModule] else []).flatMap
      Statement.names = if compilation.isAnnotated options then ["Types"] else [] := by
    split <;> rfl
  have lookups : (if options.includeRoutes then
      [lookupStatement "Request" (requestLines options.suffix) compilation.routes,
        lookupStatement "Response" (responseLines options.suffix) compilation.routes]
      else []).flatMap Statement.names =
        if options.includeRoutes then ["Request", "Response"] else [] := by
    split <;> rfl
  have aliases := names_declarations "export const"
    (fun entry => (Scope.start options.suffix).constant entry.1)
    (fun entry => (Scope.start options.suffix).constant entry.2) compilation.aliases
  have constants : compilation.constants options =
      (Table.keys compilation.table).map (· ++ options.suffix) ++
        compilation.aliases.map fun entry => (Scope.start options.suffix).constant entry.1 := by
    rw [Compilation.constants, exported, List.map_append]
    exact congrArg _ List.map_map
  simp only [Source.names, validatorSource, List.cons_append, List.flatMap_cons, List.flatMap_append,
    names_importsOf, types, names_validatorStatements, lookups, own, aliases, constants]
  rfl

/-- The names of a module of types, in order. -/
lemma names_typeSource (own : Table.keys compilation.types = Table.keys compilation.table) :
    (compilation.typeSource options header).names = compilation.externals ++ compilation.exported := by
  have types := names_declarations "export type" Prod.fst (fun entry => entry.2.render) compilation.types
  have aliases := names_declarations "export type" Prod.fst Prod.snd compilation.aliases
  rw [Source.names, typeSource, List.flatMap_append, names_importsOf, List.flatMap_append, types,
    aliases, exported, ← own]
  rfl

lemma nodup_fixedNames : (compilation.fixedNames options).Nodup := by
  rw [fixedNames]
  split <;> split <;> decide

lemma fixedNames_subset :
    compilation.fixedNames options ⊆ ["z", "Types", "Request", "Response"] := by
  rw [fixedNames]
  split <;> split <;> decide

lemma nodup_exported (distinct : (Table.keys compilation.table).Nodup)
    (once : (Table.keys compilation.renames).Nodup) : compilation.exported.Nodup := by
  rw [exported, List.nodup_append']
  refine ⟨distinct, once.sublist (List.filter_sublist.map _), fun name there mem => ?_⟩
  obtain ⟨entry, among, rfl⟩ := List.mem_map.1 mem
  have kept := (Bool.and_eq_true_iff.1 (List.mem_filter.1 among).2).2
  rw [Table.mem_keys_iff.1 there] at kept
  cases kept

/-- When no name of a module of validators is bound twice. -/
lemma nodup_validatorSource_iff
    (own : Table.keys compilation.validators.entries = Table.keys compilation.table)
    (externals : compilation.externals.Nodup) (exported : compilation.exported.Nodup) :
    (compilation.validatorSource options header).names.Nodup ↔
      compilation.externals.Disjoint (compilation.fixedNames options) ∧
      compilation.externals.Disjoint (compilation.constants options) ∧
      (compilation.fixedNames options).Disjoint (compilation.constants options) := by
  have order : (compilation.validatorSource options header).names.Perm
      (compilation.externals ++ (compilation.fixedNames options ++ compilation.constants options)) := by
    rw [names_validatorSource header own, fixedNames, List.perm_iff_count]
    intro name
    simp only [List.cons_append, List.count_cons, List.count_append]
    omega
  have constants : (compilation.constants options).Nodup :=
    exported.map fun a b same => (String.append_left_inj _).1 same
  rw [order.nodup_iff, List.nodup_append', List.nodup_append', List.disjoint_append_right]
  exact ⟨fun ⟨_, ⟨_, _, apart⟩, fromFixed, fromConstants⟩ => ⟨fromFixed, fromConstants, apart⟩,
    fun ⟨fromFixed, fromConstants, apart⟩ =>
      ⟨externals, ⟨nodup_fixedNames, constants, apart⟩, fromFixed, fromConstants⟩⟩

/-- When no name of a module of types is bound twice. -/
lemma nodup_typeSource_iff (own : Table.keys compilation.types = Table.keys compilation.table)
    (externals : compilation.externals.Nodup) (exported : compilation.exported.Nodup) :
    (compilation.typeSource options header).names.Nodup ↔
      compilation.externals.Disjoint compilation.exported := by
  rw [names_typeSource header own, List.nodup_append']
  exact ⟨fun all => all.2.2, fun apart => ⟨externals, exported, apart⟩⟩

/-- Validators go by other names than these if none of them ends like a validator. -/
theorem disjoint_constants_of_suffix
    (other : ∀ name ∈ ["z", "Types", "Request", "Response"],
      ¬options.suffix.toList <:+ name.toList) :
    (compilation.fixedNames options).Disjoint (compilation.constants options) := by
  intro name fixed mem
  obtain ⟨type, -, rfl⟩ := List.mem_map.1 mem
  refine other _ (fixedNames_subset fixed) ?_
  rw [String.toList_append]
  exact List.suffix_append _ _

end Compilation

/-! ### Documents -/

namespace Document

variable {document : Document} {registry : Registry} {options : Options} {header : FileHeader}
  {compilation : Compilation} {generation : Generation}

/-- The external names of a compilation are listed once. -/
lemma nodup_externals (ok : document.compile registry options = .ok compilation) :
    compilation.externals.Nodup := by
  obtain ⟨-, components, built, -, -, rfl⟩ := compile_eq_ok_iff.1 ok
  exact (List.mergeSort_perm _ _).nodup_iff.2 (nodup_eraseDups _)

/-- When no name of the two modules is bound twice. -/
lemma nodup_sources_iff (distinct : (Table.keys document.components.schemas).Nodup)
    (ok : document.compile registry options = .ok compilation) :
    ((compilation.validatorSource options header).names.Nodup ↔
        compilation.externals.Disjoint (compilation.fixedNames options) ∧
        compilation.externals.Disjoint (compilation.constants options) ∧
        (compilation.fixedNames options).Disjoint (compilation.constants options)) ∧
      ((compilation.typeSource options header).names.Nodup ↔
        compilation.externals.Disjoint compilation.exported) := by
  have externals := nodup_externals ok
  obtain ⟨inputs, built, result, -, candidates, -, anchored⟩ := anchored_of_compile distinct ok
  rw [← result.table, ← result.renames] at anchored
  have exported := Compilation.nodup_exported anchored.distinct anchored.once
  have validators : Table.keys compilation.validators.entries = Table.keys compilation.table := by
    rw [result.validators, Validator.Store.ofSchemas, Table.keys_mapValues, ← result.table,
      Table.ofEntries_eq_self anchored.distinct]
  have types : Table.keys compilation.types = Table.keys compilation.table := by
    rw [result.types, Table.keys_mapValues, result.table]
  exact ⟨Compilation.nodup_validatorSource_iff header validators externals exported,
    Compilation.nodup_typeSource_iff header types externals exported⟩

/-- What is written for a document that compiles. -/
lemma generate_eq_ok_iff :
    document.generate registry options header = .ok generation ↔
      ∃ compilation, document.compile registry options = .ok compilation ∧
        generation = ⟨(compilation.validatorSource options header).text,
          (compilation.typeSource options header).text, compilation.statistics⟩ := by
  rw [generate, bind_eq_ok_iff]
  refine exists_congr fun compilation => and_congr_right fun _ => ?_
  rw [Compilation.text_validatorSource, Compilation.text_typeSource]
  exact ⟨fun ok => (Except.ok.inj ok).symm, fun eq => congrArg Except.ok eq.symm⟩

/-- **Which names the modules of a document bind.**  The names of validators are apart from each other,
and so are those of types.  So no name is bound twice if and only if those of the registry are apart from
them and from the names that every module of validators binds, and no validator has one of these. -/
theorem names_nodup_iff (distinct : (Table.keys document.components.schemas).Nodup)
    (ok : document.generate registry options header = .ok generation) :
    ∃ compilation, document.compile registry options = .ok compilation ∧
      generation.validators = (compilation.validatorSource options header).text ∧
      generation.types = (compilation.typeSource options header).text ∧
      ((compilation.validatorSource options header).names.Nodup ↔
        compilation.externals.Disjoint (compilation.fixedNames options) ∧
        compilation.externals.Disjoint (compilation.constants options) ∧
        (compilation.fixedNames options).Disjoint (compilation.constants options)) ∧
      ((compilation.typeSource options header).names.Nodup ↔
        compilation.externals.Disjoint compilation.exported) := by
  obtain ⟨compilation, compiled, rfl⟩ := generate_eq_ok_iff.1 ok
  exact ⟨compilation, compiled, rfl, rfl, nodup_sources_iff distinct compiled⟩

/-! ### Clashes -/

/-- A document of one component, whose values are truth values. -/
def alone (name : String) : Document where
  openapi := "3.0.3"
  info := ⟨"", "", none⟩
  paths := []
  components := ⟨[(name, .object [("type", .string "boolean")])], [], [], []⟩

lemma distinct_alone (name : String) : (Table.keys (alone name).components.schemas).Nodup :=
  List.nodup_singleton name

/-- `alone` compiles if its schema can be resolved. -/
lemma exists_compile_alone (name : String) (registry : Registry) (options : Options)
    (names externals : List String) (kept : (alone name).components.sanitized = [])
    (resolves : (Resolution.resolve [(name, .mk .boolean false)] []).toOption.map (fun resolution =>
      (Table.keys resolution.table,
        Text.sortedSet (resolution.table.flatMap fun (_, s) => registry.used s))) =
      some (names, externals)) :
    ∃ compilation, (alone name).compile registry options = .ok compilation ∧
      Table.keys compilation.table = names ∧ compilation.externals = externals := by
  obtain ⟨resolution, resolved, eq⟩ := exists_eq_ok_of_toOption resolves
  obtain ⟨keys, used⟩ := Prod.mk.inj eq
  have parsed : (alone name).components.parseSchemas = .ok [(name, .mk .boolean false)] := by
    rw [Components.parseSchemas, kept]
    simp only [alone, Components.parseSchema, Schema.parse, Schema.ofJson?_boolean, List.mapM_cons,
      List.mapM_nil]
    rfl
  have none : (alone name).endpoints = [] := rfl
  exact ⟨_, compile_eq_ok_iff.2 ⟨hasPrefix_version, _, _, parsed,
    routeTable_of_endpoints none resolved, rfl⟩, keys, used⟩

/-- Without external names, and with the usual names of validators, no name is bound twice. -/
theorem names_nodup_iff_alone :
    (Table.keys (alone "Flag").components.schemas).Nodup ∧
      ∃ generation compilation,
        (alone "Flag").generate .empty .standard .empty = .ok generation ∧
        (alone "Flag").compile .empty .standard = .ok compilation ∧
        generation.validators = (compilation.validatorSource .standard .empty).text ∧
        generation.types = (compilation.typeSource .standard .empty).text ∧
        (compilation.validatorSource .standard .empty).names.Nodup ∧
        (compilation.typeSource .standard .empty).names.Nodup := by
  obtain ⟨compiled, ok, keys, used⟩ :=
    exists_compile_alone "Flag" .empty .standard ["Flag"] [] (by decide) (by decide +kernel)
  have generated : (alone "Flag").generate .empty .standard .empty = .ok _ :=
    generate_eq_ok_iff.2 ⟨compiled, ok, rfl⟩
  obtain ⟨compilation, ok', validators, types, validator_iff, type_iff⟩ :=
    names_nodup_iff (distinct_alone "Flag") generated
  cases ok.symm.trans ok'
  rw [used] at validator_iff type_iff
  refine ⟨distinct_alone "Flag", _, compiled, generated, ok, validators, types, ?_,
    type_iff.2 (List.disjoint_nil_left _)⟩
  refine validator_iff.2 ⟨List.disjoint_nil_left _, List.disjoint_nil_left _, ?_⟩
  exact Compilation.disjoint_constants_of_suffix (by decide)

/-- A document is written as two modules, of which one binds a name twice. -/
def Clashes (document : Document) (registry : Registry) (options : Options) : Prop :=
  ∃ generation compilation,
    document.generate registry options .empty = .ok generation ∧
    document.compile registry options = .ok compilation ∧
    generation.validators = (compilation.validatorSource options .empty).text ∧
    generation.types = (compilation.typeSource options .empty).text ∧
    ¬((compilation.validatorSource options .empty).names.Nodup ∧
      (compilation.typeSource options .empty).names.Nodup)

/-- Names that are not apart clash. -/
lemma clashes_of_compile (distinct : (Table.keys document.components.schemas).Nodup)
    (ok : document.compile registry options = .ok compilation)
    (meet : ¬(compilation.externals.Disjoint (compilation.fixedNames options) ∧
      compilation.externals.Disjoint compilation.exported ∧
      (compilation.fixedNames options).Disjoint (compilation.constants options))) :
    document.Clashes registry options := by
  refine ⟨_, compilation, generate_eq_ok_iff.2 ⟨compilation, ok, rfl⟩, ok, rfl, rfl, fun apart => meet ?_⟩
  obtain ⟨validator_iff, type_iff⟩ := nodup_sources_iff distinct ok
  obtain ⟨fromFixed, -, fixed⟩ := validator_iff.1 apart.1
  exact ⟨fromFixed, type_iff.1 apart.2, fixed⟩

/-- A component can have the name of the library if nothing is added to it, and a name of the registry
can be that of a component or of the library. -/
theorem names_clash :
    (alone "z").Clashes .empty { Options.standard with suffix := "" } ∧
    ∃ flag z, Registry.ofPairs [("boolean", "Flag")] = .ok flag ∧
      Registry.ofPairs [("boolean", "z")] = .ok z ∧
      (alone "Flag").Clashes flag .standard ∧ (alone "Flag").Clashes z .standard := by
  refine ⟨?_, ⟨[(.boolean, "Flag")]⟩, ⟨[(.boolean, "z")]⟩,
    eq_ok_of_toOption (by decide), eq_ok_of_toOption (by decide), ?_, ?_⟩
  · obtain ⟨compilation, ok, keys, -⟩ := exists_compile_alone "z" .empty
      { Options.standard with suffix := "" } ["z"] [] (by decide) (by decide +kernel)
    refine clashes_of_compile (distinct_alone "z") ok fun ⟨_, _, apart⟩ => ?_
    have exported : "z" ∈ compilation.exported := List.mem_append_left _ (keys ▸ List.mem_cons_self)
    exact apart List.mem_cons_self (List.mem_map.2 ⟨"z", exported, by decide⟩)
  · obtain ⟨compilation, ok, keys, used⟩ := exists_compile_alone "Flag" ⟨[(.boolean, "Flag")]⟩
      .standard ["Flag"] ["Flag"] (by decide) (by decide +kernel)
    refine clashes_of_compile (distinct_alone "Flag") ok fun ⟨_, apart, _⟩ => ?_
    exact apart (used ▸ List.mem_cons_self) (List.mem_append_left _ (keys ▸ List.mem_cons_self))
  · obtain ⟨compilation, ok, -, used⟩ := exists_compile_alone "Flag" ⟨[(.boolean, "z")]⟩
      .standard ["Flag"] ["z"] (by decide) (by decide +kernel)
    refine clashes_of_compile (distinct_alone "Flag") ok fun ⟨apart, _, _⟩ => ?_
    exact apart (used ▸ List.mem_cons_self) List.mem_cons_self

end Document

end SchemaCompiler
