import SchemaCompiler.Compilation
import SchemaCompiler.Proofs.Except
import SchemaCompiler.Proofs.List
import SchemaCompiler.Proofs.Route.Names
import SchemaCompiler.Proofs.Schema.Renaming
import SchemaCompiler.Proofs.TypeNames

/-!
The components of a document under the names that they go by, and what a document is compiled to.

A component whose name cannot be declared gets a new name, which can be and is that of no other
component.

* `mem_sanitizeNames`: what is known of a new name;
* `Components.sanitized_eq_none_iff`: which components keep their names;
* `Components.apply_sanitized_inj`: no two components go by one name;
* `Components.parseSchemas_eq_ok`: what the components are read from;
* `Document.Distinct`: no component and no path of a document is given twice;
* `Document.compile_eq_ok_iff`, `Document.compile_eq_error_iff`, `Document.build_eq_ok_iff`: what compiling
  a document consists of, and what it fails for;
* `Document.compile_cases`, `Document.routeTable_cases`: what is to be known of it for most purposes.
-/

namespace SchemaCompiler

/-! ### New names -/

/-- A new name is a numbered form of a name of a type, and it is not taken. -/
lemma mem_sanitizeNames {taken names : List String} {old new : String}
    (mem : (old, new) ∈ sanitizeNames taken names) :
    old ∈ names ∧ old ∉ taken ∧ new ∉ taken ∧ Naming.Variant (Naming.typeName old) new := by
  induction names generalizing taken with
  | nil => cases mem
  | cons name rest ih =>
      rw [sanitizeNames] at mem
      split at mem
      · obtain ⟨among, others⟩ := ih mem
        exact ⟨List.mem_cons_of_mem _ among, others⟩
      · next free =>
          rcases List.mem_cons.1 mem with eq | mem
          · obtain ⟨rfl, rfl⟩ := Prod.mk.inj eq
            exact ⟨List.mem_cons_self, fun mem => free (List.contains_iff_mem.2 mem),
              Naming.unique_notMem _ _, Naming.variant_unique _ _⟩
          · obtain ⟨among, own, new, variant⟩ := ih mem
            exact ⟨List.mem_cons_of_mem _ among, fun mem => own (List.mem_cons_of_mem _ mem),
              fun mem => new (List.mem_cons_of_mem _ mem), variant⟩

/-- A name that is not taken and is not its own name of a type gets a new one. -/
lemma mem_keys_sanitizeNames {taken names : List String} {name : String} (mem : name ∈ names)
    (free : name ∉ taken) (moves : Naming.typeName name ≠ name) :
    name ∈ Table.keys (sanitizeNames taken names) := by
  induction names generalizing taken with
  | nil => cases mem
  | cons first rest ih =>
      rw [sanitizeNames]
      split
      · next used =>
          refine ih ((List.mem_cons.1 mem).resolve_left ?_) free
          rintro rfl
          exact free (List.contains_iff_mem.1 used)
      · rcases List.mem_cons.1 mem with rfl | mem
        · exact List.mem_cons_self
        · refine List.mem_cons_of_mem _ (ih mem fun used => ?_)
          rcases List.mem_cons.1 used with rfl | used
          · exact moves (Naming.typeName_variant (Naming.variant_unique _ _))
          · exact free used

/-- No new name is given twice. -/
lemma nodup_sanitizeNames (taken names : List String) :
    ((sanitizeNames taken names).map Prod.snd).Nodup := by
  induction names generalizing taken with
  | nil => exact List.nodup_nil
  | cons name rest ih =>
      rw [sanitizeNames]
      split
      · exact ih taken
      · rw [List.map_cons, List.nodup_cons]
        refine ⟨fun mem => ?_, ih _⟩
        obtain ⟨⟨old, new⟩, mem, rfl⟩ := List.mem_map.1 mem
        exact (mem_sanitizeNames mem).2.2.1 List.mem_cons_self

namespace Components

variable {components : Components}

/-- The new names of components. -/
abbrev sanitizing (components : Components) : Renaming := .ofTable components.sanitized

/-- Only components get new names. -/
lemma mem_keys_of_sanitized {old new : String}
    (renamed : Table.get? components.sanitized old = some new) :
    old ∈ Table.keys components.schemas :=
  (mem_sanitizeNames (Table.mem_of_get? renamed)).1

lemma apply_of_kept {name : String} (kept : Table.get? components.sanitized name = none) :
    components.sanitizing.apply name = name := by
  rw [Renaming.apply, sanitizing, Renaming.ofTable, kept, Option.getD_none]

/-- A component keeps its name if that is its own name of a type. -/
lemma sanitized_eq_none_iff {name : String} (known : name ∈ Table.keys components.schemas) :
    Table.get? components.sanitized name = none ↔ Naming.typeName name = name := by
  rw [Table.get?_eq_none_iff]
  constructor
  · intro kept
    by_contra moves
    refine kept (mem_keys_sanitizeNames known (fun taken => moves ?_) moves)
    exact eq_of_beq (List.mem_filter.1 taken).2
  · intro own renamed
    obtain ⟨⟨old, new⟩, mem, rfl⟩ := List.mem_map.1 renamed
    refine (mem_sanitizeNames mem).2.1 (List.mem_filter.2 ⟨known, ?_⟩)
    rwa [beq_iff_eq]

/-- A new name is that of no component that keeps its own. -/
lemma ne_of_sanitized {old new other : String}
    (renamed : Table.get? components.sanitized old = some new)
    (mem : other ∈ Table.keys components.schemas) : new ≠ other := by
  obtain ⟨-, -, free, variant⟩ := mem_sanitizeNames (Table.mem_of_get? renamed)
  rintro rfl
  refine free (List.mem_filter.2 ⟨mem, ?_⟩)
  rw [beq_iff_eq]
  exact Naming.typeName_variant variant

/-- **No two components go by one name.** -/
theorem apply_sanitized_inj {a b : String} (memA : a ∈ Table.keys components.schemas)
    (memB : b ∈ Table.keys components.schemas)
    (same : components.sanitizing.apply a = components.sanitizing.apply b) : a = b := by
  rw [Renaming.apply, Renaming.apply, sanitizing, Renaming.ofTable] at same
  cases left : Table.get? components.sanitized a with
  | none =>
      cases right : Table.get? components.sanitized b with
      | none => rwa [left, right] at same
      | some new =>
          rw [left, right] at same
          exact absurd same.symm (ne_of_sanitized right memA)
  | some new =>
      cases right : Table.get? components.sanitized b with
      | none =>
          rw [left, right] at same
          exact absurd same (ne_of_sanitized left memB)
      | some new' =>
          rw [left, right] at same
          have entries := List.inj_on_of_nodup_map (nodup_sanitizeNames _ _)
            (Table.mem_of_get? left) (Table.mem_of_get? right) same
          exact (Prod.mk.inj entries).1

/-! ### Reading -/

/-- What a component is read from: a schema under the name that it goes by. -/
def Reads (components : Components) (entry : String × Json) (component : String × Schema) : Prop :=
  component.1 = components.sanitizing.apply entry.1 ∧
    ∃ s, Schema.ofJson? entry.2 = .ok s ∧ component.2 = s.rename components.sanitizing

/-- The names that components go by. -/
lemma keys_of_reads {entries : Table Json} {table : Table Schema}
    (reads : List.Forall₂ components.Reads entries table) :
    Table.keys table = (Table.keys entries).map components.sanitizing.apply := by
  induction reads with
  | nil => rfl
  | cons first _ ih => exact congrArg₂ _ first.1 ih

/-- What a schema names is a component, is referred to, or has kept its name, if that holds for what its
mappings lead to. -/
lemma placed_of_mapped {table : Table Schema} (read : List.Forall₂ components.Reads components.schemas table)
    {renames : Table String} {s : Schema}
    (placed : ∀ target, s.MapsTo target →
      target ∈ Table.keys components.schemas ∨ Table.get? renames target = none) (target : String)
    (named : (s.rename components.sanitizing).Names target) :
    target ∈ Table.keys table ∨ target ∈ (s.rename components.sanitizing).references ∨
      Table.get? renames target = none := by
  obtain ⟨old, names, rfl⟩ := Schema.names_rename_iff.1 named
  rcases Schema.names_cases names with refers | maps
  · exact .inr (.inl (Schema.mem_references_rename_iff.2 ⟨old, refers, rfl⟩))
  · rw [keys_of_reads read]
    cases renamed : Table.get? components.sanitized old with
    | some new => exact .inl (List.mem_map_of_mem (mem_keys_of_sanitized renamed))
    | none =>
        rcases placed old maps with known | free
        · exact .inl (List.mem_map_of_mem known)
        · exact .inr (.inr (by rwa [apply_of_kept renamed]))

/-- Components are read one by one, and no two of them go by one name. -/
theorem parseSchemas_eq_ok (distinct : (Table.keys components.schemas).Nodup) {table : Table Schema}
    (ok : components.parseSchemas = .ok table) :
    List.Forall₂ components.Reads components.schemas table ∧ (Table.keys table).Nodup := by
  obtain ⟨entries, read, eq⟩ := bind_eq_ok_iff.1 ok
  have reads : List.Forall₂ components.Reads components.schemas entries := by
    refine (mapM_eq_ok_iff.1 read).imp fun entry component ok => ?_
    obtain ⟨s, parsed, eq⟩ := bind_eq_ok_iff.1 ok
    cases eq
    refine ⟨rfl, ?_⟩
    rw [parseSchema, Schema.parse] at parsed
    cases own : Schema.ofJson? entry.2 with
    | error fault =>
        rw [own] at parsed
        cases parsed
    | ok s =>
        rw [own] at parsed
        exact ⟨s, rfl, (Except.ok.inj parsed).symm⟩
  have keys := keys_of_reads reads
  have nodup : (Table.keys entries).Nodup := by
    rw [keys]
    exact distinct.map_on fun a memA b memB same => apply_sanitized_inj memA memB same
  cases eq
  rw [Table.ofEntries_eq_self nodup]
  exact ⟨reads, nodup⟩

end Components

/-! ### Compiling -/

namespace Document

/-- No component and no path is given twice. -/
structure Distinct (document : Document) : Prop where
  schemas : (Table.keys document.components.schemas).Nodup
  paths : (Table.keys document.paths).Nodup

/-- What a document is compiled to, as far as it does not concern messages. -/
structure CompilesTo (document : Document) (registry : Registry) (options : Options)
    (components : Table Schema) (built : RouteTable) (compilation : Compilation) : Prop where
  parsed : document.components.parseSchemas = .ok components
  routed : document.routeTable options components document.components.sanitizing = .ok built
  table : compilation.table = built.resolution.table
  renames : compilation.renames = built.resolution.renames
  routes : compilation.routes = built.routes
  sanitized : compilation.sanitized = document.components.sanitized
  validators : compilation.validators =
    .ofSchemas registry built.resolution.table built.resolution.renames
  types : compilation.types = Table.mapValues (TypeExpr.ofSchema registry) built.resolution.table

/-- What routes with some schemas are compiled to. -/
def assemble (registry : Registry) (components : Table Schema) (sanitized : Table String)
    (built : RouteTable) : Compilation where
  table := built.resolution.table
  routes := built.routes
  validators := .ofSchemas registry built.resolution.table built.resolution.renames
  types := Table.mapValues (TypeExpr.ofSchema registry) built.resolution.table
  renames := built.resolution.renames
  sanitized := sanitized
  cycles := built.resolution.cycles
  routeErrors := built.errors
  warnings := built.warnings ++ sanitized.map (fun (old, new) => .componentRenamed old new) ++
    built.errors.map .routeDropped
  externals := Text.sortedSet (built.resolution.table.flatMap fun (_, s) => registry.used s)
  componentNames :=
    ((Table.keys components).map (Renaming.ofTable built.resolution.renames).apply).eraseDups.filter
      (Table.contains built.resolution.table)

lemma compile_eq_ok_iff {document : Document} {registry : Registry} {options : Options}
    {compilation : Compilation} :
    document.compile registry options = .ok compilation ↔
      Text.hasPrefix "3.0" document.openapi = true ∧
      ∃ components built, document.components.parseSchemas = .ok components ∧
        document.routeTable options components document.components.sanitizing = .ok built ∧
        compilation = assemble registry components document.components.sanitized built := by
  rw [compile]
  cases Text.hasPrefix "3.0" document.openapi with
  | false => exact ⟨nofun, nofun⟩
  | true =>
      constructor
      · intro ok
        obtain ⟨components, parsed, ok⟩ := bind_eq_ok_iff.1 ok
        obtain ⟨built, routed, ok⟩ := bind_eq_ok_iff.1 ok
        exact ⟨rfl, components, built, parsed, routed, (Except.ok.inj ok).symm⟩
      · rintro ⟨-, components, built, parsed, routed, rfl⟩
        exact bind_eq_ok_iff.2 ⟨components, parsed, bind_eq_ok_iff.2 ⟨built, routed, rfl⟩⟩

/-- Compiling a document fails for its version, for a component that cannot be read, or for its routes and
what is referred to, and for nothing else. -/
lemma compile_eq_error_iff {document : Document} {registry : Registry} {options : Options}
    {fault : CompileError} :
    document.compile registry options = .error fault ↔
      if Text.hasPrefix "3.0" document.openapi then
        document.components.parseSchemas = .error fault ∨
        ∃ components, document.components.parseSchemas = .ok components ∧
          document.routeTable options components document.components.sanitizing = .error fault
      else fault = .unsupported "#/openapi" (.version document.openapi) := by
  rw [compile]
  cases Text.hasPrefix "3.0" document.openapi with
  | false => exact ⟨fun failed => (Except.error.inj failed).symm, fun eq => congrArg Except.error eq.symm⟩
  | true =>
      constructor
      · intro failed
        rcases bind_eq_error_iff.1 failed with unread | ⟨components, parsed, failed⟩
        · exact .inl unread
        · exact .inr ⟨components, parsed, (bind_eq_error_iff.1 failed).resolve_right nofun⟩
      · rintro (unread | ⟨components, parsed, unrouted⟩)
        · exact bind_eq_error_iff.2 (.inl unread)
        · exact bind_eq_error_iff.2 (.inr ⟨components, parsed, bind_eq_error_iff.2 (.inl unrouted)⟩)

lemma hasPrefix_version : Text.hasPrefix "3.0" "3.0.3" = true := by decide

lemma compile_cases {document : Document} {registry : Registry} {options : Options}
    {compilation : Compilation} (ok : document.compile registry options = .ok compilation) :
    ∃ components built, document.CompilesTo registry options components built compilation := by
  obtain ⟨-, components, built, parsed, routed, rfl⟩ := compile_eq_ok_iff.1 ok
  exact ⟨components, built, parsed, routed, rfl, rfl, rfl, rfl, rfl, rfl⟩

/-- The routes of a document are named for the plans of its operations. -/
lemma build_eq_ok_iff {document : Document} {components : Table Schema} {sanitized : Renaming}
    {built : RouteTable} :
    RouteTable.build document components sanitized = .ok built ↔
      ∃ plans errors resolution,
        RouteContext.planAll ⟨document.components, Table.keys components, sanitized⟩
          document.endpoints = .ok (plans, errors) ∧
        Resolution.resolve components (nameRoutes (Table.keys components) [] plans).1 =
          .ok resolution ∧
        built = ⟨resolution,
          (nameRoutes (Table.keys components) [] plans).2.map
            (Route.rename (.ofTable resolution.renames)),
          errors, plans.flatMap RoutePlan.warnings⟩ := by
  constructor
  · intro ok
    obtain ⟨⟨plans, errors⟩, planned, ok⟩ := bind_eq_ok_iff.1 ok
    obtain ⟨resolution, resolved, ok⟩ := bind_eq_ok_iff.1 ok
    exact ⟨plans, errors, resolution, planned, resolved, (Except.ok.inj ok).symm⟩
  · rintro ⟨plans, errors, resolution, planned, resolved, rfl⟩
    exact bind_eq_ok_iff.2 ⟨_, planned, bind_eq_ok_iff.2 ⟨_, resolved, rfl⟩⟩

/-- A document compiles with its routes if its components can be read, its operations can be planned, and
the schemas of both can be resolved. -/
lemma compile_of_planAll {document : Document} {registry : Registry} {options : Options}
    {components candidates : Table Schema} {plans : List RoutePlan} {routes : List Route}
    {errors : List CompileError} {resolution : Resolution}
    (version : Text.hasPrefix "3.0" document.openapi = true) (withRoutes : options.includeRoutes = true)
    (parsed : document.components.parseSchemas = .ok components)
    (planned : RouteContext.planAll ⟨document.components, Table.keys components,
      document.components.sanitizing⟩ document.endpoints = .ok (plans, errors))
    (named : nameRoutes (Table.keys components) [] plans = (candidates, routes))
    (resolved : Resolution.resolve components candidates = .ok resolution) :
    document.compile registry options = .ok (assemble registry components document.components.sanitized
      ⟨resolution, routes.map (Route.rename (.ofTable resolution.renames)), errors,
        plans.flatMap RoutePlan.warnings⟩) := by
  have routed := build_eq_ok_iff.2 ⟨plans, errors, resolution, planned, by rwa [named], rfl⟩
  rw [named] at routed
  exact compile_eq_ok_iff.2 ⟨version, components, _, parsed, (if_pos withRoutes).trans routed, rfl⟩

/-- Without operations nothing but the components is resolved. -/
lemma routeTable_of_endpoints {document : Document} {options : Options} {components : Table Schema}
    {sanitized : Renaming} {resolution : Resolution} (none : document.endpoints = [])
    (resolved : Resolution.resolve components [] = .ok resolution) :
    document.routeTable options components sanitized = .ok ⟨resolution, [], [], []⟩ := by
  rw [routeTable]
  split
  · exact build_eq_ok_iff.2 ⟨[], [], resolution, by rw [none]; rfl, resolved, rfl⟩
  · rw [resolved]
    rfl

/-- The schemas of routes have free names; there are none if routes are left out. -/
lemma routeTable_cases {document : Document} {options : Options} {components : Table Schema}
    {sanitized : Renaming} {built : RouteTable}
    (ok : document.routeTable options components sanitized = .ok built) :
    ∃ candidates, FreshNames (Table.keys components) candidates ∧
      Resolution.resolve components candidates = .ok built.resolution ∧
      (options.includeRoutes = true → ∃ plans errors named,
        RouteContext.planAll ⟨document.components, Table.keys components, sanitized⟩
          document.endpoints = .ok (plans, errors) ∧
        Naming.GivenAll (Table.keys components) [] candidates plans named ∧
        built.routes = named.map (Route.rename (.ofTable built.resolution.renames))) := by
  have none : FreshNames (Table.keys components) [] := ⟨List.nodup_nil, nofun⟩
  rw [routeTable] at ok
  split at ok
  · obtain ⟨plans, errors, resolution, planned, resolved, rfl⟩ := build_eq_ok_iff.1 ok
    have given := nameRoutes_spec (Table.keys components) [] plans none
    exact ⟨_, given.fresh, resolved, fun _ => ⟨plans, errors, _, planned, given, rfl⟩⟩
  · next left =>
      obtain ⟨resolution, resolved, ok⟩ := bind_eq_ok_iff.1 ok
      cases ok
      exact ⟨[], none, resolved, fun taken => absurd taken left⟩

/-- No two inputs of resolution have one name. -/
lemma nodup_inputs {components candidates : Table Schema} (distinct : (Table.keys components).Nodup)
    (fresh : FreshNames (Table.keys components) candidates) :
    (Table.keys (components ++ candidates)).Nodup := by
  rw [Table.keys, List.map_append]
  refine List.nodup_append.2 ⟨distinct, fresh.distinct, fun a memA b memB eq => ?_⟩
  exact fresh.free b memB (eq ▸ memA)

end Document

end SchemaCompiler
