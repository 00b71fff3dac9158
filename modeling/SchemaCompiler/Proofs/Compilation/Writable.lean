import SchemaCompiler.Proofs.Compilation.References
import SchemaCompiler.Proofs.Resolution.Anchors

/-!
Names that can be written out.

A name that is written out, of an entry or of an alias, has to be an identifier, and must not be that of a
type that written types rely on.  Names come from components, from parts of operations and from errors.
Those of errors can always be written, and the others but for two gaps: a component can be called like a
primitive type, as these are not among the names that are reserved, and the status of a response that
begins with 2 goes into the name of its schema as it is, whatever its characters.

* `Naming.Writable`: names that can be written;
* `Naming.RouteSlot.Garbled`: responses whose status cannot be part of a name;
* `Naming.writable_routeSchema_iff`, `Naming.writable_of_title`: the names of schemas for operations and for
  errors;
* `Components.declarable_apply`: the names that components go by;
* `Document.writable_iff_of_emits`: which of the names that a compilation writes out can be written.
-/

namespace SchemaCompiler

namespace Naming

/-- The types without parts. -/
def primitiveTypes : List String := ["string", "number", "boolean", "unknown"]

/-- The types that written types rely on. -/
def builtinTypes : List String := primitiveTypes ++ ["Array", "Record"]

/-- A name can be declared beside the types that written types rely on. -/
structure Writable (name : String) : Prop where
  identifier : Text.isIdentifier name = true
  own : name ∉ builtinTypes

/-- A declarable name can be written unless it is that of a primitive type. -/
lemma Declarable.writable {name : String} (declarable : Declarable name) (other : name ∉ primitiveTypes) :
    Writable name := by
  have reserved : ∀ word ∈ ["Array", "Record"], word ∈ reservedTypes := by decide
  refine ⟨by simp [Text.isIdentifier, declarable.bare, declarable.keyword], fun builtin => ?_⟩
  exact (List.mem_append.1 builtin).elim other fun mem => declarable.reserved (reserved name mem)

/-- No primitive type begins with a capital letter. -/
lemma notMem_primitiveTypes_of_isUpper {name : String}
    (begins : name.toList.head?.any Char.isUpper = true) : name ∉ primitiveTypes := by
  have small : ∀ word ∈ primitiveTypes, word.toList.head?.any Char.isUpper = false := by decide
  intro mem
  rw [small name mem] at begins
  cases begins

/-! ### Numbered forms -/

section Variant

variable {base name : String}

/-- A numbered form begins as its name does. -/
lemma Variant.begins (variant : Variant base name) (begins : base.toList.head?.any Char.isUpper = true) :
    name.toList.head? = base.toList.head? := by
  rcases variant with rfl | ⟨k, -, rfl⟩
  · rfl
  · rw [String.toList_append]
    cases chars : base.toList with
    | nil =>
        rw [chars] at begins
        cases begins
    | cons c rest => rfl

/-- A numbered form has the characters of a name if its name does. -/
lemma Variant.continues_iff (variant : Variant base name) :
    (∀ c ∈ name.toList, Text.continuesIdentifier c = true) ↔
      ∀ c ∈ base.toList, Text.continuesIdentifier c = true := by
  rcases variant with rfl | ⟨k, -, rfl⟩
  · rfl
  · rw [String.toList_append, List.forall_mem_append]
    refine and_iff_left fun c mem => ?_
    simp [Text.continuesIdentifier, Char.isAlphanum, isDigit_of_mem_number mem]

lemma Declarable.variant (declarable : Declarable base) (variant : Variant base name) : Declarable name := by
  rcases variant with rfl | ⟨k, -, rfl⟩
  · exact declarable
  · exact declarable.append_number k

end Variant

/-! ### Operations -/

/-- The response to a status that begins with 2 and has, in capital letters, a character that no name can
have. -/
def RouteSlot.Garbled (slot : RouteSlot) : Prop :=
  ∃ status, slot = .response status ∧ Text.hasPrefix "2" status = true ∧
    ∃ c ∈ (Text.uppercase status).toList, Text.continuesIdentifier c = false

lemma continues_of_isAlphanum {word : List Char} (alphanumeric : ∀ c ∈ word, c.isAlphanum = true) :
    ∀ c ∈ word, Text.continuesIdentifier c = true := fun c mem => by
  rw [Text.continuesIdentifier, alphanumeric c mem]
  rfl

lemma continues_pascalCase (s : String) :
    ∀ c ∈ (pascalCase s).toList, Text.continuesIdentifier c = true :=
  continues_of_isAlphanum (pascalCase_spec s).1

/-- What a part adds to the name of an operation has the characters of a name unless the part is garbled. -/
lemma continues_ending_iff (slot : RouteSlot) :
    (∀ c ∈ slot.ending.toList, Text.continuesIdentifier c = true) ↔ ¬slot.Garbled := by
  have plain : ∀ word ∈ ["Params", "Query", "Headers", "Body", "Response", "ErrorResponse"],
      word.toList.all Text.continuesIdentifier = true := by
    decide
  have fixed := fun word mem => List.all_eq_true.1 (plain word mem)
  cases slot with
  | response status =>
      rw [RouteSlot.ending]
      split
      · -- an accepted status is put into the name as it is written; any other is put into words
        next accepted =>
          rw [String.toList_append, List.forall_mem_append, and_iff_left (fixed "Response" (by simp))]
          constructor
          · rintro all ⟨_, eq, -, c, mem, other⟩
            cases eq
            rw [all c mem] at other
            cases other
          · intro clean c mem
            by_contra other
            exact clean ⟨status, rfl, accepted, c, mem, Bool.eq_false_iff.2 other⟩
      · next other =>
          rw [String.toList_append, List.forall_mem_append]
          refine ⟨?_, fun _ => ⟨continues_pascalCase status, fixed "ErrorResponse" (by simp)⟩⟩
          rintro - ⟨_, eq, accepted, -⟩
          cases eq
          exact other accepted
  | params | query | headers | body =>
      refine ⟨fun _ => ?_, fun _ => fixed _ (by simp [RouteSlot.ending])⟩
      rintro ⟨_, eq, -⟩
      cases eq

/-- The name of a method, as one word, begins with a capital letter, but not with that of a builtin type. -/
lemma begins_method (method : Method) : ∃ c, (pascalCase method.name).toList.head? = some c ∧
    c.isUpper = true ∧ c ≠ 'A' ∧ c ≠ 'R' := by
  cases method <;> exact ⟨_, rfl, by decide⟩

lemma begins_routeSchema (method : Method) (path : String) (slot : RouteSlot) :
    ∃ c, (routeSchema method.name path slot).toList.head? = some c ∧
      c.isUpper = true ∧ c ≠ 'A' ∧ c ≠ 'R' := by
  obtain ⟨c, first, other⟩ := begins_method method
  refine ⟨c, ?_, other⟩
  obtain ⟨rest, chars⟩ := List.head?_eq_some_iff.1 first
  rw [routeSchema, String.append_assoc, String.toList_append, chars, List.cons_append, List.head?_cons]

/-- The name of the schema for a part has the characters of a name unless the part is garbled. -/
lemma continues_routeSchema_iff (method path : String) (slot : RouteSlot) :
    (∀ c ∈ (routeSchema method path slot).toList, Text.continuesIdentifier c = true) ↔ ¬slot.Garbled := by
  have pieces : ∀ c ∈ (String.join ((Text.splitOn '/' path).map pascalCase)).toList,
      Text.continuesIdentifier c = true := by
    rw [String.toList_join]
    intro c mem
    obtain ⟨piece, among, mem⟩ := List.mem_flatMap.1 mem
    obtain ⟨s, -, rfl⟩ := List.mem_map.1 among
    exact continues_pascalCase s c mem
  rw [routeSchema, String.toList_append, String.toList_append, List.forall_mem_append,
    List.forall_mem_append, and_iff_right ⟨continues_pascalCase method, pieces⟩, continues_ending_iff]

/-- The name of the schema for a part begins with a capital letter. -/
lemma capital_of_variant {method : Method} {path name : String} {slot : RouteSlot}
    (variant : Variant (routeSchema method.name path slot) name) :
    ∃ c, name.toList.head? = some c ∧ c.isUpper = true ∧ c ≠ 'A' ∧ c ≠ 'R' := by
  obtain ⟨c, first, upper, other⟩ := begins_routeSchema method path slot
  refine ⟨c, ?_, upper, other⟩
  rw [variant.begins (by rw [first, Option.any_some, upper]), first]

/-- **The name of the schema for a part** can be written unless the part is garbled. -/
theorem writable_routeSchema_iff {method : Method} {path name : String} {slot : RouteSlot}
    (variant : Variant (routeSchema method.name path slot) name) : Writable name ↔ ¬slot.Garbled := by
  obtain ⟨c, head, upper, notA, notR⟩ := capital_of_variant variant
  have capital : name.toList.head?.any Char.isUpper = true := by rw [head, Option.any_some, upper]
  have identifier : Text.isIdentifier name = true ↔ ¬slot.Garbled := by
    rw [Text.isIdentifier, Bool.and_eq_true, isBare_iff_of_isUpper capital, variant.continues_iff,
      continues_routeSchema_iff]
    refine and_iff_left ?_
    simp [notMem_keywords_of_isUpper capital]
  refine ⟨fun writable => identifier.1 writable.identifier, fun clean => ⟨identifier.2 clean, fun mem => ?_⟩⟩
  rcases List.mem_append.1 mem with mem | mem
  · exact notMem_primitiveTypes_of_isUpper capital mem
  · simp only [List.mem_cons, List.not_mem_nil, or_false] at mem
    rcases mem with rfl | rfl
    · exact notA (Option.some.inj head).symm
    · exact notR (Option.some.inj head).symm

/-! ### Errors -/

/-- **The name of an error** can be written. -/
theorem writable_of_title {name : String} (title : Resolution.Title name) : Writable name := by
  obtain ⟨code, base, named, variant⟩ := title
  rw [errorSchema?] at named
  split at named
  · cases named
  · next begins =>
      obtain rfl := Option.some.inj named
      rw [Bool.or_eq_true, not_or, Bool.not_eq_true, Bool.not_eq_true] at begins
      have word := capitalized_pascalCase begins.1 begins.2
      have capital : (pascalCase code ++ "Error").toList.head?.any Char.isUpper = true := by
        have capital := word.begins
        rw [String.toList_append]
        cases chars : (pascalCase code).toList with
        | nil =>
            rw [chars] at capital
            cases capital
        | cons c rest =>
            rw [chars] at capital
            exact capital
      have ends : ∀ word ∈ reservedTypes, word.toList.getLast? ≠ some 'r' := by decide
      have declarable : Declarable (pascalCase code ++ "Error") := by
        refine Capitalized.declarable ⟨capital, ?_⟩ fun mem => ends _ mem ?_
        · rw [String.toList_append, List.forall_mem_append]
          exact ⟨word.alphanumeric, List.all_eq_true.1 (by decide)⟩
        · rw [String.toList_append, List.getLast?_append_of_ne_nil _ (by decide)]
          rfl
      refine (declarable.variant variant).writable (notMem_primitiveTypes_of_isUpper ?_)
      rw [variant.begins capital, capital]

end Naming

/-! ### Components -/

/-- **The name that a component goes by** is declarable.  It is that of a primitive type only if the
component is called like that. -/
theorem Components.declarable_apply {components : Components} {name : String}
    (known : name ∈ Table.keys components.schemas) :
    Naming.Declarable (components.sanitizing.apply name) ∧
      (components.sanitizing.apply name ∈ Naming.primitiveTypes →
        components.sanitizing.apply name = name) := by
  cases renamed : Table.get? components.sanitized name with
  | none =>
      rw [apply_of_kept renamed]
      refine ⟨?_, fun _ => rfl⟩
      rw [← (sanitized_eq_none_iff known).1 renamed]
      exact Naming.declarable_typeName name
  | some new =>
      have applied : components.sanitizing.apply name = new := by
        rw [Renaming.apply, sanitizing, Renaming.ofTable, renamed, Option.getD_some]
      obtain ⟨-, -, -, variant⟩ := mem_sanitizeNames (Table.mem_of_get? renamed)
      rw [applied]
      refine ⟨(Naming.declarable_typeName name).variant variant, fun primitive => ?_⟩
      rcases Naming.typeName_cases name with ⟨self, -⟩ | ⟨capitalized, -⟩
      · cases renamed.symm.trans ((sanitized_eq_none_iff known).2 self)
      · refine absurd primitive (Naming.notMem_primitiveTypes_of_isUpper ?_)
        rw [variant.begins capitalized.begins, capitalized.begins]

/-! ### Documents -/

/-- A name is written out, as that of an entry or of an alias. -/
def Compilation.Emits (compilation : Compilation) (name : String) : Prop :=
  name ∈ Table.keys compilation.table ∨ name ∈ Table.keys compilation.aliases

/-- A name is that of the schema for a garbled part of a route. -/
def Compilation.Garbles (compilation : Compilation) (name : String) : Prop :=
  ∃ route ∈ compilation.routes, ∃ part ∈ route.slots, part.1.Garbled ∧ route.site.NamesPart part.1 name

namespace Document

variable {document : Document} {registry : Registry} {options : Options} {compilation : Compilation}

/-- The schemas of routes have free names, which are those of their parts. -/
lemma exists_part_of_routeTable {components : Table Schema} {sanitized : Renaming} {built : RouteTable}
    (ok : document.routeTable options components sanitized = .ok built) :
    ∃ candidates, FreshNames (Table.keys components) candidates ∧
      Resolution.resolve components candidates = .ok built.resolution ∧
      ∀ name ∈ Table.keys candidates,
        ∃ route ∈ built.routes, ∃ part ∈ route.slots, route.site.NamesPart part.1 name := by
  by_cases withRoutes : options.includeRoutes = true
  · obtain ⟨candidates, fresh, resolved, planned⟩ := routeTable_cases ok
    obtain ⟨plans, errors, named, -, given, routes⟩ := planned withRoutes
    refine ⟨candidates, fresh, resolved, fun name mem => ?_⟩
    obtain ⟨route, mem, part, among, own⟩ := given.exists_part mem
    rw [routes]
    exact ⟨_, List.mem_map_of_mem mem, _, List.mem_map_of_mem among, own⟩
  · rw [routeTable, if_neg withRoutes] at ok
    obtain ⟨resolution, resolved, eq⟩ := bind_eq_ok_iff.1 ok
    cases eq
    exact ⟨[], ⟨List.nodup_nil, fun _ mem => by cases mem⟩, resolved, fun _ mem => by cases mem⟩

/-- A name that is written out is that by which a component goes, that of a part of a route, or that of an
error. -/
lemma origin_of_emits (distinct : (Table.keys document.components.schemas).Nodup)
    (ok : document.compile registry options = .ok compilation) {name : String}
    (emits : compilation.Emits name) :
    (∃ component ∈ Table.keys document.components.schemas,
      name = document.components.sanitizing.apply component) ∨
    (∃ route ∈ compilation.routes, ∃ part ∈ route.slots, route.site.NamesPart part.1 name) ∨
    Resolution.Title name := by
  obtain ⟨components, built, compiled⟩ := compile_cases ok
  obtain ⟨read, nodup⟩ := Components.parseSchemas_eq_ok distinct compiled.parsed
  obtain ⟨candidates, fresh, resolved, parts⟩ := exists_part_of_routeTable compiled.routed
  have used : name ∈ Table.keys built.resolution.table ∨ name ∈ Table.keys built.resolution.renames := by
    rw [← compiled.table, ← compiled.renames]
    exact emits.imp_right fun mem => (Table.keys_filter_sublist _ _).mem mem
  rcases Resolution.origin_of_resolve (nodup_inputs nodup fresh) resolved used with input | title
  · rcases Table.mem_keys_append_iff.1 input with own | made
    · rw [Components.keys_of_reads read] at own
      obtain ⟨component, known, eq⟩ := List.mem_map.1 own
      exact .inl ⟨component, known, eq.symm⟩
    · rw [compiled.routes]
      exact .inr (.inl (parts name made))
  · exact .inr (.inr title)

/-- **Which names that are written out can be written**: all but those of components that are called like
primitive types, and of responses whose status cannot be part of a name. -/
theorem writable_iff_of_emits (distinct : (Table.keys document.components.schemas).Nodup)
    (ok : document.compile registry options = .ok compilation) {name : String}
    (emits : compilation.Emits name) :
    (Naming.Writable name ↔ name ∉ Naming.primitiveTypes ∧ ¬compilation.Garbles name) ∧
      (name ∈ Naming.primitiveTypes → name ∈ Table.keys document.components.schemas) := by
  have sound : Naming.Writable name → name ∉ Naming.primitiveTypes ∧ ¬compilation.Garbles name := by
    refine fun writable => ⟨fun primitive => writable.own (List.mem_append_left _ primitive), ?_⟩
    rintro ⟨route, -, part, -, garbled, names⟩
    exact (Naming.writable_routeSchema_iff names).1 writable garbled
  rcases origin_of_emits distinct ok emits with
    ⟨component, known, rfl⟩ | ⟨route, kept, part, among, names⟩ | title
  · obtain ⟨declarable, primitive⟩ := Components.declarable_apply known
    refine ⟨⟨sound, fun ⟨other, _⟩ => declarable.writable other⟩, fun mem => ?_⟩
    rwa [primitive mem]
  · have written : ¬part.1.Garbled → Naming.Writable name := (Naming.writable_routeSchema_iff names).2
    refine ⟨⟨sound, fun ⟨_, clean⟩ => written fun garbled => ?_⟩, fun primitive => ?_⟩
    · exact clean ⟨route, kept, part, among, garbled, names⟩
    · obtain ⟨c, head, upper, -⟩ := Naming.capital_of_variant names
      refine absurd primitive (Naming.notMem_primitiveTypes_of_isUpper ?_)
      rw [head, Option.any_some, upper]
  · have writable := Naming.writable_of_title title
    exact ⟨⟨sound, fun _ => writable⟩, fun primitive => absurd primitive (sound writable).1⟩

/-- A component that is called like a primitive type, and an operation with two responses, one of which
has a status that cannot be part of a name. -/
def misnamed : Document where
  openapi := "3.0.3"
  info := ⟨"", "", none⟩
  paths := [("/pets", ⟨[], fun method => if method = .get then
    some ⟨none, [], none, [("2-x", .inline ⟨[("application/json", ⟨some (.object [("type",
      .string "boolean")])⟩)]⟩), ("200", .inline ⟨[("application/json", ⟨some (.object [("type",
      .string "boolean")])⟩)]⟩)]⟩
    else none⟩)]
  components := ⟨[("string", .object [])], [], [], []⟩

/-- The plan of the operation of `misnamed`. -/
def misnamedPlan : RoutePlan :=
  ⟨⟨.get, "/pets"⟩, none, [(.response "2-x", .mk .boolean false), (.response "200", .mk .boolean false)],
    false, []⟩

/-- The schemas of the responses of `misnamed`. -/
def misnamedCandidates : Table Schema :=
  [("GetPets2-XResponse", .mk .boolean false), ("GetPets200Response", .mk .boolean false)]

lemma sanitized_misnamed : misnamed.components.sanitized = [] := by decide

lemma parseSchemas_misnamed : misnamed.components.parseSchemas = .ok [("string", .mk .any false)] := by
  rw [Components.parseSchemas, sanitized_misnamed]
  simp only [misnamed, Components.parseSchema, Schema.parse, Schema.ofJson?_any, List.mapM_cons,
    List.mapM_nil]
  rfl

lemma planAll_misnamed (context : RouteContext) :
    context.planAll misnamed.endpoints = .ok ([misnamedPlan], []) := by
  have template : PathTemplate.placeholders "/pets" = .ok [] := by decide
  change context.planAll [⟨⟨.get, "/pets"⟩, _, _⟩] = _
  rw [RouteContext.planAll, RouteContext.plan, template]
  simp only [List.mapM_cons, planResponse_boolean]
  rfl

lemma nameRoutes_misnamed : (nameRoutes ["string"] [] [misnamedPlan]).1 = misnamedCandidates := by
  have first : Naming.unique ["string"] (Naming.routeSchema "GET" "/pets" (.response "2-x")) =
      "GetPets2-XResponse" := by decide
  have second : Naming.unique ["string", "GetPets2-XResponse"]
      (Naming.routeSchema "GET" "/pets" (.response "200")) = "GetPets200Response" := by decide
  rw [misnamedCandidates, ← second, ← first]
  rfl

/-- What `misnamed` is compiled to. -/
lemma exists_compile_misnamed : ∃ compilation, misnamed.compile .empty .standard = .ok compilation ∧
    Table.keys compilation.table = ["string", "GetPets2-XResponse"] ∧
    compilation.renames = [("GetPets200Response", "GetPets2-XResponse")] := by
  obtain ⟨resolution, resolved, eq⟩ : ∃ resolution,
      Resolution.resolve [("string", .mk .any false)] misnamedCandidates = .ok resolution ∧
        (Table.keys resolution.table, resolution.renames) =
          (["string", "GetPets2-XResponse"], [("GetPets200Response", "GetPets2-XResponse")]) :=
    exists_eq_ok_of_toOption (by decide +kernel)
  obtain ⟨keys, renames⟩ := Prod.mk.inj eq
  exact ⟨_, compile_of_planAll hasPrefix_version rfl parseSchemas_misnamed (planAll_misnamed _)
    (Prod.ext nameRoutes_misnamed rfl) resolved, keys, renames⟩

/-- The second response of `misnamed` is an alias that can be written. -/
theorem writable_iff_of_emits_alias :
    (Table.keys misnamed.components.schemas).Nodup ∧
      ∃ compilation, misnamed.compile .empty .standard = .ok compilation ∧
        compilation.Emits "GetPets200Response" ∧
        (Naming.Writable "GetPets200Response" ↔
          "GetPets200Response" ∉ Naming.primitiveTypes ∧ ¬compilation.Garbles "GetPets200Response") := by
  obtain ⟨compilation, ok, keys, renames⟩ := exists_compile_misnamed
  have distinct : (Table.keys misnamed.components.schemas).Nodup := show ["string"].Nodup by decide
  have emits : compilation.Emits "GetPets200Response" := by
    have dropped : ¬Table.contains compilation.table "GetPets200Response" = true := by
      rw [← Table.mem_keys_iff, keys]
      decide
    refine .inr (List.mem_map_of_mem (a := ("GetPets200Response", "GetPets2-XResponse")) ?_)
    rw [Compilation.aliases, renames]
    refine List.mem_filter.2 ⟨List.mem_singleton_self _, ?_⟩
    dsimp only
    rw [Bool.eq_false_iff.2 dropped]
    decide
  exact ⟨distinct, compilation, ok, emits, (writable_iff_of_emits distinct ok emits).1⟩

/-- The component of `misnamed` has the name of a primitive type, and the name of the schema for its first
response is no identifier. -/
theorem not_writable_misnamed :
    ∃ compilation, misnamed.compile .empty .standard = .ok compilation ∧
      "string" ∈ Table.keys compilation.table ∧ ¬Naming.Writable "string" ∧
      "GetPets2-XResponse" ∈ Table.keys compilation.table ∧ ¬Naming.Writable "GetPets2-XResponse" := by
  obtain ⟨compilation, ok, keys, -⟩ := exists_compile_misnamed
  have builtin : "string" ∈ Naming.builtinTypes := by decide
  have other : Text.isIdentifier "GetPets2-XResponse" = false := by decide
  refine ⟨compilation, ok, ?_, fun writable => writable.own builtin, ?_, fun writable => ?_⟩
  · rw [keys]
    exact List.mem_cons_self
  · rw [keys]
    exact List.mem_cons_of_mem _ List.mem_cons_self
  · rw [writable.identifier] at other
    cases other

end Document

end SchemaCompiler
