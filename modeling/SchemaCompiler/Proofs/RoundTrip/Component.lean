import SchemaCompiler.Proofs.Compilation.Components
import SchemaCompiler.Proofs.Recording
import SchemaCompiler.Proofs.Resolution.Candidates
import SchemaCompiler.Proofs.RoundTrip.Decompilation
import SchemaCompiler.Proofs.RoundTrip.Restoration
import SchemaCompiler.Proofs.RoundTrip.Shape
import SchemaCompiler.Proofs.Validator.Basic

/-!
The verification of a component against its examples.

The validator of a component stands for its fragment, whatever new names the component and the schemas
inside got and whatever it was merged with.  Still it may not stand for the fragment as it was written:
what the fragment says twice or what is empty in it stays in its normal form, but no validator says it.

* `Examples.mismatch?_eq_none_iff`: examples are right if all of them are classified as labelled;
* `Compilation.exists_standsFor`: the entry that a component stands for;
* `Compilation.verifyComponent_eq_ok_iff_tidy`: a component is verified if its fragment is tidy, and only
  then;
* `Compilation.verify_isSuccess_iff`: the same for all components of a document;
* `Compilation.verifyComponent_empty_properties_fails`: an empty table of properties is not found again.
-/

namespace SchemaCompiler

/-! ### Names inside fragments -/

/-- A discriminator inside a fragment maps a tag to a component. -/
def Json.MapsTo (fragment : Json) (name : String) : Prop :=
  ∃ keywords members targets tag, fragment.Inside (.object keywords) ∧
    Table.get? keywords "discriminator" = some (.object members) ∧
    Table.get? members "mapping" = some (.object targets) ∧
    (tag, Json.string (componentPrefix ++ name)) ∈ targets

/-- The discriminator of a union is read from the fragment. -/
lemma ReadForm.exists_discriminator {keywords : Keywords} {nullable : Bool} {form : Form}
    {keyword : UnionKeyword} {members : List Schema} {d : Discriminator} {objectTyped : Bool}
    (read : ReadForm keywords nullable form (.union keyword members (some d) objectTyped)) :
    ∃ value, Table.get? keywords "discriminator" = some value ∧ parseDiscriminator value = .ok d := by
  cases form with
  | reference => exact read.elim
  | untyped => exact read.elim
  | typed type => cases type <;> exact read.2.2.2.elim
  | composition c =>
      cases c with
      | union keyword' => exact read.2.2.2.2.2.2
      | intersection => exact read.2.2.elim

/-- A mapping in a schema is one in its fragment. -/
lemma Schema.MapsTo.of_fragment {fragment : Json} {s : Schema} (ok : Schema.ofJson? fragment = .ok s)
    {name : String} (maps : s.MapsTo name) : fragment.MapsTo name := by
  obtain ⟨keyword, members, d, objectTyped, nullable, tag, within, mapped⟩ := maps
  obtain ⟨inner, inside, read⟩ := exists_inside_of_within within ok
  obtain ⟨keywords, form, _, rfl, -, -, read, -⟩ := Schema.ofJson?_eq_ok_iff.1 read
  obtain ⟨value, found, parsed⟩ := read.exists_discriminator
  obtain ⟨written, rfl, -, mapping, -⟩ := parseDiscriminator_eq_ok_iff.1 parsed
  rcases mapping with ⟨-, empty⟩ | there
  · rw [empty] at mapped
    cases mapped
  · exact ⟨keywords, written, _, tag, inside, found, there, List.mem_map_of_mem mapped⟩

/-! ### Examples -/

/-- Examples are right if all of them are classified as labelled. -/
lemma Examples.mismatch?_eq_none_iff {examples : Examples} {store : Validator.Store} {v : Validator} :
    examples.mismatch? store v = none ↔
      (∀ value ∈ examples.valid, v.accepts store value = true) ∧
        ∀ value ∈ examples.invalid, v.accepts store value = false := by
  have each : ∀ {values : List Json} {good : Json → Prop},
      (∀ entry ∈ values.zipIdx, good entry.1) ↔ ∀ value ∈ values, good value := by
    intro values good
    conv_rhs => rw [← List.zipIdx_map_fst 0 values]
    exact List.forall_mem_map.symm
  rw [mismatch?, Option.or_eq_none_iff, List.findSome?_eq_none_iff, List.findSome?_eq_none_iff, ← each,
    ← each]
  refine and_congr (forall₂_congr fun entry _ => ?_) (forall₂_congr fun entry _ => ?_)
  · rw [Option.map_eq_none_iff, Validator.accepts, Option.isNone_iff_eq_none]
  · rw [Validator.accepts, ite_eq_right_iff, Bool.eq_false_iff]
    exact imp_congr_right fun _ => by simp

namespace Compilation

/-- A component has examples that are well formed, and its validator classifies them as labelled. -/
def Labels (compilation : Compilation) (component : String) (examples : Json) : Prop :=
  ∃ decoded v, Examples.decoder 0 (.ofJson examples) = .ok decoded ∧
    compilation.validators.get? (compilation.canonicalName component) = some v ∧
    (∀ value ∈ decoded.valid, v.accepts compilation.validators value = true) ∧
    ∀ value ∈ decoded.invalid, v.accepts compilation.validators value = false

variable {document : Document} {registry : Registry} {options : Options} {compilation : Compilation}

lemma require_eq_ok_iff {component : String} {condition : Bool} {detail : Mismatch} {u : Unit} :
    require component condition detail = .ok u ↔ condition = true := by
  rw [require]
  split
  · next holds => exact ⟨fun _ => holds, fun _ => rfl⟩
  · next fails => exact ⟨nofun, fun holds => absurd holds fails⟩

/-- A component is verified if its fragment and its validator have one canonical form. -/
lemma verifyComponent_eq_ok_iff_canonical {component : String} {fragment examples : Json} {t : Schema}
    (entry : Table.get? compilation.table (compilation.canonicalName component) = some t)
    (validator : compilation.validators.get? (compilation.canonicalName component) =
      some (Validator.ofSchema registry t))
    (type : Table.get? compilation.types (compilation.canonicalName component) =
      some (TypeExpr.ofSchema registry t))
    (wellFormed : t.WellFormed) (labels : compilation.Labels component examples) :
    compilation.verifyComponent registry options component fragment examples = .ok () ↔
      ∃ form, Canonical.ofJson (normalize compilation.canonicalRenaming fragment) = .ok form ∧
        Canonical.ofJson (Validator.readBack registry t).fragment = .ok form := by
  obtain ⟨decoded, v, ok, own, classified⟩ := labels
  obtain rfl := Option.some.inj (validator.symm.trans own)
  -- shapes and recorded names always agree, so only the canonical forms are left to compare
  have shape : (Validator.ofSchema registry t).shape.same (TypeExpr.ofSchema registry t).shape = true := by
    rw [← (Validator.agrees_ofSchema t).shape]
    exact Json.same_self (Validator.wellFormed_shape wellFormed)
  have names : (Validator.compile registry t).names = (TypeExpr.compile registry t).names := by
    rw [(Validator.gives_compile t).names_eq, (TypeExpr.gives_compile t).names_eq]
  have form : ∀ (v : Json) (c : Canonical), canonicalForm v = .ok c ↔ Canonical.ofJson v = .ok c := by
    intro v c
    rw [canonicalForm]
    cases Canonical.ofJson v <;> simp [Except.mapError]
  rw [verifyComponent, entry, validator, type, ok]
  simp only [orMismatch, Except.mapError, bind_eq_ok_iff, Except.ok.injEq, exists_eq_left',
    Examples.mismatch?_eq_none_iff.2 classified, form, require_eq_ok_iff, shape, names,
    decide_eq_true_eq, exists_const, and_true]
  constructor
  · rintro ⟨expected, normal, found, own, rfl⟩
    exact ⟨found, normal, own⟩
  · rintro ⟨found, normal, own⟩
    exact ⟨found, normal, found, own, rfl⟩

/-- The renaming of components leads to the entries that they stand for. -/
lemma apply_canonicalRenaming (compilation : Compilation) (name : String) :
    compilation.canonicalRenaming.apply name = compilation.canonicalName name := by
  rw [Renaming.apply, canonicalRenaming]
  split
  · next same => exact same.symm
  · rfl

/-- The entry that a component stands for, beside the schema that its fragment is read to. -/
structure StandsFor (compilation : Compilation) (registry : Registry) (component : String) (s t : Schema) :
    Prop where
  entry : Table.get? compilation.table (compilation.canonicalName component) = some t
  validator : compilation.validators.get? (compilation.canonicalName component) =
    some (Validator.ofSchema registry t)
  type : Table.get? compilation.types (compilation.canonicalName component) =
    some (TypeExpr.ofSchema registry t)
  normal : t.normal = (s.rename compilation.canonicalRenaming).normal
  safe : s.fragment.Safe
  safeEntry : t.fragment.Safe

/-- **Each component of a document that compiles stands for an entry.**  A mapping inside its fragment
must lead to components, or to nothing that another entry took the place of. -/
theorem exists_standsFor (distinct : document.Distinct)
    (ok : document.compile registry options = .ok compilation) {component : String} {fragment : Json}
    (mem : (component, fragment) ∈ document.components.schemas)
    (placed : ∀ target, fragment.MapsTo target →
      target ∈ Table.keys document.components.schemas ∨ Table.get? compilation.renames target = none) :
    ∃ s t, Schema.ofJson? fragment = .ok s ∧ compilation.StandsFor registry component s t := by
  obtain ⟨components, built, compiled⟩ := Document.compile_cases ok
  obtain ⟨read, nodup⟩ := Components.parseSchemas_eq_ok distinct.schemas compiled.parsed
  obtain ⟨candidates, fresh, resolved, -⟩ := Document.routeTable_cases compiled.routed
  obtain ⟨⟨_, _⟩, among, rfl, s, parsed, rfl⟩ := exists_mem_of_forall₂ read mem
  have placed' := Components.placed_of_mapped read fun target (maps : s.MapsTo target) =>
    compiled.renames ▸ placed target (maps.of_fragment parsed)
  have inputs := Document.nodup_inputs nodup fresh
  have keys := Resolution.nodup_keys_of_resolve inputs resolved
  obtain ⟨t, entry, safe, same⟩ :=
    Resolution.entry_of_resolve inputs resolved (List.mem_append_left _ among)
  have name : built.resolution.canonicalName (document.components.sanitizing.apply component) =
      compilation.canonicalName component := by
    rw [canonicalName, compiled.renames, compiled.sanitized]
    rfl
  rw [name] at entry
  refine ⟨s, t, parsed, ?_, ?_, ?_, ?_, ?_, ?_⟩
  · rw [compiled.table]
    exact entry
  · rw [compiled.validators]
    exact Validator.Store.get?_ofSchemas keys _ entry
  · rw [compiled.types, Table.get?_mapValues, entry]
    rfl
  · rw [same placed', Schema.rename_rename]
    refine congrArg Schema.normal (Schema.rename_congr fun old _ => ?_)
    rw [Renaming.apply_andThen, apply_canonicalRenaming, canonicalName, compiled.renames,
      compiled.sanitized]
  · exact Schema.safe_rename_iff.1 (Schema.exists_canonical_iff.1
      (Resolution.formed_of_resolve nodup resolved _ _ (List.mem_append_left _ among)))
  · exact Schema.exists_canonical_iff.1 safe

/-- The validator of an entry is that of its component if the fragment of the component is tidy. -/
lemma StandsFor.verifyComponent_eq_ok_iff {component : String} {fragment examples : Json} {s t : Schema}
    (stands : compilation.StandsFor registry component s t) (parsed : Schema.ofJson? fragment = .ok s)
    (wellFormed : fragment.WellFormed) (labels : compilation.Labels component examples) :
    compilation.verifyComponent registry options component fragment examples = .ok () ↔
      fragment.Tidy := by
  have wellFormedEntry : t.WellFormed := by
    rw [← Schema.wellFormed_normal_iff, stands.normal, Schema.wellFormed_normal_iff,
      Schema.wellFormed_rename_iff]
    exact Schema.wellFormed_of_ofJson? wellFormed parsed
  have found : (Validator.readBack registry t).fragment.normal =
      (s.rename compilation.canonicalRenaming).fragment.normal := by
    rw [← Schema.fragment_normal, Validator.normal_readBack wellFormedEntry, stands.normal,
      Schema.fragment_normal]
  have tidy := restored compilation.canonicalRenaming s fragment wellFormed parsed
  rw [verifyComponent_eq_ok_iff_canonical stands.entry stands.validator stands.type wellFormedEntry labels]
  constructor
  · rintro ⟨form, written, own⟩
    exact tidy.1 (((Canonical.ofJson_eq_iff written own).1 rfl).trans found)
  · intro isTidy
    have inRange := keepsRange compilation.canonicalRenaming s fragment wellFormed parsed isTidy
      (Schema.safe_rename_iff.2 stands.safe)
    have own : (Validator.readBack registry t).fragment.Safe :=
      Validator.safe_readBack_iff.2 stands.safeEntry
    refine ⟨⟨(Validator.readBack registry t).fragment.normal.canonicalText⟩,
      Canonical.ofJson_eq_ok_iff.2 ⟨inRange, ?_⟩, Canonical.ofJson_eq_ok_iff.2 ⟨own, rfl⟩⟩
    rw [found, tidy.2 isTidy]

/-- **A component with right examples is verified if its fragment is tidy**, and only then. -/
theorem verifyComponent_eq_ok_iff_tidy (distinct : document.Distinct)
    (ok : document.compile registry options = .ok compilation) {component : String}
    {fragment examples : Json} (mem : (component, fragment) ∈ document.components.schemas)
    (wellFormed : fragment.WellFormed) (labels : compilation.Labels component examples)
    (placed : ∀ target, fragment.MapsTo target →
      target ∈ Table.keys document.components.schemas ∨ Table.get? compilation.renames target = none) :
    compilation.verifyComponent registry options component fragment examples = .ok () ↔
      fragment.Tidy := by
  obtain ⟨s, t, parsed, stands⟩ := exists_standsFor distinct ok mem placed
  exact stands.verifyComponent_eq_ok_iff parsed wellFormed labels

lemma failure_eq_some_iff {failure : RoundTripFailure} (result : Except RoundTripFailure Unit) :
    (match result with
      | .ok _ => none
      | .error failure => some failure) = some failure ↔ result = .error failure := by
  cases result <;> simp

/-- A report lists what fails. -/
lemma mem_failures_iff {failure : RoundTripFailure} :
    failure ∈ (compilation.verify document registry options).failures ↔
      ∃ component fragment examples, (component, fragment) ∈ document.components.schemas ∧
        fragment.get? options.examplesKeyword = some examples ∧
        compilation.verifyComponent registry options component fragment examples = .error failure := by
  have failed := @failure_eq_some_iff failure
  simp only [verify, List.mem_filterMap, Prod.exists, Option.map_eq_some_iff, Prod.mk.injEq]
  constructor
  · rintro ⟨_, _, _, ⟨component, fragment, mem, examples, found, rfl, rfl, rfl⟩, fails⟩
    exact ⟨component, fragment, examples, mem, found, (failed _).1 fails⟩
  · rintro ⟨component, fragment, examples, mem, found, fails⟩
    exact ⟨component, fragment, examples, ⟨component, fragment, mem, examples, found, rfl, rfl, rfl⟩,
      (failed _).2 fails⟩

/-- **Verification succeeds if all fragments with examples are tidy**, and only then, when all examples
are right. -/
theorem verify_isSuccess_iff (distinct : document.Distinct)
    (ok : document.compile registry options = .ok compilation)
    (right : ∀ component fragment examples, (component, fragment) ∈ document.components.schemas →
      fragment.get? options.examplesKeyword = some examples →
        fragment.WellFormed ∧ compilation.Labels component examples ∧ ∀ target, fragment.MapsTo target →
          target ∈ Table.keys document.components.schemas ∨
            Table.get? compilation.renames target = none) :
    (compilation.verify document registry options).isSuccess = true ↔
      ∀ component fragment examples, (component, fragment) ∈ document.components.schemas →
        fragment.get? options.examplesKeyword = some examples → fragment.Tidy := by
  have each : ∀ component fragment examples, (component, fragment) ∈ document.components.schemas →
      fragment.get? options.examplesKeyword = some examples →
        (compilation.verifyComponent registry options component fragment examples = .ok () ↔
          fragment.Tidy) := by
    intro component fragment examples mem found
    obtain ⟨wellFormed, labels, placed⟩ := right component fragment examples mem found
    obtain ⟨s, t, parsed, stands⟩ := exists_standsFor distinct ok mem placed
    exact stands.verifyComponent_eq_ok_iff parsed wellFormed labels
  rw [RoundTripReport.isSuccess, List.isEmpty_iff, List.eq_nil_iff_forall_not_mem]
  constructor
  · intro none component fragment examples mem found
    rw [← each component fragment examples mem found]
    cases result : compilation.verifyComponent registry options component fragment examples with
    | ok => rfl
    | error failure =>
        exact absurd (mem_failures_iff.2 ⟨component, fragment, examples, mem, found, result⟩) (none failure)
  · intro tidy failure listed
    obtain ⟨component, fragment, examples, mem, found, fails⟩ := mem_failures_iff.1 listed
    rw [(each component fragment examples mem found).2 (tidy component fragment examples mem found)] at fails
    cases fails

/-! ### An empty table of properties -/

/-- A document with one component and no operations. -/
def single (fragment : Json) : Document where
  openapi := "3.0.3"
  info := ⟨"", "", none⟩
  paths := []
  components := ⟨[("Thing", fragment)], [], [], []⟩

lemma distinct_single (fragment : Json) : (single fragment).Distinct where
  schemas := List.nodup_singleton "Thing"
  paths := List.nodup_nil

/-- A document with one component compiles if the component refers to nothing. -/
lemma exists_compile_single {fragment : Json} {s : Schema} (parsed : Schema.ofJson? fragment = .ok s)
    (safe : s.fragment.Safe) (nameless : ∀ name, ¬s.Names name) :
    ∃ compilation, (single fragment).compile .empty .standard = .ok compilation ∧
      compilation.validators.get? (compilation.canonicalName "Thing") =
        some (Validator.ofSchema .empty s) := by
  have sanitized : (single .null).components.sanitized = [] := by decide
  replace sanitized : (single fragment).components.sanitized = [] := sanitized
  have same : ∀ f, s.rename f = s := fun f => Schema.rename_eq_self fun name names => absurd names (nameless name)
  have read : (single fragment).components.parseSchemas = .ok [("Thing", s)] := by
    rw [Components.parseSchemas, sanitized]
    simp only [single, Components.parseSchema, Schema.parse, parsed, List.mapM_cons, List.mapM_nil]
    change Except.ok [("Thing", s.rename (.ofTable []))] = _
    rw [same]
  have distinct : (Table.keys [("Thing", s)]).Nodup := List.nodup_singleton "Thing"
  have closed : ∀ name t, (name, t) ∈ [("Thing", s)] → ∀ target ∈ t.references,
      target ∈ Table.keys [("Thing", s)] := by
    intro name t mem target refers
    obtain ⟨rfl, rfl⟩ := Prod.mk.inj (List.mem_singleton.1 mem)
    obtain ⟨u, within, kind⟩ := Schema.mem_references_iff.1 refers
    exact absurd ⟨u, within, kind ▸ .reference target⟩ (nameless target)
  have formed : Resolution.Formed [("Thing", s)] := by
    intro name t mem
    obtain ⟨rfl, rfl⟩ := Prod.mk.inj (List.mem_singleton.1 mem)
    exact Schema.exists_canonical_iff.2 safe
  obtain ⟨resolution, resolved⟩ := (Resolution.exists_resolve_iff distinct).2 ⟨formed, closed⟩
  -- there is nothing to merge it with, so it stands for itself
  have merged := Resolution.merged_of_resolve distinct resolved
  obtain ⟨t, stands, -⟩ := merged.stands "Thing" s rfl
  obtain ⟨u, input, rfl⟩ := merged.own _ t stands
  obtain rfl : s = u := by
    rw [Table.get?_cons] at input
    split at input
    · exact Option.some.inj input
    · cases input
  rw [same] at stands
  have none : (single fragment).endpoints = [] := rfl
  refine ⟨_, Document.compile_eq_ok_iff.2 ⟨Document.hasPrefix_version, _, _, read,
    Document.routeTable_of_endpoints none resolved, rfl⟩, ?_⟩
  change Validator.Store.get? _ ((Renaming.ofTable resolution.renames).apply
    ((Renaming.ofTable (single fragment).components.sanitized).apply "Thing")) = _
  rw [sanitized]
  exact Validator.Store.get?_ofSchemas merged.distinct _ stands

/-- An object that is accepted and a truth value that is not. -/
def objects : Json := .object [("valid", .array [.object []]), ("invalid", .array [.bool true])]

/-- The keywords of an object, with or without an empty table of properties. -/
def keywordsOf (tabled : Bool) : Keywords :=
  [("type", .string "object"), ("x-fixture-examples", objects)] ++
    if tabled then [("properties", .object [])] else []

/-- The fragment of an object, with or without an empty table of properties. -/
def thing (tabled : Bool) : Json := .object (keywordsOf tabled)

lemma parsed_thing (tabled : Bool) :
    Schema.ofJson? (thing tabled) = .ok (.mk (.object .bare) false) := by
  have single : findComposition (keywordsOf tabled) = .ok none :=
    findComposition_eq_none_iff.2 fun c => by
      cases c with
      | union keyword => cases keyword <;> cases tabled <;> rfl
      | intersection => cases tabled <;> rfl
  have type : findType (keywordsOf tabled) = .ok (some .object) :=
    findType_eq_some_iff.2 (.inl rfl)
  have read : ReadObject (keywordsOf tabled) .bare := by
    cases tabled with
    | false => exact ⟨.inl ⟨rfl, rfl⟩, .inl ⟨rfl, rfl⟩, rfl⟩
    | true => exact ⟨.inr ⟨[], rfl, .nil⟩, .inl ⟨rfl, rfl⟩, rfl⟩
  refine Schema.ofJson?_eq_ok_iff.2 ⟨_, .typed .object, none, rfl, ?_, rfl, ⟨?_, single, type, read⟩, ?_⟩
  · cases tabled <;> rfl
  · cases tabled <;> rfl
  · cases tabled <;> decide

lemma wellFormed_thing (tabled : Bool) : (thing tabled).WellFormed := by
  cases tabled <;> simp [thing, keywordsOf, objects, Json.wellFormed_object_iff, Json.wellFormed_array_iff, Table.keys]

/-- Nothing stands inside of the fragments. -/
lemma not_part_thing (tabled : Bool) (part : Json) : ¬Keywords.Part (keywordsOf tabled) part := by
  intro here
  cases here with
  | items found => cases tabled <;> cases found
  | further found => cases tabled <;> cases found
  | property found mem =>
      cases tabled with
      | false => cases found
      | true =>
          cases found
          cases mem
  | member c found =>
      cases c with
      | union keyword => cases keyword <;> cases tabled <;> cases found
      | intersection => cases tabled <;> cases found

lemma not_mapsTo_thing (tabled : Bool) (name : String) : ¬(thing tabled).MapsTo name := by
  rintro ⟨keywords, members, targets, tag, inside, found, -⟩
  generalize whole : Json.object keywords = inner at inside
  cases inside with
  | self =>
      obtain rfl := Json.object.inj whole
      cases tabled <;> cases found
  | part here => exact not_part_thing tabled _ here

/-- Only the fragment without a table of properties is tidy. -/
lemma tidy_thing_iff (tabled : Bool) : (thing tabled).Tidy ↔ tabled = false := by
  rw [thing, Json.tidy_object_iff, and_iff_left fun part here => absurd here (not_part_thing tabled part)]
  cases tabled with
  | false => exact ⟨fun _ => rfl, fun _ => ⟨nofun, nofun, nofun, nofun⟩⟩
  | true => exact ⟨fun tidy => absurd rfl tidy.properties, nofun⟩

lemma exists_compile_thing (tabled : Bool) :
    ∃ compilation, (single (thing tabled)).compile .empty .standard = .ok compilation ∧
      compilation.Labels "Thing" objects := by
  have nameless : ∀ name, ¬(Schema.mk (.object .bare) false).Names name := by
    intro name names
    rcases Schema.names_iff.1 names with own | ⟨child, among, -⟩
    · cases own
    · cases among
  obtain ⟨compilation, ok, validator⟩ := exists_compile_single (parsed_thing tabled) rfl nameless
  refine ⟨compilation, ok, ⟨[.object []], [.bool true]⟩, .object [] .unspecified, rfl, validator, ?_, ?_⟩
  · simp [Validator.accepts, Validator.issue?, Validator.issueAt?, Validator.fieldsIssue?,
      Validator.extrasIssue?]
  · simp [Validator.accepts, Validator.issue?, Validator.issueAt?]

/-- The fragment without a table of properties is verified. -/
theorem verifyComponent_thing :
    (single (thing false)).Distinct ∧ (thing false).WellFormed ∧
      (∀ target, ¬(thing false).MapsTo target) ∧ ∃ compilation,
        (single (thing false)).compile .empty .standard = .ok compilation ∧
          compilation.Labels "Thing" objects ∧
          compilation.verifyComponent .empty .standard "Thing" (thing false) objects = .ok () := by
  obtain ⟨compilation, ok, labels⟩ := exists_compile_thing false
  refine ⟨distinct_single _, wellFormed_thing _, not_mapsTo_thing _, compilation, ok, labels, ?_⟩
  exact (verifyComponent_eq_ok_iff_tidy (distinct_single _) ok List.mem_cons_self (wellFormed_thing _)
    labels fun target maps => absurd maps (not_mapsTo_thing _ target)).2 ((tidy_thing_iff _).2 rfl)

/-- An empty table of properties is not found again, although the examples are right. -/
theorem verifyComponent_empty_properties_fails :
    ∃ compilation, (single (thing true)).compile .empty .standard = .ok compilation ∧
      (thing true).get? Options.standard.examplesKeyword = some objects ∧
      compilation.Labels "Thing" objects ∧
      compilation.verifyComponent .empty .standard "Thing" (thing true) objects ≠ .ok () := by
  obtain ⟨compilation, ok, labels⟩ := exists_compile_thing true
  obtain ⟨s, t, parsed, stands⟩ := exists_standsFor (distinct_single _) ok List.mem_cons_self
    fun target maps => absurd maps (not_mapsTo_thing _ target)
  have keyword : Options.standard.examplesKeyword = "x-fixture-examples" := by decide
  refine ⟨compilation, ok, ?_, labels, fun verified => ?_⟩
  · rw [keyword]
    rfl
  · have tidy := (stands.verifyComponent_eq_ok_iff parsed (wellFormed_thing _) labels).1 verified
    cases (tidy_thing_iff true).1 tidy

end Compilation

end SchemaCompiler
