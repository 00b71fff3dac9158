import SchemaCompiler.Proofs.RoundTrip.Spelling
import SchemaCompiler.Proofs.Schema.WellFormed

/-!
The normal form of a fragment, keyword by keyword, beside the schema that is read from it.

* `get?_normalizeMembers`: what the normal form has under a keyword;
* `normal_discriminator_iff`, `normal_properties_iff` and the like: when the value of a keyword has the
  normal form of what was read;
* `Respelled.alike_iff`: a keyword comes back with its normal form if it is tidy, and only then;
* `Respelled.safe`: the integers of a tidy keyword are in range if those that come back are.
-/

namespace SchemaCompiler

/-! ### Lists that are compared item by item -/

lemma map_eq_map_iff_of_forall₂ {α β γ : Type*} {r : α → β → Prop} {as : List α} {bs : List β}
    (pairs : List.Forall₂ r as bs) {g : α → γ} {h : β → γ} {good : α → Prop}
    (each : ∀ a b, r a b → a ∈ as → b ∈ bs → (g a = h b ↔ good a)) :
    as.map g = bs.map h ↔ ∀ a ∈ as, good a := by
  induction pairs with
  | nil => simp
  | @cons a b as bs first _ ih =>
      rw [List.map_cons, List.map_cons, List.cons.injEq, List.forall_mem_cons,
        each a b first List.mem_cons_self List.mem_cons_self,
        ih fun a b pair memA memB => each a b pair (List.mem_cons_of_mem _ memA) (List.mem_cons_of_mem _ memB)]

/-- Objects without repeated members have one normal form if their members do. -/
lemma Json.normal_object_eq_iff {ms ns : List (String × Json)} (distinct : (Table.keys ms).Nodup)
    (distinct' : (Table.keys ns).Nodup) : normal (.object ms) = normal (.object ns) ↔ Alike ms ns := by
  refine ⟨Alike.of_normal, fun alike => ?_⟩
  have keys : ∀ members : List (String × Json), Table.keys (normalMembers members) = Table.keys members := by
    intro members
    rw [Table.keys, normalMembers, List.map_map]
    rfl
  rw [normal_object, normal_object]
  refine congrArg _ (Table.sort_eq_of_get? (by rwa [keys]) (by rwa [keys]) fun name => ?_)
  rw [get?_normalMembers, get?_normalMembers, alike name]

lemma exists_table_of_forall₂ {α β : Type} {r : α → β → Prop} {as : Table α} {bs : Table β}
    (pairs : List.Forall₂ (fun a b => b.1 = a.1 ∧ r a.2 b.2) as bs) :
    ∃ both : Table (α × β), as = Table.mapValues Prod.fst both ∧ bs = Table.mapValues Prod.snd both ∧
      ∀ entry ∈ both, r entry.2.1 entry.2.2 := by
  induction pairs with
  | nil => exact ⟨[], rfl, rfl, nofun⟩
  | @cons a b as bs first _ ih =>
      obtain ⟨both, rfl, rfl, all⟩ := ih
      obtain ⟨_, a⟩ := a
      obtain ⟨_, b⟩ := b
      obtain ⟨rfl, first⟩ := first
      exact ⟨(_, a, b) :: both, rfl, rfl, List.forall_mem_cons.2 ⟨first, all⟩⟩

/-! ### Members -/

variable {f : Renaming} {keywords : Keywords}

/-- What a value becomes in the normal form, if it is part of it. -/
def normalizedAt (f : Renaming) (keyword : String) (value : Json) : Option Json :=
  if isNormalMember (keyword, value) then some (normalizeValue f keyword value) else none

lemma keys_normalizeMembers_sublist (f : Renaming) (keywords : Keywords) :
    (Table.keys (normalizeMembers f keywords)).Sublist (Table.keys keywords) := by
  induction keywords with
  | nil =>
      rw [normalizeMembers]
  | cons member rest ih =>
      obtain ⟨keyword, value⟩ := member
      rw [normalizeMembers]
      split
      · exact ih.cons_cons keyword
      · exact ih.cons keyword

lemma get?_normalizeMembers (distinct : (Table.keys keywords).Nodup) (f : Renaming) (keyword : String) :
    Table.get? (normalizeMembers f keywords) keyword =
      (Table.get? keywords keyword).bind (normalizedAt f keyword) := by
  induction keywords with
  | nil =>
      rw [normalizeMembers]
      rfl
  | cons member rest ih =>
      obtain ⟨name, value⟩ := member
      obtain ⟨new, distinct⟩ := List.nodup_cons.1 distinct
      rw [normalizeMembers, Table.get?_cons]
      by_cases eq : name = keyword
      · subst eq
        have absent : Table.get? (normalizeMembers f rest) name = none :=
          Table.get?_eq_none_iff.2 fun mem => new ((keys_normalizeMembers_sublist f rest).subset mem)
        rw [if_pos rfl, Option.bind_some, normalizedAt]
        split
        · rw [Table.get?_cons, if_pos rfl]
        · exact absent
      · rw [if_neg eq, ← ih distinct]
        split
        · rw [Table.get?_cons, if_neg eq]
        · rfl

/-! ### Values -/

lemma normalizeAll_eq (items : List Json) : normalizeAll f items = items.map (normalize f) := by
  induction items with
  | nil => rw [normalizeAll, List.map_nil]
  | cons item rest ih => rw [normalizeAll, ih, List.map_cons]

lemma normalizeProperties_eq (entries : List (String × Json)) :
    normalizeProperties f entries = Table.mapValues (normalize f) entries := by
  induction entries with
  | nil =>
      rw [normalizeProperties]
      rfl
  | cons entry rest ih => rw [normalizeProperties, ih, Table.mapValues, Table.mapValues, List.map_cons]

lemma normalizeValue_of_isScalar {keyword : String} {value : Json} (scalar : value.isScalar = true)
    (ne : keyword ≠ "$ref") : normalizeValue f keyword value = value := by
  have fixed : normalize f value = value := by
    cases value with
    | array | object => cases scalar
    | _ =>
        rw [normalize]
        intro members eq
        cases eq
  rw [normalizeValue.eq_def]
  split <;> first | exact absurd rfl ne | exact fixed | cases scalar | rfl

/-- In these keywords a fragment can be untidy. -/
def untidyKeywords : List String :=
  ["items", "additionalProperties", "properties", "oneOf", "anyOf", "allOf", "required", "enum",
    "discriminator"]

lemma isNormalMember_of_mem {keyword : String} (among : keyword ∈ "$ref" :: untidyKeywords) (value : Json) :
    isNormalMember (keyword, value) = true := by
  have all : ∀ keyword ∈ "$ref" :: untidyKeywords, isExtension keyword = false ∧ keyword ∉ annotations ∧
      keyword ∉ falseKeywords := by decide
  obtain ⟨known, other, plain⟩ := all keyword among
  exact isNormalMember_eq known other fun _ => plain

lemma normalizedAt_of_mem {keyword : String} (among : keyword ∈ "$ref" :: untidyKeywords) (value : Json) :
    normalizedAt f keyword value = some (normalizeValue f keyword value) :=
  if_pos (isNormalMember_of_mem among value)

section Values

attribute [local simp] normalizeValue

lemma normalizedAt_reference {value : Json} {name : String} (denotes : Reference.ofJson? value = .ok name)
    (f : Renaming) :
    normalizedAt f "$ref" value = some (.string (Reference.ofName (f.apply name))) := by
  rw [normalizedAt_of_mem List.mem_cons_self, normalizeValue, normalizeReference, denotes]

lemma normalizedAt_schema {keyword : String} (among : keyword ∈ ["items", "additionalProperties"])
    (value : Json) : normalizedAt f keyword value = some (normalize f value) := by
  simp only [List.mem_cons, List.not_mem_nil, or_false] at among
  rcases among with rfl | rfl <;> rw [normalizedAt_of_mem (by decide), normalizeValue]

lemma normalizedAt_members (c : Composition) (items : List Json) :
    normalizedAt f c.text (.array items) = some (.array (items.map (normalize f))) := by
  cases c with
  | union keyword =>
      cases keyword <;> rw [normalizedAt_of_mem (by decide), Composition.text, UnionKeyword.text,
        normalizeValue, normalizeAll_eq]
  | intersection => rw [normalizedAt_of_mem (by decide), Composition.text, normalizeValue, normalizeAll_eq]

lemma normalizedAt_properties (entries : List (String × Json)) :
    normalizedAt f "properties" (.object entries) =
      some (.object (Table.mapValues (normalize f) entries)) := by
  rw [normalizedAt_of_mem (by decide), normalizeValue, normalizeProperties_eq]

lemma normalizedAt_list {keyword : String} (among : keyword ∈ ["required", "enum"]) (items : List Json) :
    normalizedAt f keyword (.array items) = some (.array items) := by
  simp only [List.mem_cons, List.not_mem_nil, or_false] at among
  rcases among with rfl | rfl <;> rw [normalizedAt_of_mem (by decide)] <;> simp

end Values

/-- A fragment that is read is an object, and so is its normal form. -/
lemma exists_normalize_eq {value : Json} {s : Schema} (ok : Schema.ofJson? value = .ok s) :
    (∃ members, value = .object members) ∧ ∃ members, normalize f value = .object members := by
  obtain ⟨keywords, form, nullable, rfl, -⟩ := Schema.ofJson?_eq_ok_iff.1 ok
  exact ⟨⟨_, rfl⟩, _, by rw [normalize]⟩

/-! ### Keywords that come back -/

section Alike

variable {inside : List Schema}

/-- What is not part of the normal form is tidy. -/
lemma tidy_of_idle {keyword : String} {value : Json} (idle : isNormalMember (keyword, value) = false) :
    (Json.object [(keyword, value)]).Tidy := by
  refine Json.tidy_of_notMem fun among => ?_
  rw [isNormalMember_of_mem (List.mem_cons_of_mem _ among)] at idle
  cases idle

/-- A list of names has the normal form of one without repetitions if there are none. -/
lemma normal_required_iff (names : List String) :
    some (Json.normalAt "required" (.array (names.map .string))) =
        (if names.eraseDups.isEmpty then none else some (.array (names.eraseDups.map .string))).map
          (Json.normalAt "required") ↔
      names ≠ [] ∧ names.Nodup := by
  have normal : ∀ names : List String, Json.normalAt "required" (.array (names.map .string)) =
      .array ((sortStrings names).map .string) := by
    intro names
    simpa using normalAt_strings "required" rfl names false
  have erased : names.eraseDups = [] ↔ names = [] := by
    rw [List.eq_nil_iff_forall_not_mem, List.eq_nil_iff_forall_not_mem]
    simp only [List.mem_eraseDups]
  by_cases empty : names = []
  · simp [empty]
  · rw [if_neg (List.isEmpty_iff.not.2 (erased.not.2 empty)), Option.map_some, normal, normal,
      Option.some.injEq, Json.array.injEq,
      (List.map_injective_iff.2 fun _ _ => Json.string.inj).eq_iff, sortStrings_eq_iff_perm,
      and_iff_right empty]
    refine ⟨fun perm => perm.nodup_iff.2 (nodup_eraseDups names), fun once => ?_⟩
    exact (List.perm_ext_iff_of_nodup once (nodup_eraseDups names)).2 fun name =>
      List.mem_eraseDups.symm

/-- Allowed values of one kind are sorted, and each `null` stays. -/
lemma normalAt_enum {values : List Json}
    (alike : (values.filter (!·.isNull)).all Json.isString = true ∨
      (values.filter (!·.isNull)).all Json.isNumber = true) :
    Json.normalAt "enum" (.array values) =
      .array ((((values.filter (!·.isNull)).mergeSort scalarLe) ++ values.filter Json.isNull).map
        Json.normal) := by
  rw [Json.normalAt_array rfl, Json.sortScalars_map_normal, sortScalars]
  exact congrArg Json.array (congrArg _ (if_pos (by rwa [Bool.or_eq_true])))

/-- A list of allowed values has the normal form of one with a single `null` if there is only one. -/
lemma normal_enum_iff {values : List Json}
    (alike : (values.filter (!·.isNull)).all Json.isString = true ∨
      (values.filter (!·.isNull)).all Json.isNumber = true) :
    Json.normalAt "enum" (.array values) = Json.normalAt "enum" (.array
        (values.filter (!·.isNull) ++ if values.any Json.isNull then [.null] else [])) ↔
      (values.filter Json.isNull).length ≤ 1 := by
  -- what is written again ends in one of the values that are null, if there is any
  have ends : (if values.any Json.isNull then [Json.null] else []) =
      List.replicate (min (values.filter Json.isNull).length 1) .null := by
    by_cases any : values.any Json.isNull = true
    · have pos : 0 < (values.filter Json.isNull).length := by
        rw [List.any_eq_true] at any
        obtain ⟨v, mem, null⟩ := any
        exact List.length_pos_of_mem (List.mem_filter.2 ⟨mem, null⟩)
      rw [if_pos any, Nat.min_eq_right pos]
      rfl
    · have none : values.filter Json.isNull = [] := by
        simpa [List.filter_eq_nil_iff] using any
      rw [if_neg any, none]
      rfl
  have nulls := Json.filter_isNull_eq values
  have once : (values.filter (!·.isNull) ++ List.replicate (min (values.filter Json.isNull).length 1)
      Json.null).filter (!·.isNull) = values.filter (!·.isNull) := by
    simp [Json.isNull]
  have rest : (values.filter (!·.isNull) ++ List.replicate (min (values.filter Json.isNull).length 1)
      Json.null).filter Json.isNull = List.replicate (min (values.filter Json.isNull).length 1) .null := by
    have none : (values.filter (!·.isNull)).filter Json.isNull = [] := by
      simp [List.filter_filter]
    rw [List.filter_append, none, List.nil_append, List.filter_replicate_of_pos rfl]
  rw [ends, normalAt_enum alike, normalAt_enum (by rwa [once]), once, rest, Json.array.injEq,
    List.map_append, List.map_append, List.append_cancel_left_eq, nulls, List.length_replicate,
    List.map_replicate, List.map_replicate]
  constructor
  · intro eq
    have length := congrArg List.length eq
    rw [List.length_replicate, List.length_replicate] at length
    omega
  · intro le
    rw [Nat.min_eq_left le]

lemma normalizeTarget_fst (f : Renaming) (entry : String × Json) :
    (match entry with
      | ("mapping", .object targets) =>
        ("mapping", .object (Table.mapValues (fun
          | .string target => .string (renameTarget f target)
          | other => other) targets))
      | other => other : String × Json).1 = entry.1 := by
  split <;> rfl

/-- The keywords of a discriminator whose targets are renamed. -/
lemma get?_normalizeDiscriminator (f : Renaming) (members : List (String × Json)) :
    ∃ renamed, normalizeDiscriminator f members = .object renamed ∧
      Table.keys renamed = Table.keys members ∧
      (∀ name, name ≠ "mapping" → Table.get? renamed name = Table.get? members name) ∧
      ∀ mapping, Table.get? members "mapping" = some (.object (Table.mapValues .string mapping)) →
        Table.get? renamed "mapping" =
          some (.object (Table.mapValues .string (Table.mapValues (renameTarget f) mapping))) := by
  have kept := normalizeTarget_fst f
  refine ⟨_, rfl, ?_, fun name ne => ?_, fun mapping found => ?_⟩
  · rw [Table.keys, List.map_map]
    exact List.map_congr_left fun entry _ => kept entry
  · refine (Table.get?_map kept members name).trans ?_
    cases Table.get? members name with
    | none => rfl
    | some value =>
        rw [Option.map_some]
        split
        · next eq => exact absurd (Prod.mk.inj eq).1 ne
        · rfl
  · refine (Table.get?_map kept members "mapping").trans ?_
    rw [found, Option.map_some]
    refine congrArg (fun table => some (Json.object table)) ?_
    rw [Table.mapValues_mapValues, Table.mapValues_mapValues]

/-- A discriminator is written with two keywords. -/
lemma Discriminator.exists_fragment (d : Discriminator) :
    ∃ written, d.fragment = .object written ∧ (Table.keys written).Nodup ∧
      Table.get? written "propertyName" = some (.string d.property) ∧
      Table.get? written "mapping" = (if d.mapping.isEmpty then none
        else some (.object (Table.mapValues .string d.mapping))) ∧
      ∀ name, name ≠ "propertyName" → name ≠ "mapping" → Table.get? written name = none := by
  obtain ⟨property, mapping⟩ := d.get?_fragment
  have keys : (Table.keys ([("propertyName", Json.string d.property)] ++ if d.mapping.isEmpty then []
      else [("mapping", .object (Table.mapValues .string d.mapping))])).Sublist
        (["propertyName"] ++ ["mapping"]) := by
    refine keys_append_sublist (List.Sublist.refl _) ?_
    split
    · exact List.nil_sublist _
    · exact List.Sublist.refl _
  refine ⟨_, rfl, keys.nodup (by decide), property, mapping, fun name ne ne' => ?_⟩
  refine Table.get?_eq_none_iff.2 fun mem => ?_
  simpa [ne, ne'] using keys.subset mem

/-- A discriminator has the normal form of the one that was read if nothing was left out. -/
lemma normal_discriminator_iff {value : Json} {d : Discriminator} (read : parseDiscriminator value = .ok d)
    (wellFormed : value.WellFormed) (f : Renaming) :
    (normalizeValue f "discriminator" value).normal = (d.rename f).fragment.normal ↔
      (Json.object [("discriminator", value)]).Tidy := by
  obtain ⟨members, rfl, named, mapped, -⟩ := parseDiscriminator_eq_ok_iff.1 read
  obtain ⟨renamed, eq, keys, others, targets⟩ := get?_normalizeDiscriminator f members
  obtain ⟨written, eq', distinct', property, mapping, unwritten⟩ := (d.rename f).exists_fragment
  have distinct := (Json.wellFormed_object_iff.1 wellFormed).1
  rw [show (d.rename f).mapping.isEmpty = d.mapping.isEmpty from Table.isEmpty_mapValues _ _] at mapping
  have absent : ∀ name, Table.get? renamed name = none ↔ Table.get? members name = none := by
    intro name
    rw [Table.get?_eq_none_iff, keys, Table.get?_eq_none_iff]
  rw [normalizeValue, eq, eq', Json.normal_object_eq_iff (keys ▸ distinct) distinct',
    Json.tidy_discriminator_iff]
  constructor
  · intro alike
    refine ⟨fun entry mem => ?_, fun found => ?_⟩
    · -- another member would stay, where nothing is written
      by_contra unknown
      obtain ⟨ne, ne'⟩ := not_or.1 unknown
      have here := alike entry.1
      rw [unwritten _ ne ne', Option.map_none, Option.map_eq_none_iff, absent,
        Table.get?_eq_none_iff] at here
      exact here (List.mem_map_of_mem mem)
    · -- a mapping without targets would stay, where it is not written
      have none : d.mapping = [] := by
        rcases mapped with ⟨absent, -⟩ | there
        · cases absent.symm.trans found
        · rw [found, Option.some.injEq, Json.object.injEq] at there
          exact List.map_eq_nil_iff.1 there.symm
      have here := alike "mapping"
      rw [mapping, none, targets [] found] at here
      cases here
  · rintro ⟨known, some⟩ name
    by_cases isProperty : name = "propertyName"
    · rw [isProperty, others _ (by decide), named, property]
      rfl
    by_cases isMapping : name = "mapping"
    · subst isMapping
      rw [mapping]
      rcases mapped with ⟨missing, none⟩ | there
      · rw [(absent _).2 missing, none]
        rfl
      · rw [targets _ there, if_neg]
        · rfl
        · intro none
          rw [List.isEmpty_iff.1 none] at there
          exact some there
    · rw [unwritten _ isProperty isMapping, (absent name).2]
      refine Table.get?_eq_none_iff.2 fun there => ?_
      obtain ⟨entry, mem, rfl⟩ := List.mem_map.1 there
      exact (known entry mem).elim isProperty isMapping

/-- What is said of a schema that is read: a fragment has its normal form if it is tidy. -/
def Restored (f : Renaming) (s : Schema) : Prop :=
  ∀ v : Json, v.WellFormed → Schema.ofJson? v = .ok s →
    ((normalize f v).normal = (s.rename f).fragment.normal ↔ v.Tidy)

/-- A fragment is an object in its normal form, wherever it is written. -/
lemma normalAt_normalize {v : Json} {s : Schema} (ok : Schema.ofJson? v = .ok s) (f : Renaming)
    (keyword : String) : Json.normalAt keyword (normalize f v) = (normalize f v).normal := by
  obtain ⟨-, members, eq⟩ := exists_normalize_eq (f := f) ok
  rw [eq, Json.normalAt_object]

/-- The properties of a fragment have the normal form of those that were read if they are tidy. -/
lemma normal_properties_iff {entries : List (String × Json)} {properties : List (String × Schema)}
    (read : List.Forall₂ (fun entry property => property.1 = entry.1 ∧
      Schema.ofJson? entry.2 = .ok property.2) entries properties)
    (wellFormed : ∀ entry ∈ entries, entry.2.WellFormed)
    (ih : ∀ s ∈ properties.map Prod.snd, Restored f s) :
    some (Json.normalAt "properties" (.object (Table.mapValues (normalize f) entries))) =
        (if properties.isEmpty then none
          else some (.object (Table.mapValues (fun s => (s.rename f).fragment) properties))).map
            (Json.normalAt "properties") ↔
      entries ≠ [] ∧ ∀ entry ∈ entries, entry.2.Tidy := by
  obtain ⟨both, rfl, rfl, each⟩ :=
    exists_table_of_forall₂ (r := fun v s => Schema.ofJson? v = .ok s) read
  have normalOwn : Json.normal (.object (Table.mapValues (normalize f) (Table.mapValues Prod.fst both))) =
      .object (Table.mapValues (fun pair => (normalize f pair.1).normal) (Table.sort both)) := by
    rw [Json.normal_object, Table.mapValues_sort, Json.normalMembers, Table.mapValues_mapValues,
      Table.mapValues, List.map_map]
    refine congrArg (fun table => Json.object (Table.sort table)) (List.map_congr_left fun entry mem => ?_)
    exact congrArg (Prod.mk entry.1) (normalAt_normalize (each entry mem) f entry.1)
  have normalAgain : Json.normal (.object (Table.mapValues (fun s => (s.rename f).fragment)
      (Table.mapValues Prod.snd both))) =
        .object (Table.mapValues (fun pair => (pair.2.rename f).fragment.normal) (Table.sort both)) := by
    rw [← Table.mapValues_mapValues Schema.fragment (Schema.rename f), normal_fragments,
      ← Table.mapValues_sort, ← Table.mapValues_sort, Table.mapValues_mapValues,
      Table.mapValues_mapValues]
  -- no keyword is written for no properties
  by_cases none : both = []
  · simp [none, Table.mapValues]
  · have some : (Table.mapValues Prod.snd both).isEmpty ≠ true := by
      rw [Table.isEmpty_mapValues, ne_eq, List.isEmpty_iff]
      exact none
    have some' : Table.mapValues Prod.fst both ≠ [] := fun eq => none (List.map_eq_nil_iff.1 eq)
    rw [if_neg some, Option.map_some, Json.normalAt_object, Json.normalAt_object, normalOwn, normalAgain,
      and_iff_right some', Option.some.injEq, Json.object.injEq, Table.mapValues, Table.mapValues,
      List.map_inj_left, Table.mapValues, List.forall_mem_map]
    simp only [Table.mem_sort, Prod.mk.injEq, true_and]
    refine forall₂_congr fun entry mem => ?_
    have inside : entry.2.2 ∈ (Table.mapValues Prod.snd both).map Prod.snd := by
      rw [Table.mapValues, List.map_map]
      exact List.mem_map_of_mem (f := fun entry => entry.2.2) mem
    exact ih _ inside _ (wellFormed _ (List.mem_map_of_mem mem)) (each entry mem)

/-- **A keyword comes back with its normal form if it is tidy.** -/
theorem Respelled.alike_iff {keyword : String} {own again : Option Json}
    (back : Respelled f inside keyword own again) (wellFormed : ∀ v, own = some v → v.WellFormed)
    (ih : ∀ s ∈ inside, Restored f s) :
    (own.bind (normalizedAt f keyword)).map (Json.normalAt keyword) =
        again.map (Json.normalAt keyword) ↔
      ∀ v, own = some v → (Json.object [(keyword, v)]).Tidy := by
  cases back with
  | absent => simp
  | dropped idle =>
      simp only [Option.bind_some, normalizedAt, idle, Option.some.injEq, forall_eq', tidy_of_idle idle]
      simp
  | same scalar normal ne =>
      simp only [Option.bind_some, normalizedAt, normal, normalizeValue_of_isScalar scalar ne,
        Option.some.injEq, forall_eq', Json.tidy_of_scalar scalar, if_true]
  | reference denotes =>
      rw [Option.bind_some, normalizedAt_reference denotes]
      simp only [Option.some.injEq, forall_eq', true_iff]
      exact Json.tidy_of_notMem (by decide)
  | @schema _ value s among mem read =>
      rw [Option.bind_some, normalizedAt_schema among, Option.map_some, Option.map_some,
        normalAt_normalize read, Schema.normalAt_fragment, Option.some.injEq,
        ih s mem value (wellFormed _ rfl) read]
      simp only [Option.some.injEq, forall_eq', Json.tidy_schema_iff among]
  | @members c items members subset read =>
      have ordered : orderFree c.text = false := by
        cases c with
        | union keyword => cases keyword <;> decide
        | intersection => decide
      have each : (items.map (normalize f)).map Json.normal =
          (members.map fun s => (s.rename f).fragment).map Json.normal ↔ ∀ item ∈ items, item.Tidy := by
        rw [List.map_map, List.map_map]
        refine map_eq_map_iff_of_forall₂ read fun item s ok memItem memS => ?_
        exact ih s (subset memS) item (Json.wellFormed_array_iff.1 (wellFormed _ rfl) item memItem) ok
      rw [Option.bind_some, normalizedAt_members, Option.map_some, Option.map_some,
        Json.normalAt_of_not_orderFree ordered, Json.normalAt_of_not_orderFree ordered,
        Json.normal_array, Json.normal_array, Option.some.injEq, Json.array.injEq, each]
      simp only [Option.some.injEq, forall_eq', Json.tidy_members_iff]
  | @properties entries properties subset read =>
      rw [Option.bind_some, normalizedAt_properties, Option.map_some, normal_properties_iff read
          (Json.wellFormed_object_iff.1 (wellFormed _ rfl)).2 fun s mem => ih s (subset mem)]
      simp only [Option.some.injEq, forall_eq', Json.tidy_properties_iff]
  | required names =>
      have injective : Function.Injective Json.string := fun _ _ => Json.string.inj
      rw [Option.bind_some, normalizedAt_list (by decide), Option.map_some, normal_required_iff]
      simp only [Option.some.injEq, forall_eq', Json.tidy_required_iff, ne_eq, List.map_eq_nil_iff,
        List.nodup_map_iff injective]
  | @enumeration values alike =>
      rw [Option.bind_some, normalizedAt_list (by decide), Option.map_some, Option.map_some,
        Option.some.injEq, normal_enum_iff alike]
      simp only [Option.some.injEq, forall_eq', Json.tidy_enum_iff]
  | @discriminator value d read =>
      rw [Option.bind_some, normalizedAt_of_mem (by decide), Option.map_some, Option.map_some,
        Json.normalAt_of_not_orderFree (by decide), Json.normalAt_of_not_orderFree (by decide),
        Option.some.injEq, normal_discriminator_iff read (wellFormed value rfl)]
      simp only [Option.some.injEq, forall_eq']

/-- What is said of a schema that is read: the integers of a tidy fragment are in range if its own are. -/
def KeepsRange (f : Renaming) (s : Schema) : Prop :=
  ∀ v : Json, v.WellFormed → Schema.ofJson? v = .ok s → v.Tidy → (s.rename f).fragment.Safe →
    (normalize f v).Safe

/-- A tidy discriminator has no integers. -/
lemma safe_normalizeDiscriminator {value : Json} {d : Discriminator}
    (read : parseDiscriminator value = .ok d) (wellFormed : value.WellFormed)
    (tidy : (Json.object [("discriminator", value)]).Tidy) (f : Renaming) :
    (normalizeValue f "discriminator" value).Safe := by
  obtain ⟨members, rfl, named, mapped, -⟩ := parseDiscriminator_eq_ok_iff.1 read
  obtain ⟨renamed, eq, keys, others, targets⟩ := get?_normalizeDiscriminator f members
  have distinct := (Json.wellFormed_object_iff.1 wellFormed).1
  have known := (Json.tidy_discriminator_iff.1 tidy).1
  rw [normalizeValue, eq, Json.safe_object_iff]
  rintro ⟨name, v⟩ mem
  have there : name ∈ Table.keys members := keys ▸ List.mem_map_of_mem (f := Prod.fst) mem
  obtain ⟨entry, mem', rfl⟩ := List.mem_map.1 there
  have found := (Table.get?_eq_some_iff (keys ▸ distinct)).2 mem
  rcases known entry mem' with isProperty | isMapping
  · rw [isProperty, others _ (by decide), named] at found
    cases found
    exact Json.safe_string _
  · rw [isMapping] at found there
    obtain ⟨written, writes⟩ := Table.exists_get?_iff.2 there
    have mapping : Table.get? members "mapping" =
        some (.object (Table.mapValues Json.string d.mapping)) :=
      mapped.resolve_left fun absent => by cases writes.symm.trans absent.1
    rw [targets _ mapping] at found
    cases found
    rw [Json.safe_object_iff, Table.mapValues, List.forall_mem_map]
    exact fun _ _ => Json.safe_string _

/-- **The integers of a tidy keyword are in range if those that come back are.** -/
theorem Respelled.safe {keyword : String} {own again : Option Json}
    (back : Respelled f inside keyword own again) (wellFormed : ∀ v, own = some v → v.WellFormed)
    (tidy : ∀ v, own = some v → (Json.object [(keyword, v)]).Tidy)
    (ih : ∀ s ∈ inside, KeepsRange f s) (safe : ∀ v, again = some v → v.Safe) {v : Json}
    (found : own.bind (normalizedAt f keyword) = some v) : v.Safe := by
  cases back with
  | absent => cases found
  | dropped idle =>
      rw [Option.bind_some, normalizedAt, idle] at found
      cases found
  | same scalar normal ne =>
      rw [Option.bind_some, normalizedAt, normal, if_pos rfl, normalizeValue_of_isScalar scalar ne] at found
      exact safe v found
  | reference denotes =>
      rw [Option.bind_some, normalizedAt_reference denotes] at found
      cases found
      exact Json.safe_string _
  | @schema _ value s among mem read =>
      rw [Option.bind_some, normalizedAt_schema among] at found
      cases found
      exact ih s mem value (wellFormed _ rfl) read ((Json.tidy_schema_iff among).1 (tidy _ rfl))
        (safe _ rfl)
  | @members c items members subset read =>
      rw [Option.bind_some, normalizedAt_members] at found
      cases found
      have back := List.forall_mem_map.1 (Json.safe_array_iff.1 (safe _ rfl))
      rw [Json.safe_array_iff, List.forall_mem_map]
      intro item mem
      obtain ⟨s, memS, ok⟩ := exists_mem_of_forall₂ read mem
      exact ih s (subset memS) item (Json.wellFormed_array_iff.1 (wellFormed _ rfl) item mem) ok
        ((Json.tidy_members_iff c).1 (tidy _ rfl) item mem) (back s memS)
  | @properties entries properties subset read =>
      rw [Option.bind_some, normalizedAt_properties] at found
      cases found
      obtain ⟨some, each⟩ := Json.tidy_properties_iff.1 (tidy _ rfl)
      rw [Json.safe_object_iff, Table.mapValues, List.forall_mem_map]
      intro entry mem
      obtain ⟨property, memP, -, ok⟩ := exists_mem_of_forall₂ read mem
      have some' : properties.isEmpty ≠ true := by
        rw [ne_eq, List.isEmpty_iff]
        exact List.ne_nil_of_mem memP
      have back := Json.safe_object_iff.1 (safe _ (if_neg some'))
      rw [Table.mapValues, List.forall_mem_map] at back
      exact ih property.2 (subset (List.mem_map_of_mem memP)) entry.2
        ((Json.wellFormed_object_iff.1 (wellFormed _ rfl)).2 entry mem) ok (each entry mem)
        (back property memP)
  | required names =>
      rw [Option.bind_some, normalizedAt_list (by decide)] at found
      cases found
      exact safe_strings names
  | @enumeration values alike =>
      rw [Option.bind_some, normalizedAt_list (by decide)] at found
      cases found
      have back := Json.safe_array_iff.1 (safe _ rfl)
      rw [Json.safe_array_iff]
      intro value mem
      by_cases null : value.isNull = true
      · cases value <;> first | exact Json.safe_null | cases null
      · exact back value (List.mem_append_left _ (List.mem_filter.2 ⟨mem, by simpa using null⟩))
  | @discriminator value d read =>
      rw [Option.bind_some, normalizedAt_of_mem (by decide)] at found
      cases found
      exact safe_normalizeDiscriminator read (wellFormed _ rfl) (tidy _ rfl) f

end Alike

end SchemaCompiler
