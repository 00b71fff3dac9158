import SchemaCompiler.Proofs.Except
import SchemaCompiler.Proofs.Table
import SchemaCompiler.Schema.Fragment
import SchemaCompiler.Schema.Parser

/-!
What reading a fragment has found when it succeeds.

Each reader is described by what stands under the keywords that it looks at, in the terms in which a
schema is written again.

* `Keywords.string?_eq_ok_iff` and the like: a keyword is read as what it would be written from;
* `parseString_eq_ok_iff`, `parseNumber_eq_ok_iff`, `parseDiscriminator_eq_ok_iff`,
  `parseObject_eq_ok_iff`: the parts of a kind;
* `parseTyped_eq_ok_iff`, `parseComposition_eq_ok_iff`, `ReadForm.readKind`: a kind;
* `Schema.ofJson?_eq_ok_iff`: a schema.
-/

namespace SchemaCompiler

lemma Parsed.under_eq_ok_iff {α : Type} {segments : List String} {parsed : Parsed α} {value : α} :
    parsed.under segments = .ok value ↔ parsed = .ok value := by
  cases parsed with
  | ok found => rfl
  | error fault => exact ⟨nofun, nofun⟩

/-! ### Keywords -/

lemma Json.natural?_eq_some_iff {value : Json} {n : ℕ} :
    value.natural? = some n ↔ value = Json.ofNat n := by
  rw [Json.ofNat]
  cases value with
  | number written =>
      cases written with
      | integer i =>
          rw [Json.natural?]
          split
          · next positive =>
              simp only [Option.some.injEq, Json.number.injEq, Json.Number.integer.injEq]
              omega
          · next negative =>
              simp only [reduceCtorEq, Json.number.injEq, Json.Number.integer.injEq, false_iff]
              omega
      | real d => simp [Json.natural?]
  | _ => simp [Json.natural?]

namespace Keywords

variable {keywords : Keywords} {keyword : String}

lemma bool?_eq_ok_iff {found : Option Bool} :
    keywords.bool? keyword = .ok found ↔ Table.get? keywords keyword = found.map Json.bool := by
  rw [bool?]
  cases Table.get? keywords keyword with
  | none => cases found <;> simp
  | some value => cases value <;> cases found <;> simp [unsupported]

lemma natural?_eq_ok_iff {found : Option ℕ} :
    keywords.natural? keyword = .ok found ↔ Table.get? keywords keyword = found.map Json.ofNat := by
  rw [natural?]
  cases Table.get? keywords keyword with
  | none => cases found <;> simp
  | some value =>
      dsimp only
      cases is : value.natural? with
      | none =>
          refine ⟨nofun, fun eq => ?_⟩
          obtain ⟨n, -, written⟩ := Option.map_eq_some_iff.1 eq.symm
          rw [Json.natural?_eq_some_iff.2 written.symm] at is
          cases is
      | some n =>
          rw [Json.natural?_eq_some_iff.1 is]
          cases found <;> simp [Json.ofNat]

lemma number?_eq_ok_iff {found : Option Json.Number} :
    keywords.number? keyword = .ok found ↔ Table.get? keywords keyword = found.map Json.number := by
  rw [number?]
  cases Table.get? keywords keyword with
  | none => cases found <;> simp
  | some value => cases value <;> cases found <;> simp [unsupported]

lemma string?_eq_ok_iff {found : Option String} :
    keywords.string? keyword = .ok found ↔ Table.get? keywords keyword = found.map Json.string := by
  rw [string?]
  cases Table.get? keywords keyword with
  | none => cases found <;> simp
  | some value => cases value <;> cases found <;> simp [unsupported]

/-- A list of allowed values is read as the values other than `null`, of which there is one, and
whether `null` is there. -/
lemma enum?_eq_ok_iff {nullable : Bool} {found : Option (Enumeration Json)} :
    keywords.enum? nullable = .ok found ↔
      (Table.get? keywords "enum" = none ∧ found = none) ∨
        ∃ values, Table.get? keywords "enum" = some (.array values) ∧
          (values.any Json.isNull = true → nullable = true) ∧
          values.filter (!·.isNull) ≠ [] ∧
          found = some ⟨values.filter (!·.isNull), values.any Json.isNull⟩ := by
  rw [enum?]
  cases Table.get? keywords "enum" with
  | none =>
      refine ⟨fun ok => .inl ⟨rfl, (Except.ok.inj ok).symm⟩, ?_⟩
      rintro (⟨-, rfl⟩ | ⟨values, eq, -⟩)
      · rfl
      · cases eq
  | some value =>
      cases value with
      | array values =>
          constructor
          · intro ok
            dsimp only at ok
            split at ok
            · cases ok
            · next admitted =>
                split at ok
                · cases ok
                · next some =>
                    refine .inr ⟨values, rfl, fun null => ?_, ?_, (Except.ok.inj ok).symm⟩
                    · simpa [null] using admitted
                    · simpa only [List.isEmpty_iff] using some
          · rintro (⟨none, -⟩ | ⟨values', eq, admitted, some, rfl⟩)
            · cases none
            · cases eq
              dsimp only
              rw [if_neg, if_neg]
              · simpa only [List.isEmpty_iff] using some
              · simpa only [Bool.and_eq_true, Bool.not_eq_true', not_and, Bool.not_eq_false] using admitted
      | _ => simp [unsupported]

/-- Every keyword of a fragment is read, an extension or an annotation. -/
lemma unknown?_eq_none_iff {form : Form} :
    keywords.unknown? form = none ↔
      ∀ entry ∈ keywords, entry.1 ∈ form.keywords ∨ isExtension entry.1 = true ∨
        entry.1 ∈ annotations := by
  rw [unknown?, List.find?_eq_none]
  simp only [List.mem_map, forall_exists_index, and_imp, forall_apply_eq_imp_iff₂]
  refine forall₂_congr fun entry _ => ?_
  simp only [Bool.and_eq_true, Bool.not_eq_true', not_and,
    ← Bool.not_eq_true, List.contains_iff_mem]
  tauto

end Keywords

/-! ### Scalars -/

section Scalars

variable {keywords : Keywords} {nullable : Bool}

lemma parseStringChecks_eq_ok_iff {checks : StringChecks} :
    parseStringChecks keywords = .ok checks ↔
      Table.get? keywords "format" = checks.format.map Json.string ∧
        Table.get? keywords "minLength" = checks.minLength.map Json.ofNat ∧
        Table.get? keywords "maxLength" = checks.maxLength.map Json.ofNat ∧
        Table.get? keywords "pattern" = checks.pattern.map Json.string := by
  simp only [parseStringChecks, bind_eq_ok_iff, Keywords.string?_eq_ok_iff,
    Keywords.natural?_eq_ok_iff]
  constructor
  · rintro ⟨format, hformat, least, hleast, most, hmost, pattern, hpattern, ⟨⟩⟩
    exact ⟨hformat, hleast, hmost, hpattern⟩
  · rintro ⟨hformat, hleast, hmost, hpattern⟩
    exact ⟨_, hformat, _, hleast, _, hmost, _, hpattern, rfl⟩

/-- What a list of allowed values is read as: the values other than `null`, each as what it is written
from. -/
def Listed {α : Type} (keywords : Keywords) (nullable : Bool) (write : α → Json) :
    Option (Enumeration α) → Prop
  | none => Table.get? keywords "enum" = none
  | some listed => ∃ values, Table.get? keywords "enum" = some (.array values) ∧
      (listed.listsNull = true → nullable = true) ∧ listed.values ≠ [] ∧
      values.filter (!·.isNull) = listed.values.map write ∧
      values.any Json.isNull = listed.listsNull

/-- Reading each of some values gives the values that they are written from. -/
lemma forall₂_read_iff {α : Type} {read : Json → Parsed α} {write : α → Json} {good : α → Prop}
    (reads : ∀ value a, read value = .ok a ↔ value = write a ∧ good a) {values : List Json}
    {found : List α} :
    List.Forall₂ (fun value a => read value = .ok a) values found ↔
      values = found.map write ∧ ∀ a ∈ found, good a := by
  simp only [reads]
  induction found generalizing values with
  | nil => simp
  | cons a rest ih =>
      simp only [List.forall₂_cons_right_iff, List.map_cons, List.forall_mem_cons, ih]
      constructor
      · rintro ⟨value, others, ⟨rfl, first⟩, ⟨rfl, all⟩, rfl⟩
        exact ⟨rfl, first, all⟩
      · rintro ⟨rfl, first, all⟩
        exact ⟨_, _, ⟨rfl, first⟩, ⟨rfl, all⟩, rfl⟩

/-- The enumeration of a list of allowed values, which is read value by value. -/
lemma enumeration_eq_ok_iff {α β : Type} {read : Json → Parsed α} {write : α → Json}
    {good : α → Prop} (reads : ∀ value a, read value = .ok a ↔ value = write a ∧ good a)
    {b : Option (Enumeration α) → β} {result : β} :
    (keywords.enum? nullable >>= fun
        | none => return b none
        | some listed => do return b (some ⟨← listed.values.mapM read, listed.listsNull⟩)) =
          .ok result ↔
      ∃ enumeration, Listed keywords nullable write enumeration ∧
        (∀ listed, enumeration = some listed → ∀ a ∈ listed.values, good a) ∧
        b enumeration = result := by
  rw [bind_eq_ok_iff]
  simp only [Keywords.enum?_eq_ok_iff]
  constructor
  · rintro ⟨listed, ⟨absent, rfl⟩ | ⟨values, there, admitted, several, rfl⟩, ok⟩
    · exact ⟨none, absent, nofun, Except.ok.inj ok⟩
    · obtain ⟨found, read', ok⟩ := bind_eq_ok_iff.1 ok
      obtain ⟨written, all⟩ := (forall₂_read_iff reads).1 (mapM_eq_ok_iff.1 read')
      refine ⟨some ⟨found, values.any Json.isNull⟩, ⟨values, there, admitted, ?_, written, rfl⟩, ?_,
        Except.ok.inj ok⟩
      · rintro rfl
        exact several written
      · intro listed eq
        cases eq
        exact all
  · rintro ⟨enumeration, listed, all, rfl⟩
    cases enumeration with
    | none => exact ⟨none, .inl ⟨listed, rfl⟩, rfl⟩
    | some found =>
        obtain ⟨found, null⟩ := found
        obtain ⟨values, there, admitted, several, written, rfl⟩ := listed
        refine ⟨_, .inr ⟨values, there, admitted, ?_, rfl⟩, bind_eq_ok_iff.2 ⟨found, ?_, rfl⟩⟩
        · rw [written]
          simpa using several
        · exact mapM_eq_ok_iff.2 ((forall₂_read_iff reads).2 ⟨written, all _ rfl⟩)

lemma listedString_eq_ok_iff (value : Json) (a : String) :
    (match value with
      | .string value => Except.ok value
      | other => unsupported (.notStringInEnum other) : Parsed String) = .ok a ↔
      value = Json.string a ∧ True := by
  cases value <;> simp [unsupported]

lemma parseString_eq_ok_iff {rules : StringRules} :
    parseString keywords nullable = .ok rules ↔
      parseStringChecks keywords = .ok rules.checks ∧
        Listed keywords nullable Json.string rules.enumeration := by
  have reads := listedString_eq_ok_iff
  rw [parseString, bind_eq_ok_iff]
  constructor
  · rintro ⟨checks, own, ok⟩
    obtain ⟨enumeration, listed, -, rfl⟩ :=
      (enumeration_eq_ok_iff (b := fun e => StringRules.mk checks e) reads).1 ok
    exact ⟨own, listed⟩
  · rintro ⟨own, listed⟩
    exact ⟨_, own, (enumeration_eq_ok_iff (b := fun e => StringRules.mk rules.checks e) reads).2
      ⟨_, listed, fun _ _ _ _ => trivial, rfl⟩⟩

/-- What the checks of a number are read from. -/
structure ReadNumberChecks (keywords : Keywords) (integer : Bool) (checks : NumberChecks) : Prop where
  integer : checks.integer = integer
  format : Table.get? keywords "format" = checks.format.map Json.string
  minimum : Table.get? keywords "minimum" = checks.minimum.map Json.number
  maximum : Table.get? keywords "maximum" = checks.maximum.map Json.number
  exclusiveMinimum : ∃ b : Option Bool,
    Table.get? keywords "exclusiveMinimum" = b.map Json.bool ∧
      checks.exclusiveMinimum = b.getD false
  exclusiveMaximum : ∃ b : Option Bool,
    Table.get? keywords "exclusiveMaximum" = b.map Json.bool ∧
      checks.exclusiveMaximum = b.getD false
  multipleOf : Table.get? keywords "multipleOf" = checks.multipleOf.map Json.number
  bounded : checks.exclusiveMinimum = true → checks.minimum ≠ none
  bounded' : checks.exclusiveMaximum = true → checks.maximum ≠ none
  positive : ∀ divisor, checks.multipleOf = some divisor → 0 < divisor.toDouble.value

lemma parseNumberChecks_eq_ok_iff {integer : Bool} {checks : NumberChecks} :
    parseNumberChecks keywords integer = .ok checks ↔ ReadNumberChecks keywords integer checks := by
  simp only [parseNumberChecks, bind_eq_ok_iff, Keywords.string?_eq_ok_iff,
    Keywords.number?_eq_ok_iff, Keywords.bool?_eq_ok_iff]
  constructor
  · rintro ⟨format, hformat, least, hleast, most, hmost, above, habove, below, hbelow, divisor,
      hdivisor, ok⟩
    split at ok
    · cases ok
    · next bounded =>
        split at ok
        · cases ok
        · next bounded' =>
            split at ok
            · cases ok
            · next positive =>
                cases ok
                refine ⟨rfl, hformat, hleast, hmost, ⟨above, habove, rfl⟩, ⟨below, hbelow, rfl⟩,
                  hdivisor, ?_, ?_, ?_⟩
                · rintro exclusive rfl
                  exact bounded ⟨by cases above <;> simp_all, rfl⟩
                · rintro exclusive rfl
                  exact bounded' ⟨by cases below <;> simp_all, rfl⟩
                · rintro d rfl
                  simpa using positive
  · rintro ⟨rfl, hformat, hleast, hmost, ⟨above, habove, eqAbove⟩, ⟨below, hbelow, eqBelow⟩,
      hdivisor, bounded, bounded', positive⟩
    refine ⟨_, hformat, _, hleast, _, hmost, above, habove, below, hbelow, _, hdivisor, ?_⟩
    rw [if_neg, if_neg, if_neg]
    · rw [← eqAbove, ← eqBelow]
      rfl
    · cases found : checks.multipleOf with
      | none => simp
      | some d => simpa using positive d found
    · rintro ⟨rfl, none⟩
      exact bounded' eqBelow (Option.isNone_iff_eq_none.1 none)
    · rintro ⟨rfl, none⟩
      exact bounded eqAbove (Option.isNone_iff_eq_none.1 none)

lemma listedNumber_eq_ok_iff (integer : Bool) (value : Json) (n : Json.Number) :
    (match value with
      | .number value =>
        if !integer || value.isWhole then Except.ok value
        else unsupported (.notNumberInEnum (.number value))
      | other => unsupported (.notNumberInEnum other) : Parsed Json.Number) = .ok n ↔
      value = Json.number n ∧ (integer = true → n.isWhole = true) := by
  cases value with
  | number written =>
      dsimp only
      split
      · next whole =>
          simp only [Except.ok.injEq, Json.number.injEq, iff_self_and]
          rintro rfl needed
          simpa [needed] using whole
      · next broken =>
          simp only [unsupported, reduceCtorEq, Json.number.injEq, false_iff, not_and]
          rintro rfl
          simpa using broken
  | _ => simp [unsupported]

lemma parseNumber_eq_ok_iff {integer : Bool} {rules : NumberRules} :
    parseNumber keywords integer nullable = .ok rules ↔
      ReadNumberChecks keywords integer rules.checks ∧
        Listed keywords nullable Json.number rules.enumeration ∧
        ∀ listed, rules.enumeration = some listed → ∀ n ∈ listed.values,
          integer = true → n.isWhole = true := by
  have reads := listedNumber_eq_ok_iff integer
  rw [parseNumber, bind_eq_ok_iff]
  simp only [parseNumberChecks_eq_ok_iff]
  constructor
  · rintro ⟨checks, own, ok⟩
    obtain ⟨enumeration, listed, all, rfl⟩ :=
      (enumeration_eq_ok_iff (b := fun e => NumberRules.mk checks e) reads).1 ok
    exact ⟨own, listed, all⟩
  · rintro ⟨own, listed, all⟩
    exact ⟨_, own, (enumeration_eq_ok_iff (b := fun e => NumberRules.mk rules.checks e) reads).2
      ⟨_, listed, all, rfl⟩⟩

end Scalars

/-! ### Discriminators -/

/-- The entries of a mapping are pairs of strings. -/
lemma mapping_eq_ok_iff {entries : List (String × Json)} {mapping : List (String × String)} :
    (entries.mapM fun
        | (tag, .string target) => Except.ok (tag, target)
        | _ => unsupported .mappingNotString : Parsed (List (String × String))) = .ok mapping ↔
      entries = Table.mapValues Json.string mapping := by
  rw [mapM_eq_ok_iff]
  induction mapping generalizing entries with
  | nil => simp [Table.mapValues]
  | cons entry rest ih =>
      obtain ⟨tag, target⟩ := entry
      rw [List.forall₂_cons_right_iff]
      simp only [ih]
      constructor
      · rintro ⟨⟨name, value⟩, others, first, rfl, rfl⟩
        cases value with
        | string written =>
            cases first
            rfl
        | _ => cases first
      · rintro rfl
        exact ⟨_, _, rfl, rfl, rfl⟩

lemma discriminatorOf_eq_ok_iff {d : Discriminator} (property : String)
    (read : Parsed (List (String × String))) (unknown : Option String) :
    (read >>= fun mapping =>
      match unknown with
      | some keyword => unsupported (.unknownKeyword keyword)
      | none => pure ⟨property, mapping⟩) = .ok d ↔
    read = .ok d.mapping ∧ d.property = property ∧ unknown = none := by
  rw [bind_eq_ok_iff]
  constructor
  · rintro ⟨mapping, mapped, ok⟩
    split at ok
    · cases ok
    · cases ok
      exact ⟨mapped, rfl, rfl⟩
  · rintro ⟨mapped, rfl, rfl⟩
    exact ⟨d.mapping, mapped, rfl⟩

lemma parseDiscriminator_eq_ok_iff {value : Json} {d : Discriminator} :
    parseDiscriminator value = .ok d ↔
      ∃ keywords, value = .object keywords ∧
        Table.get? keywords "propertyName" = some (.string d.property) ∧
        (Table.get? keywords "mapping" = none ∧ d.mapping = [] ∨
          Table.get? keywords "mapping" = some (.object (Table.mapValues Json.string d.mapping))) ∧
        ∀ entry ∈ keywords, entry.1 = "propertyName" ∨ entry.1 = "mapping" ∨
          isExtension entry.1 = true ∨ entry.1 ∈ annotations := by
  cases value with
  | object keywords =>
      have unknown : ((keywords.map Prod.fst).find? fun keyword =>
          !(["propertyName", "mapping"].contains keyword) && !isExtension keyword &&
            !annotations.contains keyword) = none ↔
          ∀ entry ∈ keywords, entry.1 = "propertyName" ∨ entry.1 = "mapping" ∨
            isExtension entry.1 = true ∨ entry.1 ∈ annotations := by
        simp only [List.find?_eq_none, List.forall_mem_map]
        refine forall₂_congr fun entry _ => ?_
        simp only [Bool.and_eq_true, Bool.not_eq_true', not_and, ← Bool.not_eq_true,
          List.contains_iff_mem, List.mem_cons, List.not_mem_nil, or_false]
        tauto
      have rest := fun property read =>
        (discriminatorOf_eq_ok_iff (d := d) property read _).trans
          (and_congr_right fun _ => and_congr_right fun _ => unknown)
      rw [parseDiscriminator, bind_eq_ok_iff]
      simp only [Keywords.string?_eq_ok_iff, Json.object.injEq, exists_eq_left']
      constructor
      · rintro ⟨property, named, ok⟩
        cases property with
        | none => cases ok
        | some property =>
            dsimp only at ok
            split at ok
            · next absent =>
                obtain ⟨mapped, rfl, known⟩ := (rest _ _).1 ok
                exact ⟨named, .inl ⟨absent, (Except.ok.inj mapped).symm⟩, known⟩
            · next entries there =>
                obtain ⟨mapped, rfl, known⟩ := (rest _ _).1 ok
                rw [mapping_eq_ok_iff.1 mapped] at there
                exact ⟨named, .inr there, known⟩
            · cases ((rest _ _).1 ok).1
      · rintro ⟨named, ⟨absent, empty⟩ | there, known⟩
        · refine ⟨some d.property, named, ?_⟩
          dsimp only
          rw [absent]
          exact (rest _ _).2 ⟨by rw [empty]; rfl, rfl, known⟩
        · refine ⟨some d.property, named, ?_⟩
          dsimp only
          rw [there]
          exact (rest _ _).2 ⟨mapping_eq_ok_iff.2 rfl, rfl, known⟩
  | _ => simp [parseDiscriminator, unsupported]

/-! ### Compositions and types -/

section Forms

variable {keywords : Keywords}

lemma Composition.mem_all (c : Composition) : c ∈ Composition.all := by
  cases c with
  | union keyword => cases keyword <;> decide
  | intersection => decide

lemma TypeName.text_inj {a b : TypeName} : a.text = b.text ↔ a = b := by
  cases a <;> cases b <;> decide

lemma findComposition_eq_none_iff :
    findComposition keywords = .ok none ↔ ∀ c : Composition, Table.get? keywords c.text = none := by
  have absent : (∀ c : Composition, Table.get? keywords c.text = none) ↔
      Composition.all.filter (fun c => Table.contains keywords c.text) = [] := by
    rw [List.filter_eq_nil_iff]
    simp only [Table.contains, Option.isSome_iff_ne_none, not_not]
    exact ⟨fun every c _ => every c, fun every c => every c (Composition.mem_all c)⟩
  rw [absent, findComposition]
  split
  · next eq => simp only [eq]
  · next c eq => simp only [eq, Except.ok.injEq, reduceCtorEq, List.cons_ne_self]
  · next several some _ => exact ⟨fun ok => (by cases ok), fun eq => absurd eq some⟩

lemma findComposition_eq_some_iff {c : Composition} :
    findComposition keywords = .ok (some c) ↔
      ∀ d : Composition, Table.get? keywords d.text ≠ none ↔ d = c := by
  have alone : (∀ d : Composition, Table.get? keywords d.text ≠ none ↔ d = c) ↔
      Composition.all.filter (fun c => Table.contains keywords c.text) = [c] := by
    have distinct : Composition.all.Nodup := by decide
    constructor
    · intro only
      refine List.perm_singleton.1 ((List.perm_ext_iff_of_nodup (distinct.filter _)
        (List.nodup_singleton c)).2 fun d => ?_)
      rw [List.mem_filter, List.mem_singleton, Table.contains, Option.isSome_iff_ne_none, only d,
        and_iff_right (Composition.mem_all d)]
    · intro eq d
      rw [← List.mem_singleton, ← eq, List.mem_filter, Table.contains, Option.isSome_iff_ne_none,
        and_iff_right (Composition.mem_all d)]
  rw [alone, findComposition]
  split
  · next eq => simp [eq]
  · next d eq => simp [eq]
  · next several _ more => exact ⟨fun ok => (by cases ok), fun eq => absurd eq (more c)⟩

lemma parseObjectTyped_eq_ok_iff {c : Composition} {objectTyped : Bool} :
    parseObjectTyped keywords c = .ok objectTyped ↔
      Table.get? keywords "type" = if objectTyped then some (.string "object") else none := by
  rw [parseObjectTyped]
  split
  · next absent =>
      rw [absent]
      cases objectTyped <;> simp
  · next typed =>
      rw [typed]
      cases objectTyped <;> simp
  · next value other there =>
      rw [there]
      cases objectTyped with
      | false => simp [unsupported]
      | true =>
          refine ⟨nofun, fun eq => absurd ?_ other⟩
          exact Option.some.inj eq

lemma TypeName.ofText?_eq_some_iff {text : String} {type : TypeName} :
    ofText? text = some type ↔ text = type.text := by
  constructor
  · intro found
    rw [ofText?.eq_def] at found
    split at found <;> cases found <;> rfl
  · rintro rfl
    cases type <;> rfl

lemma findType_eq_some_iff {type : TypeName} :
    findType keywords = .ok (some type) ↔
      Table.get? keywords "type" = some (.string type.text) ∨
        Table.get? keywords "type" = none ∧ inferType keywords = some type := by
  rw [findType]
  split
  · next name there =>
      rw [there]
      cases read : TypeName.ofText? name with
      | none =>
          refine ⟨nofun, ?_⟩
          rintro (eq | ⟨eq, -⟩)
          · cases eq
            rw [TypeName.ofText?_eq_some_iff.2 rfl] at read
            cases read
          · cases eq
      | some found =>
          rw [TypeName.ofText?_eq_some_iff] at read
          simp [read, TypeName.text_inj]
  · next items there => simp [there, unsupported]
  · next value notText _ there =>
      refine ⟨nofun, ?_⟩
      rintro (eq | ⟨eq, -⟩)
      · exact absurd (Option.some.inj (there.symm.trans eq)) (notText _)
      · cases there.symm.trans eq
  · next absent =>
      rw [absent]
      cases inferType keywords with
      | none =>
          dsimp only
          split <;> simp [unsupported]
      | some found => simp

lemma findType_eq_none_iff :
    findType keywords = .ok none ↔
      Table.get? keywords "type" = none ∧ inferType keywords = none ∧
        Table.get? keywords "enum" = none := by
  rw [findType]
  split
  · next name there =>
      rw [there]
      cases TypeName.ofText? name <;> simp [unsupported]
  · next items there => simp [there, unsupported]
  · next value notText _ there => simp [there, unsupported]
  · next absent =>
      rw [absent]
      cases inferType keywords with
      | none =>
          rw [Table.contains]
          cases Table.get? keywords "enum" <;> simp [unsupported]
      | some found => simp

end Forms

/-! ### Objects -/

section Objects

variable {keywords : Keywords}

/-- What the required names are read from. -/
def ReadRequired (keywords : Keywords) (known required : List String) : Prop :=
  Table.get? keywords "required" = none ∧ required = [] ∨
    ∃ names : List String, Table.get? keywords "required" = some (.array (names.map Json.string)) ∧
      (∀ name ∈ names, name ∈ known) ∧ required = names.eraseDups

lemma requiredName_eq_ok_iff (properties : List (String × Schema)) (value : Json) (a : String) :
    (match value with
      | .string name =>
        if Table.contains properties name then Except.ok name
        else unsupported (.requiredWithoutSchema name)
      | _ => unsupported .requiredNotString : Parsed String) = .ok a ↔
      value = Json.string a ∧ a ∈ Table.keys properties := by
  cases value with
  | string name =>
      dsimp only
      split
      · next known =>
          simp only [Except.ok.injEq, Json.string.injEq, iff_self_and]
          rintro rfl
          exact Table.mem_keys_iff.2 known
      · next unknown =>
          simp only [unsupported, reduceCtorEq, Json.string.injEq, false_iff, not_and]
          rintro rfl mem
          exact unknown (Table.mem_keys_iff.1 mem)
  | _ => simp [unsupported]

lemma parseRequired_eq_ok_iff {properties : List (String × Schema)} {required : List String} :
    parseRequired keywords properties = .ok required ↔
      ReadRequired keywords (Table.keys properties) required := by
  have reads := requiredName_eq_ok_iff properties
  rw [parseRequired, ReadRequired]
  split
  · next absent => simp [absent, eq_comm]
  · next values there =>
      rw [bind_eq_ok_iff]
      simp only [mapM_eq_ok_iff, there, reduceCtorEq, false_and, false_or, Option.some.injEq,
        Json.array.injEq]
      constructor
      · rintro ⟨names, read, ok⟩
        obtain ⟨written, known⟩ := (forall₂_read_iff reads).1 read
        exact ⟨names, written, known, (Except.ok.inj ok).symm⟩
      · rintro ⟨names, written, known, rfl⟩
        exact ⟨names, (forall₂_read_iff reads).2 ⟨written, known⟩, rfl⟩
  · next value absent notArray there =>
      refine ⟨fun ok => (by cases ok), ?_⟩
      rintro (⟨eq, -⟩ | ⟨names, eq, -⟩)
      · cases there.symm.trans eq
      · exact absurd (Option.some.inj (there.symm.trans eq)) (notArray _)

lemma parseEntries_eq_ok_iff {entries : List (String × Json)} {properties : List (String × Schema)} :
    parseEntries entries = .ok properties ↔
      List.Forall₂ (fun entry property => property.1 = entry.1 ∧ Schema.ofJson? entry.2 = .ok property.2)
        entries properties := by
  induction entries generalizing properties with
  | nil =>
      rw [parseEntries, List.forall₂_nil_left_iff]
      exact ⟨fun ok => (Except.ok.inj ok).symm, fun eq => eq ▸ rfl⟩
  | cons entry rest ih =>
      obtain ⟨name, value⟩ := entry
      simp only [parseEntries, bind_eq_ok_iff, Parsed.under_eq_ok_iff, ih, List.forall₂_cons_left_iff]
      constructor
      · rintro ⟨property, read, others, all, ⟨⟩⟩
        exact ⟨_, _, ⟨rfl, read⟩, all, rfl⟩
      · rintro ⟨⟨other, property⟩, others, ⟨rfl, read⟩, all, rfl⟩
        exact ⟨property, read, others, all, rfl⟩

lemma parseItems_eq_ok_iff {keyword : String} {index : ℕ} {items : List Json}
    {members : List Schema} :
    parseItems keyword index items = .ok members ↔
      List.Forall₂ (fun item member => Schema.ofJson? item = .ok member) items members := by
  induction items generalizing index members with
  | nil =>
      rw [parseItems, List.forall₂_nil_left_iff]
      exact ⟨fun ok => (Except.ok.inj ok).symm, fun eq => eq ▸ rfl⟩
  | cons item rest ih =>
      simp only [parseItems, bind_eq_ok_iff, Parsed.under_eq_ok_iff, ih, List.forall₂_cons_left_iff]
      constructor
      · rintro ⟨member, read, others, all, ⟨⟩⟩
        exact ⟨_, _, read, all, rfl⟩
      · rintro ⟨member, others, read, all, rfl⟩
        exact ⟨member, read, others, all, rfl⟩

/-- What named properties are read from. -/
def ReadProperties (keywords : Keywords) (properties : List (String × Schema)) : Prop :=
  Table.get? keywords "properties" = none ∧ properties = [] ∨
    ∃ entries, Table.get? keywords "properties" = some (.object entries) ∧
      List.Forall₂ (fun entry property => property.1 = entry.1 ∧ Schema.ofJson? entry.2 = .ok property.2)
        entries properties

/-- What the rule for further members is read from. -/
def ReadExtras (keywords : Keywords) : Extras Schema → Prop
  | .unspecified => Table.get? keywords "additionalProperties" = none
  | .allow => Table.get? keywords "additionalProperties" = some (.bool true)
  | .forbid => Table.get? keywords "additionalProperties" = some (.bool false)
  | .schema rule => ∃ value, Table.get? keywords "additionalProperties" = some value ∧
      Schema.ofJson? value = .ok rule

lemma parseProperties_eq_ok_iff {properties : List (String × Schema)} :
    parseProperties keywords = .ok properties ↔ ReadProperties keywords properties := by
  rw [parseProperties, ReadProperties]
  split
  · next absent => simp [absent, eq_comm]
  · next entries there =>
      simp only [there, reduceCtorEq, false_and, false_or, Option.some.injEq, Json.object.injEq,
        exists_eq_left', parseEntries_eq_ok_iff]
  · next value notObject there =>
      refine ⟨fun ok => (by cases ok), ?_⟩
      rintro (⟨eq, -⟩ | ⟨entries, eq, -⟩)
      · cases there.symm.trans eq
      · exact absurd (Option.some.inj (there.symm.trans eq)) (notObject _)

lemma parseExtras_eq_ok_iff {extras : Extras Schema} :
    parseExtras keywords = .ok extras ↔ ReadExtras keywords extras := by
  have notBool : ∀ (b : Bool) (rule : Schema), Schema.ofJson? (.bool b) ≠ .ok rule := by
    intro b rule
    rw [Schema.ofJson?]
    · intro ok
      cases ok
    · intro keywords eq
      cases eq
  rw [parseExtras]
  split
  · next absent => cases extras <;> simp [ReadExtras, absent]
  · next there => cases extras <;> simp [ReadExtras, there, notBool]
  · next there => cases extras <;> simp [ReadExtras, there, notBool]
  · next value notTrue notFalse there =>
      simp only [bind_eq_ok_iff, Parsed.under_eq_ok_iff]
      cases extras with
      | schema rule =>
          simp only [ReadExtras, there, Option.some.injEq, exists_eq_left']
          constructor
          · rintro ⟨found, read, ⟨⟩⟩
            exact read
          · exact fun read => ⟨rule, read, rfl⟩
      | unspecified => simp [ReadExtras, there, pure, Except.pure]
      | allow => simpa [ReadExtras, there, pure, Except.pure] using notTrue
      | forbid => simpa [ReadExtras, there, pure, Except.pure] using notFalse

/-- What the rules of an object are read from. -/
structure ReadObject (keywords : Keywords) (rules : ObjectRules Schema) : Prop where
  properties : ReadProperties keywords rules.properties
  required : ReadRequired keywords (Table.keys rules.properties) rules.required
  extras : ReadExtras keywords rules.extras

lemma parseObject_eq_ok_iff {rules : ObjectRules Schema} :
    parseObject keywords = .ok rules ↔ ReadObject keywords rules := by
  simp only [parseObject, bind_eq_ok_iff, parseProperties_eq_ok_iff, parseRequired_eq_ok_iff,
    parseExtras_eq_ok_iff]
  constructor
  · rintro ⟨properties, named, required, needed, extras, further, ⟨⟩⟩
    exact ⟨named, needed, further⟩
  · rintro ⟨named, needed, further⟩
    exact ⟨_, named, _, needed, _, further, rfl⟩

end Objects

/-! ### Kinds -/

section Kinds

variable {keywords : Keywords}

/-- What the members of a composition are read from. -/
def ReadMembers (keywords : Keywords) (keyword : String) (members : List Schema) : Prop :=
  ∃ items, Table.get? keywords keyword = some (.array items) ∧ items ≠ [] ∧
    List.Forall₂ (fun item member => Schema.ofJson? item = .ok member) items members

lemma parseMembers_eq_ok_iff {keyword : String} {members : List Schema} :
    parseMembers keywords keyword = .ok members ↔ ReadMembers keywords keyword members := by
  rw [parseMembers, ReadMembers]
  split
  · next items there =>
      simp only [there, Option.some.injEq, Json.array.injEq, exists_eq_left', List.isEmpty_iff]
      split
      · next empty => simp [unsupported, empty]
      · next some => simp only [parseItems_eq_ok_iff, ne_eq, some, not_false_eq_true, true_and]
  · next notArray =>
      refine ⟨fun ok => (by cases ok), ?_⟩
      rintro ⟨items, there, -⟩
      exact absurd there (notArray items)

/-- What a kind of a type is read from. -/
def ReadTyped (keywords : Keywords) (nullable : Bool) : TypeName → SchemaKind → Prop
  | .string, .string rules => parseString keywords nullable = .ok rules
  | .integer, .number rules => parseNumber keywords true nullable = .ok rules
  | .number, .number rules => parseNumber keywords false nullable = .ok rules
  | .boolean, .boolean => True
  | .null, .null => True
  | .array, .array items bounds =>
    (∃ value, Table.get? keywords "items" = some value ∧ Schema.ofJson? value = .ok items) ∧
      Table.get? keywords "minItems" = bounds.minItems.map Json.ofNat ∧
      Table.get? keywords "maxItems" = bounds.maxItems.map Json.ofNat ∧
      (Table.get? keywords "uniqueItems" = none ∨
        Table.get? keywords "uniqueItems" = some (.bool false))
  | .object, .object rules => ReadObject keywords rules
  | _, _ => False

lemma parseItemRule_eq_ok_iff {items : Schema} :
    parseItemRule keywords = .ok items ↔
      ∃ value, Table.get? keywords "items" = some value ∧ Schema.ofJson? value = .ok items := by
  rw [parseItemRule]
  split
  · next absent => simp [absent, unsupported]
  · next value there => simp [there, Parsed.under_eq_ok_iff]

/-- Items may repeat if this is not said, or denied. -/
lemma ne_some_true_iff {found : Option Bool}
    (there : Table.get? keywords "uniqueItems" = found.map Json.bool) :
    found ≠ some true ↔ Table.get? keywords "uniqueItems" = none ∨
      Table.get? keywords "uniqueItems" = some (.bool false) := by
  rw [there]
  cases found with
  | none => simp
  | some b => cases b <;> simp

lemma parseTyped_array_eq_ok_iff {nullable : Bool} {kind : SchemaKind} :
    parseTyped keywords .array nullable = .ok kind ↔ ReadTyped keywords nullable .array kind := by
  simp only [parseTyped, bind_eq_ok_iff, parseItemRule_eq_ok_iff, Keywords.natural?_eq_ok_iff,
    Keywords.bool?_eq_ok_iff]
  constructor
  · rintro ⟨item, hitem, least, hleast, most, hmost, repeated, hrepeated, ok⟩
    split at ok
    · cases ok
    · next single =>
        cases ok
        exact ⟨hitem, hleast, hmost, (ne_some_true_iff hrepeated).1 single⟩
  · intro read
    cases kind with
    | array item bounds =>
        obtain ⟨hitem, hleast, hmost, single⟩ := read
        have written : ∃ found : Option Bool,
            Table.get? keywords "uniqueItems" = found.map Json.bool := by
          rcases single with absent | there
          · exact ⟨none, absent⟩
          · exact ⟨some false, there⟩
        obtain ⟨repeated, hrepeated⟩ := written
        refine ⟨item, hitem, _, hleast, _, hmost, repeated, hrepeated, ?_⟩
        rw [if_neg ((ne_some_true_iff hrepeated).2 single)]
        rfl
    | _ => exact read.elim

lemma parseTyped_eq_ok_iff {type : TypeName} {nullable : Bool} {kind : SchemaKind} :
    parseTyped keywords type nullable = .ok kind ↔ ReadTyped keywords nullable type kind := by
  cases type with
  | array => exact parseTyped_array_eq_ok_iff
  | boolean => cases kind <;> simp [parseTyped, ReadTyped, pure, Except.pure]
  | null => cases kind <;> simp [parseTyped, ReadTyped, pure, Except.pure]
  | _ =>
      simp only [parseTyped, bind_eq_ok_iff, parseObject_eq_ok_iff]
      constructor
      · rintro ⟨rules, read, ⟨⟩⟩
        exact read
      · intro read
        cases kind <;> first | exact ⟨_, read, rfl⟩ | exact read.elim

/-- What a kind of a composition is read from. -/
def ReadComposition (keywords : Keywords) : Composition → SchemaKind → Prop
  | .union keyword, .union keyword' members discriminator objectTyped =>
    keyword' = keyword ∧ parseObjectTyped keywords (.union keyword) = .ok objectTyped ∧
      ReadMembers keywords keyword.text members ∧
      (∀ name ∈ objectKeywords, Table.get? keywords name = none) ∧
      match discriminator with
      | none => Table.get? keywords "discriminator" = none
      | some d => ∃ value, Table.get? keywords "discriminator" = some value ∧
          parseDiscriminator value = .ok d
  | .intersection, .intersection members inline objectTyped =>
    parseObjectTyped keywords .intersection = .ok objectTyped ∧ ReadMembers keywords "allOf" members ∧
      match inline with
      | none => ∀ name ∈ objectKeywords, Table.get? keywords name = none
      | some rules => (∃ name ∈ objectKeywords, Table.get? keywords name ≠ none) ∧
          ReadObject keywords rules
  | _, _ => False

lemma objectKeyword?_eq_none_iff : (objectKeywords.find? (Table.contains keywords ·)) = none ↔
    ∀ name ∈ objectKeywords, Table.get? keywords name = none := by
  simp only [List.find?_eq_none, Table.contains, Option.isSome_iff_ne_none, not_not]

lemma exists_objectKeyword {name : String}
    (found : (objectKeywords.find? (Table.contains keywords ·)) = some name) :
    ∃ name ∈ objectKeywords, Table.get? keywords name ≠ none := by
  by_contra alone
  push Not at alone
  rw [objectKeyword?_eq_none_iff.2 alone] at found
  cases found

/-- A union stands alone: rules of objects beside it are not supported. -/
lemma parseUnion_eq_ok_iff {keyword : UnionKeyword} {kind : SchemaKind} :
    parseComposition keywords (.union keyword) = .ok kind ↔
      ReadComposition keywords (.union keyword) kind := by
  simp only [parseComposition, bind_eq_ok_iff, parseMembers_eq_ok_iff]
  cases beside : objectKeywords.find? (Table.contains keywords ·) with
  | some name =>
      obtain ⟨other, mem, there⟩ := exists_objectKeyword beside
      have crowded : ¬∀ name ∈ objectKeywords, Table.get? keywords name = none :=
        fun alone => there (alone other mem)
      cases kind <;> simp [ReadComposition, unsupported, crowded]
  | none =>
      have alone := objectKeyword?_eq_none_iff.1 beside
      cases given : Table.get? keywords "discriminator" with
      | none =>
          constructor
          · rintro ⟨objectTyped, typed, members, read, ⟨⟩⟩
            exact ⟨rfl, typed, read, alone, given⟩
          · intro read
            cases kind with
            | union keyword' members discriminator objectTyped =>
                obtain ⟨rfl, typed, read, -, selects⟩ := read
                cases discriminator with
                | none => exact ⟨objectTyped, typed, members, read, rfl⟩
                | some d =>
                    obtain ⟨value, there, -⟩ := selects
                    cases given.symm.trans there
            | _ => exact read.elim
      | some value =>
          simp only [bind_eq_ok_iff, Parsed.under_eq_ok_iff]
          constructor
          · rintro ⟨objectTyped, typed, members, read, d, selects, ⟨⟩⟩
            exact ⟨rfl, typed, read, alone, value, given, selects⟩
          · intro read
            cases kind with
            | union keyword' members discriminator objectTyped =>
                obtain ⟨rfl, typed, read, -, selects⟩ := read
                cases discriminator with
                | none => cases given.symm.trans selects
                | some d =>
                    obtain ⟨value', there, selects⟩ := selects
                    cases given.symm.trans there
                    exact ⟨objectTyped, typed, members, read, d, selects, rfl⟩
            | _ => exact read.elim

/-- Rules of objects beside an intersection are read if one of their keywords is there. -/
lemma parseIntersection_eq_ok_iff {kind : SchemaKind} :
    parseComposition keywords .intersection = .ok kind ↔ ReadComposition keywords .intersection kind := by
  simp only [parseComposition, bind_eq_ok_iff, parseMembers_eq_ok_iff]
  cases beside : objectKeywords.find? (Table.contains keywords ·) with
  | none =>
      have alone := objectKeyword?_eq_none_iff.1 beside
      constructor
      · rintro ⟨objectTyped, typed, members, read, ⟨⟩⟩
        exact ⟨typed, read, alone⟩
      · intro read
        cases kind with
        | intersection members inline objectTyped =>
            obtain ⟨typed, read, rules⟩ := read
            cases inline with
            | none => exact ⟨objectTyped, typed, members, read, rfl⟩
            | some rules' =>
                obtain ⟨⟨name, mem, there⟩, -⟩ := rules
                exact absurd (alone name mem) there
        | _ => exact read.elim
  | some name =>
      simp only [bind_eq_ok_iff, parseObject_eq_ok_iff]
      constructor
      · rintro ⟨objectTyped, typed, members, read, rules, readRules, ⟨⟩⟩
        exact ⟨typed, read, exists_objectKeyword beside, readRules⟩
      · intro read
        cases kind with
        | intersection members inline objectTyped =>
            obtain ⟨typed, read, rules⟩ := read
            cases inline with
            | none =>
                obtain ⟨other, mem, there⟩ := exists_objectKeyword beside
                exact absurd (rules other mem) there
            | some rules' => exact ⟨objectTyped, typed, members, read, rules', rules.2, rfl⟩
        | _ => exact read.elim

lemma parseComposition_eq_ok_iff {c : Composition} {kind : SchemaKind} :
    parseComposition keywords c = .ok kind ↔ ReadComposition keywords c kind := by
  cases c with
  | union keyword => exact parseUnion_eq_ok_iff
  | intersection => exact parseIntersection_eq_ok_iff

/-- What a form and a kind are read from. -/
def ReadForm (keywords : Keywords) (nullable : Bool) : Form → SchemaKind → Prop
  | .reference, .reference name =>
    ∃ value, Table.get? keywords "$ref" = some value ∧ Reference.ofJson? value = .ok name
  | .composition c, kind =>
    Table.get? keywords "$ref" = none ∧ findComposition keywords = .ok (some c) ∧
      ReadComposition keywords c kind
  | .typed type, kind =>
    Table.get? keywords "$ref" = none ∧ findComposition keywords = .ok none ∧
      findType keywords = .ok (some type) ∧ ReadTyped keywords nullable type kind
  | .untyped, .any =>
    Table.get? keywords "$ref" = none ∧ findComposition keywords = .ok none ∧
      findType keywords = .ok none
  | _, _ => False

/-- What each kind by itself is read from, whatever else decides on the form. -/
inductive ReadKind (keywords : Keywords) (nullable : Bool) : Form → SchemaKind → Prop where
  | reference {name : String} {value : Json} (found : Table.get? keywords "$ref" = some value)
      (denotes : Reference.ofJson? value = .ok name) :
      ReadKind keywords nullable .reference (.reference name)
  | any : ReadKind keywords nullable .untyped .any
  | string {rules : StringRules} (read : parseString keywords nullable = .ok rules) :
      ReadKind keywords nullable (.typed .string) (.string rules)
  | integer {rules : NumberRules} (read : parseNumber keywords true nullable = .ok rules) :
      ReadKind keywords nullable (.typed .integer) (.number rules)
  | number {rules : NumberRules} (read : parseNumber keywords false nullable = .ok rules) :
      ReadKind keywords nullable (.typed .number) (.number rules)
  | boolean : ReadKind keywords nullable (.typed .boolean) .boolean
  | null : ReadKind keywords nullable (.typed .null) .null
  | array {items : Schema} {bounds : ItemBounds} {value : Json}
      (found : Table.get? keywords "items" = some value) (read : Schema.ofJson? value = .ok items) :
      ReadKind keywords nullable (.typed .array) (.array items bounds)
  | object {rules : ObjectRules Schema} (read : ReadObject keywords rules) :
      ReadKind keywords nullable (.typed .object) (.object rules)
  | union {keyword : UnionKeyword} {members : List Schema} {discriminator : Option Discriminator}
      {objectTyped : Bool} (read : ReadMembers keywords keyword.text members) :
      ReadKind keywords nullable (.composition (.union keyword))
        (.union keyword members discriminator objectTyped)
  | intersection {members : List Schema} {inline : Option (ObjectRules Schema)} {objectTyped : Bool}
      (read : ReadMembers keywords "allOf" members)
      (beside : ∀ rules, inline = some rules → ReadObject keywords rules) :
      ReadKind keywords nullable (.composition .intersection) (.intersection members inline objectTyped)

lemma ReadForm.readKind {nullable : Bool} {form : Form} {kind : SchemaKind}
    (read : ReadForm keywords nullable form kind) : ReadKind keywords nullable form kind := by
  cases form with
  | reference =>
      cases kind with
      | reference name =>
          obtain ⟨value, found, denotes⟩ := read
          exact .reference found denotes
      | _ => exact read.elim
  | untyped =>
      cases kind with
      | any => exact .any
      | _ => exact read.elim
  | typed type =>
      obtain ⟨-, -, -, read⟩ := read
      cases type <;> cases kind <;> try exact read.elim
      · exact .string read
      · exact .integer read
      · exact .number read
      · exact .boolean
      · exact .null
      · obtain ⟨⟨value, found, read⟩, -⟩ := read
        exact .array found read
      · exact .object read
  | composition c =>
      obtain ⟨-, -, read⟩ := read
      cases c with
      | union keyword =>
          cases kind with
          | union =>
              obtain ⟨rfl, -, all, -⟩ := read
              exact .union all
          | _ => exact read.elim
      | intersection =>
          cases kind with
          | intersection members inline objectTyped =>
              obtain ⟨-, all, rules⟩ := read
              refine .intersection all fun own eq => ?_
              subst eq
              exact rules.2
          | _ => exact read.elim

lemma parseForm_eq_ok_iff {nullable : Bool} {form : Form} {kind : SchemaKind} :
    parseForm keywords nullable = .ok (form, kind) ↔ ReadForm keywords nullable form kind := by
  rw [parseForm]
  cases given : Table.get? keywords "$ref" with
  | some value =>
      cases read : Reference.ofJson? value with
      | ok name => cases form <;> cases kind <;> simp [ReadForm, given, read, eq_comm]
      | error reason => cases form <;> cases kind <;> simp [ReadForm, given, read, unsupported]
  | none =>
      simp only [bind_eq_ok_iff]
      constructor
      · rintro ⟨composition, found, ok⟩
        cases composition with
        | some c =>
            obtain ⟨kind', read, ⟨⟩⟩ := bind_eq_ok_iff.1 ok
            exact ⟨given, found, parseComposition_eq_ok_iff.1 read⟩
        | none =>
            obtain ⟨type, typed, ok⟩ := bind_eq_ok_iff.1 ok
            cases type with
            | some type =>
                obtain ⟨kind', read, ⟨⟩⟩ := bind_eq_ok_iff.1 ok
                exact ⟨given, found, typed, parseTyped_eq_ok_iff.1 read⟩
            | none =>
                cases ok
                exact ⟨given, found, typed⟩
      · intro read
        cases form with
        | reference =>
            cases kind with
            | reference name =>
                obtain ⟨value, there, -⟩ := read
                cases given.symm.trans there
            | _ => exact read.elim
        | composition c =>
            obtain ⟨-, found, read⟩ := read
            exact ⟨some c, found, bind_eq_ok_iff.2 ⟨kind, parseComposition_eq_ok_iff.2 read, rfl⟩⟩
        | typed type =>
            obtain ⟨-, found, typed, read⟩ := read
            exact ⟨none, found, bind_eq_ok_iff.2 ⟨some type, typed,
              bind_eq_ok_iff.2 ⟨kind, parseTyped_eq_ok_iff.2 read, rfl⟩⟩⟩
        | untyped =>
            cases kind with
            | any =>
                obtain ⟨-, found, typed⟩ := read
                exact ⟨none, found, bind_eq_ok_iff.2 ⟨none, typed, rfl⟩⟩
            | _ => exact read.elim

end Kinds

/-- **What a schema is read from**: its kind in one form of the fragment, of which every keyword is
known, and whether `null` is admitted. -/
theorem Schema.ofJson?_eq_ok_iff {value : Json} {s : Schema} :
    Schema.ofJson? value = .ok s ↔
      ∃ keywords form, ∃ nullable : Option Bool, value = .object keywords ∧
        Table.get? keywords "nullable" = nullable.map Json.bool ∧ s.nullable = nullable.getD false ∧
        ReadForm keywords s.nullable form s.kind ∧
        ∀ entry ∈ keywords, entry.1 ∈ form.keywords ∨ isExtension entry.1 = true ∨
          entry.1 ∈ annotations := by
  cases value with
  | object keywords =>
      simp only [Schema.ofJson?, bind_eq_ok_iff, Keywords.bool?_eq_ok_iff, Json.object.injEq,
        ← Keywords.unknown?_eq_none_iff]
      constructor
      · rintro ⟨nullable, admits, ⟨form, kind⟩, read, ok⟩
        split at ok
        · cases ok
        · next known =>
            cases ok
            exact ⟨keywords, form, nullable, rfl, admits, rfl, parseForm_eq_ok_iff.1 read, known⟩
      · rintro ⟨_, form, nullable, rfl, admits, eq, read, known⟩
        refine ⟨nullable, admits, (form, s.kind), ?_, ?_⟩
        · rw [← eq]
          exact parseForm_eq_ok_iff.2 read
        · rw [known, ← eq]
          cases s
          rfl
  | _ => simp [Schema.ofJson?, unsupported]

lemma Schema.ofJson?_any : ofJson? (.object []) = .ok (.mk .any false) :=
  ofJson?_eq_ok_iff.2 ⟨[], .untyped, none, rfl, rfl, rfl, ⟨rfl, rfl, rfl⟩, nofun⟩

lemma Schema.ofJson?_boolean :
    ofJson? (.object [("type", .string "boolean")]) = .ok (.mk .boolean false) :=
  ofJson?_eq_ok_iff.2 ⟨_, .typed .boolean, none, rfl, rfl, rfl, ⟨rfl, rfl, rfl, trivial⟩,
    by simp [Form.keywords]⟩

lemma Schema.ofJson?_reference {reference name : String} (denotes : Reference.name? reference = .ok name) :
    ofJson? (.object [("$ref", .string reference)]) = .ok (.ofName name) :=
  ofJson?_eq_ok_iff.2 ⟨_, .reference, none, rfl, rfl, rfl, ⟨.string reference, rfl, denotes⟩,
    by simp [Form.keywords]⟩

end SchemaCompiler
