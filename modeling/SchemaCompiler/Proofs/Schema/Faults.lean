import SchemaCompiler.Proofs.Except
import SchemaCompiler.Proofs.Json.Pointer
import SchemaCompiler.Proofs.Schema.WellFormed

/-!
Where reading a fragment fails.

A fragment fails by itself, or since a part of it fails: a schema inside or the discriminator.  The
path of a fault is put together on the way back from the part to the whole, so it leads from the whole to
the part that fails by itself.

* `Parsed.Blames`: if reading fails, the fault has a property;
* `Keywords.PartAt`: what stands in a fragment where a schema is read, and the segments that lead there;
* `Keywords.Fails`, `Keywords.blames_parseForm`: the faults of a fragment, and that reading its form has no
  others;
* `Json.AtFault`, `Schema.exists_atFault`: the path of a fault leads to what fails by itself;
* `Schema.parse_cases`: whether reading succeeds does not depend on the pointer of the fragment, and if it
  fails, the pointer of the error is that pointer with one to the part at fault behind it.
-/

namespace SchemaCompiler

/-! ### Faults of computations -/

/-- If reading fails, the fault has a property. -/
abbrev Parsed.Blames {α : Type} (P : SchemaFault → Prop) (parsed : Parsed α) : Prop :=
  SchemaCompiler.Blames P parsed

lemma Parsed.Blames.under {α : Type} {P : SchemaFault → Prop} {parsed : Parsed α}
    {segments : List String} (blames : parsed.Blames fun fault => P (fault.under segments)) :
    (parsed.under segments).Blames P := by
  intro fault failed
  cases parsed with
  | ok a => cases failed
  | error inner =>
      cases failed
      exact blames inner rfl

/-! ### Faults of the fragment itself -/

/-- A fault of the fragment itself. -/
def SchemaFault.IsOwn (fault : SchemaFault) : Prop := fault.path = []

/-- If reading fails, the fault is one of the fragment itself. -/
abbrev Parsed.BlamesOwn {α : Type} (parsed : Parsed α) : Prop := parsed.Blames SchemaFault.IsOwn

lemma blamesOwn_unsupported {α : Type} (reason : Unsupported) :
    Parsed.BlamesOwn (unsupported reason : Parsed α) := by
  rintro fault ⟨⟩
  rfl

namespace Keywords

variable (keywords : Keywords)

lemma blamesOwn_bool? (keyword : String) : (keywords.bool? keyword).BlamesOwn := by
  rw [bool?]
  split
  · exact .ok _
  · exact .ok _
  · exact blamesOwn_unsupported _

lemma blamesOwn_natural? (keyword : String) : (keywords.natural? keyword).BlamesOwn := by
  rw [natural?]
  split
  · exact .ok _
  · split
    · exact .ok _
    · exact blamesOwn_unsupported _

lemma blamesOwn_number? (keyword : String) : (keywords.number? keyword).BlamesOwn := by
  rw [number?]
  split
  · exact .ok _
  · exact .ok _
  · exact blamesOwn_unsupported _

lemma blamesOwn_string? (keyword : String) : (keywords.string? keyword).BlamesOwn := by
  rw [string?]
  split
  · exact .ok _
  · exact .ok _
  · exact blamesOwn_unsupported _

lemma blamesOwn_enum? (nullable : Bool) : (keywords.enum? nullable).BlamesOwn := by
  rw [enum?]
  split
  · exact .ok _
  · dsimp only
    split
    · exact blamesOwn_unsupported _
    · split
      · exact blamesOwn_unsupported _
      · exact .ok _
  · exact blamesOwn_unsupported _

lemma blamesOwn_parseString (nullable : Bool) : (parseString keywords nullable).BlamesOwn := by
  have checks : (parseStringChecks keywords).BlamesOwn :=
    (keywords.blamesOwn_string? _).bind fun _ => (keywords.blamesOwn_natural? _).bind fun _ =>
      (keywords.blamesOwn_natural? _).bind fun _ => (keywords.blamesOwn_string? _).bind fun _ => .ok _
  refine checks.bind fun _ => (keywords.blamesOwn_enum? nullable).bind fun listed => ?_
  cases listed with
  | none => exact .ok _
  | some listed =>
      refine (Blames.mapM (fun value => ?_) listed.values).bind fun _ => .ok _
      split
      · exact .ok _
      · exact blamesOwn_unsupported _

lemma blamesOwn_parseNumberChecks (integer : Bool) :
    (parseNumberChecks keywords integer).BlamesOwn := by
  refine (keywords.blamesOwn_string? _).bind fun _ => (keywords.blamesOwn_number? _).bind fun _ =>
    (keywords.blamesOwn_number? _).bind fun _ => (keywords.blamesOwn_bool? _).bind fun _ =>
      (keywords.blamesOwn_bool? _).bind fun _ => (keywords.blamesOwn_number? _).bind fun _ => ?_
  split
  · exact blamesOwn_unsupported _
  · split
    · exact blamesOwn_unsupported _
    · split
      · exact blamesOwn_unsupported _
      · exact .ok _

lemma blamesOwn_parseNumber (integer nullable : Bool) :
    (parseNumber keywords integer nullable).BlamesOwn := by
  refine (keywords.blamesOwn_parseNumberChecks integer).bind fun _ =>
    (keywords.blamesOwn_enum? nullable).bind fun listed => ?_
  cases listed with
  | none => exact .ok _
  | some listed =>
      refine (Blames.mapM (fun value => ?_) listed.values).bind fun _ => .ok _
      split
      · split
        · exact .ok _
        · exact blamesOwn_unsupported _
      · exact blamesOwn_unsupported _

lemma blamesOwn_parseRequired (properties : List (String × Schema)) :
    (parseRequired keywords properties).BlamesOwn := by
  rw [parseRequired]
  split
  · exact .ok _
  · refine (Blames.mapM (fun value => ?_) _).bind fun _ => .ok _
    split
    · split
      · exact .ok _
      · exact blamesOwn_unsupported _
    · exact blamesOwn_unsupported _
  · exact blamesOwn_unsupported _

lemma blamesOwn_findComposition : (findComposition keywords).BlamesOwn := by
  rw [findComposition]
  split
  · exact .ok _
  · exact .ok _
  · exact blamesOwn_unsupported _

lemma blamesOwn_parseObjectTyped (c : Composition) : (parseObjectTyped keywords c).BlamesOwn := by
  rw [parseObjectTyped]
  split
  · exact .ok _
  · exact .ok _
  · exact blamesOwn_unsupported _

lemma blamesOwn_findType : (findType keywords).BlamesOwn := by
  rw [findType]
  split
  · split
    · exact .ok _
    · exact blamesOwn_unsupported _
  · exact blamesOwn_unsupported _
  · exact blamesOwn_unsupported _
  · split
    · exact .ok _
    · split
      · exact blamesOwn_unsupported _
      · exact .ok _

end Keywords

/-- A discriminator fails by itself. -/
lemma blamesOwn_parseDiscriminator (value : Json) : (parseDiscriminator value).BlamesOwn := by
  cases value with
  | object keywords =>
      rw [parseDiscriminator]
      refine (Keywords.blamesOwn_string? keywords _).bind fun property => ?_
      cases property with
      | none => exact blamesOwn_unsupported _
      | some property =>
          -- however the mapping is read, what is left is to look for an unknown keyword
          dsimp only
          split
          · refine Blames.bind (.ok []) fun mapping => ?_
            split
            exacts [blamesOwn_unsupported _, .ok _]
          · refine Blames.bind (Blames.mapM (fun entry => ?_) _) fun mapping => ?_
            · split
              exacts [.ok _, blamesOwn_unsupported _]
            · split
              exacts [blamesOwn_unsupported _, .ok _]
          · refine Blames.bind (blamesOwn_unsupported _) fun mapping => ?_
            split
            exacts [blamesOwn_unsupported _, .ok _]
  | _ => exact blamesOwn_unsupported _

/-! ### Faults of parts -/

/-- What stands in a fragment where a schema is read, and the segments that lead there. -/
inductive Keywords.PartAt (keywords : Keywords) : List String → Json → Prop where
  | items {part : Json} (found : Table.get? keywords "items" = some part) :
      PartAt keywords ["items"] part
  | further {part : Json} (found : Table.get? keywords "additionalProperties" = some part) :
      PartAt keywords ["additionalProperties"] part
  | property {entries : List (String × Json)} {name : String} {part : Json}
      (found : Table.get? keywords "properties" = some (.object entries))
      (mem : (name, part) ∈ entries) : PartAt keywords ["properties", name] part
  | member (c : Composition) {items : List Json} {index : ℕ} {part : Json}
      (found : Table.get? keywords c.text = some (.array items)) (there : items[index]? = some part) :
      PartAt keywords [c.text, toString index] part

/-- The faults that reading a fragment can have: its own, and those of the schemas inside it and of its
discriminator. -/
inductive Keywords.Fails (keywords : Keywords) : SchemaFault → Prop where
  | own {fault : SchemaFault} (own : fault.IsOwn) : Fails keywords fault
  | part {segments : List String} {part : Json} {fault : SchemaFault}
      (here : keywords.PartAt segments part) (failed : Schema.ofJson? part = .error fault) :
      Fails keywords (fault.under segments)
  | discriminator {part : Json} {fault : SchemaFault}
      (found : Table.get? keywords "discriminator" = some part)
      (failed : parseDiscriminator part = .error fault) :
      Fails keywords (fault.under ["discriminator"])

namespace Keywords

variable {keywords : Keywords}

lemma blames_of_own {α : Type} {parsed : Parsed α} (own : parsed.BlamesOwn) :
    parsed.Blames keywords.Fails := own.mono fun _ => .own

lemma blames_unsupported {α : Type} (reason : Unsupported) :
    (unsupported reason : Parsed α).Blames keywords.Fails :=
  blames_of_own (blamesOwn_unsupported reason)

/-- The faults of a schema inside. -/
lemma PartAt.blames {segments : List String} {part : Json} (here : keywords.PartAt segments part) :
    ((Schema.ofJson? part).under segments).Blames keywords.Fails :=
  .under fun _ failed => .part here failed

lemma blames_parseItemRule : (parseItemRule keywords).Blames keywords.Fails := by
  rw [parseItemRule]
  split
  · exact blames_unsupported _
  · next items found => exact (PartAt.items found).blames

lemma blames_parseEntries {entries : List (String × Json)}
    (inside : ∀ name part, (name, part) ∈ entries → keywords.PartAt ["properties", name] part) :
    (parseEntries entries).Blames keywords.Fails := by
  induction entries with
  | nil =>
      rw [parseEntries]
      exact .ok []
  | cons entry rest ih =>
      obtain ⟨name, part⟩ := entry
      rw [parseEntries]
      exact (inside name part List.mem_cons_self).blames.bind fun _ =>
        (ih fun other part mem => inside other part (List.mem_cons_of_mem _ mem)).bind fun _ => .ok _

lemma blames_parseItems {keyword : String} {index : ℕ} {items : List Json}
    (inside : ∀ i part, items[i]? = some part →
      keywords.PartAt [keyword, toString (index + i)] part) :
    (parseItems keyword index items).Blames keywords.Fails := by
  induction items generalizing index with
  | nil =>
      rw [parseItems]
      exact .ok []
  | cons item rest ih =>
      rw [parseItems]
      refine (inside 0 item rfl).blames.bind fun _ => (ih fun i part found => ?_).bind fun _ => .ok _
      have later := inside (i + 1) part found
      rwa [← Nat.add_assoc, Nat.add_right_comm] at later

lemma blames_parseMembers (c : Composition) :
    (parseMembers keywords c.text).Blames keywords.Fails := by
  rw [parseMembers]
  split
  · next items found =>
      split
      · exact blames_unsupported _
      · refine blames_parseItems fun i part there => ?_
        rw [Nat.zero_add]
        exact .member c found there
  · exact blames_unsupported _

lemma blames_parseObject : (parseObject keywords).Blames keywords.Fails := by
  have properties : (parseProperties keywords).Blames keywords.Fails := by
    rw [parseProperties]
    split
    · exact .ok _
    · next entries found => exact blames_parseEntries fun name part mem => .property found mem
    · exact blames_unsupported _
  have extras : (parseExtras keywords).Blames keywords.Fails := by
    rw [parseExtras]
    split
    · exact .ok _
    · exact .ok _
    · exact .ok _
    · next rule found => exact (PartAt.further found).blames.bind fun _ => .ok _
  rw [parseObject]
  exact properties.bind fun found => (blames_of_own (blamesOwn_parseRequired keywords found)).bind
    fun _ => extras.bind fun _ => .ok _

lemma blames_parseTyped (type : TypeName) (nullable : Bool) :
    (parseTyped keywords type nullable).Blames keywords.Fails := by
  cases type with
  | string =>
      rw [parseTyped]
      exact (blames_of_own (blamesOwn_parseString keywords nullable)).bind fun _ => .ok _
  | integer =>
      rw [parseTyped]
      exact (blames_of_own (blamesOwn_parseNumber keywords true nullable)).bind fun _ => .ok _
  | number =>
      rw [parseTyped]
      exact (blames_of_own (blamesOwn_parseNumber keywords false nullable)).bind fun _ => .ok _
  | boolean =>
      rw [parseTyped]
      exact .ok _
  | null =>
      rw [parseTyped]
      exact .ok _
  | array =>
      rw [parseTyped]
      refine blames_parseItemRule.bind fun _ => blames_of_own ?_
      refine (blamesOwn_natural? keywords _).bind fun _ => (blamesOwn_natural? keywords _).bind
        fun _ => (blamesOwn_bool? keywords _).bind fun _ => ?_
      split
      · exact blamesOwn_unsupported _
      · exact .ok _
  | object =>
      rw [parseTyped]
      exact blames_parseObject.bind fun _ => .ok _

lemma blames_parseComposition (c : Composition) :
    (parseComposition keywords c).Blames keywords.Fails := by
  rw [parseComposition]
  refine (blames_of_own (blamesOwn_parseObjectTyped keywords c)).bind fun _ =>
    (blames_parseMembers c).bind fun _ => ?_
  dsimp only
  split
  · exact blames_unsupported _
  · split
    · exact .ok _
    · next raw found =>
        exact (Parsed.Blames.under fun _ failed => .discriminator found failed).bind fun _ => .ok _
  · exact blames_parseObject.bind fun _ => .ok _
  · exact .ok _

/-- Reading the form of a fragment fails by itself, or with the fault of a part. -/
lemma blames_parseForm (nullable : Bool) : (parseForm keywords nullable).Blames keywords.Fails := by
  rw [parseForm]
  split
  · split
    · exact .ok _
    · exact blames_unsupported _
  · refine (blames_of_own (blamesOwn_findComposition keywords)).bind fun composition => ?_
    cases composition with
    | some c => exact (blames_parseComposition c).bind fun _ => .ok _
    | none =>
        refine (blames_of_own (blamesOwn_findType keywords)).bind fun type => ?_
        cases type with
        | some type => exact (blames_parseTyped type nullable).bind fun _ => .ok _
        | none => exact .ok _

/-- A fragment fails by itself, or with the fault of a part. -/
theorem blames_ofJson? : (Schema.ofJson? (.object keywords)).Blames keywords.Fails := by
  rw [Schema.ofJson?]
  refine (blames_of_own (blamesOwn_bool? keywords _)).bind fun _ =>
    (blames_parseForm _).bind fun read => blames_of_own ?_
  dsimp only
  split
  · exact blamesOwn_unsupported _
  · exact .ok _

/-! ### The part at fault -/

/-- What follows the segments of a part is a path inside the part. -/
lemma PartAt.at?_append {segments : List String} {part : Json} (here : keywords.PartAt segments part)
    (wellFormed : (Json.object keywords).WellFormed) (path : List String) :
    (Json.object keywords).at? (segments ++ path) = part.at? path := by
  cases here with
  | items found => exact Json.at?_object found path
  | further found => exact Json.at?_object found path
  | property found mem =>
      have distinct := (Json.wellFormed_object_iff.1 (wellFormed.get? found)).1
      exact (Json.at?_object found _).trans
        (Json.at?_object ((Table.get?_eq_some_iff distinct).2 mem) path)
  | member c found there => exact (Json.at?_object found _).trans (Json.at?_array there path)

lemma PartAt.part {segments : List String} {part : Json} (here : keywords.PartAt segments part) :
    keywords.Part part := by
  cases here with
  | items found => exact .items found
  | further found => exact .further found
  | property found mem => exact .property found mem
  | member c found there => exact .member c found (List.mem_of_getElem? there)

end Keywords

/-- A value fails by itself, as a schema or as a discriminator. -/
def Json.AtFault (value : Json) (reason : Unsupported) : Prop :=
  Schema.ofJson? value = .error ⟨[], reason⟩ ∨ parseDiscriminator value = .error ⟨[], reason⟩

/-- The path of a fault leads to what fails by itself. -/
theorem Schema.exists_atFault {value : Json} (wellFormed : value.WellFormed) {fault : SchemaFault}
    (failed : Schema.ofJson? value = .error fault) :
    ∃ part, value.at? fault.path = some part ∧ part.AtFault fault.reason := by
  have own : fault.IsOwn → ∃ part, value.at? fault.path = some part ∧ part.AtFault fault.reason := by
    intro own
    obtain ⟨path, reason⟩ := fault
    obtain rfl : path = [] := own
    exact ⟨value, rfl, .inl failed⟩
  cases value with
  | object keywords =>
      cases Keywords.blames_ofJson? fault failed with
      | own isOwn => exact own isOwn
      | part here inner =>
          -- the path goes on inside the part, which is smaller
          have := here.part.sizeOf_lt
          obtain ⟨culprit, leads, atFault⟩ :=
            Schema.exists_atFault (here.part.wellFormed wellFormed) inner
          exact ⟨culprit, (here.at?_append wellFormed _).trans leads, atFault⟩
      | @discriminator part inner found raised =>
          obtain ⟨path, reason⟩ := inner
          obtain rfl : path = [] := blamesOwn_parseDiscriminator part _ raised
          exact ⟨part, Json.at?_object found [], .inr raised⟩
  | _ =>
      refine own ?_
      cases (Schema.ofJson?.eq_def _).symm.trans failed
      rfl
termination_by sizeOf value
decreasing_by
  subst_vars
  simp only [Json.object.sizeOf_spec]
  omega

/-- **Errors point to the part at fault.**  Whether a fragment is read, and as which schema, does not
depend on its pointer.  If it is not, then every pointer is followed in the error by one and the same
pointer, which leads inside the fragment to a part that fails by itself for the reason that is given. -/
theorem Schema.parse_cases {value : Json} (wellFormed : value.WellFormed) :
    (∃ s, ∀ pointer, Schema.parse value pointer = .ok s) ∨
      ∃ suffix reason part,
        (∀ pointer, Schema.parse value pointer = .error (.unsupported (pointer ++ suffix) reason)) ∧
          value.pointed? suffix = some part ∧ part.AtFault reason := by
  cases read : Schema.ofJson? value with
  | ok s =>
      refine .inl ⟨s, fun pointer => ?_⟩
      rw [Schema.parse, read]
  | error fault =>
      obtain ⟨part, leads, atFault⟩ := Schema.exists_atFault wellFormed read
      refine .inr ⟨Json.Pointer.render fault.path, fault.reason, part, fun pointer => ?_, ?_, atFault⟩
      · rw [Schema.parse, read]
        rfl
      · rw [Json.pointed?_render, leads]

/-- The `/` in the name of a property is escaped. -/
theorem Schema.parse_cases_slash :
    let keywords := [("type", Json.string "object"),
      ("properties", Json.object [("a/b", .object [("type", .string "date")])])]
    (Json.object keywords).WellFormed ∧ ∃ reason part,
      (∀ pointer, Schema.parse (.object keywords) pointer =
        .error (.unsupported (pointer ++ "/properties/a~1b") reason)) ∧
      (Json.object keywords).pointed? "/properties/a~1b" = some part ∧ part.AtFault reason := by
  intro keywords
  have wellFormed : (Json.object keywords).WellFormed := by
    simp [keywords, Json.wellFormed_object_iff, Table.keys]
  have inner : Schema.ofJson? (.object [("type", .string "date")]) =
      .error ⟨[], .unknownType "date"⟩ := by
    rw [Schema.ofJson?]
    simp [parseForm]
    rfl
  have typed : parseTyped keywords .object false =
      .error ⟨["properties", "a/b"], .unknownType "date"⟩ := by
    rw [parseTyped, parseObject, parseProperties]
    split
    · next absent => cases absent
    · next entries found =>
        cases found
        rw [parseEntries, inner]
        rfl
    · next notObject found =>
        cases found
        exact (notObject _ rfl).elim
  have read : Schema.ofJson? (.object keywords) =
      .error ⟨["properties", "a/b"], .unknownType "date"⟩ := by
    rw [Schema.ofJson?]
    change (parseForm keywords false >>= _) = _
    rw [parseForm]
    change (parseTyped keywords .object false >>= _) >>= _ = _
    rw [typed]
    rfl
  have pointer : Json.Pointer.render ["properties", "a/b"] = "/properties/a~1b" := by decide
  refine ⟨wellFormed, ?_⟩
  rcases Schema.parse_cases wellFormed with ⟨s, ok⟩ | ⟨suffix, reason, part, failed, leads, atFault⟩
  · have atRoot := ok ""
    rw [Schema.parse, read] at atRoot
    cases atRoot
  · obtain rfl : suffix = "/properties/a~1b" := by
      have atRoot := failed ""
      rw [Schema.parse, read] at atRoot
      obtain ⟨eq, -⟩ := CompileError.unsupported.inj (Except.error.inj atRoot)
      simpa [pointer] using eq.symm
    exact ⟨reason, part, failed, leads, atFault⟩

end SchemaCompiler
