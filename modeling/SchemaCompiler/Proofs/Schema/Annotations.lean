import SchemaCompiler.Proofs.Json.Pointer
import SchemaCompiler.Proofs.Schema.Following
import SchemaCompiler.Proofs.Schema.WellFormed

/-!
Annotations and extensions say nothing, and nothing else is passed over.

Without its annotations and extensions a fragment is read as before.  A keyword that is neither, and that
is read in no form, is a fault of the schema in which it stands, however deep that is inside a fragment.

* `isSilent`, `Json.withoutAnnotations`: a fragment without the annotations and extensions of the schemas
  inside;
* `Json.isSilent_eq_false_of_inside`: none of them is left;
* `Schema.ofJson?_withoutAnnotations`: the same is read;
* `Json.Adds`: one more member of a schema inside a fragment, and the path that leads there
  (`Json.Inside.exists_adds`, `Json.Adds.at?_eq`);
* `Json.Adds.ofJson?_eq`: the fault of a member that is not known;
* `Schema.parse_annotations`: both for the fragment at a pointer.
-/

namespace SchemaCompiler

/-! ### Fragments without annotations -/

/-- Keywords that say nothing about values. -/
def isSilent (keyword : String) : Bool := isExtension keyword || annotations.contains keyword

mutual

/-- A fragment without the annotations and extensions of the schemas inside. -/
def Json.withoutAnnotations : Json → Json
  | .object members => .object (membersWithoutAnnotations members)
  | other => other

/-- The members of a fragment that are not annotations or extensions. -/
def membersWithoutAnnotations : List (String × Json) → List (String × Json)
  | [] => []
  | (keyword, value) :: rest =>
    if isSilent keyword then membersWithoutAnnotations rest
    else (keyword, valueWithoutAnnotations keyword value) :: membersWithoutAnnotations rest

/-- The value of a keyword, which may have schemas inside. -/
def valueWithoutAnnotations (keyword : String) (value : Json) : Json :=
  match keyword, value with
  | "items", fragment => fragment.withoutAnnotations
  | "additionalProperties", fragment => fragment.withoutAnnotations
  | "properties", .object entries => .object (entriesWithoutAnnotations entries)
  | "oneOf", .array items => .array (allWithoutAnnotations items)
  | "anyOf", .array items => .array (allWithoutAnnotations items)
  | "allOf", .array items => .array (allWithoutAnnotations items)
  | _, other => other

/-- Named fragments, which keep their names. -/
def entriesWithoutAnnotations : List (String × Json) → List (String × Json)
  | [] => []
  | (name, fragment) :: rest =>
    (name, fragment.withoutAnnotations) :: entriesWithoutAnnotations rest

/-- Several fragments. -/
def allWithoutAnnotations : List Json → List Json
  | [] => []
  | fragment :: rest => fragment.withoutAnnotations :: allWithoutAnnotations rest

end

lemma Json.withoutAnnotations_eq_self {value : Json} (other : ∀ members, value ≠ .object members) :
    value.withoutAnnotations = value := by
  rw [Json.withoutAnnotations]
  exact other

lemma entriesWithoutAnnotations_eq (entries : List (String × Json)) :
    entriesWithoutAnnotations entries = Table.mapValues Json.withoutAnnotations entries := by
  induction entries with
  | nil =>
      rw [entriesWithoutAnnotations]
      rfl
  | cons entry rest ih =>
      rw [entriesWithoutAnnotations, ih, Table.mapValues, Table.mapValues, List.map_cons]

lemma allWithoutAnnotations_eq (items : List Json) :
    allWithoutAnnotations items = items.map Json.withoutAnnotations := by
  induction items with
  | nil => rw [allWithoutAnnotations, List.map_nil]
  | cons item rest ih => rw [allWithoutAnnotations, ih, List.map_cons]

/-- Keywords that are read say something. -/
lemma isSilent_eq_false_of_mem {keyword : String} (mem : keyword ∈ plainKeywords ++ partKeywords) :
    isSilent keyword = false :=
  (by decide : ∀ keyword ∈ plainKeywords ++ partKeywords, isSilent keyword = false) keyword mem

lemma valueWithoutAnnotations_of_mem {keyword : String} (mem : keyword ∈ plainKeywords) (value : Json) :
    valueWithoutAnnotations keyword value = value := by
  have other : keyword ∉ partKeywords :=
    (by decide : ∀ keyword ∈ plainKeywords, keyword ∉ partKeywords) keyword mem
  rw [valueWithoutAnnotations.eq_def]
  split <;> first | exact absurd (by decide) other | rfl

lemma valueWithoutAnnotations_text (c : Composition) (items : List Json) :
    valueWithoutAnnotations c.text (.array items) = .array (items.map Json.withoutAnnotations) := by
  rw [← allWithoutAnnotations_eq]
  cases c with
  | union keyword =>
      cases keyword with
      | oneOf => rw [Composition.text, UnionKeyword.text, valueWithoutAnnotations]
      | anyOf => rw [Composition.text, UnionKeyword.text, valueWithoutAnnotations]
  | intersection => rw [Composition.text, valueWithoutAnnotations]

namespace Keywords

variable (keywords : Keywords)

lemma keys_withoutAnnotations :
    (membersWithoutAnnotations keywords).map Prod.fst =
      (keywords.map Prod.fst).filter fun keyword => !isSilent keyword := by
  induction keywords with
  | nil =>
      rw [membersWithoutAnnotations]
      rfl
  | cons member rest ih =>
      obtain ⟨keyword, value⟩ := member
      rw [membersWithoutAnnotations, List.map_cons, List.filter_cons]
      cases silent : isSilent keyword with
      | true => simpa using ih
      | false => simpa using ih

lemma get?_withoutAnnotations (keyword : String) :
    Table.get? (membersWithoutAnnotations keywords) keyword =
      if isSilent keyword then none
      else (Table.get? keywords keyword).map (valueWithoutAnnotations keyword) := by
  induction keywords with
  | nil =>
      rw [membersWithoutAnnotations]
      split <;> rfl
  | cons member rest ih =>
      obtain ⟨name, value⟩ := member
      rw [membersWithoutAnnotations, Table.get?_cons]
      by_cases same : name = keyword
      · subst same
        split
        · next silent => rw [ih, if_pos silent]
        · rw [Table.get?_cons, if_pos rfl, if_pos rfl, Option.map_some]
      · rw [if_neg same, ← ih]
        split
        · rfl
        · rw [Table.get?_cons, if_neg same]

lemma get?_withoutAnnotations_of_mem {keyword : String} (mem : keyword ∈ plainKeywords ++ partKeywords) :
    Table.get? (membersWithoutAnnotations keywords) keyword =
      (Table.get? keywords keyword).map (valueWithoutAnnotations keyword) := by
  rw [get?_withoutAnnotations, isSilent_eq_false_of_mem mem]
  rfl

/-- The same keyword is the first that is not known. -/
lemma unknown?_withoutAnnotations (form : Form) :
    Keywords.unknown? (membersWithoutAnnotations keywords) form = keywords.unknown? form := by
  rw [unknown?, keys_withoutAnnotations, List.find?_filter, unknown?]
  refine List.find?_congr fun keyword _ => ?_
  rw [isSilent]
  cases form.keywords.contains keyword <;> cases isExtension keyword <;>
    cases annotations.contains keyword <;> rfl

end Keywords

/-! ### Reading without annotations -/

section Parts

variable {keywords : Keywords}
  (same : ∀ part, keywords.Part part → Schema.ofJson? part.withoutAnnotations = Schema.ofJson? part)

include same

lemma parseItemRule_withoutAnnotations :
    parseItemRule (membersWithoutAnnotations keywords) = parseItemRule keywords := by
  rw [parseItemRule_eq, Keywords.get?_withoutAnnotations_of_mem keywords (by decide), parseItemRule_eq]
  cases found : Table.get? keywords "items" with
  | none => rfl
  | some part =>
      have value : valueWithoutAnnotations "items" part = part.withoutAnnotations := by
        rw [valueWithoutAnnotations]
      dsimp only [Option.map_some]
      rw [value, same part (.items found)]

lemma parseProperties_withoutAnnotations :
    parseProperties (membersWithoutAnnotations keywords) = parseProperties keywords := by
  rw [parseProperties_eq, Keywords.get?_withoutAnnotations_of_mem keywords (by decide),
    parseProperties_eq]
  cases found : Table.get? keywords "properties" with
  | none => rfl
  | some value =>
      cases value with
      | object entries =>
          rw [Option.map_some, valueWithoutAnnotations, entriesWithoutAnnotations_eq]
          exact parseEntries_map fun entry mem => same entry.2 (.property found mem)
      | _ =>
          rw [Option.map_some, valueWithoutAnnotations.eq_def]
          rfl

lemma parseExtras_withoutAnnotations :
    parseExtras (membersWithoutAnnotations keywords) = parseExtras keywords := by
  rw [parseExtras_eq, Keywords.get?_withoutAnnotations_of_mem keywords (by decide), parseExtras_eq]
  cases found : Table.get? keywords "additionalProperties" with
  | none => rfl
  | some rule =>
      have value : valueWithoutAnnotations "additionalProperties" rule = rule.withoutAnnotations := by
        rw [valueWithoutAnnotations]
      rw [Option.map_some, value]
      cases rule with
      | object members =>
          have read := same _ (.further found)
          rw [Json.withoutAnnotations] at read ⊢
          dsimp only
          rw [read]
      | _ => rw [Json.withoutAnnotations_eq_self (by simp)]

lemma parseMembers_withoutAnnotations (c : Composition) :
    parseMembers (membersWithoutAnnotations keywords) c.text = parseMembers keywords c.text := by
  rw [parseMembers_eq, Keywords.get?_withoutAnnotations_of_mem keywords
    (List.mem_append_right _ c.text_mem_partKeywords), parseMembers_eq]
  cases found : Table.get? keywords c.text with
  | none => rfl
  | some value =>
      cases value with
      | array items =>
          rw [Option.map_some, valueWithoutAnnotations_text]
          dsimp only
          rw [List.isEmpty_map, parseItems_map fun item mem => same item (.member c found mem)]
      | _ =>
          rw [Option.map_some, valueWithoutAnnotations.eq_def]
          cases c with
          | union keyword => cases keyword <;> rfl
          | intersection => rfl

/-- A fragment is read as before if the schemas inside are. -/
lemma Keywords.follows_withoutAnnotations {P : SchemaFault → Prop} :
    Keywords.Follows P keywords (membersWithoutAnnotations keywords) where
  plain keyword mem := by
    rw [get?_withoutAnnotations_of_mem keywords (List.mem_append_left _ mem)]
    cases Table.get? keywords keyword with
    | none => rfl
    | some value => rw [Option.map_some, valueWithoutAnnotations_of_mem mem]
  present keyword mem := by
    rw [Table.contains, get?_withoutAnnotations_of_mem keywords (List.mem_append_right _ mem),
      Option.isSome_map, Table.contains]
  items := .of_eq (parseItemRule_withoutAnnotations same)
  properties := .of_eq (parseProperties_withoutAnnotations same)
  extras := .of_eq (parseExtras_withoutAnnotations same)
  members c := .of_eq (parseMembers_withoutAnnotations same c)

end Parts

/-- **Annotations and extensions say nothing**: without them a fragment is read as before. -/
theorem Schema.ofJson?_withoutAnnotations (value : Json) :
    Schema.ofJson? value.withoutAnnotations = Schema.ofJson? value := by
  cases value with
  | object keywords =>
      have same : ∀ part, Keywords.Part keywords part →
          Schema.ofJson? part.withoutAnnotations = Schema.ofJson? part := by
        intro part here
        have := here.sizeOf_lt
        exact Schema.ofJson?_withoutAnnotations part
      rw [Json.withoutAnnotations]
      exact ((Keywords.follows_withoutAnnotations same).ofJson?
        (Keywords.unknown?_withoutAnnotations keywords)).eq
  | _ => rw [Json.withoutAnnotations_eq_self (by simp)]
termination_by sizeOf value
decreasing_by
  subst_vars
  simp only [Json.object.sizeOf_spec]
  omega

/-- What stands in a fragment without annotations is a part of the fragment without them. -/
lemma Keywords.Part.exists_of_withoutAnnotations {keywords : Keywords} {part : Json}
    (here : Keywords.Part (membersWithoutAnnotations keywords) part) :
    ∃ whole, keywords.Part whole ∧ part = whole.withoutAnnotations := by
  cases here with
  | items found =>
      rw [get?_withoutAnnotations_of_mem keywords (by decide)] at found
      obtain ⟨whole, there, rfl⟩ := Option.map_eq_some_iff.1 found
      exact ⟨whole, .items there, by rw [valueWithoutAnnotations]⟩
  | further found =>
      rw [get?_withoutAnnotations_of_mem keywords (by decide)] at found
      obtain ⟨whole, there, rfl⟩ := Option.map_eq_some_iff.1 found
      exact ⟨whole, .further there, by rw [valueWithoutAnnotations]⟩
  | property found mem =>
      rw [get?_withoutAnnotations_of_mem keywords (by decide)] at found
      obtain ⟨value, there, eq⟩ := Option.map_eq_some_iff.1 found
      cases value with
      | object entries =>
          rw [valueWithoutAnnotations, entriesWithoutAnnotations_eq] at eq
          cases eq
          obtain ⟨⟨name, whole⟩, among, eq⟩ := List.mem_map.1 mem
          cases eq
          exact ⟨whole, .property there among, rfl⟩
      | _ =>
          rw [valueWithoutAnnotations.eq_def] at eq
          cases eq
  | member c found mem =>
      rw [get?_withoutAnnotations_of_mem keywords
        (List.mem_append_right _ c.text_mem_partKeywords)] at found
      obtain ⟨value, there, eq⟩ := Option.map_eq_some_iff.1 found
      cases value with
      | array items =>
          rw [valueWithoutAnnotations_text] at eq
          cases eq
          obtain ⟨whole, among, rfl⟩ := List.mem_map.1 mem
          exact ⟨whole, .member c there among, rfl⟩
      | _ =>
          rw [valueWithoutAnnotations.eq_def] at eq
          cases c with
          | union keyword => cases keyword <;> cases eq
          | intersection => cases eq

/-- No schema inside a fragment without annotations has one of them. -/
theorem Json.isSilent_eq_false_of_inside {value : Json} {keywords : Keywords}
    (inside : value.withoutAnnotations.Inside (.object keywords)) :
    ∀ member ∈ keywords, isSilent member.1 = false := by
  generalize whole : value.withoutAnnotations = fragment at inside
  generalize inner : Json.object keywords = schema at inside
  induction inside generalizing value with
  | self fragment =>
      subst inner
      cases value with
      | object members =>
          rw [Json.withoutAnnotations] at whole
          cases whole
          intro member mem
          have among := List.mem_map_of_mem (f := Prod.fst) mem
          rw [Keywords.keys_withoutAnnotations] at among
          simpa using (List.mem_filter.1 among).2
      | _ => rw [Json.withoutAnnotations.eq_def] at whole; cases whole
  | part here inside ih =>
      cases value with
      | object members =>
          rw [Json.withoutAnnotations] at whole
          cases whole
          obtain ⟨part, -, rfl⟩ := here.exists_of_withoutAnnotations
          exact ih rfl inner
      | _ => rw [Json.withoutAnnotations.eq_def] at whole; cases whole

/-! ### Members that are not known -/

/-- One more member of a schema inside a fragment, and the path that leads to the schema. -/
inductive Json.Adds (member : String × Json) : List String → Json → Json → Prop where
  | here (before after : Keywords) :
      Adds member [] (.object (before ++ after)) (.object (before ++ member :: after))
  | items {keywords : Keywords} {path : List String} {part part' : Json}
      (found : Table.get? keywords "items" = some part) (inside : Adds member path part part') :
      Adds member ("items" :: path) (.object keywords) (.object (Table.insert keywords "items" part'))
  | further {keywords : Keywords} {path : List String} {part part' : Json}
      (found : Table.get? keywords "additionalProperties" = some part)
      (inside : Adds member path part part') :
      Adds member ("additionalProperties" :: path) (.object keywords)
        (.object (Table.insert keywords "additionalProperties" part'))
  | property {keywords : Keywords} {before after : List (String × Json)} {name : String}
      {path : List String} {part part' : Json}
      (found : Table.get? keywords "properties" = some (.object (before ++ (name, part) :: after)))
      (inside : Adds member path part part') :
      Adds member ("properties" :: name :: path) (.object keywords)
        (.object (Table.insert keywords "properties" (.object (before ++ (name, part') :: after))))
  | member (c : Composition) {keywords : Keywords} {before after : List Json}
      {path : List String} {part part' : Json}
      (found : Table.get? keywords c.text = some (.array (before ++ part :: after)))
      (inside : Adds member path part part') :
      Adds member (c.text :: toString before.length :: path) (.object keywords)
        (.object (Table.insert keywords c.text (.array (before ++ part' :: after))))

/-- A member can be added to each schema inside, at any place. -/
lemma Json.Inside.exists_adds {fragment : Json} {before after : Keywords}
    (inside : fragment.Inside (.object (before ++ after))) (member : String × Json) :
    ∃ path fragment', Json.Adds member path fragment fragment' ∧
      fragment'.Inside (.object (before ++ member :: after)) := by
  generalize whole : Json.object (before ++ after) = schema at inside
  induction inside with
  | self fragment =>
      subst whole
      exact ⟨[], _, .here before after, .self _⟩
  | part here inside ih =>
      obtain ⟨path, part', adds, inside⟩ := ih whole
      cases here with
      | items found =>
          exact ⟨_, _, .items found adds, .part (.items (Table.get?_insert_self _ _ _)) inside⟩
      | further found =>
          exact ⟨_, _, .further found adds, .part (.further (Table.get?_insert_self _ _ _)) inside⟩
      | @property _ name _ found mem =>
          obtain ⟨front, back, rfl⟩ := List.append_of_mem mem
          have among : (name, part') ∈ front ++ (name, part') :: back :=
            List.mem_append_right _ List.mem_cons_self
          exact ⟨_, _, .property found adds,
            .part (.property (Table.get?_insert_self _ _ _) among) inside⟩
      | member c found mem =>
          obtain ⟨front, back, rfl⟩ := List.append_of_mem mem
          have among : part' ∈ front ++ part' :: back := List.mem_append_right _ List.mem_cons_self
          exact ⟨_, _, .member c found adds,
            .part (.member c (Table.get?_insert_self _ _ _) among) inside⟩

lemma Json.Adds.exists_object {member : String × Json} {path : List String} {value value' : Json}
    (adds : Adds member path value value') :
    (∃ keywords, value = .object keywords) ∧ ∃ keywords, value' = .object keywords := by
  cases adds <;> exact ⟨⟨_, rfl⟩, _, rfl⟩

/-- A schema in which a member is not known fails by itself. -/
lemma Schema.ofJson?_of_unknown {before after : Keywords} {s : Schema}
    (ok : Schema.ofJson? (.object (before ++ after)) = .ok s) {member : String × Json}
    (silent : isSilent member.1 = false) (unread : member.1 ∉ plainKeywords ++ partKeywords) :
    Schema.ofJson? (.object (before ++ member :: after)) = .error ⟨[], .unknownKeyword member.1⟩ := by
  -- the member is no keyword that is read, so the kind is read as before
  have same : ∀ keyword ∈ plainKeywords ++ partKeywords,
      Table.get? (before ++ member :: after) keyword = Table.get? (before ++ after) keyword := by
    intro keyword mem
    have other : member.1 ≠ keyword := fun eq => unread (eq ▸ mem)
    rw [Table.get?_append, Table.get?_cons, if_neg other, Table.get?_append]
  have follows : Keywords.Follows (fun _ => False) (before ++ after) (before ++ member :: after) :=
    .of_get? same
  rw [Schema.ofJson?, bind_eq_ok_iff] at ok
  obtain ⟨nullable, admits, ok⟩ := ok
  obtain ⟨⟨form, kind⟩, read, ok⟩ := bind_eq_ok_iff.1 ok
  have known : Keywords.unknown? (before ++ after) form = none := by
    cases unknown : Keywords.unknown? (before ++ after) form with
    | none => rfl
    | some keyword =>
        dsimp only at ok
        rw [unknown] at ok
        cases ok
  have unknown : Keywords.unknown? (before ++ member :: after) form = some member.1 := by
    have first : ¬member.1 ∈ form.keywords := fun mem => unread (exists_form_iff.1 ⟨form, mem⟩)
    rw [Keywords.unknown?, List.map_append, List.find?_append] at known ⊢
    rw [(Option.or_eq_none_iff.1 known).1, List.map_cons, List.find?_cons_of_pos]
    · rfl
    · rw [isSilent, Bool.or_eq_false_iff] at silent
      rw [silent.1, silent.2]
      simpa using first
  have admits' : Keywords.bool? (before ++ member :: after) "nullable" = .ok nullable := by
    rw [← admits, Keywords.bool?, same _ (by decide), Keywords.bool?]
  have read' : parseForm (before ++ member :: after) (nullable.getD false) = .ok (form, kind) :=
    (follows.parseForm _).eq.trans read
  rw [Schema.ofJson?]
  refine bind_eq_error_iff.2 (.inr ⟨nullable, admits', bind_eq_error_iff.2 (.inr ⟨_, read', ?_⟩)⟩)
  dsimp only
  rw [unknown]
  rfl

/-- A fault of a schema inside is one of the fragment, if nothing else of the fragment is changed. -/
lemma Schema.ofJson?_of_part {keywords : Keywords} {s : Schema}
    (ok : Schema.ofJson? (.object keywords) = .ok s) {keyword : String} {value value' : Json}
    (found : Table.get? keywords keyword = some value) (segments : List String) {fault : SchemaFault}
    (follows : Keywords.Follows (· = fault.under segments) keywords (Table.insert keywords keyword value'))
    {inner : Keywords} (here : Keywords.Part (Table.insert keywords keyword value') (.object inner))
    (failed : Schema.ofJson? (.object inner) = .error fault) :
    Schema.ofJson? (.object (Table.insert keywords keyword value')) = .error (fault.under segments) := by
  have unknown : ∀ form, Keywords.unknown? (Table.insert keywords keyword value') form =
      Keywords.unknown? keywords form := by
    intro form
    have keys := Table.keys_insert_of_mem (Table.mem_keys_of_get? found) value'
    rw [Table.keys, Table.keys] at keys
    rw [Keywords.unknown?, keys, Keywords.unknown?]
  rcases follows.ofJson? unknown with same | ⟨_, rfl, failed'⟩
  · rw [ok] at same
    -- if the whole were read, so would be the part
    rcases Schema.exists_child_of_part same here with ⟨child, -, read⟩ | ⟨allowed, eq⟩
    · cases failed.symm.trans read
    · cases eq
  · exact failed'

/-- **Nothing else is passed over**: a member that is not known is a fault of the schema in which it
stands. -/
theorem Json.Adds.ofJson?_eq {member : String × Json} {path : List String} {value value' : Json}
    (adds : Adds member path value value') (silent : isSilent member.1 = false)
    (unread : member.1 ∉ plainKeywords ++ partKeywords) {s : Schema}
    (ok : Schema.ofJson? value = .ok s) :
    Schema.ofJson? value' = .error ⟨path, .unknownKeyword member.1⟩ := by
  induction adds generalizing s with
  | here before after => exact Schema.ofJson?_of_unknown ok silent unread
  | @items keywords path part part' found inside ih =>
      obtain ⟨⟨_, rfl⟩, inner, rfl⟩ := inside.exists_object
      obtain ⟨t, -, read⟩ := Schema.exists_within_of_inside (.part (.items found) (.self _)) ok
      have there := Table.get?_insert_self keywords "items" (.object inner)
      refine Schema.ofJson?_of_part ok found ["items"] ?_ (.items there) (ih read)
      refine .of_insert (by decide) found (fun _ => ?_) (fun eq => absurd eq (by decide))
        (fun eq => absurd eq (by decide)) fun c eq => absurd eq (c.text_ne (by decide)).symm
      -- the other keywords are read as before, and this one fails as what is inside does
      rw [parseItemRule_eq, parseItemRule_eq, found, there]
      exact .of_part (ih read) _
  | @further keywords path part part' found inside ih =>
      obtain ⟨⟨_, rfl⟩, inner, rfl⟩ := inside.exists_object
      obtain ⟨t, -, read⟩ := Schema.exists_within_of_inside (.part (.further found) (.self _)) ok
      have there := Table.get?_insert_self keywords "additionalProperties" (.object inner)
      refine Schema.ofJson?_of_part ok found ["additionalProperties"] ?_ (.further there) (ih read)
      refine .of_insert (by decide) found (fun eq => absurd eq (by decide))
        (fun eq => absurd eq (by decide)) (fun _ => ?_) fun c eq => absurd eq (c.text_ne (by decide)).symm
      rw [parseExtras_eq, parseExtras_eq, found, there]
      exact (Parsed.Follows.of_part (ih read) _).bind fun _ => .refl _
  | @property keywords before after name path part part' found inside ih =>
      obtain ⟨⟨_, rfl⟩, inner, rfl⟩ := inside.exists_object
      obtain ⟨t, -, read⟩ := Schema.exists_within_of_inside
        (.part (.property found (List.mem_append_right _ List.mem_cons_self)) (.self _)) ok
      have there := Table.get?_insert_self keywords "properties"
        (.object (before ++ (name, .object inner) :: after))
      refine Schema.ofJson?_of_part ok found ["properties", name] ?_
        (.property there (List.mem_append_right _ List.mem_cons_self)) (ih read)
      refine .of_insert (by decide) found (fun eq => absurd eq (by decide)) (fun _ => ?_)
        (fun eq => absurd eq (by decide)) fun c eq => absurd eq (c.text_ne (by decide)).symm
      rw [parseProperties_eq, parseProperties_eq, found, there]
      exact parseEntries_follows (.of_part (ih read) _) before after
  | @member c keywords before after path part part' found inside ih =>
      obtain ⟨⟨_, rfl⟩, inner, rfl⟩ := inside.exists_object
      obtain ⟨t, -, read⟩ := Schema.exists_within_of_inside
        (.part (.member c found (List.mem_append_right _ List.mem_cons_self)) (.self _)) ok
      have there := Table.get?_insert_self keywords c.text (.array (before ++ .object inner :: after))
      refine Schema.ofJson?_of_part ok found [c.text, toString before.length] ?_
        (.member c there (List.mem_append_right _ List.mem_cons_self)) (ih read)
      refine .of_insert c.text_mem_partKeywords found (fun eq => absurd eq (c.text_ne (by decide)))
        (fun eq => absurd eq (c.text_ne (by decide))) (fun eq => absurd eq (c.text_ne (by decide)))
        fun c' eq => ?_
      rw [← eq, parseMembers_eq, parseMembers_eq, found, there]
      dsimp only
      rw [if_neg (by simp), if_neg (by simp)]
      refine parseItems_follows ?_ after
      rw [Nat.zero_add]
      exact .of_part (ih read) _

/-- The path of an added member leads to the schema to which it is added. -/
theorem Json.Adds.at?_eq {member : String × Json} {path : List String} {value value' : Json}
    (adds : Adds member path value value') (wellFormed : value.WellFormed) :
    ∃ before after, value.at? path = some (.object (before ++ after)) ∧
      value'.at? path = some (.object (before ++ member :: after)) := by
  induction adds with
  | here before after => exact ⟨before, after, rfl, rfl⟩
  | items found inside ih =>
      obtain ⟨before, after, leads, leads'⟩ := ih (wellFormed.get? found)
      exact ⟨before, after, (at?_object found _).trans leads,
        (at?_object (Table.get?_insert_self _ _ _) _).trans leads'⟩
  | further found inside ih =>
      obtain ⟨before, after, leads, leads'⟩ := ih (wellFormed.get? found)
      exact ⟨before, after, (at?_object found _).trans leads,
        (at?_object (Table.get?_insert_self _ _ _) _).trans leads'⟩
  | @property keywords front back name path part part' found inside ih =>
      obtain ⟨distinct, all⟩ := wellFormed_object_iff.1 (wellFormed.get? found)
      obtain ⟨before, after, leads, leads'⟩ := ih (all _ (List.mem_append_right _ List.mem_cons_self))
      have new : name ∉ Table.keys front := by
        rw [Table.keys, List.map_append, List.nodup_append] at distinct
        exact fun mem => distinct.2.2 _ mem _ List.mem_cons_self rfl
      have there : ∀ inner, Table.get? (front ++ (name, inner) :: back) name = some inner := by
        intro inner
        rw [Table.get?_append, Table.get?_eq_none_iff.2 new, Table.get?_cons, if_pos rfl]
        rfl
      exact ⟨before, after, (at?_object found _).trans ((at?_object (there part) _).trans leads),
        (at?_object (Table.get?_insert_self _ _ _) _).trans ((at?_object (there part') _).trans leads')⟩
  | @member c keywords front back path part part' found inside ih =>
      obtain ⟨before, after, leads, leads'⟩ :=
        ih (wellFormed_array_iff.1 (wellFormed.get? found) _ (List.mem_append_right _ List.mem_cons_self))
      have there : ∀ inner, (front ++ inner :: back)[front.length]? = some inner := by simp
      exact ⟨before, after, (at?_object found _).trans ((at?_array (there part) _).trans leads),
        (at?_object (Table.get?_insert_self _ _ _) _).trans ((at?_array (there part') _).trans leads')⟩

lemma Schema.parse_eq_ok_iff {value : Json} {pointer : String} {s : Schema} :
    Schema.parse value pointer = .ok s ↔ Schema.ofJson? value = .ok s := by
  rw [Schema.parse]
  cases Schema.ofJson? value with
  | ok t => simp only [Except.ok.injEq]
  | error fault => exact ⟨nofun, nofun⟩

/-- **Annotations and extensions say nothing, and nothing else is passed over.**  If all of them are left
out of all schemas inside a fragment, the same is read.  If a fragment is read, then one more member of
any schema inside, which is neither and is read in no form, is an error at the pointer of that schema. -/
theorem Schema.parse_annotations (value : Json) (pointer : String) :
    (Schema.parse value.withoutAnnotations pointer = Schema.parse value pointer ∧
      ∀ keywords, value.withoutAnnotations.Inside (.object keywords) →
        ∀ member ∈ keywords, isSilent member.1 = false) ∧
    ∀ s, Schema.parse value pointer = .ok s →
      ∀ member : String × Json, isSilent member.1 = false → (∀ form : Form, member.1 ∉ form.keywords) →
        (∀ path value', Json.Adds member path value value' → Schema.parse value' pointer =
          .error (.unsupported (pointer ++ Json.Pointer.render path) (.unknownKeyword member.1))) ∧
        ∀ before after, value.Inside (.object (before ++ after)) →
          ∃ path value', Json.Adds member path value value' ∧
            value'.Inside (.object (before ++ member :: after)) := by
  refine ⟨⟨by rw [Schema.parse, Schema.ofJson?_withoutAnnotations, Schema.parse],
    fun keywords inside => Json.isSilent_eq_false_of_inside inside⟩, ?_⟩
  intro s ok member silent unread
  refine ⟨fun path value' adds => ?_, fun before after inside => inside.exists_adds member⟩
  have unread' : member.1 ∉ plainKeywords ++ partKeywords := fun mem =>
    (exists_form_iff.2 mem).elim unread
  rw [Schema.parse, adds.ofJson?_eq silent unread' (Schema.parse_eq_ok_iff.1 ok)]
  rfl

/-- A property has the name of an annotation and stays, and so does a member of it that is not known. -/
theorem Schema.parse_annotations_title :
    let title : Keywords := [("type", .string "string"), ("x-order", .number (.integer 1))]
    let pet : Keywords := [("title", .string "Pet"), ("type", .string "object"),
      ("properties", .object [("title", .object title)])]
    let plain : Keywords := [("type", .string "object"),
      ("properties", .object [("title", .object [("type", .string "string")])])]
    let misspelt : Keywords := [("title", .string "Pet"), ("type", .string "object"),
      ("properties", .object [("title", .object (title ++ [("maxLenght", .number (.integer 9))]))])]
    (∃ s, Schema.parse (.object pet) "#" = .ok s ∧ Schema.parse (.object plain) "#" = .ok s) ∧
      Schema.parse (.object misspelt) "#" =
        .error (.unsupported "#/properties/title" (.unknownKeyword "maxLenght")) := by
  intro title pet plain misspelt
  have inner : Schema.ofJson? (.object title) = .ok (.mk (.string ⟨⟨none, none, none, none⟩, none⟩) false) :=
    ofJson?_eq_ok_iff.2 ⟨_, .typed .string, none, rfl, rfl, rfl, ⟨rfl, rfl, rfl, rfl⟩,
      by simp [title, Form.keywords, isExtension, Text.hasPrefix]⟩
  obtain ⟨s, ok⟩ : ∃ s, Schema.parse (.object pet) "#" = .ok s := by
    let rules : ObjectRules Schema :=
      ⟨[("title", .mk (.string ⟨⟨none, none, none, none⟩, none⟩) false)], [], .unspecified⟩
    refine ⟨.mk (.object rules) false, Schema.parse_eq_ok_iff.2 (ofJson?_eq_ok_iff.2
      ⟨_, .typed .object, none, rfl, rfl, rfl, ⟨rfl, rfl, rfl, ?_⟩, ?_⟩)⟩
    · exact ⟨.inr ⟨_, rfl, .cons ⟨rfl, inner⟩ .nil⟩, .inl ⟨rfl, rfl⟩, rfl⟩
    · simp [pet, Form.keywords, annotations, objectKeywords]
  obtain ⟨⟨same, -⟩, unknown⟩ := Schema.parse_annotations (.object pet) "#"
  have stripped : (Json.object pet).withoutAnnotations = .object plain := by
    simp [pet, plain, title, Json.withoutAnnotations, membersWithoutAnnotations,
      valueWithoutAnnotations, entriesWithoutAnnotations, isSilent, isExtension, annotations, Text.hasPrefix]
  have pointer : "#" ++ Json.Pointer.render ["properties", "title"] = "#/properties/title" := by decide
  rw [stripped, ok] at same
  refine ⟨⟨s, ok, same⟩, ?_⟩
  rw [← pointer]
  have adds : Json.Adds ("maxLenght", .number (.integer 9)) ["properties", "title"] (.object pet)
      (.object misspelt) := by
    have found : Table.get? pet "properties" = some (.object ([] ++ ("title", .object title) :: [])) := rfl
    exact .property found (.here title [])
  have unread : ∀ form : Form, "maxLenght" ∉ form.keywords := fun form mem =>
    absurd (exists_form_iff.1 ⟨form, mem⟩) (by decide)
  exact (unknown s ok ("maxLenght", .number (.integer 9)) (by decide) unread).1 _ _ adds

end SchemaCompiler
