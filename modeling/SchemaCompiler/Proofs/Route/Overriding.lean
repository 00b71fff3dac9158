import Mathlib.Tactic
import SchemaCompiler.Proofs.Route.Parameters

/-!
Which declaration of a parameter counts.

The declarations of a path come before those of its operations.  A later declaration takes the place of an
earlier one if both have the same name and location, and parameters are grouped under keys after that.  In
paths and queries the key of a parameter is its name, so that there the last declaration counts.  The keys
of headers are in small letters, so that two spellings of a name stand for two parameters, of which both
are grouped under one key.

* `RouteContext.declarations`: the declarations of an operation, in order;
* `standing`: of all declarations those that count, the last of each name and location;
* `foldl_declareParameter_eq`: these are the parameters of an operation;
* `RouteContext.describes_parameterGroups`: what the groups of an operation say of each key, in terms of the
  declarations under it that count;
* `RouteContext.Settles`: a declaration says what the groups do of its key;
* `RouteContext.parameterGroups_of_declarations`: the last declaration settles its key if that is spelled in
  one way, and when it does so if it is not.
-/

namespace SchemaCompiler

/-! ### Declarations that count -/

/-- What a parameter is known by. -/
def Parameter.identity (parameter : Parameter) : String × ParameterLocation :=
  (parameter.name, parameter.location)

/-- Whether a parameter is grouped under a key at a location. -/
def Parameter.isAt (parameter : Parameter) (location : ParameterLocation) (key : String) : Bool :=
  parameter.location = location && parameter.key = key

/-- The last declaration of a name at a location. -/
def lastDeclared? (declared : List (Located Parameter)) (identity : String × ParameterLocation) :
    Option (Located Parameter) :=
  (declared.filter (·.value.identity = identity)).getLast?

/-- The last declaration under a key at a location. -/
def lastUnder? (declared : List (Located Parameter)) (location : ParameterLocation) (key : String) :
    Option (Located Parameter) :=
  (declared.filter (·.value.isAt location key)).getLast?

/-- The declarations that count: of each name and location the last one, in the order in which these were
first declared. -/
def standing (declared : List (Located Parameter)) : List (Located Parameter) :=
  (declared.map (·.value.identity)).eraseDups.filterMap (lastDeclared? declared)

lemma Parameter.isSame_iff_identity {a b : Parameter} :
    a.isSame b = true ↔ a.identity = b.identity := by
  rw [isSame_iff, identity, identity, Prod.mk.injEq]

lemma Parameter.isAt_iff {parameter : Parameter} {location : ParameterLocation} {key : String} :
    parameter.isAt location key = true ↔ parameter.location = location ∧ parameter.key = key := by
  rw [isAt, Bool.and_eq_true, decide_eq_true_eq, decide_eq_true_eq]

lemma lastUnder?_append (declared : List (Located Parameter)) (last : Located Parameter)
    (location : ParameterLocation) (key : String) :
    lastUnder? (declared ++ [last]) location key =
      if last.value.isAt location key = true then some last else lastUnder? declared location key := by
  rw [lastUnder?, lastUnder?, List.filter_append]
  split
  · next own => simp [own]
  · next other => simp [other]

lemma mem_of_lastUnder? {declared : List (Located Parameter)} {location : ParameterLocation} {key : String}
    {last : Located Parameter} (found : lastUnder? declared location key = some last) :
    last ∈ declared ∧ last.value.isAt location key = true :=
  List.mem_filter.1 (List.mem_of_getLast? found)

lemma exists_lastUnder? {declared : List (Located Parameter)} {location : ParameterLocation} {key : String}
    {parameter : Located Parameter} (mem : parameter ∈ declared)
    (own : parameter.value.isAt location key = true) : ∃ last, lastUnder? declared location key = some last :=
  ⟨_, List.getLast?_eq_some_getLast (List.ne_nil_of_mem (List.mem_filter.2 ⟨mem, own⟩))⟩

lemma lastDeclared?_append (declared : List (Located Parameter)) (last : Located Parameter)
    (identity : String × ParameterLocation) :
    lastDeclared? (declared ++ [last]) identity =
      if last.value.identity = identity then some last else lastDeclared? declared identity := by
  rw [lastDeclared?, lastDeclared?, List.filter_append]
  split
  · next same => simp [same]
  · next other => simp [other]

lemma map_declareParameter (parameters : List (Located Parameter)) (declared : Located Parameter) :
    (declareParameter parameters declared).map (·.value.identity) =
      if declared.value.identity ∈ parameters.map (·.value.identity) then
        parameters.map (·.value.identity)
      else parameters.map (·.value.identity) ++ [declared.value.identity] := by
  induction parameters with
  | nil => rfl
  | cons first rest ih =>
      rw [declareParameter]
      split
      · next same => simp [Parameter.isSame_iff_identity.1 same]
      · next other =>
          have ne : declared.value.identity ≠ first.value.identity := fun eq =>
            other (Parameter.isSame_iff_identity.2 eq.symm)
          rw [List.map_cons, ih]
          by_cases mem : declared.value.identity ∈ rest.map (·.value.identity) <;>
            simp [mem, ne]

/-- A declared parameter takes the place of one that is known by the same. -/
lemma mem_declareParameter_iff {parameters : List (Located Parameter)} (undoubled : Undoubled parameters)
    {declared parameter : Located Parameter} :
    parameter ∈ declareParameter parameters declared ↔
      parameter = declared ∨
        parameter ∈ parameters ∧ declared.value.identity ≠ parameter.value.identity := by
  induction parameters with
  | nil => simp [declareParameter]
  | cons first rest ih =>
      obtain ⟨apart, others⟩ := List.pairwise_cons.1 undoubled
      rw [declareParameter]
      split
      · next same =>
          have eq := Parameter.isSame_iff_identity.1 same
          have away : ∀ other ∈ rest, declared.value.identity ≠ other.value.identity := by
            intro other mem
            rw [← eq, ne_eq, ← Parameter.isSame_iff_identity, apart other mem]
            exact Bool.false_ne_true
          grind
      · next other =>
          rw [Parameter.isSame_iff_identity] at other
          rw [List.mem_cons, ih others]
          grind

/-- Declaring parameters keeps the order in which they were first declared. -/
lemma map_foldl_declareParameter (declared : List (Located Parameter)) :
    (declared.foldl declareParameter []).map (·.value.identity) =
      (declared.map (·.value.identity)).eraseDups := by
  induction declared using List.reverseRecOn with
  | nil => rfl
  | append_singleton declared last ih =>
      rw [List.foldl_concat, map_declareParameter, ih, List.map_append, List.map_singleton,
        eraseDups_concat]
      simp only [List.mem_eraseDups]

/-- What is left of the declarations are the last ones. -/
lemma mem_foldl_declareParameter_iff {declared : List (Located Parameter)} {parameter : Located Parameter} :
    parameter ∈ declared.foldl declareParameter [] ↔
      lastDeclared? declared parameter.value.identity = some parameter := by
  induction declared using List.reverseRecOn with
  | nil => exact ⟨nofun, nofun⟩
  | append_singleton declared last ih =>
      rw [List.foldl_concat, mem_declareParameter_iff (undoubled_foldl List.Pairwise.nil declared), ih,
        lastDeclared?_append]
      split <;> grind

/-- Declaring parameters one after another leaves those that count. -/
theorem foldl_declareParameter_eq (declared : List (Located Parameter)) :
    declared.foldl declareParameter [] = standing declared := by
  rw [standing, ← map_foldl_declareParameter, List.filterMap_map]
  have each : ∀ parameter ∈ declared.foldl declareParameter [],
      (lastDeclared? declared ∘ fun p => p.value.identity) parameter = some parameter :=
    fun parameter mem => mem_foldl_declareParameter_iff.1 mem
  rw [List.filterMap_congr each, List.filterMap_some]

/-- What counts is the last declaration of its name and location. -/
lemma mem_standing_iff {declared : List (Located Parameter)} {parameter : Located Parameter} :
    parameter ∈ standing declared ↔
      lastDeclared? declared parameter.value.identity = some parameter := by
  rw [← foldl_declareParameter_eq, mem_foldl_declareParameter_iff]

lemma mem_of_mem_standing {declared : List (Located Parameter)} {parameter : Located Parameter}
    (mem : parameter ∈ standing declared) : parameter ∈ declared :=
  (List.mem_filter.1 (List.mem_of_getLast? (mem_standing_iff.1 mem))).1

/-- The last declaration under a key counts. -/
lemma mem_standing_of_last {declared : List (Located Parameter)} {location : ParameterLocation}
    {key : String} {last : Located Parameter}
    (found : lastUnder? declared location key = some last) :
    last ∈ standing declared := by
  obtain ⟨mem, own⟩ := mem_of_lastUnder? found
  obtain ⟨before, split⟩ := List.getLast?_eq_some_iff.1 found
  rw [mem_standing_iff, lastDeclared?]
  -- what is known by the same as the last declaration is under its key
  have narrowed : declared.filter (·.value.identity = last.value.identity) =
      (declared.filter (·.value.isAt location key)).filter
        (·.value.identity = last.value.identity) := by
    rw [List.filter_filter]
    refine List.filter_congr fun other _ => ?_
    by_cases same : other.value.identity = last.value.identity
    · obtain ⟨name, place⟩ := Prod.mk.inj same
      obtain ⟨rfl, rfl⟩ := Parameter.isAt_iff.1 own
      simp [Parameter.isAt, Parameter.key, name, place, same]
    · simp [same]
  rw [narrowed, split, List.filter_append]
  simp

/-- A key under which something is declared has something that counts. -/
lemma exists_standing_iff {declared : List (Located Parameter)} {location : ParameterLocation}
    {key : String} :
    (∃ parameter ∈ standing declared, parameter.value.isAt location key = true) ↔
      ∃ parameter ∈ declared, parameter.value.isAt location key = true := by
  refine ⟨fun ⟨parameter, mem, own⟩ => ⟨parameter, mem_of_mem_standing mem, own⟩, ?_⟩
  rintro ⟨parameter, mem, own⟩
  obtain ⟨last, found⟩ := exists_lastUnder? mem own
  exact ⟨last, mem_standing_of_last found, (mem_of_lastUnder? found).2⟩

/-! ### Groups -/

namespace RouteContext

variable {context : RouteContext} {site : Site} {item : PathItem} {operation : Operation}
  {location : ParameterLocation}

/-- Rules describe the parameters at a location: the properties are their keys, a property has the schema
of the last parameter under it, and it is required if it is in the path or one of the parameters is. -/
structure Describes (context : RouteContext) (location : ParameterLocation)
    (parameters : List (Located Parameter)) (rules : ObjectRules Schema) : Prop where
  keys : ∀ key, key ∈ Table.keys rules.properties ↔
    ∃ parameter ∈ parameters, parameter.value.isAt location key = true
  schema : ∀ key last, lastUnder? parameters location key = some last →
    ∃ s, context.parameterSchema last = .ok s ∧ Table.get? rules.properties key = some s
  required : ∀ key, key ∈ rules.required ↔
    ∃ parameter ∈ parameters, parameter.value.isAt location key = true ∧
      (location = .path ∨ parameter.value.required = true)

lemma describes_nil : context.Describes location [] .empty :=
  ⟨fun _ => ⟨nofun, nofun⟩, nofun, fun _ => ⟨nofun, nofun⟩⟩

/-- Rules go on to describe the parameters when one more is put into its group. -/
lemma Describes.add {groups after : ParameterGroups} {parameters : List (Located Parameter)}
    {parameter : Located Parameter} (sent : location ≠ .cookie)
    (before : context.Describes location parameters (groups.at location))
    (ok : context.addParameter groups parameter = .ok after) :
    context.Describes location (parameters ++ [parameter]) (after.at location) := by
  rcases addParameter_at ok location with ⟨elsewhere, same⟩ | ⟨place, -, s, parsed, added⟩
  · -- the parameter belongs to no group, or to another one
    have apart : ∀ key, parameter.value.isAt location key = false := fun key =>
      Bool.eq_false_iff.2 fun own => sent (elsewhere (Parameter.isAt_iff.1 own).1)
    rw [same]
    refine ⟨fun key => ?_, fun key last found => ?_, fun key => ?_⟩
    · simp [before.keys, apart]
    · rw [lastUnder?_append, if_neg (by simp [apart])] at found
      exact before.schema key last found
    · simp [before.required, apart]
  · have here : ∀ key, parameter.value.isAt location key = true ↔ parameter.value.key = key := by
      intro key
      rw [Parameter.isAt_iff, place, and_iff_right rfl]
    rw [added]
    refine ⟨fun key => ?_, fun key last found => ?_, fun key => ?_⟩
    · rw [ObjectRules.addProperty]
      dsimp only
      rw [Table.mem_keys_insert_iff, before.keys]
      simp only [List.mem_append, List.mem_singleton, or_and_right, exists_or, exists_eq_left, here]
      rw [or_comm, eq_comm]
    · rw [ObjectRules.get?_addProperty]
      rw [lastUnder?_append] at found
      split
      · next own =>
          rw [if_pos ((here key).2 own)] at found
          rw [← Option.some.inj found]
          exact ⟨s, parsed, rfl⟩
      · next other =>
          rw [if_neg (mt (here key).1 other)] at found
          exact before.schema key last found
    · rw [ObjectRules.mem_required_addProperty_iff, before.required]
      simp only [List.mem_append, List.mem_singleton, or_and_right, exists_or, exists_eq_left, here]
      simp [and_comm]

/-- The rules of parameters that are put into their groups one after another. -/
lemma describes_addParameters {groups after : ParameterGroups}
    {before parameters : List (Located Parameter)} (sent : location ≠ .cookie)
    (described : context.Describes location before (groups.at location))
    (ok : context.addParameters groups parameters = .ok after) :
    context.Describes location (before ++ parameters) (after.at location) := by
  induction parameters generalizing groups before with
  | nil =>
      cases ok
      rwa [List.append_nil]
  | cons first rest ih =>
      obtain ⟨next, added, ok⟩ := bind_eq_ok_iff.1 ok
      rw [List.append_cons]
      exact ih (described.add sent added) ok

/-- Parameters can be grouped if their schemas can be read. -/
lemma exists_addParameters (groups : ParameterGroups) {parameters : List (Located Parameter)}
    (parses : ∀ parameter ∈ parameters, parameter.value.location ≠ .cookie →
      ∃ s, context.parameterSchema parameter = .ok s) :
    ∃ after, context.addParameters groups parameters = .ok after := by
  induction parameters generalizing groups with
  | nil => exact ⟨groups, rfl⟩
  | cons first rest ih =>
      rw [List.forall_mem_cons] at parses
      obtain ⟨next, added⟩ : ∃ next, context.addParameter groups first = .ok next := by
        rw [addParameter]
        cases place : first.value.location with
        | cookie => exact ⟨_, rfl⟩
        | _ =>
            obtain ⟨s, parsed⟩ := parses.1 (by rw [place]; decide)
            exact ⟨_, bind_eq_ok_iff.2 ⟨s, parsed, rfl⟩⟩
      obtain ⟨after, ok⟩ := ih next parses.2
      exact ⟨after, bind_eq_ok_iff.2 ⟨next, added, ok⟩⟩

/-! ### Operations -/

/-- The declarations of an operation: those of its path, and then its own. -/
def declarations (context : RouteContext) (site : Site) (item : PathItem) (operation : Operation) :
    Except CompileError (List (Located Parameter)) := do
  let ofPath ← context.locateParameters site
    (fun i => "#" ++ Json.Pointer.render ["paths", site.path, "parameters", toString i])
    item.parameters
  let own ← context.locateParameters site (fun i => site.pointer ["parameters", toString i])
    operation.parameters
  return ofPath ++ own

variable {declared : List (Located Parameter)} {groups : ParameterGroups}

lemma parameters_eq_ok_iff {parameters : List (Located Parameter)} :
    context.parameters site item operation = .ok parameters ↔
      ∃ declared, context.declarations site item operation = .ok declared ∧
        parameters = standing declared := by
  rw [RouteContext.parameters, declarations]
  simp only [bind_eq_ok_iff]
  constructor
  · rintro ⟨ofPath, located, own, located', eq⟩
    refine ⟨_, ⟨ofPath, located, own, located', rfl⟩, ?_⟩
    rw [← foldl_declareParameter_eq]
    exact (Except.ok.inj eq).symm
  · rintro ⟨_, ⟨ofPath, located, own, located', eq⟩, rfl⟩
    cases eq
    refine ⟨ofPath, located, own, located', ?_⟩
    rw [← foldl_declareParameter_eq]
    rfl

/-- The groups of an operation describe the declarations that count. -/
theorem describes_parameterGroups (grouped : context.parameterGroups site item operation = .ok groups) :
    ∃ declared, context.declarations site item operation = .ok declared ∧
      ∀ location, location ≠ .cookie →
        context.Describes location (standing declared) (groups.at location) := by
  obtain ⟨parameters, listed, ok⟩ := bind_eq_ok_iff.1 grouped
  obtain ⟨declared, resolved, rfl⟩ := parameters_eq_ok_iff.1 listed
  refine ⟨declared, resolved, fun location sent => ?_⟩
  have empty : ParameterGroups.at ⟨.empty, .empty, .empty, []⟩ location = .empty := by
    cases location <;> rfl
  rw [← List.nil_append (standing declared)]
  exact describes_addParameters sent (by rw [empty]; exact describes_nil) ok

/-- An operation has groups if its declarations can be found and those that count can be read. -/
lemma exists_parameterGroups (resolved : context.declarations site item operation = .ok declared)
    (parses : ∀ parameter ∈ standing declared, parameter.value.location ≠ .cookie →
      ∃ s, context.parameterSchema parameter = .ok s) :
    ∃ groups, context.parameterGroups site item operation = .ok groups := by
  obtain ⟨groups, ok⟩ := exists_addParameters ⟨.empty, .empty, .empty, []⟩ parses
  exact ⟨groups, bind_eq_ok_iff.2 ⟨_, parameters_eq_ok_iff.2 ⟨declared, resolved, rfl⟩, ok⟩⟩

/-- A declaration settles what groups say of its key: the schema, and whether it is required. -/
structure Settles (context : RouteContext) (groups : ParameterGroups) (declaration : Located Parameter) :
    Prop where
  schema : ∃ s, context.parameterSchema declaration = .ok s ∧
    Table.get? (groups.at declaration.value.location).properties declaration.value.key = some s
  required : declaration.value.key ∈ (groups.at declaration.value.location).required ↔
    declaration.value.location = .path ∨ declaration.value.required = true

/-! ### Declarations that settle their key -/

section Settles

variable {key : String} {last : Located Parameter}

/-- A declaration settles its key if the last of those that count has its schema, and none of them is
required without it. -/
lemma settles_iff_standing (described : context.Describes location (standing declared) (groups.at location))
    (found : lastUnder? declared location key = some last) :
    context.Settles groups last ↔
      (∀ other, lastUnder? (standing declared) location key = some other →
        context.parameterSchema other = context.parameterSchema last) ∧
      (location = .path ∨ last.value.required = true ∨
        ∀ other ∈ standing declared, other.value.isAt location key = true →
          other.value.required = false) := by
  have counts := mem_standing_of_last found
  have own := (mem_of_lastUnder? found).2
  obtain ⟨rfl, rfl⟩ := Parameter.isAt_iff.1 own
  obtain ⟨winner, wins⟩ := exists_lastUnder? counts own
  obtain ⟨s, parsed, got⟩ := described.schema _ _ wins
  have schema : (∃ s, context.parameterSchema last = .ok s ∧
      Table.get? (groups.at last.value.location).properties last.value.key = some s) ↔
      context.parameterSchema winner = context.parameterSchema last := by
    rw [got, parsed]
    constructor
    · rintro ⟨_, parsed', eq⟩
      rw [parsed', ← Option.some.inj eq]
    · exact fun eq => ⟨s, eq.symm, rfl⟩
  have required := described.required last.value.key
  constructor
  · rintro ⟨same, agrees⟩
    refine ⟨fun other found' => ?_, ?_⟩
    · rw [Option.some.inj (found'.symm.trans wins)]
      exact schema.1 same
    · -- one that is required makes the key so, and then the last would have to be required as well
      by_contra! h
      obtain ⟨elsewhere, optional, other, mem, own', isRequired⟩ := h
      rw [required, or_iff_right elsewhere] at agrees
      exact optional (agrees.1 ⟨other, mem, own', .inr (Bool.eq_true_of_not_eq_false isRequired)⟩)
  · rintro ⟨same, agrees⟩
    refine ⟨schema.2 (same winner wins), ?_⟩
    rw [required]
    refine ⟨fun ⟨other, mem, own', isRequired⟩ => ?_, fun isRequired => ⟨last, counts, own, isRequired⟩⟩
    rcases agrees with inPath | isRequired' | none
    · exact .inl inPath
    · exact .inr isRequired'
    · rw [none other mem own', or_iff_left Bool.false_ne_true] at isRequired
      exact .inl isRequired

/-- If a key is spelled in one way only, then the last declaration is the only one of it that counts. -/
lemma eq_last_of_standing (found : lastUnder? declared location key = some last)
    (spelled : location = .header →
      ∀ other ∈ declared, other.value.isAt location key = true → other.value.name = last.value.name)
    {other : Located Parameter} (counts : other ∈ standing declared)
    (own : other.value.isAt location key = true) : other = last := by
  have own' := (mem_of_lastUnder? found).2
  have place := (Parameter.isAt_iff.1 own).1.trans (Parameter.isAt_iff.1 own').1.symm
  have name : other.value.name = last.value.name := by
    have keys := (Parameter.isAt_iff.1 own).2.trans (Parameter.isAt_iff.1 own').2.symm
    rw [Parameter.key, Parameter.key, place] at keys
    split at keys
    · next header =>
        exact spelled ((Parameter.isAt_iff.1 own').1.symm.trans header) other
          (mem_of_mem_standing counts) own
    · exact keys
  have same : other.value.identity = last.value.identity := Prod.ext name place
  have eq := mem_standing_iff.1 counts
  rw [same, mem_standing_iff.1 (mem_standing_of_last found)] at eq
  exact (Option.some.inj eq).symm

/-- The last declaration of a key settles it, unless the key is spelled in several ways. -/
lemma settles_of_spelled (described : context.Describes location (standing declared) (groups.at location))
    (found : lastUnder? declared location key = some last)
    (spelled : location = .header →
      ∀ other ∈ declared, other.value.isAt location key = true → other.value.name = last.value.name) :
    context.Settles groups last := by
  refine (settles_iff_standing described found).2 ⟨fun other wins => ?_, ?_⟩
  · obtain ⟨counts, own⟩ := mem_of_lastUnder? wins
    rw [eq_last_of_standing found spelled counts own]
  · cases optional : last.value.required with
    | true => exact .inr (.inl rfl)
    | false =>
        refine .inr (.inr fun other counts own => ?_)
        rw [eq_last_of_standing found spelled counts own, optional]

end Settles

/-- The groups of an operation whose declarations can be found and read have a property for each key that
is declared at their place, and every key in the path is required.  The last declaration of a key settles
it if the key is spelled in one way.  In general it does so if and only if what counts last has its schema
and, unless it is required itself, nothing that counts is. -/
theorem parameterGroups_of_declarations
    (resolved : context.declarations site item operation = .ok declared)
    (parses : ∀ parameter ∈ standing declared, parameter.value.location ≠ .cookie →
      ∃ s, context.parameterSchema parameter = .ok s) :
    ∃ groups, context.parameterGroups site item operation = .ok groups ∧
      ∀ location, location ≠ .cookie → ∀ key,
        (key ∈ Table.keys (groups.at location).properties ↔
          ∃ parameter ∈ declared, parameter.value.isAt location key = true) ∧
        (key ∈ (groups.at location).required → key ∈ Table.keys (groups.at location).properties) ∧
        (location = .path → key ∈ Table.keys (groups.at location).properties →
          key ∈ (groups.at location).required) ∧
        ∀ last, lastUnder? declared location key = some last →
          ((location = .header → ∀ other ∈ declared, other.value.isAt location key = true →
              other.value.name = last.value.name) → context.Settles groups last) ∧
          (context.Settles groups last ↔
            (∀ other,
              lastUnder? (standing declared) location key = some other →
                context.parameterSchema other = context.parameterSchema last) ∧
            (location = .path ∨ last.value.required = true ∨
              ∀ other ∈ standing declared, other.value.isAt location key = true →
                other.value.required = false)) := by
  obtain ⟨groups, grouped⟩ := exists_parameterGroups resolved parses
  refine ⟨groups, grouped, fun location sent key => ?_⟩
  obtain ⟨_, resolved', each⟩ := describes_parameterGroups grouped
  obtain rfl := Except.ok.inj (resolved'.symm.trans resolved)
  have described := each location sent
  refine ⟨(described.keys key).trans exists_standing_iff, fun mem => ?_, fun inPath mem => ?_,
    fun last found => ⟨settles_of_spelled described found, settles_iff_standing described found⟩⟩
  · obtain ⟨parameter, counts, own, -⟩ := (described.required key).1 mem
    exact (described.keys key).2 ⟨parameter, counts, own⟩
  · obtain ⟨parameter, counts, own⟩ := (described.keys key).1 mem
    exact (described.required key).2 ⟨parameter, counts, own, .inl inPath⟩

/-- A path whose parameters are all inline. -/
def inlineItem (parameters : List Parameter) : PathItem := ⟨parameters.map .inline, fun _ => none⟩

/-- An operation that only has parameters, all of them inline. -/
def inlineOperation (parameters : List Parameter) : Operation :=
  ⟨none, parameters.map .inline, none, []⟩

/-- A parameter that is required and true or false. -/
def flagged (name : String) (location : ParameterLocation) (isRequired : Bool) : Parameter :=
  ⟨name, location, isRequired, some (.object [("type", .string "boolean")])⟩

/-- A path that declares a parameter which its operation declares anew. -/
def limitItem : PathItem := inlineItem [⟨"limit", .query, false, none⟩]

@[inherit_doc limitItem]
def limitOperation : Operation := inlineOperation [flagged "limit" .query true]

/-- The declaration of an operation settles a key that its path declares too. -/
theorem parameterGroups_of_declarations_limit :
    ∃ context declared,
      declarations context ⟨.get, "/pets"⟩ limitItem limitOperation = .ok declared ∧
      (∀ parameter ∈ standing declared, parameter.value.location ≠ .cookie →
        ∃ s, context.parameterSchema parameter = .ok s) ∧
      ∃ groups, context.parameterGroups ⟨.get, "/pets"⟩ limitItem limitOperation = .ok groups ∧
        ∃ last, lastUnder? declared .query "limit" = some last ∧ last.value = flagged "limit" .query true ∧
          context.Settles groups last := by
  let context : RouteContext := ⟨⟨[], [], [], []⟩, [], fun _ => none⟩
  let declared : List (Located Parameter) :=
    [⟨⟨"limit", .query, false, none⟩, "#" ++ Json.Pointer.render ["paths", "/pets", "parameters", "0"]⟩,
      ⟨flagged "limit" .query true, Site.pointer ⟨.get, "/pets"⟩ ["parameters", "0"]⟩]
  have resolved : context.declarations ⟨.get, "/pets"⟩ limitItem limitOperation = .ok declared := rfl
  have found : lastUnder? declared .query "limit" = some declared[1] := rfl
  have parses : ∀ parameter ∈ standing declared, parameter.value.location ≠ .cookie →
      ∃ s, context.parameterSchema parameter = .ok s := by
    intro parameter counts _
    rw [← foldl_declareParameter_eq] at counts
    rw [List.mem_singleton.1 counts]
    exact ⟨_, parse_eq_ok_iff.2 ⟨_, Schema.ofJson?_boolean, rfl⟩⟩
  obtain ⟨groups, grouped, each⟩ := parameterGroups_of_declarations resolved parses
  exact ⟨context, declared, resolved, parses, groups, grouped, declared[1], found, rfl,
    ((each .query nofun "limit").2.2.2 _ found).1 nofun⟩

/-- A path that declares a header under two spellings, of which its operation declares the first anew. -/
def tracedItem : PathItem :=
  inlineItem [⟨"X-Trace", .header, false, none⟩, ⟨"x-trace", .header, true, none⟩]

@[inherit_doc tracedItem]
def tracedOperation : Operation := inlineOperation [flagged "X-Trace" .header false]

/-- The declarations of `tracedOperation` at its path. -/
def traced : List (Located Parameter) :=
  [⟨⟨"X-Trace", .header, false, none⟩, "#" ++ Json.Pointer.render ["paths", "/pets", "parameters", "0"]⟩,
    ⟨⟨"x-trace", .header, true, none⟩, "#" ++ Json.Pointer.render ["paths", "/pets", "parameters", "1"]⟩,
    ⟨flagged "X-Trace" .header false, Site.pointer ⟨.get, "/pets"⟩ ["parameters", "0"]⟩]

/-- The declarations of `traced` can be read. -/
lemma parses_traced (context : RouteContext) {parameter : Located Parameter} (mem : parameter ∈ traced) :
    ∃ s, context.parameterSchema parameter = .ok s := by
  simp only [traced, List.mem_cons, List.not_mem_nil, or_false] at mem
  rcases mem with rfl | rfl | rfl
  · exact ⟨_, rfl⟩
  · exact ⟨_, rfl⟩
  · exact ⟨_, parse_eq_ok_iff.2 ⟨_, Schema.ofJson?_boolean, rfl⟩⟩

lemma isAt_traced {parameter : Located Parameter} (mem : parameter ∈ traced) :
    parameter.value.isAt .header "x-trace" = true := by
  simp only [traced, List.mem_cons, List.not_mem_nil, or_false] at mem
  rcases mem with rfl | rfl | rfl <;> decide +kernel

lemma standing_traced : standing traced = [traced[2], traced[1]] := by
  rw [← foldl_declareParameter_eq]
  rfl

lemma lastUnder?_traced : lastUnder? traced .header "x-trace" = some traced[2] := by
  rw [lastUnder?, List.filter_eq_self.2 fun _ => isAt_traced]
  rfl

/-- The last declaration of a header, under a spelling that was declared before, comes too late: the header
has the schema of the other spelling, and it is required as that one is. -/
theorem not_settles_traced :
    ∃ context groups, declarations context ⟨.get, "/pets"⟩ tracedItem tracedOperation = .ok traced ∧
      (∀ parameter ∈ traced, ∃ s, context.parameterSchema parameter = .ok s) ∧
      context.parameterGroups ⟨.get, "/pets"⟩ tracedItem tracedOperation = .ok groups ∧
      ∃ last, lastUnder? traced .header "x-trace" = some last ∧
        context.parameterSchema last = .ok (.mk .boolean false) ∧ last.value.required = false ∧
        Table.get? (groups.at .header).properties "x-trace" = some (.mk .any false) ∧
        "x-trace" ∈ (groups.at .header).required ∧ ¬context.Settles groups last := by
  let context : RouteContext := ⟨⟨[], [], [], []⟩, [], fun _ => none⟩
  have resolved : context.declarations ⟨.get, "/pets"⟩ tracedItem tracedOperation = .ok traced := rfl
  have parses := fun parameter (mem : parameter ∈ traced) => parses_traced context mem
  obtain ⟨groups, grouped⟩ := exists_parameterGroups resolved
    fun parameter counts _ => parses parameter (mem_of_mem_standing counts)
  obtain ⟨_, resolved', described⟩ := describes_parameterGroups grouped
  obtain rfl := Except.ok.inj (resolved'.symm.trans resolved)
  have header := described .header nofun
  have wins : lastUnder? (standing traced) .header "x-trace" = some traced[1] := by
    rw [lastUnder?, List.filter_eq_self.2 fun _ counts => isAt_traced (mem_of_mem_standing counts),
      standing_traced]
    rfl
  have last : context.parameterSchema traced[2] = .ok (.mk .boolean false) :=
    parse_eq_ok_iff.2 ⟨_, Schema.ofJson?_boolean, rfl⟩
  refine ⟨context, groups, resolved, parses, grouped, traced[2], lastUnder?_traced, last, rfl, ?_, ?_, ?_⟩
  · obtain ⟨s, parsed, got⟩ := header.schema "x-trace" _ wins
    rwa [← Except.ok.inj parsed] at got
  · have counts : traced[1] ∈ standing traced := by simp [standing_traced]
    exact (header.required "x-trace").2
      ⟨traced[1], counts, isAt_traced (mem_of_mem_standing counts), .inr rfl⟩
  · rw [settles_iff_standing header lastUnder?_traced]
    rintro ⟨same, -⟩
    cases last.symm.trans (same _ wins).symm

end RouteContext

end SchemaCompiler
