import SchemaCompiler.Json.Reader
import SchemaCompiler.Text.Visible

/-!
Decoding: reading a JSON source into values of a given shape.

Decoders meet the parts of a source in the order of its text and stop at the first that is at fault,
be it of the wrong shape or no JSON.  Objects with known members can also be written as lists of the
values of these members.

* `Json.DecodeError`: the cause of a failure, the steps to its place, and where that is in the text;
* `Json.Decoder`: the decoders, with `Decoder.json` for any value and `Decoder.list`,
  `Decoder.table`, `Decoder.option` and `Decoder.record` for composed shapes;
* `Json.read`: the value of a whole text.
-/

namespace SchemaCompiler.Json

/-! ### Failures -/

/-- A step on the way to the place of a failure. -/
inductive DecodeStep where
  | key (name : String)
  | index (index : Nat)
  /-- To a member whose name cannot be read. -/
  | unknown
  deriving DecidableEq, Repr

/-- The steps as text, with points before all but indices. -/
def describeSteps : List DecodeStep → String
  | [] => "."
  | first :: rest =>
    let word := fun
      | DecodeStep.key name => name
      | .index i => s!"[{i}]"
      | .unknown => "?"
    let separated := fun
      | DecodeStep.index i => s!"[{i}]"
      | other => "." ++ word other
    word first ++ String.join (rest.map separated)

/-- Why a decoder fails. -/
inductive DecodeCause where
  | fault (kind : FaultKind)
  | wrongType (found expected : String)
  | wrongLength (length : Nat) (expected : String)
  | missingField (name : String)
  | repeatedField (name : String)
  | unknownField (name : String) (known : List String)
  | noVariant (type : String)
  deriving DecidableEq, Repr

/-- Some names as a choice. -/
def choice (names : List String) : String :=
  match names.map fun name => s!"`{name}`" with
  | [] => "nothing"
  | [a, b] => a ++ " or " ++ b
  | [a] => a
  | several => "one of " ++ Text.join ", " several

/-- The wording of a cause. -/
def DecodeCause.message : DecodeCause → String
  | fault kind => kind.message
  | wrongType found expected => s!"invalid type: {found}, expected {expected}"
  | wrongLength length expected => s!"invalid length {length}, expected {expected}"
  | missingField name => s!"missing field `{name}`"
  | repeatedField name => s!"duplicate field `{name}`"
  | unknownField name known => s!"unknown field `{name}`, expected {choice known}"
  | noVariant type => s!"data did not match any variant of untagged enum {type}"

/-- A failure: its cause, the steps to its place, and the position in the text, if there is one. -/
structure DecodeError where
  steps : List DecodeStep
  cause : DecodeCause
  position : Option Position
  deriving DecidableEq, Repr

namespace DecodeError

/-- A failure by a fault in the text. -/
def ofFault (fault : Fault) : DecodeError := ⟨[], .fault fault.kind, some fault.position⟩

/-- The failure seen from one step further out. -/
def within (step : DecodeStep) (error : DecodeError) : DecodeError :=
  { error with steps := step :: error.steps }

/-- The failure with a position, if it has none. -/
def orAt (position : Position) (error : DecodeError) : DecodeError :=
  { error with position := error.position.or (some position) }

/-- The wording of the cause with the position. -/
def message (error : DecodeError) : String :=
  match error.position with
  | some position => error.cause.message ++ " " ++ position.describe
  | none => error.cause.message

end DecodeError

/-! ### Decoders -/

/-- Reads a source at a depth of nesting. -/
abbrev Decoder (α : Type) := (depth : Nat) → Source → Except DecodeError α

/-- Lists and objects may be nested this deep. -/
def depthLimit : Nat := 127

/-- The place of a list or object that is nested too deep. -/
def tooDeep (start : Position) : DecodeError := .ofFault ⟨.tooDeep, ⟨start.line, start.column + 1⟩⟩

/-- The name of a member, if it is a string. -/
def memberName (m : SourceMember Source) : Except DecodeError String :=
  m.name.mapError fun fault => (DecodeError.ofFault fault).within .unknown

/-- A value, read at a place that a name leads to. -/
def memberValue {α : Type} (decoder : Decoder α) (depth : Nat) (name : String)
    (m : SourceMember Source) : Except DecodeError α :=
  match m.value with
  | .noColon fault => .error (.ofFault fault)
  | value => (decoder depth value).mapError fun e => (e.within (.key name)).orAt m.resume

/-- A value, read at a place in a list. -/
def itemValue {α : Type} (decoder : Decoder α) (depth index : Nat) (item : SourceItem Source) :
    Except DecodeError α :=
  (decoder depth item.value).mapError fun e => (e.within (.index index)).orAt item.resume

namespace Decoder

mutual

/-- Any value. -/
def json (depth : Nat) : Source → Except DecodeError Json
  | .null _ => .ok .null
  | .bool value _ => .ok (.bool value)
  | .number value _ => (value.map Json.number).mapError .ofFault
  | .string value _ => (value.map Json.string).mapError .ofFault
  | .array start items closing =>
    if depth < depthLimit then do
      let items ← jsonItems (depth + 1) 0 items
      match closing with
      | .complete | .closed _ => return .array items
      | .broken breach => throw (.ofFault breach.used)
    else .error (tooDeep start)
  | .object start members closing =>
    if depth < depthLimit then do
      let members ← jsonMembers (depth + 1) members
      match closing with
      | .complete | .closed _ => return .object (Table.ofEntries members)
      | .broken breach => throw ((DecodeError.ofFault breach.used).within .unknown)
    else .error (tooDeep start)
  | .fault breach => .error (.ofFault breach.used)
  | .noColon f => .error (.ofFault f)

/-- The values of the items from an index on. -/
def jsonItems (depth index : Nat) : List (SourceItem Source) → Except DecodeError (List Json)
  | [] => .ok []
  | ⟨value, _⟩ :: rest => do
    let value ← (json depth value).mapError (·.within (.index index))
    return value :: (← jsonItems depth (index + 1) rest)

/-- The members with their values.  A fault between a name and its value is none of the value. -/
def jsonMembers (depth : Nat) :
    List (SourceMember Source) → Except DecodeError (List (String × Json))
  | [] => .ok []
  | ⟨.error fault, _, _, _⟩ :: _ => .error ((DecodeError.ofFault fault).within .unknown)
  | ⟨.ok _, _, .noColon f, _⟩ :: _ => .error (.ofFault f)
  | ⟨.ok name, _, value, _⟩ :: rest => do
    let value ← (json depth value).mapError (·.within (.key name))
    return (name, value) :: (← jsonMembers depth rest)

end

/-- A value of another type than the expected one, which is described with its place. -/
def mismatch {α : Type} (expected : String) (source : Source) : Except DecodeError α :=
  let wrong := fun (found : String) (place : Position) =>
    Except.error ⟨[], .wrongType found expected, some place⟩
  match source with
  | .null stop => wrong "null" stop
  | .bool value stop => wrong s!"boolean `{value}`" stop
  | .number (.ok (.integer n)) stop => wrong s!"integer `{n}`" stop
  | .number (.ok (.real x)) stop => wrong s!"floating point `{(Json.Number.real x).text}`" stop
  | .string (.ok text) stop => wrong s!"string {Text.visible text}" stop
  | .number (.error f) _ => .error (.ofFault f)
  | .string (.error f) _ => .error (.ofFault f)
  | .array start _ _ => wrong "sequence" start
  | .object start _ _ => wrong "map" start
  | .fault breach => .error (.ofFault breach.used)
  | .noColon f => .error (.ofFault f)

/-- A string. -/
def string : Decoder String
  | _, .string (.ok text) _ => .ok text
  | _, other => mismatch "a string" other

/-- A truth value. -/
def bool : Decoder Bool
  | _, .bool value _ => .ok value
  | _, other => mismatch "a boolean" other

/-- A value that may be `null`. -/
def option {α : Type} (decoder : Decoder α) : Decoder (Option α)
  | _, .null _ => .ok none
  | depth, source => some <$> decoder depth source

/-- The items from an index on. -/
def items {α : Type} (decoder : Decoder α) (depth index : Nat) :
    List (SourceItem Source) → Except DecodeError (List α)
  | [] => .ok []
  | item :: rest => do
    let value ← itemValue decoder depth index item
    return value :: (← items decoder depth (index + 1) rest)

/-- A list. -/
def list {α : Type} (decoder : Decoder α) : Decoder (List α)
  | depth, .array start sources closing =>
    if depth < depthLimit then do
      let values ← items decoder (depth + 1) 0 sources
      match closing with
      | .complete | .closed _ => return values
      | .broken breach => throw (.ofFault breach.used)
    else .error (tooDeep start)
  | _, other => mismatch "a sequence" other

/-- The members with their values. -/
def members {α : Type} (decoder : Decoder α) (depth : Nat) :
    List (SourceMember Source) → Except DecodeError (List (String × α))
  | [] => .ok []
  | m :: rest => do
    let name ← memberName m
    let value ← memberValue decoder depth name m
    return (name, value) :: (← members decoder depth rest)

/-- An object as a table. -/
def table {α : Type} (decoder : Decoder α) : Decoder (Table α)
  | depth, .object start sources closing =>
    if depth < depthLimit then do
      let entries ← members decoder (depth + 1) sources
      match closing with
      | .complete | .closed _ => return Table.ofEntries entries
      | .broken breach => throw ((DecodeError.ofFault breach.used).within .unknown)
    else .error (tooDeep start)
  | _, other => mismatch "a map" other

/-! ### Members that are not used -/

mutual

/-- Passes over a value that is not used.  It can be nested at any depth, and its numbers and strings
can be such that no value has them. -/
def ignored : Source → Except Fault Unit
  | .array _ items closing => do
    ignoredItems items
    match closing with
    | .broken breach => throw breach.skipped
    | _ => return
  | .object _ members closing => do
    ignoredMembers members
    match closing with
    | .broken breach => throw breach.skipped
    | _ => return
  | .fault breach => throw breach.skipped
  | .noColon f => throw f
  | _ => return

/-- Passes over items. -/
def ignoredItems : List (SourceItem Source) → Except Fault Unit
  | [] => return
  | ⟨value, _⟩ :: rest => do
    ignored value
    ignoredItems rest

/-- Passes over members. -/
def ignoredMembers : List (SourceMember Source) → Except Fault Unit
  | [] => return
  | ⟨_, _, value, _⟩ :: rest => do
    ignored value
    ignoredMembers rest

end

/-! ### Records -/

/-- What is known of a member of a record that is built up as a value of type `α`. -/
structure FieldRule (α : Type) where
  name : String
  /-- An object without the member is no such record. -/
  isRequired : Bool
  /-- A list that ends before the member is no such record. -/
  isListed : Bool
  read : Decoder (α → α)

/-- A member that must be there. -/
def required {α β : Type} (name : String) (decoder : Decoder β) (set : β → α → α) : FieldRule α :=
  ⟨name, true, true, fun depth source => set <$> decoder depth source⟩

/-- A member that can be left out. -/
def defaulted {α β : Type} (name : String) (decoder : Decoder β) (set : β → α → α) : FieldRule α :=
  ⟨name, false, false, fun depth source => set <$> decoder depth source⟩

/-- A member that can be left out of an object or be `null`. -/
def optional {α β : Type} (name : String) (decoder : Decoder β) (set : Option β → α → α) :
    FieldRule α :=
  ⟨name, false, true, fun depth source => set <$> option decoder depth source⟩

/-- The number of elements of a record in words. -/
def elements (count : Nat) : String := if count = 1 then "1 element" else s!"{count} elements"

/-- What is done with the members of an object that have no rule. -/
inductive Others where
  | ignored
  | refused
  deriving DecidableEq, Repr

/-- A record from the members of an object, with the names of those that were read. -/
def recordMembers {α : Type} (others : Others) (rules : List (FieldRule α)) (depth : Nat) (value : α)
    (seen : List String) :
    List (SourceMember Source) → Except DecodeError (α × List String)
  | [] => .ok (value, seen)
  | m :: rest => do
    let name ← memberName m
    match rules.find? fun rule => rule.name = name with
    | none =>
      match others with
      | .refused => .error ⟨[], .unknownField name (rules.map FieldRule.name), some m.resumeName⟩
      | .ignored =>
        let _ ← memberValue (fun _ source => (ignored source).mapError .ofFault) depth name m
        recordMembers others rules depth value seen rest
    | some rule =>
      if seen.contains name then .error ⟨[], .repeatedField name, some m.resumeName⟩
      else
        let update ← memberValue rule.read depth name m
        recordMembers others rules depth (update value) (name :: seen) rest

/-- A fault after the last value of a record in a list. -/
def surplusFault (fault : Fault) : Fault :=
  match fault.kind with
  | .endInValue | .expectedListCommaOrEnd => { fault with kind := .trailingCharacters }
  | _ => fault

/-- The failure of a list that is longer than its record; a text is left at the first value too many,
and a value that was read is known to its end. -/
def surplus (length : Nat) (last : Position) : Closing → DecodeError
  | .complete => ⟨[], .wrongLength length "fewer elements in array", none⟩
  | _ => .ofFault ⟨.trailingCharacters, ⟨last.line, last.column + 1⟩⟩

/-- A record from the items of a list, in the order of the rules. -/
def recordItems {α : Type} (expected : String) (depth index : Nat) (length : Nat)
    (closing : Closing) (last : Position) (value : α) :
    List (FieldRule α) → List (SourceItem Source) → Except DecodeError α
  | [], [] =>
    match closing with
    | .broken breach => .error (.ofFault (surplusFault breach.used))
    | _ => .ok value
  | [], _ :: _ => .error (surplus length last closing)
  | rule :: rules, item :: items => do
    let update ← itemValue rule.read depth index item
    recordItems expected depth (index + 1) length closing item.resume (update value) rules items
  | rule :: rules, [] =>
    match closing with
    | .broken breach => .error (.ofFault breach.used)
    | _ =>
      if rule.isListed then
        let stop := match closing with
          | .closed stop => some stop
          | _ => none
        .error ⟨[], .wrongLength index expected, stop⟩
      else recordItems expected depth (index + 1) length closing last value rules []

/-- A record: an object with the members of some rules, or a list of their values. -/
def recordWith {α : Type} (others : Others) (name : String) (rules : List (FieldRule α)) (start : α) :
    Decoder α
  | depth, .object place sources closing =>
    if depth < depthLimit then do
      let (value, seen) ← recordMembers others rules (depth + 1) start [] sources
      let missing := rules.find? fun rule => rule.isRequired && !seen.contains rule.name
      match closing, missing with
      | .broken breach, _ => throw ((DecodeError.ofFault breach.used).within .unknown)
      | _, none => return value
      | .closed stop, some rule => throw ⟨[], .missingField rule.name, some stop⟩
      | .complete, some rule => throw ⟨[], .missingField rule.name, none⟩
    else .error (tooDeep place)
  | depth, .array place sources closing =>
    if depth < depthLimit then
      recordItems s!"struct {name} with {elements rules.length}" (depth + 1) 0 sources.length closing
        place start rules sources
    else .error (tooDeep place)
  | _, other => mismatch s!"struct {name}" other

/-- A record whose further members are not used. -/
def record {α : Type} (name : String) (rules : List (FieldRule α)) (start : α) : Decoder α :=
  recordWith .ignored name rules start

/-- A record without further members. -/
def closedRecord {α : Type} (name : String) (rules : List (FieldRule α)) (start : α) : Decoder α :=
  recordWith .refused name rules start

end Decoder

/-! ### Whole texts -/

/-- The value of a whole text: nothing but blanks may follow it. -/
def read (text : String) : Except DecodeError Json := do
  let (source, rest) := Source.ofText text
  let value ← Decoder.json 0 source
  match rest.map Cursor.skipBlanks with
  | some c =>
    if c.rest.isEmpty then return value else throw (.ofFault (c.faultAhead .trailingCharacters))
  | none => return value

end SchemaCompiler.Json
