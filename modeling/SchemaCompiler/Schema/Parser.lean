import SchemaCompiler.Schema.Basic
import SchemaCompiler.Schema.Reference

/-!
Reading a schema from its JSON fragment.

Every keyword of a fragment must be one that its kind of schema reads, an annotation, or an
extension; anything else is an error, and so nothing that constrains values is passed over.

* `annotations`, `Form.keywords`: the keywords that may stand in a fragment;
* `SchemaFault`: why a fragment is no schema, and the path within the fragment;
* `Schema.ofJson?`: the schema of a fragment;
* `Schema.parse`: the same with the path attached to the pointer of the fragment.
-/

namespace SchemaCompiler

/-- Keywords that describe a schema without constraining it. -/
def annotations : List String :=
  ["title", "description", "example", "examples", "default", "readOnly", "writeOnly", "deprecated",
    "externalDocs", "xml"]

/-- Keywords of an object that may stand beside `allOf`. -/
def objectKeywords : List String := ["properties", "required", "additionalProperties"]

/-- Extensions start with `x-`. -/
def isExtension (keyword : String) : Bool := Text.hasPrefix "x-" keyword

/-- The keywords that join several schemas. -/
inductive Composition where
  | union (keyword : UnionKeyword)
  | intersection
  deriving DecidableEq

/-- The keyword of a composition. -/
def Composition.text : Composition → String
  | union keyword => keyword.text
  | intersection => "allOf"

/-- All compositions, in the order in which they are looked for. -/
def Composition.all : List Composition := [.union .oneOf, .union .anyOf, .intersection]

/-- The types a schema may declare. -/
inductive TypeName where
  | string
  | integer
  | number
  | boolean
  | null
  | array
  | object
  deriving DecidableEq

/-- The type of a name. -/
def TypeName.ofText? : String → Option TypeName
  | "string" => some string
  | "integer" => some integer
  | "number" => some number
  | "boolean" => some boolean
  | "null" => some null
  | "array" => some array
  | "object" => some object
  | _ => none

/-- The name of a type. -/
def TypeName.text : TypeName → String
  | string => "string"
  | integer => "integer"
  | number => "number"
  | boolean => "boolean"
  | null => "null"
  | array => "array"
  | object => "object"

/-- The forms of a fragment, by which its keywords are read. -/
inductive Form where
  | reference
  | composition (c : Composition)
  | typed (type : TypeName)
  | untyped

/-- The keywords that are read in a form. -/
def Form.keywords : Form → List String
  | reference => ["nullable", "$ref"]
  | composition (.union keyword) => ["nullable", "type", keyword.text, "discriminator"]
  | composition .intersection => ["nullable", "type", "allOf"] ++ objectKeywords
  | typed .string =>
    ["nullable", "type", "format", "minLength", "maxLength", "pattern", "enum"]
  | typed .integer | typed .number =>
    ["nullable", "type", "format", "minimum", "maximum", "exclusiveMinimum", "exclusiveMaximum",
      "multipleOf", "enum"]
  | typed .boolean | typed .null | untyped => ["nullable", "type"]
  | typed .array => ["nullable", "type", "items", "minItems", "maxItems", "uniqueItems"]
  | typed .object => ["nullable", "type"] ++ objectKeywords

/-- Why a fragment is no schema, and the path within it to the part at fault. -/
structure SchemaFault where
  path : List String
  reason : Unsupported

namespace SchemaFault

/-- The fault of a part as a fault of the whole. -/
def under (segments : List String) (fault : SchemaFault) : SchemaFault :=
  { fault with path := segments ++ fault.path }

/-- The error of a fault in the fragment at a pointer. -/
def toError (pointer : String) (fault : SchemaFault) : CompileError :=
  .unsupported (pointer ++ Json.Pointer.render fault.path) fault.reason

end SchemaFault

/-- What reading a part of a fragment gives. -/
abbrev Parsed (α : Type) := Except SchemaFault α

/-- A fault of the fragment itself. -/
def unsupported {α : Type} (reason : Unsupported) : Parsed α := .error ⟨[], reason⟩

/-- Reading a part that lies under some segments. -/
def Parsed.under {α : Type} (segments : List String) (parsed : Parsed α) : Parsed α :=
  match parsed with
  | .ok value => .ok value
  | .error fault => .error (fault.under segments)

/-! ### Keywords -/

/-- The members of a fragment. -/
abbrev Keywords := List (String × Json)

namespace Keywords

/-- A truth value that may be missing. -/
def bool? (keywords : Keywords) (keyword : String) : Parsed (Option Bool) :=
  match Table.get? keywords keyword with
  | none => .ok none
  | some (.bool value) => .ok (some value)
  | some _ => unsupported (.notBoolean keyword)

/-- A natural number that may be missing. -/
def natural? (keywords : Keywords) (keyword : String) : Parsed (Option Nat) :=
  match Table.get? keywords keyword with
  | none => .ok none
  | some value =>
    match value.natural? with
    | some n => .ok (some n)
    | none => unsupported (.notNatural keyword)

/-- A number that may be missing. -/
def number? (keywords : Keywords) (keyword : String) : Parsed (Option Json.Number) :=
  match Table.get? keywords keyword with
  | none => .ok none
  | some (.number value) => .ok (some value)
  | some _ => unsupported (.notNumber keyword)

/-- A string that may be missing. -/
def string? (keywords : Keywords) (keyword : String) : Parsed (Option String) :=
  match Table.get? keywords keyword with
  | none => .ok none
  | some (.string value) => .ok (some value)
  | some _ => unsupported (.notString keyword)

/-- The values other than `null` that an `enum` lists, and whether it lists `null`. -/
def enum? (keywords : Keywords) (nullable : Bool) : Parsed (Option (Enumeration Json)) :=
  match Table.get? keywords "enum" with
  | none => .ok none
  | some (.array values) =>
    let listsNull := values.any Json.isNull
    let members := values.filter (!·.isNull)
    if listsNull && !nullable then unsupported .nullInEnum
    else if members.isEmpty then unsupported .emptyEnum
    else .ok (some ⟨members, listsNull⟩)
  | some _ => unsupported (.notArray "enum")

/-- The first keyword that a form does not read. -/
def unknown? (keywords : Keywords) (form : Form) : Option String :=
  (keywords.map Prod.fst).find? fun keyword =>
    !form.keywords.contains keyword && !isExtension keyword && !annotations.contains keyword

/-- Whether one of several keywords is there. -/
def hasAny (keywords : Keywords) (names : List String) : Bool :=
  names.any (Table.contains keywords ·)

end Keywords

/-! ### Scalars -/

/-- The type that the keywords of a fragment imply when it declares none. -/
def inferType (keywords : Keywords) : Option TypeName :=
  if keywords.hasAny ["properties", "additionalProperties", "required"] then some .object
  else if keywords.hasAny ["items"] then some .array
  else if keywords.hasAny ["minLength", "maxLength", "pattern"] then some .string
  else if keywords.hasAny ["minimum", "maximum", "multipleOf"] then some .number
  else
    match Table.get? keywords "enum" with
    | some (.array values) =>
      let members := values.filter fun
        | .null => false
        | _ => true
      let isString : Json → Bool
        | .string _ => true
        | _ => false
      let isInteger : Json → Bool
        | .number (.integer _) => true
        | _ => false
      let isNumber : Json → Bool
        | .number _ => true
        | _ => false
      if members.isEmpty then none
      else if members.all isString then some .string
      else if members.all isInteger then some .integer
      else if members.all isNumber then some .number
      else none
    | _ => none

/-- The checks of a string. -/
def parseStringChecks (keywords : Keywords) : Parsed StringChecks := do
  let format ← keywords.string? "format"
  let minLength ← keywords.natural? "minLength"
  let maxLength ← keywords.natural? "maxLength"
  let pattern ← keywords.string? "pattern"
  return ⟨format, minLength, maxLength, pattern⟩

/-- The rules of a string. -/
def parseString (keywords : Keywords) (nullable : Bool) : Parsed StringRules := do
  let checks ← parseStringChecks keywords
  match ← keywords.enum? nullable with
  | none => return ⟨checks, none⟩
  | some listed =>
    let values ← listed.values.mapM fun
      | .string value => .ok value
      | other => unsupported (.notStringInEnum other)
    return ⟨checks, some ⟨values, listed.listsNull⟩⟩

/-- The checks of a number.  An exclusive bound needs the bound, and a divisor is positive. -/
def parseNumberChecks (keywords : Keywords) (integer : Bool) : Parsed NumberChecks := do
  let format ← keywords.string? "format"
  let minimum ← keywords.number? "minimum"
  let maximum ← keywords.number? "maximum"
  let exclusiveMinimum ← keywords.bool? "exclusiveMinimum"
  let exclusiveMaximum ← keywords.bool? "exclusiveMaximum"
  let multipleOf ← keywords.number? "multipleOf"
  if exclusiveMinimum = some true ∧ minimum.isNone then
    unsupported (.exclusiveWithoutBound "exclusiveMinimum" "minimum")
  else if exclusiveMaximum = some true ∧ maximum.isNone then
    unsupported (.exclusiveWithoutBound "exclusiveMaximum" "maximum")
  else if multipleOf.any fun divisor => divisor.toDouble.value ≤ 0 then
    unsupported .divisorNotPositive
  else
    return ⟨integer, format, minimum, maximum, exclusiveMinimum.getD false,
      exclusiveMaximum.getD false, multipleOf⟩

/-- The rules of a number. -/
def parseNumber (keywords : Keywords) (integer nullable : Bool) : Parsed NumberRules := do
  let checks ← parseNumberChecks keywords integer
  match ← keywords.enum? nullable with
  | none => return ⟨checks, none⟩
  | some listed =>
    let values ← listed.values.mapM fun
      | .number value =>
        if !integer || value.isWhole then .ok value
        else unsupported (.notNumberInEnum (.number value))
      | other => unsupported (.notNumberInEnum other)
    return ⟨checks, some ⟨values, listed.listsNull⟩⟩

/-- The discriminator of a union. -/
def parseDiscriminator : Json → Parsed Discriminator
  | .object keywords => do
    let some property ← Keywords.string? keywords "propertyName"
      | unsupported .discriminatorWithoutProperty
    let mapping ← match Table.get? keywords "mapping" with
      | none => pure []
      | some (.object entries) =>
        entries.mapM fun
          | (tag, .string target) => .ok (tag, target)
          | _ => unsupported .mappingNotString
      | some _ => unsupported .mappingNotObject
    let unknown := (keywords.map Prod.fst).find? fun keyword =>
      !(["propertyName", "mapping"].contains keyword) && !isExtension keyword &&
        !annotations.contains keyword
    match unknown with
    | some keyword => unsupported (.unknownKeyword keyword)
    | none => return ⟨property, mapping⟩
  | _ => unsupported .discriminatorNotObject

/-- The names that are required, each of which must have a property. -/
def parseRequired (keywords : Keywords) (properties : List (String × Schema)) :
    Parsed (List String) :=
  match Table.get? keywords "required" with
  | none => .ok []
  | some (.array names) => do
    let names ← names.mapM fun
      | .string name =>
        if Table.contains properties name then .ok name
        else unsupported (.requiredWithoutSchema name)
      | _ => unsupported .requiredNotString
    return names.eraseDups
  | some _ => unsupported (.notArray "required")

/-- The composition of a fragment, if it has one; it can have one only. -/
def findComposition (keywords : Keywords) : Parsed (Option Composition) :=
  match Composition.all.filter fun c => Table.contains keywords c.text with
  | [] => .ok none
  | [c] => .ok (some c)
  | several => unsupported (.combined (several.map Composition.text))

/-- Whether a composition is marked as being of type `object`, the only type it can have. -/
def parseObjectTyped (keywords : Keywords) (c : Composition) : Parsed Bool :=
  match Table.get? keywords "type" with
  | none => .ok false
  | some (.string "object") => .ok true
  | some _ => unsupported (.typeBeside c.text)

/-- The type of a fragment that is neither a reference nor a composition. -/
def findType (keywords : Keywords) : Parsed (Option TypeName) :=
  match Table.get? keywords "type" with
  | some (.string name) =>
    match TypeName.ofText? name with
    | some type => .ok (some type)
    | none => unsupported (.unknownType name)
  | some (.array _) => unsupported .typeArray
  | some other => unsupported (.typeNotString other)
  | none =>
    match inferType keywords with
    | some type => .ok (some type)
    | none =>
      if Table.contains keywords "enum" then unsupported .mixedEnum else .ok none

theorem Table.sizeOf_get?_object {members entries : List (String × Json)} {name : String}
    (h : Table.get? members name = some (.object entries)) : sizeOf entries < sizeOf members := by
  have := Table.sizeOf_get? h
  simp at this
  omega

theorem Table.sizeOf_get?_array {members : List (String × Json)} {items : List Json}
    {name : String} (h : Table.get? members name = some (.array items)) :
    sizeOf items < sizeOf members := by
  have := Table.sizeOf_get? h
  simp at this
  omega

/-! ### Fragments -/

mutual

/-- The schema of a fragment. -/
def Schema.ofJson? : Json → Parsed Schema
  | .object keywords => do
    let nullable ← Keywords.bool? keywords "nullable"
    let nullable := nullable.getD false
    let (form, kind) ← parseForm keywords nullable
    match Keywords.unknown? keywords form with
    | some keyword => unsupported (.unknownKeyword keyword)
    | none => return .mk kind nullable
  | _ => unsupported .notObject
termination_by v => (sizeOf v, 0)

/-- The form of a fragment and its kind. -/
def parseForm (keywords : List (String × Json)) (nullable : Bool) : Parsed (Form × SchemaKind) :=
  match Table.get? keywords "$ref" with
  | some reference =>
    match Reference.ofJson? reference with
    | .ok name => .ok (.reference, .reference name)
    | .error reason => unsupported reason
  | none => do
    match ← findComposition keywords with
    | some c => return (.composition c, ← parseComposition keywords c)
    | none =>
      match ← findType keywords with
      | some type => return (.typed type, ← parseTyped keywords type nullable)
      | none => return (.untyped, .any)
termination_by (sizeOf keywords, 3)

/-- The kind of a composition. -/
def parseComposition (keywords : List (String × Json)) (c : Composition) : Parsed SchemaKind := do
  let objectTyped ← parseObjectTyped keywords c
  let members ← parseMembers keywords c.text
  let sibling := objectKeywords.find? (Table.contains keywords ·)
  match c, sibling with
  | .union keyword, some sibling => unsupported (.besideUnion sibling keyword.text)
  | .union keyword, none =>
    match Table.get? keywords "discriminator" with
    | none => return .union keyword members none objectTyped
    | some raw =>
      let discriminator ← (parseDiscriminator raw).under ["discriminator"]
      return .union keyword members (some discriminator) objectTyped
  | .intersection, some _ => return .intersection members (some (← parseObject keywords)) objectTyped
  | .intersection, none => return .intersection members none objectTyped
termination_by (sizeOf keywords, 2)

/-- The members of a composition, at least one. -/
def parseMembers (keywords : List (String × Json)) (keyword : String) : Parsed (List Schema) :=
  match h : Table.get? keywords keyword with
  | some (.array items) =>
    have := Table.sizeOf_get?_array h
    if items.isEmpty then unsupported (.noMembers keyword) else parseItems keyword 0 items
  | _ => unsupported (.notArray keyword)
termination_by (sizeOf keywords, 0)

/-- The kind of a fragment of a type. -/
def parseTyped (keywords : List (String × Json)) (type : TypeName) (nullable : Bool) :
    Parsed SchemaKind :=
  match type with
  | .string => return .string (← parseString keywords nullable)
  | .integer => return .number (← parseNumber keywords true nullable)
  | .number => return .number (← parseNumber keywords false nullable)
  | .boolean => return .boolean
  | .null => return .null
  | .array => do
    let items ← parseItemRule keywords
    let minItems ← Keywords.natural? keywords "minItems"
    let maxItems ← Keywords.natural? keywords "maxItems"
    let unique ← Keywords.bool? keywords "uniqueItems"
    if unique = some true then unsupported .uniqueItems else return .array items ⟨minItems, maxItems⟩
  | .object => return .object (← parseObject keywords)
termination_by (sizeOf keywords, 2)

/-- The schema of the items of an array. -/
def parseItemRule (keywords : List (String × Json)) : Parsed Schema :=
  match h : Table.get? keywords "items" with
  | none => unsupported .noItems
  | some items =>
    have := Table.sizeOf_get? h
    (Schema.ofJson? items).under ["items"]
termination_by (sizeOf keywords, 0)

/-- The rules of an object. -/
def parseObject (keywords : List (String × Json)) : Parsed (ObjectRules Schema) := do
  let properties ← parseProperties keywords
  let required ← parseRequired keywords properties
  let extras ← parseExtras keywords
  return ⟨properties, required, extras⟩
termination_by (sizeOf keywords, 1)

/-- The named properties of an object. -/
def parseProperties (keywords : List (String × Json)) : Parsed (List (String × Schema)) :=
  match h : Table.get? keywords "properties" with
  | none => .ok []
  | some (.object entries) =>
    have := Table.sizeOf_get?_object h
    parseEntries entries
  | some _ => unsupported .propertiesNotObject
termination_by (sizeOf keywords, 0)

/-- What holds of the members that are not named. -/
def parseExtras (keywords : List (String × Json)) : Parsed (Extras Schema) :=
  match h : Table.get? keywords "additionalProperties" with
  | none => .ok .unspecified
  | some (.bool true) => .ok .allow
  | some (.bool false) => .ok .forbid
  | some rule => do
    have := Table.sizeOf_get? h
    return .schema (← (Schema.ofJson? rule).under ["additionalProperties"])
termination_by (sizeOf keywords, 0)

/-- The members of a composition, from an index on. -/
def parseItems (keyword : String) (index : Nat) : List Json → Parsed (List Schema)
  | [] => .ok []
  | item :: rest => do
    let member ← (Schema.ofJson? item).under [keyword, toString index]
    let members ← parseItems keyword (index + 1) rest
    return member :: members
termination_by items => (sizeOf items, 0)

/-- The properties of some entries. -/
def parseEntries : List (String × Json) → Parsed (List (String × Schema))
  | [] => .ok []
  | (name, value) :: rest => do
    let property ← (Schema.ofJson? value).under ["properties", name]
    let properties ← parseEntries rest
    return (name, property) :: properties
termination_by entries => (sizeOf entries, 0)

end

/-- The schema of the fragment at a pointer. -/
def Schema.parse (value : Json) (pointer : String) : Except CompileError Schema :=
  match Schema.ofJson? value with
  | .ok s => .ok s
  | .error fault => .error (fault.toError pointer)

end SchemaCompiler
