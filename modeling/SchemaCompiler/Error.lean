import SchemaCompiler.Json.Pointer
import SchemaCompiler.PathTemplate

/-!
What can stop a document from compiling.

* `Unsupported`: the reasons for which a schema, or another part of a document, is not understood;
* `CompileError`: the errors, each with what it is about;
* `Unsupported.message`, `CompileError.message`: their wording;
* `CompileError.isRouteScoped`: the errors that drop one route instead of the whole document.
-/

namespace SchemaCompiler

/-- References to components start with this text. -/
def componentPrefix : String := "#/components/schemas/"

/-- Why a part of a document is not understood.  Where a keyword is named it is the one at fault. -/
inductive Unsupported where
  | notObject
  | notBoolean (keyword : String)
  | notNatural (keyword : String)
  | notNumber (keyword : String)
  | notString (keyword : String)
  | notArray (keyword : String)
  | unknownKeyword (keyword : String)
  | foreignReference (reference : String)
  | unnamedReference (reference : String)
  | undecodableReference (reference : String)
  | combined (keywords : List String)
  | typeBeside (keyword : String)
  | noMembers (keyword : String)
  | besideUnion (sibling keyword : String)
  | discriminatorNotObject
  | discriminatorWithoutProperty
  | mappingNotObject
  | mappingNotString
  | typeArray
  | typeNotString (found : Json)
  | unknownType (name : String)
  | mixedEnum
  | nullInEnum
  | emptyEnum
  | notStringInEnum (found : Json)
  | notNumberInEnum (found : Json)
  | exclusiveWithoutBound (keyword bound : String)
  | divisorNotPositive
  | noItems
  | uniqueItems
  | propertiesNotObject
  | requiredNotString
  | requiredWithoutSchema (name : String)
  | version (found : String)
  | registryNotObject
  | registryAliasNotString

/-- The wording of a reason. -/
def Unsupported.message : Unsupported → String
  | notObject => "schema must be a JSON object"
  | notBoolean keyword => s!"'{keyword}' must be a boolean"
  | notNatural keyword => s!"'{keyword}' must be a non-negative integer"
  | notNumber keyword => s!"'{keyword}' must be a number"
  | notString keyword => s!"'{keyword}' must be a string"
  | notArray keyword => s!"'{keyword}' must be an array"
  | unknownKeyword keyword => s!"unsupported keyword '{keyword}'"
  | foreignReference reference =>
    s!"only '{componentPrefix}' references are supported, found '{reference}'"
  | unnamedReference reference => s!"'{reference}' does not name a component schema"
  | undecodableReference reference => s!"'{reference}' is not valid UTF-8"
  | combined keywords => "cannot combine " ++ Text.join " and " keywords
  | typeBeside keyword => s!"'{keyword}' can only be combined with 'type: object'"
  | noMembers keyword => s!"'{keyword}' must have at least one member"
  | besideUnion sibling keyword =>
    s!"'{sibling}' beside '{keyword}' is not supported; " ++
      "move it into every member or wrap the union in 'allOf'"
  | discriminatorNotObject => "discriminator must be an object"
  | discriminatorWithoutProperty => "discriminator requires 'propertyName'"
  | mappingNotObject => "discriminator mapping must be an object"
  | mappingNotString => "discriminator mapping values must be strings"
  | typeArray => "type arrays are OpenAPI 3.1; use 'nullable: true'"
  | typeNotString found => s!"'type' must be a string, found {found.text}"
  | unknownType name => s!"unknown type '{name}'"
  | mixedEnum => "cannot infer a type for an enum mixing value kinds"
  | nullInEnum => "enum contains null but the schema is not nullable"
  | emptyEnum => "'enum' must have at least one non-null value"
  | notStringInEnum found => s!"string enum contains non-string value {found.text}"
  | notNumberInEnum found => s!"numeric enum contains invalid value {found.text}"
  | exclusiveWithoutBound keyword bound => s!"'{keyword}' requires '{bound}'"
  | divisorNotPositive => "'multipleOf' must be greater than zero"
  | noItems => "array schema requires 'items'"
  | uniqueItems => "'uniqueItems' is not supported"
  | propertiesNotObject => "'properties' must be an object"
  | requiredNotString => "'required' entries must be strings"
  | requiredWithoutSchema name => s!"required property '{name}' has no schema"
  | version found => s!"OpenAPI version '{found}' is not 3.0.x"
  | registryNotObject => "registry file must be a JSON object"
  | registryAliasNotString => "registry aliases must be strings"

/-- An integer without canonical text. -/
inductive CanonicalFault where
  | tooGreat
  | tooSmall
  deriving DecidableEq, Repr

/-- The wording of a canonical fault. -/
def CanonicalFault.message : CanonicalFault → String
  | tooGreat => "u64 must be less than JSON max safe integer"
  | tooSmall => "i64.abs() must be less than JSON max safe integer"

/-- Everything that can stop a document, or one of its routes, from compiling. -/
inductive CompileError where
  | unsupported (pointer : String) (reason : Unsupported)
  | conflictingRegistration (key existing requested : String)
  | invalidAlias (name : String)
  | danglingReference (source target : String)
  | undeclaredPlaceholders (method path : String) (missing : List String)
  | invalidTemplate (method path : String) (cause : TemplateError)
  | unresolvedComponent (method path reference : String)
  | canonicalization (cause : CanonicalFault)

namespace CompileError

/-- The wording of an error. -/
def message : CompileError → String
  | unsupported pointer reason => s!"unsupported schema at '{pointer}': {reason.message}"
  | conflictingRegistration key existing requested =>
    s!"{key} is already registered as '{existing}', cannot register '{requested}'"
  | invalidAlias name => s!"registry alias '{name}' is not a valid identifier"
  | danglingReference source target => s!"schema '{source}' references undefined schema '{target}'"
  | undeclaredPlaceholders method path missing =>
    s!"{method} {path}: placeholders [" ++ Text.join ", " missing ++
      "] are not declared as path parameters"
  | invalidTemplate method path cause =>
    s!"{method} {path}: invalid path template: {cause.message}"
  | unresolvedComponent method path reference =>
    s!"{method} {path}: cannot resolve '{reference}'"
  | canonicalization cause => s!"failed to canonicalize schema: {cause.message}"

/-- The errors of a route drop that route alone; all others stop the document. -/
def isRouteScoped : CompileError → Bool
  | undeclaredPlaceholders .. | invalidTemplate .. | unresolvedComponent .. => true
  | _ => false

end CompileError

end SchemaCompiler
