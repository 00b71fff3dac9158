import SchemaCompiler.Document.Basic
import SchemaCompiler.Json.Decoder

/-!
Reading documents.

* `Decoder.linked`: a part of a document, or a reference to one, which goes first if both could be
  meant;
* `Decoder.document`: a document;
* `Document.ofJson`, `Document.ofText`: a document in a value, and one in a text.
-/

namespace SchemaCompiler

namespace Json.Decoder

/-- An object with a reference.  Its other members are not used. -/
def reference (depth : Nat) (source : Source) : Except DecodeError String :=
  match source with
  | .object .. => record "" [required "$ref" string fun target _ => target] "" depth source
  | other => mismatch "a map" other

/-- A part of a document or a reference to one.  The value is first read whatever it is, and only
then taken for one of the two. -/
def linked {α : Type} (decoder : Decoder α) : Decoder (Linked α) := fun depth source => do
  let _ ← json depth source
  match reference depth source, decoder depth source with
  | .ok target, _ => return .reference target
  | _, .ok value => return .inline value
  | _, _ => .error ⟨[], .noVariant "RefOr", none⟩

/-- A location: its name, or an object that gives the name nothing. -/
def location : Decoder ParameterLocation := fun depth source =>
  let ofName := fun
    | "path" => some ParameterLocation.path
    | "query" => some .query
    | "header" => some .header
    | "cookie" => some .cookie
    | _ => none
  let found := match source with
    | .string (.ok name) _ => ofName name
    | .object _ [⟨.ok name, _, .null _, _⟩] _ => ofName name
    | _ => none
  match found with
  | some location => .ok location
  | none => (string depth source).bind fun _ => mismatch "a location" source

/-- A parameter. -/
def parameter : Decoder Parameter :=
  record "Parameter"
    [required "name" string fun name p => { p with name },
      required "in" location fun location p => { p with location },
      defaulted "required" bool fun required p => { p with required },
      optional "schema" json fun schema p => { p with schema }]
    ⟨"", .query, false, none⟩

/-- What a media type is used for. -/
def media : Decoder Media :=
  record "MediaTypeObject" [optional "schema" json fun schema _ => ⟨schema⟩] ⟨none⟩

/-- A body of a request. -/
def requestBody : Decoder RequestBody :=
  record "RequestBody"
    [defaulted "content" (table media) fun content b => { b with content },
      defaulted "required" bool fun required b => { b with required }]
    ⟨[], false⟩

/-- A response. -/
def response : Decoder Response :=
  record "Response" [defaulted "content" (table media) fun content _ => ⟨content⟩] ⟨[]⟩

/-- An operation. -/
def operation : Decoder Operation :=
  record "Operation"
    [optional "operationId" string fun operationId o => { o with operationId },
      defaulted "parameters" (list (linked parameter)) fun parameters o => { o with parameters },
      optional "requestBody" (linked requestBody) fun requestBody o => { o with requestBody },
      defaulted "responses" (table (linked response)) fun responses o => { o with responses }]
    ⟨none, [], none, []⟩

/-- The path item with the operation of a method. -/
def setOperation (method : Method) (operation : Option Operation) (item : PathItem) : PathItem :=
  { item with operation? := fun m => if m = method then operation else item.operation? m }

/-- The operations of a path. -/
def pathItem : Decoder PathItem :=
  record "PathItem"
    (defaulted "parameters" (list (linked parameter)) (fun parameters p => { p with parameters }) ::
      Method.all.map fun method => optional method.keyword operation (setOperation method))
    ⟨[], fun _ => none⟩

/-- The parts that references can name. -/
def components : Decoder Components :=
  record "Components"
    [defaulted "schemas" (table json) fun schemas c => { c with schemas },
      defaulted "parameters" (table (linked parameter)) fun parameters c => { c with parameters },
      defaulted "requestBodies" (table (linked requestBody))
        fun requestBodies c => { c with requestBodies },
      defaulted "responses" (table (linked response)) fun responses c => { c with responses }]
    ⟨[], [], [], []⟩

/-- What a document says about itself. -/
def info : Decoder Info :=
  record "Info"
    [defaulted "title" string fun title i => { i with title },
      defaulted "version" string fun version i => { i with version },
      optional "description" string fun description i => { i with description }]
    ⟨"", "", none⟩

/-- A document. -/
def document : Decoder Document :=
  record "OpenApiDocument"
    [required "openapi" string fun openapi d => { d with openapi },
      defaulted "info" info fun info d => { d with info },
      defaulted "paths" (table pathItem) fun paths d => { d with paths },
      defaulted "components" components fun components d => { d with components }]
    ⟨"", ⟨"", "", none⟩, [], ⟨[], [], [], []⟩⟩

end Json.Decoder

namespace Document

/-- The document in a value. -/
def ofJson (value : Json) : Except Json.DecodeError Document :=
  Json.Decoder.document 0 (.ofJson value)

/-- The document at the beginning of a text. -/
def ofText (text : String) : Except Json.DecodeError Document :=
  Json.Decoder.document 0 (Json.Source.ofText text).1

end Document

end SchemaCompiler
