import SchemaCompiler.Json.Value

/-!
Documents that describe an interface: its paths, their operations, and components that both share.

Schemas are kept as JSON; all else is typed.

* `Linked`: a part of a document, or a reference to one;
* `Parameter`, `RequestBody`, `Response`: the parts of operations, and `Media`, their contents;
* `Method`, `Operation`, `PathItem`: the operations of a path;
* `Components`, `Document`: the shared parts, and a document.
-/

namespace SchemaCompiler

/-- A part of a document, or a reference to one. -/
inductive Linked (α : Type) where
  | reference (target : String)
  | inline (value : α)

/-- Where a parameter stands. -/
inductive ParameterLocation where
  | path
  | query
  | header
  | cookie
  deriving DecidableEq, Repr

/-- The word for a location. -/
def ParameterLocation.name : ParameterLocation → String
  | path => "path"
  | query => "query"
  | header => "header"
  | cookie => "cookie"

/-- A parameter of an operation. -/
structure Parameter where
  name : String
  location : ParameterLocation
  required : Bool
  schema : Option Json

/-- What a media type is used for. -/
structure Media where
  schema : Option Json

/-- The body of a request, by media type. -/
structure RequestBody where
  content : Table Media
  required : Bool

/-- A response, by media type. -/
structure Response where
  content : Table Media

/-- The methods of operations. -/
inductive Method where
  | get
  | put
  | post
  | delete
  | options
  | head
  | patch
  | trace
  deriving DecidableEq, Repr

namespace Method

/-- The methods in the order in which operations are listed. -/
def all : List Method := [get, put, post, delete, options, head, patch, trace]

/-- The name of a method in capital letters. -/
def name : Method → String
  | get => "GET"
  | put => "PUT"
  | post => "POST"
  | delete => "DELETE"
  | options => "OPTIONS"
  | head => "HEAD"
  | patch => "PATCH"
  | trace => "TRACE"

/-- The keyword for the operation of a method. -/
def keyword : Method → String
  | get => "get"
  | put => "put"
  | post => "post"
  | delete => "delete"
  | options => "options"
  | head => "head"
  | patch => "patch"
  | trace => "trace"

end Method

/-- An operation.  Responses are listed by status. -/
structure Operation where
  operationId : Option String
  parameters : List (Linked Parameter)
  requestBody : Option (Linked RequestBody)
  responses : Table (Linked Response)

/-- The operations of a path, at most one for a method, and the parameters of all of them. -/
structure PathItem where
  parameters : List (Linked Parameter)
  operation? : Method → Option Operation

/-- The operations of a path in the order of the methods. -/
def PathItem.operations (item : PathItem) : List (Method × Operation) :=
  Method.all.filterMap fun method => (item.operation? method).map (method, ·)

/-- The parts of a document that references can name. -/
structure Components where
  schemas : Table Json
  parameters : Table (Linked Parameter)
  requestBodies : Table (Linked RequestBody)
  responses : Table (Linked Response)

/-- What a document says about itself. -/
structure Info where
  title : String
  version : String
  description : Option String

/-- A document. -/
structure Document where
  /-- The version of the format. -/
  openapi : String
  info : Info
  paths : Table PathItem
  components : Components

end SchemaCompiler
