import SchemaCompiler.Error

/-!
What is left out or changed when a document is compiled.

* `Warning`: the kinds, with their wording in `Warning.message`;
* `Warning.isDropped`: the warnings of routes that are left out altogether.
-/

namespace SchemaCompiler

/-- A part of a document that is left out or changed. -/
inductive Warning where
  | routeDropped (cause : CompileError)
  | cookieIgnored (method path name : String)
  | noJsonContent (method path slot : String)
  | componentRenamed (old new : String)

namespace Warning

/-- The wording of a warning. -/
def message : Warning → String
  | routeDropped cause => s!"Dropped route: {cause.message}"
  | cookieIgnored method path name =>
    s!"{method} {path}: cookie parameter '{name}' is not part of the route schemas"
  | noJsonContent method path slot => s!"{method} {path}: {slot} has no JSON media type"
  | componentRenamed old new => s!"Schema '{old}' is emitted as '{new}'"

/-- Whether something is missing from the output. -/
def isDropped : Warning → Bool
  | routeDropped _ => true
  | _ => false

end Warning

end SchemaCompiler
