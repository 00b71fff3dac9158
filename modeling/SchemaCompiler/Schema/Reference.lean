import SchemaCompiler.Error
import SchemaCompiler.Text.Percent

/-!
References: the written form of component names.

A reference is the component prefix followed by the name, first escaped as a segment of a JSON
pointer and then percent-encoded.

* `Reference.ofName`: the reference to a component;
* `Reference.name?`: the name that a reference denotes;
* `Reference.nameIn?`: the name that a reference into another section of the components denotes.
-/

namespace SchemaCompiler.Reference

/-- The characters of ASCII that are percent-encoded in a reference. -/
def encoded (c : Char) : Bool :=
  c.toNat < 32 || c.toNat = 127 || [' ', '"', '#', '%', '<', '>', '\x60'].contains c

/-- The reference to a component. -/
def ofName (name : String) : String :=
  componentPrefix ++ Text.percentEncode encoded (Json.Pointer.escape name)

/-- The name that stands in a segment of a reference, or why there is none. -/
def segmentName? (reference segment : String) : Except Unsupported String :=
  if segment.isEmpty || segment.toList.contains '/' then .error (.unnamedReference reference)
  else
    match Text.percentDecode? segment with
    | none => .error (.undecodableReference reference)
    | some name => .ok (Json.Pointer.unescape name)

/-- The component that a reference denotes, or why it denotes none. -/
def name? (reference : String) : Except Unsupported String :=
  match Text.stripPrefix? componentPrefix reference with
  | none => .error (.foreignReference reference)
  | some segment => segmentName? reference segment

/-- The component that a `$ref` value denotes. -/
def ofJson? : Json → Except Unsupported String
  | .string reference => name? reference
  | _ => .error (.notString "$ref")

/-- The name that a reference into a section of the components denotes. -/
def nameIn? (sectionName reference : String) : Option String :=
  match Text.stripPrefix? ("#/components/" ++ sectionName ++ "/") reference with
  | none => none
  | some segment => (segmentName? reference segment).toOption

end SchemaCompiler.Reference
