import SchemaCompiler.Text.Affix

/-!
The comment at the top of a written module.

* `FileHeader`: what the comment says;
* `FileHeader.render`: its text.
-/

namespace SchemaCompiler

namespace Text

/-- A line without the carriage return at its end. -/
def dropReturn (line : List Char) : List Char :=
  if line.getLast? = some '\r' then line.dropLast else line

/-- The lines of a row of characters; the last one need not end. -/
def linesFrom (line : List Char) : List Char → List (List Char)
  | [] => if line.isEmpty then [] else [line]
  | c :: rest =>
    if c = '\n' then dropReturn line :: linesFrom [] rest else linesFrom (line ++ [c]) rest

/-- The lines of a text. -/
def lines (text : String) : List String := (linesFrom [] text.toList).map String.ofList

end Text

/-- What the comment at the top of a module says. -/
structure FileHeader where
  title : Option String
  version : Option String
  description : Option String
  source : Option String
  deriving DecidableEq, Repr

namespace FileHeader

/-- Nothing but that the module is generated. -/
def empty : FileHeader := ⟨none, none, none, none⟩

/-- The parts of the comment. -/
def parts (header : FileHeader) : List String :=
  ["AUTO-GENERATED CODE - DO NOT EDIT!", ""] ++ header.title.toList ++
    (header.source.map fun source => s!"Source: {source}").toList ++
    (header.version.map fun version => s!"Version: {version}").toList ++
    ["Generated by `oas-zod-gen`"] ++
    match header.description with
    | some description => "" :: Text.lines description
    | none => []

/-- A part of the comment. -/
def comment (part : String) : String := if part.isEmpty then "//\n" else "// " ++ part ++ "\n"

/-- The text of the comment and the empty line after it. -/
def render (header : FileHeader) : String := String.join (header.parts.map comment) ++ "\n"

end FileHeader

end SchemaCompiler
