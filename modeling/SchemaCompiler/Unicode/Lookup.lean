import SchemaCompiler.Unicode.Age
import SchemaCompiler.Unicode.Breaks
import SchemaCompiler.Unicode.Script

/-!
Sets of code points by the names of properties and of their values.

* `LookupFault`: why there is no set by a name;
* `pointsNamed`: the set by a single name, of a property, a category or a script;
* `pointsWithValue`: the code points whose property has a value.
-/

namespace SchemaCompiler.Unicode

/-- Why there is no set by a name. -/
inductive LookupFault where
  | unknownProperty
  | unknownValue
  deriving DecidableEq, Repr

/-- The names of properties by which no set can be asked for. -/
def otherProperties : List String :=
  ["bc", "bidiclass", "bidimirroringglyph", "bmg", "bidipairedbracket", "bpb",
   "bidipairedbrackettype", "bpt", "blk", "block", "canonicalcombiningclass", "ccc",
   "casefolding", "cf", "changeswhennfkccasefolded", "cwkcf", "ce", "compositionexclusion",
   "decompositionmapping", "dm", "decompositiontype", "dt", "ea", "eastasianwidth", "equideo",
   "equivalentunifiedideograph", "expandsonnfc", "xonfc", "expandsonnfd", "xonfd",
   "expandsonnfkc", "xonfkc", "expandsonnfkd", "xonfkd", "fcnfkc", "fcnfkcclosure", "compex",
   "fullcompositionexclusion", "hangulsyllabletype", "hst", "isc", "ocomment", "incb",
   "indicconjunctbreak", "indicpositionalcategory", "inpc", "indicsyllabiccategory", "insc",
   "jamoshortname", "jsn", "jg", "joininggroup", "joiningtype", "jt", "lb", "linebreak", "lc",
   "lowercasemapping", "nfcqc", "nfcquickcheck", "nfdqc", "nfdquickcheck", "nfkccasefold",
   "nfkccf", "nfkcqc", "nfkcquickcheck", "nfkcscf", "nfkcsimplecasefold", "nfkdqc",
   "nfkdquickcheck", "na", "name", "namealias", "nt", "numerictype", "numericvalue", "nv", "scf",
   "sfc", "simplecasefolding", "simplelowercasemapping", "slc", "simpletitlecasemapping", "stc",
   "simpleuppercasemapping", "suc", "tc", "titlecasemapping", "na1", "unicode1name", "uc",
   "uppercasemapping", "verticalorientation", "vo", "cjkaccountingnumeric", "kaccountingnumeric",
   "cjkcompatibilityvariant", "kcompatibilityvariant", "kehcat", "kehdesc", "kehhg", "kehifao",
   "kehjsesh", "kehnomirror", "kehnorotate", "cjkiicore", "kiicore", "cjkirggsource",
   "kirggsource", "cjkirghsource", "kirghsource", "cjkirgjsource", "kirgjsource",
   "cjkirgkpsource", "kirgkpsource", "cjkirgksource", "kirgksource", "cjkirgmsource",
   "kirgmsource", "cjkirgssource", "kirgssource", "cjkirgtsource", "kirgtsource",
   "cjkirguksource", "kirguksource", "cjkirgusource", "kirgusource", "cjkirgvsource",
   "kirgvsource", "cjkothernumeric", "kothernumeric", "cjkprimarynumeric", "kprimarynumeric",
   "cjkrsunicode", "krsunicode", "unicoderadicalstroke", "urs"]

/-- The set by a single name.  The names `cf`, `sc` and `lc` are those of categories. -/
def pointsNamed (name : String) : Except LookupFault PointSet :=
  if surrogateNames.contains name || emptyScriptNames.contains name then throw .unknownValue
  else
    match (property? name).or ((category? name).or (script? name)) with
    | some points => return points
    | none => throw .unknownProperty

/-- The code points whose value of a property goes by a name. -/
def pointsWithValue (property value : String) : Except LookupFault PointSet :=
  let valued := fun points : Option PointSet =>
    match points with
    | some points => Except.ok points
    | none => .error .unknownValue
  match property with
  | "gc" | "generalcategory" => valued (category? value)
  | "sc" | "script" => valued (script? value)
  | "scx" | "scriptextensions" => valued (scriptExtensions? value)
  | "age" => valued (age? value)
  | "gcb" | "graphemeclusterbreak" => valued (PointRule.find? graphemeBreaks value)
  | "wb" | "wordbreak" => valued (PointRule.find? wordBreaks value)
  | "sb" | "sentencebreak" => valued (PointRule.find? sentenceBreaks value)
  | _ =>
    throw (if otherProperties.contains property || (property? property).isSome then .unknownValue
      else .unknownProperty)

end SchemaCompiler.Unicode
