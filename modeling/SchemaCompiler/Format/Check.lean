import SchemaCompiler.Format
import SchemaCompiler.Format.Calendar
import SchemaCompiler.Format.Email
import SchemaCompiler.Format.Url
import SchemaCompiler.Format.Uuid

/-!
The checks of the formats.

* `Format.accepts`: whether a string has a format.
-/

namespace SchemaCompiler

/-- Whether a string has a format. -/
def Format.accepts (text : String) : Format → Bool
  | email => Email.isEmail text
  | url => Url.isUrl text
  | uuid => Uuid.isUuid text
  | date => Calendar.isDate text
  | dateTime => Calendar.isDateTime text

end SchemaCompiler
