/-!
The string formats that have a check of their own.

* `Format`: the formats, and `Format.ofName?`, the names that they are known by;
* `Format.name`: the name that the check alone implies;
* `Format.method`: the check as it is written in a validator.
-/

namespace SchemaCompiler

/-- A format with a check. -/
inductive Format where
  | email
  | url
  | uuid
  | date
  | dateTime
  deriving DecidableEq, Repr

namespace Format

/-- The format of a name; all other names have no check. -/
def ofName? : String → Option Format
  | "email" => some email
  | "url" => some url
  | "uri" => some url
  | "uuid" => some uuid
  | "date" => some date
  | "date-time" => some dateTime
  | _ => none

/-- The name that is read off the check. -/
def name : Format → String
  | email => "email"
  | url => "url"
  | uuid => "uuid"
  | date => "date"
  | dateTime => "date-time"

/-- The call that makes the check. -/
def method : Format → String
  | email => ".email()"
  | url => ".url()"
  | uuid => ".uuid()"
  | date => ".date()"
  | dateTime => ".datetime(\x7b offset: true \x7d)"

end Format

end SchemaCompiler
