import Intake.Schema.Parse

/-!
# What a schema was told

The options of a schema by their names.  An option is a value, a schema, several schemas, or the
fields of an object.

## Main definitions

* `OptionValue` — what an option can be.
* `Schema.options` — the options of a schema.
* `Schema.fields?` — the fields of an object schema.
-/

namespace Intake

/-- What an option of a schema can be. -/
inductive OptionValue where
  | value (v : Value)
  | schema (s : Schema)
  | schemas (list : List Schema)
  | fields (fields : List (Value × Schema))

namespace Schema

/-- The fields of an object schema, be it optional or not. -/
def fields? : Schema → Option (List (Value × Schema))
  | .object fields _ => some fields
  | .optional inner => inner.fields?
  | _ => none

/-- The options of a schema, by their names. -/
def options : Schema → List (String × OptionValue)
  | .leaf atom _ => atom.options.map fun option => (option.1, .value option.2)
  | .custom _ | .plain _ => []
  | .object fields _ => [("fields", .fields fields)]
  | .array item rule _ =>
    [("parser", .schema item), ("min_length", .value (rule.minLength.getD .null)),
     ("max_length", .value (rule.maxLength.getD .null)), ("maybe_single", .value rule.maybeSingle)]
  | .single item => [("parser", .schema item)]
  | .nullable inner _ => [("parser", .schema inner)]
  | .optional inner => inner.options
  | .union candidates _ => [("parsers", .schemas candidates)]
  | .dict key value _ => [("key", .schema key), ("value", .schema value)]

end Schema

end Intake
