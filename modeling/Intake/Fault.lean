import Intake.Text.Digits
import Intake.Text.Quoted
import Intake.Numeric.Readable
import Intake.Numeric.Binary64.Field
import Intake.Pattern.Defect
import Intake.Calendar.Zone

/-!
# Faults

What can go wrong beside an input that does not fit its schema: a limit of the machinery is hit,
a value is of a class that an operation has no use for, a schema is put together wrongly, or the
code of a user fails.

## Main definitions

* `Fault` — the causes.
* `Fault.ofEdge` — the cause where the calendar ends.
* `Fault.message` — a cause in words.
* `Fault.concernsValue` — whether a record model reports the fault with the field.
-/

namespace Intake

open Numeric (DigitLimit)

/-- A failure that the code of a user reports. -/
inductive UserFault where
  /-- The value is no good. -/
  | value
  /-- A key is missing. -/
  | key
deriving DecidableEq, Repr

/-- What is wrong with a layout of numbers. -/
inductive LayoutFault where
  /-- It is none. -/
  | unreadable (layout : String) (defect : Numeric.FieldDefect)
  /-- What is written by it is no number. -/
  | unwritable (text : String)
deriving DecidableEq, Repr

/-- Why an operation cannot be carried out. -/
inductive Fault where
  /-- An integer has too many digits. -/
  | digitLimit (limit : DigitLimit)
  /-- An integer is beyond the largest binary number. -/
  | integerTooLarge
  /-- A layout of numbers, such as a count of significant digits, is of no use. -/
  | badLayout (fault : LayoutFault)
  /-- The digits of a decimal number are more than can be kept, or those of no number. -/
  | decimalInvalid
  /-- A power of ten is beyond the largest decimal number. -/
  | decimalOverflow
  /-- A moment is counted in seconds by clocks that would show a day before the first. -/
  | firstDay
  /-- The same by clocks that would show a day after the last. -/
  | lastDay
  /-- A moment is moved out of the calendar. -/
  | beyondCalendar
  /-- Text is needed, and this class is put in its place. -/
  | notText (className : String)
  /-- The characters of a value are needed, and this class has none. -/
  | withoutText (className : String)
  /-- A number is needed, and this class is put in its place. -/
  | notNumber (className : String)
  /-- A text should write a whole number. -/
  | notWhole
  /-- A text writes no number for people. -/
  | unreadable (error : Numeric.ReadingError)
  /-- A value of this class is not written with digits. -/
  | withoutDigits (className : String)
  /-- A date or a time is needed, and this class is put in its place. -/
  | notTemporal (className : String)
  /-- A key holds a list or a dictionary. -/
  | unhashable (className : String)
  /-- A JSON object cannot have a key of this class. -/
  | jsonKey (className : String)
  /-- A dictionary has no such key. -/
  | missingKey
  /-- A context cannot be made of this class. -/
  | notAContext (className : String)
  /-- A context has no such field. -/
  | contextField (field : String)
  /-- A candidate of a union gave no reason at all. -/
  | noReason
  /-- A pattern is malformed, or of no use. -/
  | badPattern (defect : Pattern.Defect)
  /-- A value of this class is used as a pattern. -/
  | notAPattern (className : String)
  /-- A union of no candidates. -/
  | noCandidates
  /-- An enumeration of no members. -/
  | noMembers
  /-- An optional field needs a schema. -/
  | notASchema (className : String)
  /-- Something that is no schema is used as one. -/
  | noSchema (className : String)
  /-- A record model needs an object schema. -/
  | notAnObject
  /-- A record model has no use for this name, be it its own or that of an attribute. -/
  | reservedAttribute (name : String)
  /-- The settings of a record model are given by something that lists none. -/
  | badSettings
  /-- The settings of a record model are declared as an attribute. -/
  | settingsAttribute
  /-- The settings of a record model are given in two ways. -/
  | twoSettings
  /-- There is no such precision; it is given as a literal. -/
  | unknownPrecision (literal : String)
  /-- There are no such sample options. -/
  | unknownSampleOptions (names : List String)
  /-- There is no such option at all, or it is given twice. -/
  | unknownOption (name : String)
  /-- A function takes another number of arguments. -/
  | wrongArguments
  /-- A function is needed, and this class is put in its place. -/
  | notAFunction (className : String)
  /-- A value that should list others is no sequence. -/
  | notSequence (className : String)
  /-- Nothing can be inferred from the value with this JSON text. -/
  | unsupportedSample (json : String)
  /-- Nothing can be inferred from an empty list. -/
  | emptySample
  /-- Nothing can be picked from an empty sequence. -/
  | emptyChoice
  /-- The code of a user failed. -/
  | user (fault : UserFault) (text : String)
deriving DecidableEq, Repr

/-- A text between two others, repeated between the members of a list. -/
def joinWith (separator : String) (texts : List String) : String :=
  separator.intercalate texts

/-- What is wrong with a layout of numbers, in words. -/
def LayoutFault.message : LayoutFault → String
  | .unreadable _ .missingCount => "Format specifier missing precision"
  | .unreadable _ .largeCount => "precision too big"
  | .unreadable _ .tooManyDigits => "Too many decimal digits in format string"
  | .unreadable _ .twoSeparators => "Cannot specify both ',' and '_'."
  | .unreadable layout .malformed =>
    "Invalid format specifier '." ++ layout ++ "g' for object of type 'float'"
  | .unwritable text => "could not convert string to float: " ++ Text.quoteLiteral text

namespace Fault

/-- The fault of clocks that show what the calendar does not have. -/
def ofEdge : Calendar.CalendarEdge → Fault
  | .first => .firstDay
  | .last => .lastDay

/-- The cause in words. -/
def message : Fault → String
  | .digitLimit limit => limit.message
  | .integerTooLarge => "the integer is too large for a binary number"
  | .badLayout fault => fault.message
  | .decimalInvalid => "there is no such decimal number"
  | .decimalOverflow => "the decimal number is too large"
  | .firstDay => "year 0 is out of range"
  | .lastDay => "year 10000 is out of range"
  | .beyondCalendar => "date value out of range"
  | .notText className => "text is needed, not a value of class " ++ className
  | .withoutText className => "there are no characters in a value of class " ++ className
  | .notNumber className => "a number is needed, not a value of class " ++ className
  | .notWhole => "the text writes no whole number"
  | .unreadable error => error.reason
  | .withoutDigits className => "a value of class " ++ className ++ " is not written with digits"
  | .notTemporal className => "there is no date or time in a value of class " ++ className
  | .unhashable className => "no key can be of class " ++ className
  | .jsonKey className => "no key of a JSON object can be of class " ++ className
  | .missingKey => "there is no such key"
  | .notAContext className => "a value of class " ++ className ++ " is no context"
  | .contextField field => "a context has no field " ++ field
  | .noReason => "a candidate gave no reason"
  | .badPattern defect => defect.message
  | .notAPattern className => "a value of class " ++ className ++ " is no pattern"
  | .noCandidates => "Or() requires at least one parser"
  | .noMembers => "Values() requires at least one value"
  | .notASchema className => "Optional() requires a Parser, got " ++ className
  | .noSchema className => "a value of class " ++ className ++ " is no schema"
  | .notAnObject => "to_pydantic() requires an Object parser"
  | .reservedAttribute name => "a model has no use for the name " ++ name
  | .badSettings => "the settings of a model are no dictionary"
  | .settingsAttribute => "the settings of a model are no attribute"
  | .twoSettings => "the settings of a model are given twice"
  | .unknownPrecision literal =>
    "Unknown precision " ++ literal ++ ", expected one of minute, second, millisecond"
  | .unknownSampleOptions names => "Unknown sample options: " ++ joinWith ", " names
  | .unknownOption name => "there is no option " ++ name
  | .wrongArguments => "the arguments are too few or too many"
  | .notAFunction className => "a value of class " ++ className ++ " is no function"
  | .notSequence className => "a value of class " ++ className ++ " is no sequence"
  | .unsupportedSample json => "unsupported sample value: " ++ json
  | .emptySample => "Cannot infer element type from an empty list"
  | .emptyChoice => "Cannot pick random element from empty sequence"
  | .user _ text => text

/-- Whether the fault says that a value is no good, so that a record model reports it with the
field instead of failing. -/
def concernsValue : Fault → Bool
  | .digitLimit _ | .badLayout _ | .firstDay | .lastDay | .notWhole | .unreadable _
  | .withoutDigits _ | .noCandidates | .noMembers | .reservedAttribute _ | .unknownPrecision _
  | .emptySample | .emptyChoice | .user .value _ | .badPattern .numberTooLong
  | .badPattern .twoScripts => true
  | _ => false

end Fault

end Intake
