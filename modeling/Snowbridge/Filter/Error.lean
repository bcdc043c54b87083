/-!
# Filter faults

What can be wrong with a filter. Every fault is found before a statement is sent.
-/

namespace Snowbridge.Filter

inductive FilterError where
  | unparsable (filter : String)
  | unknownField (field : String)
  | listNotWrapped (field : String)
  | invalidValue (field value expected : String)
  | missingParameter (name : String)
  | invalidExpression (field reason : String) (line column : Nat)
  | missingValue (field operator : String)
deriving DecidableEq

/-- The text of a fault, with its code. -/
def FilterError.message : FilterError → String
  | .unparsable filter => "[F001] Unable to parse filter: no operator found in '" ++ filter ++ "'"
  | .unknownField field =>
    "[F002] Invalid or unparsable field in filter request: '" ++ field ++ "'"
  | .listNotWrapped field =>
    "[F003] Filter value list for '" ++ field ++ "' must be wrapped in parentheses"
  | .invalidValue field value expected =>
    "[F004] Invalid value '" ++ value ++ "' for field '" ++ field ++ "': expected " ++ expected
  | .missingParameter name => "[F005] No replacement parameter given for '" ++ name ++ "'"
  | .invalidExpression field reason line column =>
    "[F006] Invalid filter function for '" ++ field ++ "' at line " ++ toString line ++
      ", column " ++ toString column ++ ": " ++ reason
  | .missingValue field operator =>
    "[F007] Missing value for '" ++ field ++ "' with operator " ++ operator

end Snowbridge.Filter
