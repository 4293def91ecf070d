/-!
# Scan failures

What can stop a scan of a table: a predicate that the language does not cover, a column the
table lacks, a pattern that does not read, or a failure of the scan itself.  Each carries the
text it is about; `ScanError.message` words it.
-/

namespace DataQuality

/-- Why a scan of a table failed. -/
inductive ScanError where
  /-- A predicate outside the language, as written. -/
  | unsupportedExpression (text : String)
  /-- A column the table does not have. -/
  | unknownColumn (name : String)
  /-- A pattern that does not read, with the reason. -/
  | invalidPattern (pattern message : String)
  /-- Any other failure of the scan. -/
  | failed (message : String)
  deriving Repr, BEq, DecidableEq, Inhabited

/-- The wording of a scan failure. -/
def ScanError.message : ScanError → String
  | .unsupportedExpression t => "unsupported expression: " ++ t
  | .unknownColumn n => "unknown column: " ++ n
  | .invalidPattern p m => "invalid pattern '" ++ p ++ "': " ++ m
  | .failed m => "scan failed: " ++ m

end DataQuality
