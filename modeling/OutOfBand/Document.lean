import OutOfBand.Json.Writer
import OutOfBand.Report
import OutOfBand.Yaml.Writer

/-! # Documents

The text of a report in one of three formats. The verdict comes first, then the payload in key order.
-/
namespace OutOfBand

inductive OutputFormat where
  | json
  | jsonCompact
  | yaml
deriving DecidableEq, Repr

/-- The text of the report. -/
def Report.render (r : Report) : OutputFormat → String
  | .json => String.ofList (Json.prettyChars 0 (.object r.entries))
  | .jsonCompact => Json.compact (.object r.entries)
  | .yaml => Yaml.document r.entries

/-- The report as it is printed: its text, and one line break at the end. -/
def Report.printed (r : Report) (format : OutputFormat) : String := Text.trimEnd (r.render format) ++ "\n"

end OutOfBand
