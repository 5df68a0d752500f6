import MessageCatalog.Data.Json.Printing
import MessageCatalog.Data.Yaml.Printing
import MessageCatalog.Report.Style

/-!
# Formats of reports

A report can be written as text for readers, or as JSON or YAML for programs.
-/

namespace MessageCatalog.Report

open Data

inductive Format where
  | text
  | json
  | yaml
  deriving DecidableEq, Repr

namespace Format

/-- The name of a format on the command line. -/
def name : Format → String
  | text => "text"
  | json => "json"
  | yaml => "yaml"

/-- The format with a name. -/
def ofName? (word : String) : Option Format :=
  [text, json, yaml].find? (·.name == word)

/-- The format a user means in the settings: case does not matter, and file extensions are names
too. -/
def parse? (s : String) : Option Format :=
  let word := String.ofList (Text.lowercase s.toList)
  if word = "txt" then some text
  else if word = "yml" then some yaml
  else ofName? word

/-- Data in a format. Data has no form for readers and is written as JSON then. -/
def writeData (f : Format) (data : Value) : String :=
  match f with
  | text | json => Json.pretty data
  | yaml => Yaml.print data

/-- A report in a format, given its lines and its data. -/
def write (f : Format) (color : Bool) (lines : List Line) (data : Value) : String :=
  match f with
  | text => renderLines color lines
  | json | yaml => f.writeData data

end Format

/-- Put the time at which a report was made in front of its data. -/
def stamped (time : String) : Value → Value
  | .record fields => .record (("created_at", .text time) :: fields)
  | value => value

end MessageCatalog.Report
