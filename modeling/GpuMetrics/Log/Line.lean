import GpuMetrics.Log.Filter
import GpuMetrics.Log.Settings
import GpuMetrics.Text.Json

/-!
# Log lines

An event as a line of the log, either as text or as a JSON object. Lines carry no time stamp; a
program that writes them puts one in front.
-/

namespace GpuMetrics.Log

/-- The value of a field in a text line. -/
def FieldValue.plain : FieldValue → String
  | .bare s => s
  | .text s => Text.quoted s
  | .number n => toString n

/-- The value of a field in a JSON line. -/
def FieldValue.json : FieldValue → String
  | .bare s => Text.jsonString s
  | .text s => Text.jsonString s
  | .number n => toString n

/-- The line of an event. -/
def Event.line (format : Format) (e : Event) : String :=
  match format with
  | .text =>
    e.level.word ++ " " ++ e.component.target ++ ": " ++
      String.intercalate " " (e.message :: e.fields.map fun f => f.1 ++ "=" ++ f.2.plain)
  | .json =>
    Text.jsonObject
      [("level", Text.jsonString e.level.word),
       ("fields", Text.jsonObject
         (("message", Text.jsonString e.message) :: e.fields.map fun f => (f.1, f.2.json))),
       ("target", Text.jsonString e.component.target)]

/-- The lines of the events that a filter allows. -/
def lines (filter : Filter) (format : Format) (events : List Event) : List String :=
  (events.filter filter.allows).map (·.line format)

end GpuMetrics.Log
