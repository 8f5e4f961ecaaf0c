import GpuMetrics.Binary64.Shortest
import GpuMetrics.Metric.Sample

/-!
# The text exposition of samples

Samples are grouped into **families** by name, in the order in which the names are first seen.
Every family is written as a `# HELP` line, a `# TYPE` line and one line for each of its samples.
Label values escape backslash, quote and line feed; help text escapes backslash and line feed, so
every record of the format stays on a line of its own.
-/

namespace GpuMetrics.Metric

/-- The samples of one name, oldest first. The first of them describes the family. -/
structure Family where
  first : Sample
  others : List Sample

namespace Family

/-- The name shared by the samples. -/
def name (f : Family) : String := f.first.name

/-- All samples of the family. -/
def samples (f : Family) : List Sample := f.first :: f.others

/-- Puts a sample at the end of the family of its name, or of a new last family. -/
def insert (s : Sample) : List Family → List Family
  | [] => [⟨s, []⟩]
  | f :: rest => if f.name = s.name then ⟨f.first, f.others ++ [s]⟩ :: rest else f :: insert s rest

/-- The families of a list of samples. -/
def group (samples : List Sample) : List Family :=
  samples.foldl (fun families s => insert s families) []

end Family

namespace Exposition

/-- The media type of the exposition. -/
def contentType : String := "text/plain; version=0.0.4; charset=utf-8"

/-- One character of a label value. -/
def escapeLabelChar (c : Char) : List Char :=
  if c = '\\' then ['\\', '\\']
  else if c = '"' then ['\\', '"']
  else if c = '\n' then ['\\', 'n']
  else [c]

/-- One character of a help text. -/
def escapeHelpChar (c : Char) : List Char :=
  if c = '\\' then ['\\', '\\']
  else if c = '\n' then ['\\', 'n']
  else [c]

/-- A label value between its quotes. -/
def escapeLabel (s : String) : List Char := s.toList.flatMap escapeLabelChar

/-- A help text after the name of its family. -/
def escapeHelp (s : String) : List Char := s.toList.flatMap escapeHelpChar

/-- The text of a value: whole numbers with all their digits, other numbers in the fewest digits
that read back. -/
def valueText (x : Binary64) : List Char :=
  if x.isNaN then ['N', 'a', 'N']
  else if x.isInfinite then
    if x.isNegative then ['-', 'I', 'n', 'f'] else ['+', 'I', 'n', 'f']
  else
    let sign := if x.isNegative then ['-'] else []
    if x.isWhole then sign ++ Nat.toDigits 10 x.wholePart
    else sign ++ (Binary64.shortest x.magnitude).positional

/-- One label with its value. -/
def labelText (l : String × String) : List Char :=
  l.1.toList ++ '=' :: '"' :: (escapeLabel l.2 ++ ['"'])

/-- The labels of a sample between braces; nothing for a sample without labels. -/
def labelsText (s : Sample) : List Char :=
  if s.labels.isEmpty then []
  else '\x7b' :: (List.intercalate [','] (s.labels.map labelText) ++ ['\x7d'])

/-- The line that explains a family. -/
def helpLine (f : Family) : List Char :=
  "# HELP ".toList ++ f.name.toList ++ ' ' :: escapeHelp f.first.descriptor.help

/-- The line that gives the kind of a family. -/
def typeLine (f : Family) : List Char :=
  "# TYPE ".toList ++ f.name.toList ++ ' ' :: f.first.descriptor.kind.word.toList

/-- The line of a sample. -/
def sampleLine (s : Sample) : List Char :=
  s.name.toList ++ labelsText s ++ ' ' :: valueText s.value

/-- The lines of a family. -/
def familyLines (f : Family) : List (List Char) :=
  helpLine f :: typeLine f :: f.samples.map sampleLine

/-- The lines of the exposition, in order and without their line feeds. -/
def lines (samples : List Sample) : List (List Char) :=
  (Family.group samples).flatMap familyLines

/-- The exposition of the samples: each line ends with a line feed. -/
def render (samples : List Sample) : String :=
  String.ofList ((lines samples).flatMap (· ++ ['\n']))

end Exposition

end GpuMetrics.Metric
