import SampleCapture.Options.Json
import SampleCapture.Progress

/-!
# Progress reports as JSON
-/

namespace SampleCapture.ProgressSnapshot

open Json

def zero : ProgressSnapshot where
  elapsed := 0.0
  total := 0
  period := 0
  currentRate := 0.0
  totalRate := 0.0

def doubleField (name : String) (set : ProgressSnapshot → Float → ProgressSnapshot) :
    RecordField ProgressSnapshot where
  name := name
  read := fun record => Reader.double.map fun x => set record x

def fields : List (RecordField ProgressSnapshot) :=
  [doubleField "elapsedSecs" fun report x => { report with elapsed := x },
    wordField "totalBytes" "u64" fun report n => { report with total := n },
    wordField "periodBytes" "u64" fun report n => { report with period := n },
    doubleField "currentRate" fun report x => { report with currentRate := x },
    doubleField "totalRate" fun report x => { report with totalRate := x }]

def shape : Shape ProgressSnapshot where
  name := "ProgressReport"
  fields := fields
  empty := zero
  optional := false

end SampleCapture.ProgressSnapshot
