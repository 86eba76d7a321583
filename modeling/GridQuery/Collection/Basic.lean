import GridQuery.Collection.Stage
import GridQuery.Json.Reader

/-!
# Collections

A list of documents on which pipelines run. Models `MemoryStore` with `aggregate`.

* `Collection.ofText`: the documents of a text.
* `Collection.aggregate`: the documents after a pipeline.
-/

namespace GridQuery

/-- Documents in the order in which they are stored (`MemoryStore`). -/
structure Collection where
  documents : List Json

namespace Collection

/-- The collection in the text of a file; a file that is not there has no text (`from_file`). -/
def ofText (path : String) (text : Option String) : Except CollectionError Collection :=
  match text with
  | none => .error (.loadFailed path .noSuchFile)
  | some text =>
    match Json.read? text with
    | none => .error (.loadFailed path .malformed)
    | some (.array documents) => .ok ⟨documents⟩
    | some _ => .error (.loadFailed path .notAList)

/-- Runs stages one after the other. -/
def runStages (stages : List Stage) (docs : List Json) : Except Fault (List Json) :=
  stages.foldlM (fun docs stage => stage.run docs) docs

/-- The documents after a pipeline. Every stage is read before any runs. -/
def aggregate (c : Collection) (pipeline : Pipeline) : Except Fault (List Json) := do
  let stages ← (pipeline.mapM Stage.ofJson).mapError .error
  runStages stages c.documents

end Collection

end GridQuery
