/-
**The catalog of datasets.**

Every dataset of the wiring has an entry under its name. Of several datasets with one name the first
has the entry, and each later one is reported. A name that is no identifier and a missing description
are reported too, and keep no entry out.
-/

import PipelineGraph.Wiring

namespace PipelineGraph

namespace Catalog

/-- An entry of the catalog. -/
structure Entry where
  name : String
  storageType : String
  location : String
  description : Option String := none
  deriving DecidableEq, Inhabited, Repr

/-- What is wrong with a dataset. -/
inductive Problem
  | nameTaken (dataset first : DatasetRef)
  | invalidName (dataset : DatasetRef)
  | noDescription (dataset : DatasetRef)

/-- The diagnostic that reports a problem. -/
def Problem.diagnostic : Problem → Diagnostic
  | .nameTaken dataset first =>
    { code := .nameCollision, severity := .error, nodeId := some dataset.id
      message := s!"Dataset '{dataset.label}' and dataset '{first.label}' (node '{first.id}') both " ++
        s!"map to catalog name '{dataset.name}'" }
  | .invalidName dataset =>
    { code := .invalidIdentifier, severity := .warning, nodeId := some dataset.id
      message := s!"Dataset name '{dataset.name}' is not a valid Python identifier and cannot be " ++
        "used as a parameter" }
  | .noDescription dataset =>
    { code := .noDescription, severity := .warning, nodeId := some dataset.id
      message := s!"Dataset '{dataset.label}' has no description" }

/-- The entry of a dataset. A blank description counts as none. -/
def Entry.ofDataset (dataset : DatasetRef) : Entry :=
  { name := dataset.name, storageType := dataset.storageType, location := dataset.location
    description := nonBlank? dataset.description }

/-- The entries of a list of datasets. -/
def entries (datasets : List DatasetRef) : List Entry :=
  (firsts DatasetRef.name datasets).map Entry.ofDataset

/-- The problems of a dataset, given the first earlier dataset with its name. -/
def problemsOf : DatasetRef × Option DatasetRef → List Problem
  | (dataset, some first) => [.nameTaken dataset first]
  | (dataset, none) =>
    (if isIdentifier dataset.name then [] else [.invalidName dataset]) ++
      (if (nonBlank? dataset.description).isNone then [.noDescription dataset] else [])

/-- The problems of a list of datasets, dataset by dataset. -/
def problems (datasets : List DatasetRef) : List Problem :=
  (withEarlier DatasetRef.name datasets).flatMap problemsOf

end Catalog

end PipelineGraph
