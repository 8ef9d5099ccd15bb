/-!
# Methods of the metadata service

The metadata service knows where artifacts are and what is told of them. It has four methods, which
are reached under its service path.
-/

namespace ContentCache.Metadata

/-- The path of the service below its endpoint. -/
def servicePath : String := "storage.v1beta.ArtifactsService"

/-- A method of the service. -/
inductive Method where
  /-- Opens a place to write to. -/
  | createArtifact
  /-- Seals what has been written. -/
  | finalizeArtifact
  /-- Opens a place to read from. -/
  | resolveArtifact
  /-- Lists what has been sealed. -/
  | listArtifacts
  deriving DecidableEq, Repr

def Method.name : Method → String
  | createArtifact => "CreateArtifact"
  | finalizeArtifact => "FinalizeArtifact"
  | resolveArtifact => "ResolveArtifact"
  | listArtifacts => "ListArtifacts"

end ContentCache.Metadata
