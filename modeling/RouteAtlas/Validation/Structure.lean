import RouteAtlas.Schema.Evaluation
import RouteAtlas.Schema.OpenApi30
import RouteAtlas.Schema.OpenApi31

/-!
# The structure of documents

A document is checked against the schema of the version it claims to follow; every version that does
not begin with `3.0` counts as 3.1.
-/

namespace RouteAtlas

/-- Whether a document claims to follow version 3.0. -/
def followsVersion30 (document : Members) : Bool :=
  Text.beginsWith (((Members.find? document "openapi").getD (.text "")).display) "3.0"

/-- What is wrong with the structure of a document. -/
def structureFindings (document : Members) : Findings :=
  if followsVersion30 document then
    Schema.check OpenApi30.definitions OpenApi30.root (.map document)
  else Schema.check OpenApi31.definitions OpenApi31.root (.map document)

end RouteAtlas
