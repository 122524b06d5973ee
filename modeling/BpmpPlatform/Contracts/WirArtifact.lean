import BpmpPlatform.Contracts.Wir
import BpmpPlatform.Library.Outcome
import BpmpPlatform.Library.Sort

/-! # Signed artifacts

`WirCodec` puts a representation into canonical order, hashes, signs and serializes it, and checks all
of this when it reads an artifact.
-/
namespace BpmpPlatform
open Std Outcome

def wirSchemaVersion : Nat := 1

inductive ArtifactError
  | unsupportedSchema (expected actual : Nat)
  | decode (detail : String)
  | nonCanonicalArtifact
  | hashMismatch
  | invalidSignature
  | invalidPublicKey

def validateSchema (schemaVersion : Nat) : Except ArtifactError Unit :=
  ensure (schemaVersion == wirSchemaVersion) (.unsupportedSchema wirSchemaVersion schemaVersion)

section Canonical
variable (us : UnstableSort)

/-- `sort_unstable_by` on a text key. -/
def sortBy {α : Type} (key : α → String) (l : List α) : List α :=
  us.sort (fun left right => compare (key left) (key right)) l

def compareProperties (left right : Wir.ExtensionProperty) : Ordering :=
  (compare left.namespaceUri right.namespaceUri).then
    ((compare left.elementName right.elementName).then (compare left.name right.name))

def sortProperties (properties : List Wir.ExtensionProperty) : List Wir.ExtensionProperty :=
  us.sort compareProperties properties

def canonicalizeCaseModel (model : Wir.CaseModel) : Wir.CaseModel :=
  { model with
    stages := sortBy us Wir.CaseStage.id model.stages
    milestones := sortBy us Wir.CaseMilestone.id model.milestones
    sentries := sortBy us Wir.CaseSentry.id model.sentries }

def canonicalizeKind : Wir.NodeKind → Wir.NodeKind
  | .exclusiveGateway transitions coverage =>
    .exclusiveGateway (sortBy us Wir.ConditionalTransition.targetNodeId transitions) coverage
  | .inclusiveGateway direction transitions nextNodeId pairedGatewayId coverage =>
    .inclusiveGateway direction (sortBy us Wir.ConditionalTransition.targetNodeId transitions) nextNodeId
      pairedGatewayId coverage
  | .parallelGateway direction targetNodeIds pairedGatewayId =>
    .parallelGateway direction (sortBy us id targetNodeIds) pairedGatewayId
  | kind => kind

def canonicalizeNode (node : Wir.Node) : Wir.Node :=
  { node with
    properties := sortProperties us node.properties
    boundaryEvents := sortBy us Wir.BoundaryEvent.id node.boundaryEvents
    kind := node.kind.map (canonicalizeKind us) }

def canonicalizeTable (table : Wir.DecisionTable) : Wir.DecisionTable :=
  { table with rules := sortBy us Wir.DecisionRule.id table.rules }

def canonicalize (wir : Wir.WorkflowIntermediateRepresentation) : Wir.WorkflowIntermediateRepresentation :=
  { wir with
    nodes := (sortBy us Wir.Node.id wir.nodes).map (canonicalizeNode us)
    decisionTables := (sortBy us Wir.DecisionTable.id wir.decisionTables).map (canonicalizeTable us)
    properties := sortProperties us wir.properties
    caseModels := (sortBy us Wir.CaseModel.id wir.caseModels).map (canonicalizeCaseModel us) }

end Canonical

namespace WirCodec
variable (us : UnstableSort) (format : MessageFormat Wir.WorkflowIntermediateRepresentation)
  (sha256 : format.Bytes → List UInt8)

def digestUnsigned (wir : Wir.WorkflowIntermediateRepresentation) : List UInt8 :=
  sha256 (format.encode { wir with contentHash := [], signature := [] })

/-- `WirCodec::seal`. -/
def sealArtifact (signer : List UInt8 → List UInt8) (wir : Wir.WorkflowIntermediateRepresentation) :
    Except ArtifactError format.Bytes := do
  validateSchema wir.schemaVersion
  let canonical := canonicalize us wir
  let digest := digestUnsigned format sha256 canonical
  return format.encode { canonical with contentHash := digest, signature := signer digest }

/-- `WirCodec::open`. -/
def openArtifact (verifier : List UInt8 → List UInt8 → Except ArtifactError Unit) (bytes : format.Bytes) :
    Except ArtifactError Wir.WorkflowIntermediateRepresentation := do
  match format.decode bytes with
  | .error detail => throw (.decode detail)
  | .ok wir => do
    validateSchema wir.schemaVersion
    ensure (canonicalize us wir == wir) .nonCanonicalArtifact
    let digest := digestUnsigned format sha256 wir
    ensure (wir.contentHash == digest) .hashMismatch
    verifier digest wir.signature
    return wir

end WirCodec

end BpmpPlatform
