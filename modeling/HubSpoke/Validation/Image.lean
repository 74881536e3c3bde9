import HubSpoke.Hub.Rule
import HubSpoke.Spoke.Rule
import HubSpoke.Text.Blank
import HubSpoke.Validation.Defect

/-!
# Image verifications

`ImageView` is what an image verification of either version is checked for.  Only the hub has a
single image and a single signer.
-/

namespace HubSpoke

/-- What a notary check may not hold: keys or an identity. -/
def Attestor.notaryDefect? (a : Attestor) : Option Defect :=
  match a.keys.isSome, a.keyless.isSome with
  | true, true => some .notaryKeysAndKeyless
  | false, true => some .notaryKeyless
  | true, false => some .notaryKeys
  | false, false => none

/-- What is wrong with an attestor for being in a notary check. -/
def Attestor.notaryFindings (isNotary : Bool) (path : FieldPath) (a : Attestor) : List Finding :=
  if isNotary then a.notaryDefect?.toList.map (Finding.mk path) else []

/-- What is wrong with an attestor set. -/
def AttestorSet.findings (isNotary : Bool) (path : FieldPath) (set : AttestorSet) :
    List Finding :=
  let inRange := match set.count with
    | some count => decide (1 ≤ count.toInt ∧ count.toInt ≤ set.entries.length)
    | none => true
  Finding.require (!set.entries.isEmpty) (path.child "entries") .attestorEntriesMissing ++
  Finding.require inRange (path.child "count") .attestorCountOutOfRange ++
  set.entries.zipIdx.flatMap fun (entry, position) =>
    let path := (path.child "entries").index position
    Finding.require entry.isDescribed path .attestorUndescribed ++
      entry.notaryFindings isNotary path

/-- What is wrong with a list of attestor sets. -/
def AttestorSet.listFindings (isNotary : Bool) (path : FieldPath) (sets : List AttestorSet) :
    List Finding :=
  sets.zipIdx.flatMap fun (set, position) =>
    set.findings isNotary ((path.child "attestors").index position)

/-- What an image verification is checked for. -/
structure ImageView where
  /-- The check is one of notary signatures. -/
  isNotary : Bool
  references : List String
  mutateDigest : Bool
  attestors : List AttestorSet
  /-- The attestor sets of each attestation. -/
  attestations : List (List AttestorSet)
  /-- The set made of the single signer of older documents. -/
  legacy : Option AttestorSet
deriving DecidableEq

/-- What is wrong with an image verification, given whether failures of its rule are only
reported. -/
def ImageView.findings (isAudit : Bool) (path : FieldPath) (v : ImageView) : List Finding :=
  Finding.require (!(isAudit && v.mutateDigest)) (path.child "mutateDigest")
    .mutateDigestInAudit ++
  Finding.require (v.references.any fun reference => !Text.isBlank reference)
    (path.child "imageReferences") .imageReferenceMissing ++
  AttestorSet.listFindings v.isNotary path v.attestors ++
  (v.attestations.zipIdx.flatMap fun (sets, position) =>
    AttestorSet.listFindings v.isNotary ((path.child "attestations").index position) sets) ++
  v.legacy.toList.flatMap fun set =>
    set.entries.flatMap (Attestor.notaryFindings v.isNotary path)

namespace Hub.ImageVerification

/-- The check is one of notary signatures. -/
def isNotary (v : ImageVerification) : Bool :=
  v.type = some .notary

def view (v : ImageVerification) : ImageView where
  isNotary := v.isNotary
  references := v.allImageReferences
  mutateDigest := v.mutateDigest
  attestors := v.attestors
  attestations := v.attestations.map Attestation.attestors
  legacy := v.legacyAttestorSet

end Hub.ImageVerification

namespace Spoke.ImageVerification

/-- The check is one of notary signatures. -/
def isNotary (v : ImageVerification) : Bool :=
  v.type = some .notary

def view (v : ImageVerification) : ImageView where
  isNotary := v.isNotary
  references := v.imageReferences
  mutateDigest := v.mutateDigest
  attestors := v.attestors
  attestations := v.attestations.map Attestation.attestors
  legacy := none

end Spoke.ImageVerification

end HubSpoke
