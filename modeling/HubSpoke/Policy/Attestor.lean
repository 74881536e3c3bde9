import HubSpoke.Json.SameData
import HubSpoke.Record.Fields

/-!
# Attestors

Who must have signed an image, and how images are fetched.  The same in both versions.
-/

namespace HubSpoke

/-- The format of the signatures a rule checks. -/
inductive SignatureFormat where
  | cosign
  | notary
deriving DecidableEq, Repr

def SignatureFormat.codec : Codec SignatureFormat :=
  .choice [("Cosign", .cosign), ("Notary", .notary)] fun
    | .cosign => "Cosign"
    | .notary => "Notary"

/-- A secret that holds a key. -/
structure SecretReference where
  name : String
  namespaceName : String
deriving DecidableEq

def SecretReference.codec : Codec SecretReference :=
  .record "SecretReference" <|
    SecretReference.mk
      <$> .required "name" .text SecretReference.name
      <*> .required "namespace" .text SecretReference.namespaceName

/-- Transparency log settings. -/
structure Rekor where
  url : String := ""
deriving DecidableEq

def Rekor.codec : Codec Rekor :=
  .record "Rekor" <| Rekor.mk <$> .text "url" Rekor.url

/-- An attestor known by its keys. -/
structure KeyAttestor where
  publicKeys : String := ""
  signatureAlgorithm : String := ""
  kms : String := ""
  secret : Option SecretReference := none
  rekor : Option Rekor := none
deriving DecidableEq

def KeyAttestor.codec : Codec KeyAttestor :=
  .record "StaticKeyAttestor" <|
    KeyAttestor.mk
      <$> .text "publicKeys" KeyAttestor.publicKeys
      <*> .text "signatureAlgorithm" KeyAttestor.signatureAlgorithm
      <*> .text "kms" KeyAttestor.kms
      <*> .optional "secret" SecretReference.codec KeyAttestor.secret
      <*> .optional "rekor" Rekor.codec KeyAttestor.rekor

/-- An attestor known by a certificate. -/
structure CertificateAttestor where
  cert : String := ""
  certChain : String := ""
  rekor : Option Rekor := none
deriving DecidableEq

def CertificateAttestor.codec : Codec CertificateAttestor :=
  .record "CertificateAttestor" <|
    CertificateAttestor.mk
      <$> .text "cert" CertificateAttestor.cert
      <*> .text "certChain" CertificateAttestor.certChain
      <*> .optional "rekor" Rekor.codec CertificateAttestor.rekor

/-- An attestor known by an identity. -/
structure KeylessAttestor where
  issuer : String := ""
  subject : String := ""
  roots : String := ""
  additionalExtensions : KeyMap String := .empty
  rekor : Option Rekor := none
deriving DecidableEq

def KeylessAttestor.codec : Codec KeylessAttestor :=
  .record "KeylessAttestor" <|
    KeylessAttestor.mk
      <$> .text "issuer" KeylessAttestor.issuer
      <*> .text "subject" KeylessAttestor.subject
      <*> .text "roots" KeylessAttestor.roots
      <*> .textMap "additionalExtensions" KeylessAttestor.additionalExtensions
      <*> .optional "rekor" Rekor.codec KeylessAttestor.rekor

/-- One attestor. -/
structure Attestor where
  keys : Option KeyAttestor := none
  certificates : Option CertificateAttestor := none
  keyless : Option KeylessAttestor := none
  /-- A set of attestors inside this one, which is not looked into. -/
  attestor : Option Json := none
  annotations : KeyMap String := .empty
  repository : String := ""
deriving DecidableEq

namespace Attestor

instance : Unsigned Attestor := ⟨fun a => { a with attestor := unsigned a.attestor }⟩

def codec : Codec Attestor :=
  .record "Attestor" <|
    Attestor.mk
      <$> .optional "keys" KeyAttestor.codec Attestor.keys
      <*> .optional "certificates" CertificateAttestor.codec Attestor.certificates
      <*> .optional "keyless" KeylessAttestor.codec Attestor.keyless
      <*> .optional "attestor" .json Attestor.attestor
      <*> .textMap "annotations" Attestor.annotations
      <*> .text "repository" Attestor.repository

/-- The entry says in some way who the attestor is. -/
def isDescribed (a : Attestor) : Bool :=
  a.keys.isSome || a.certificates.isSome || a.keyless.isSome || a.attestor.isSome

end Attestor

/-- Attestors of which a number must have signed, or all when none is given. -/
structure AttestorSet where
  count : Option Int32 := none
  entries : List Attestor := []
deriving DecidableEq

namespace AttestorSet

instance : Unsigned AttestorSet := ⟨fun s => { s with entries := unsigned s.entries }⟩

def codec : Codec AttestorSet :=
  .record "AttestorSet" <|
    AttestorSet.mk
      <$> .optional "count" .int32 AttestorSet.count
      <*> .list "entries" Attestor.codec AttestorSet.entries

end AttestorSet

/-- How image registries are accessed. -/
structure RegistryCredentials where
  allowInsecureRegistry : Bool := false
  secrets : List String := []
deriving DecidableEq

def RegistryCredentials.codec : Codec RegistryCredentials :=
  .record "ImageRegistryCredentials" <|
    RegistryCredentials.mk
      <$> .flag "allowInsecureRegistry" RegistryCredentials.allowInsecureRegistry
      <*> .list "secrets" .text RegistryCredentials.secrets

end HubSpoke
