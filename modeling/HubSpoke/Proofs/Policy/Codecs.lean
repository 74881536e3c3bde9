import HubSpoke.Policy.Attestor
import HubSpoke.Policy.Condition
import HubSpoke.Policy.Control
import HubSpoke.Policy.Resource
import HubSpoke.Policy.User
import HubSpoke.Proofs.Record.Fields

/-!
# Codecs of shared records

The codecs of the records that both versions use are lawful.  Each proof follows the record's codec
field by field; the floor of a record is one more than the greatest of its fields.

A record that holds JSON values carries the replacement of floats, and is known by its data because
its parts are.
-/

namespace HubSpoke

open Fields (builds_seq builds_map Echoes)

/-! ## Label selectors -/

theorem LabelRequirement.codec_plain : LabelRequirement.codec.Plain 2 := by
  apply Codec.Lawful.record
  · intro change given value hbuild
    simp only [builds_seq, builds_map] at hbuild
    obtain ⟨key, hkey, operator, hoperator, values, hvalues, rfl⟩ := hbuild
    exact (Echoes.shown (.str "") .text hkey rfl rfl).map
      |>.seq (.shown (.str "") .text hoperator rfl rfl)
      |>.seq (.plainList .text hvalues)
  · decide

theorem LabelSelector.codec_plain : LabelSelector.codec.Plain 4 := by
  apply Codec.Lawful.record
  · intro change given value hbuild
    simp only [builds_seq, builds_map] at hbuild
    obtain ⟨matchLabels, hmatchLabels, matchExpressions, hmatchExpressions, rfl⟩ := hbuild
    exact (Echoes.textMap hmatchLabels).map
      |>.seq (.plainList LabelRequirement.codec_plain hmatchExpressions)
  · decide

/-! ## Policy controls -/

theorem AdmissionOperation.codec_plain : AdmissionOperation.codec.Plain 0 :=
  .choice fun value => by cases value <;> rfl

theorem ApplyRules.codec_plain : ApplyRules.codec.Plain 0 :=
  .choice fun value => by cases value <;> rfl

theorem FailurePolicy.codec_plain : FailurePolicy.codec.Plain 0 :=
  .choice fun value => by cases value <;> rfl

theorem FailureAction.codec_plain : FailureAction.codec.Plain 0 :=
  .choice fun value => by cases value <;> rfl

theorem ActionOverride.codec_plain : ActionOverride.codec.Plain 5 := by
  apply Codec.Lawful.record
  · intro change given value hbuild
    simp only [builds_seq, builds_map] at hbuild
    obtain ⟨action, haction, namespaces, hnamespaces, namespaceSelector, hnamespaceSelector,
      rfl⟩ := hbuild
    exact (Echoes.required FailureAction.codec_plain haction).map
      |>.seq (.plainList .text hnamespaces)
      |>.seq (.plainOptional LabelSelector.codec_plain hnamespaceSelector)
  · decide

theorem MatchCondition.codec_plain : MatchCondition.codec.Plain 1 := by
  apply Codec.Lawful.record
  · intro change given value hbuild
    simp only [builds_seq, builds_map] at hbuild
    obtain ⟨name, hname, expression, hexpression, rfl⟩ := hbuild
    exact (Echoes.required .text hname).map
      |>.seq (.required .text hexpression)
  · decide

theorem WebhookConfiguration.codec_plain : WebhookConfiguration.codec.Plain 3 := by
  apply Codec.Lawful.record
  · intro change given value hbuild
    simp only [builds_seq, builds_map] at hbuild
    obtain ⟨failurePolicy, hfailurePolicy, timeoutSeconds, htimeoutSeconds, matchConditions,
      hmatchConditions, rfl⟩ := hbuild
    exact (Echoes.plainOptional FailurePolicy.codec_plain hfailurePolicy).map
      |>.seq (.plainOptional .int32 htimeoutSeconds)
      |>.seq (.plainList MatchCondition.codec_plain hmatchConditions)
  · decide

/-! ## Resource references -/

theorem ResourceReference.fields_echo {change : Binary64 → Json} {given : List (String × Json)}
    {value : ResourceReference} (h : ResourceReference.fields.build given = .ok value) :
    ResourceReference.fields.Echoes change given 0 value value
      ["apiVersion", "kind", "namespace", "name", "uid"] := by
  have hbuild : ResourceReference.fields.Builds given (· = value) := ⟨value, h, rfl⟩
  simp only [ResourceReference.fields, builds_seq, builds_map] at hbuild
  obtain ⟨apiVersion, hapiVersion, kind, hkind, namespaceName, hnamespaceName, name, hname,
    uid, huid, rfl⟩ := hbuild
  exact (Echoes.text hapiVersion).map
    |>.seq (.text hkind)
    |>.seq (.text hnamespaceName)
    |>.seq (.text hname)
    |>.seq (.text huid)

theorem CloneSource.codec_plain : CloneSource.codec.Plain 1 := by
  apply Codec.Lawful.record
  · intro change given value hbuild
    simp only [builds_seq, builds_map] at hbuild
    obtain ⟨namespaceName, hnamespaceName, name, hname, rfl⟩ := hbuild
    exact (Echoes.text hnamespaceName).map
      |>.seq (.text hname)
  · decide

theorem CloneList.codec_plain : CloneList.codec.Plain 5 := by
  apply Codec.Lawful.record
  · intro change given value hbuild
    simp only [builds_seq, builds_map] at hbuild
    obtain ⟨namespaceName, hnamespaceName, kinds, hkinds, selector, hselector, rfl⟩ := hbuild
    exact (Echoes.text hnamespaceName).map
      |>.seq (.plainList .text hkinds)
      |>.seq (.plainOptional LabelSelector.codec_plain hselector)
  · decide

/-! ## Requesting users -/

theorem Subject.codec_plain : Subject.codec.Plain 1 := by
  apply Codec.Lawful.recordInSpread
  · intro change given value hbuild
    simp only [builds_seq, builds_map] at hbuild
    obtain ⟨kind, hkind, apiGroup, hapiGroup, name, hname, namespaceName, hnamespaceName,
      rfl⟩ := hbuild
    exact (Echoes.shown (.str "") .text hkind rfl rfl).map
      |>.seq (.text hapiGroup)
      |>.seq (.shown (.str "") .text hname rfl rfl)
      |>.seq (.text hnamespaceName)
  · decide

theorem UserInfo.fields_echo {change : Binary64 → Json} {given : List (String × Json)}
    {value : UserInfo} (h : UserInfo.fields.build given = .ok value) :
    UserInfo.fields.Echoes change given 2 value value
      ["roles", "clusterRoles", "subjects"] := by
  have hbuild : UserInfo.fields.Builds given (· = value) := ⟨value, h, rfl⟩
  simp only [UserInfo.fields, builds_seq, builds_map] at hbuild
  obtain ⟨roles, hroles, clusterRoles, hclusterRoles, subjects, hsubjects, rfl⟩ := hbuild
  exact (Echoes.plainList .text hroles).map
    |>.seq (.plainList .text hclusterRoles)
    |>.seq (.plainList Subject.codec_plain hsubjects)

/-! ## Attestors -/

theorem SignatureFormat.codec_plain : SignatureFormat.codec.Plain 0 :=
  .choice fun value => by cases value <;> rfl

theorem SecretReference.codec_plain : SecretReference.codec.Plain 1 := by
  apply Codec.Lawful.record
  · intro change given value hbuild
    simp only [builds_seq, builds_map] at hbuild
    obtain ⟨name, hname, namespaceName, hnamespaceName, rfl⟩ := hbuild
    exact (Echoes.required .text hname).map
      |>.seq (.required .text hnamespaceName)
  · decide

theorem Rekor.codec_plain : Rekor.codec.Plain 1 := by
  apply Codec.Lawful.record
  · intro change given value hbuild
    simp only [builds_map] at hbuild
    obtain ⟨url, hurl, rfl⟩ := hbuild
    exact (Echoes.text hurl).map
  · decide

theorem KeyAttestor.codec_plain : KeyAttestor.codec.Plain 2 := by
  apply Codec.Lawful.record
  · intro change given value hbuild
    simp only [builds_seq, builds_map] at hbuild
    obtain ⟨publicKeys, hpublicKeys, signatureAlgorithm, hsignatureAlgorithm, kms, hkms, secret,
      hsecret, rekor, hrekor, rfl⟩ := hbuild
    exact (Echoes.text hpublicKeys).map
      |>.seq (.text hsignatureAlgorithm)
      |>.seq (.text hkms)
      |>.seq (.plainOptional SecretReference.codec_plain hsecret)
      |>.seq (.plainOptional Rekor.codec_plain hrekor)
  · decide

theorem CertificateAttestor.codec_plain : CertificateAttestor.codec.Plain 2 := by
  apply Codec.Lawful.record
  · intro change given value hbuild
    simp only [builds_seq, builds_map] at hbuild
    obtain ⟨cert, hcert, certChain, hcertChain, rekor, hrekor, rfl⟩ := hbuild
    exact (Echoes.text hcert).map
      |>.seq (.text hcertChain)
      |>.seq (.plainOptional Rekor.codec_plain hrekor)
  · decide

theorem KeylessAttestor.codec_plain : KeylessAttestor.codec.Plain 2 := by
  apply Codec.Lawful.record
  · intro change given value hbuild
    simp only [builds_seq, builds_map] at hbuild
    obtain ⟨issuer, hissuer, subject, hsubject, roots, hroots, additionalExtensions,
      hadditionalExtensions, rekor, hrekor, rfl⟩ := hbuild
    exact (Echoes.text hissuer).map
      |>.seq (.text hsubject)
      |>.seq (.text hroots)
      |>.seq (.textMap hadditionalExtensions)
      |>.seq (.plainOptional Rekor.codec_plain hrekor)
  · decide

instance : HoldsFloats Attestor where
  mapFloats change a := { a with attestor := mapFloats change a.attestor }
  mapFloats_float a := by simp only [mapFloats_float]

instance : KnownByData Attestor :=
  .ofParts (fun a => a.attestor) fun a attestor => { a with attestor }

theorem Attestor.codec_lawful : Attestor.codec.Lawful mapFloats 3 := by
  apply Codec.Lawful.record
  · intro change given value hbuild
    simp only [builds_seq, builds_map] at hbuild
    obtain ⟨keys, hkeys, certificates, hcertificates, keyless, hkeyless, attestor, hattestor,
      annotations, hannotations, repository, hrepository, rfl⟩ := hbuild
    exact (Echoes.plainOptional KeyAttestor.codec_plain hkeys).map
      |>.seq (.plainOptional CertificateAttestor.codec_plain hcertificates)
      |>.seq (.plainOptional KeylessAttestor.codec_plain hkeyless)
      |>.seq (.optional .json hattestor)
      |>.seq (.textMap hannotations)
      |>.seq (.text hrepository)
  · decide

instance : HoldsFloats AttestorSet where
  mapFloats change s := { s with entries := mapFloats change s.entries }
  mapFloats_float s := by simp only [mapFloats_float]

instance : KnownByData AttestorSet :=
  .ofParts (fun s => s.entries) fun s entries => { s with entries }

theorem AttestorSet.codec_lawful : AttestorSet.codec.Lawful mapFloats 5 := by
  apply Codec.Lawful.record
  · intro change given value hbuild
    simp only [builds_seq, builds_map] at hbuild
    obtain ⟨count, hcount, entries, hentries, rfl⟩ := hbuild
    exact (Echoes.plainOptional .int32 hcount).map
      |>.seq (.list Attestor.codec_lawful hentries)
  · decide

theorem RegistryCredentials.codec_plain : RegistryCredentials.codec.Plain 2 := by
  apply Codec.Lawful.record
  · intro change given value hbuild
    simp only [builds_seq, builds_map] at hbuild
    obtain ⟨allowInsecureRegistry, hallowInsecureRegistry, secrets, hsecrets, rfl⟩ := hbuild
    exact (Echoes.flag hallowInsecureRegistry).map
      |>.seq (.plainList .text hsecrets)
  · decide

/-! ## Conditions -/

instance : HoldsFloats Condition where
  mapFloats change c := { c with
    key := mapFloats change c.key
    value := mapFloats change c.value }
  mapFloats_float c := by simp only [mapFloats_float]

instance : KnownByData Condition :=
  .ofParts (fun c => (c.key, c.value)) fun c (key, value) => { c with key, value }

theorem Condition.codec_lawful : Condition.codec.Lawful mapFloats 1 := by
  apply Codec.Lawful.record
  · intro change given value hbuild
    simp only [builds_seq, builds_map] at hbuild
    obtain ⟨key, hkey, operator, hoperator, value, hvalue, message, hmessage, rfl⟩ := hbuild
    exact (Echoes.shown .null .json hkey rfl rfl).map
      |>.seq (.shown (.str "") .text hoperator rfl rfl)
      |>.seq (.optional .json hvalue)
      |>.seq (.text hmessage)
  · decide

instance : HoldsFloats ConditionBlock where
  mapFloats change block := { block with
    any := mapFloats change block.any
    all := mapFloats change block.all }
  mapFloats_float block := by simp only [mapFloats_float]

instance : KnownByData ConditionBlock :=
  .ofParts (fun block => (block.any, block.all)) fun _ (any, all) => { any, all }

theorem ConditionBlock.codec_lawful : ConditionBlock.codec.Lawful mapFloats 3 := by
  apply Codec.Lawful.record
  · intro change given value hbuild
    simp only [builds_seq, builds_map] at hbuild
    obtain ⟨any, hany, all, hall, rfl⟩ := hbuild
    exact (Echoes.list Condition.codec_lawful hany).map
      |>.seq (.list Condition.codec_lawful hall)
  · decide

end HubSpoke
