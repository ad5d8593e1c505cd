import AlgorithmPolicy.Catalogue.Encoding
import AlgorithmPolicy.Proofs.Policy.RoundTrip

/-! A catalogue that can be written is read back as it was. -/

namespace AlgorithmPolicy

open Json Json.Reader

/-! ## What identifiers stand for, and ends -/

section Simple

variable {room : Nat}

theorem Resolved.readsBack (resolved : Resolved) :
    ReadsBack Resolved.reader (room + 1) resolved.toJson resolved := by
  have different : Resolved.adjacent.content ≠ Resolved.adjacent.tag := by decide
  have canBeHeld (text : String) : CanBeHeld room (.string text) := canBeHeld_string room text
  cases resolved with
  | digest algorithm =>
      exact Adjacent.readsBack different ((readsBack_label algorithm).map Resolved.digest)
        ((readsBack_heldLabel algorithm).map Resolved.digest) (canBeHeld _)
  | encryption family =>
      exact Adjacent.readsBack different ((readsBack_label family).map Resolved.encryption)
        ((readsBack_heldLabel family).map Resolved.encryption) (canBeHeld _)
  | signature algorithm =>
      exact Adjacent.readsBack different ((readsBack_label algorithm).map Resolved.signature)
        ((readsBack_heldLabel algorithm).map Resolved.signature) (canBeHeld _)
  | unknown => exact Adjacent.readsBack_bare rfl

theorem Expiration.readsBack {expiration : Expiration} {json : Json}
    (written : expiration.toJson = .ok json) :
    ReadsBack Expiration.reader room json expiration := by
  cases expiration with
  | unbounded =>
      rcases Except.ok.inj written with rfl
      intro isSorted
      rw [draftOf_null]
      rfl
  | «at» last =>
      rcases Except.map_eq_ok_iff.mp written with ⟨text, isText, rfl⟩
      intro isSorted
      have isRead : instantOfText text = .ok last := by
        rw [instantOfText, Rfc3339.read_of_write_eq_ok isText]
      rw [draftOf_string]
      exact Except.bind_eq_ok_iff.mpr ⟨some text, rfl,
        Except.bind_eq_ok_iff.mpr ⟨last, isRead, rfl⟩⟩

end Simple

namespace Catalogue

/-! ## Parts of catalogues -/

section Parts

variable {room : Nat}

theorem parameter_readsBack (parameter : Policy.Parameter) :
    ReadsBack parameterReader (room + 1) parameter.toJson parameter := by
  refine Declaration.readsBack rfl (by decide) fun record holds => ?_
  have name : record.Reads "name" _ _ := holds (by simp) (readsBack_string parameter.name)
  have min : record.Reads "min" _ _ := holds (by simp) (readsBack_optionalInt64 parameter.min)
  have max : record.Reads "max" _ _ := holds (by simp) (readsBack_optionalInt64 parameter.max)
  rw [name.required, min.implied, max.implied]
  rfl

theorem Evaluation.readsBack {evaluation : Evaluation} {json : Json}
    (written : evaluation.toJson = .ok json) :
    ReadsBack Evaluation.reader (room + 3) json evaluation := by
  rcases Except.bind_eq_ok_iff.mp written with ⟨endJson, endWritten, isJson⟩
  rcases Except.ok.inj isJson with rfl
  refine Declaration.readsBack rfl (by decide) fun record holds => ?_
  have validityEnd : record.Reads "validity_end" _ _ :=
    holds (by simp) (Expiration.readsBack endWritten)
  have parameters : record.Reads "parameters" _ _ :=
    holds (by simp) (readsBack_map parameter_readsBack evaluation.parameters)
  have usage : record.Reads "usage" _ _ := holds (by simp) (readsBack_strings evaluation.usage)
  have recommendation : record.Reads "recommendation" _ _ :=
    holds (by simp) (readsBack_optionalString evaluation.recommendation)
  rw [validityEnd.implied, parameters.required, usage.required, recommendation.implied]
  rfl

theorem Record.readsBack {entry : Record} {json : Json} (written : entry.toJson = .ok json) :
    ReadsBack Record.reader (room + 5) json entry := by
  rcases Except.bind_eq_ok_iff.mp written with ⟨jsons, evaluationsWritten, isJson⟩
  rcases Except.ok.inj isJson with rfl
  refine Declaration.readsBack rfl (by decide) fun record holds => ?_
  have identifierName : record.Reads "identifier_name" _ _ :=
    holds (by simp) (readsBack_string entry.identifierName)
  have objectIdentifiers : record.Reads "object_identifiers" _ _ :=
    holds (by simp) (readsBack_strings entry.objectIdentifiers)
  have uris : record.Reads "uris" _ _ := holds (by simp) (readsBack_strings entry.uris)
  have resolved : record.Reads "resolved" _ _ :=
    holds (by simp) (Resolved.readsBack entry.resolved)
  have evaluations : record.Reads "evaluations" _ _ :=
    holds (by simp) (readsBack_mapM (fun _ _ => Evaluation.readsBack) evaluationsWritten)
  have information : record.Reads "information" _ _ :=
    holds (by simp) (readsBack_strings entry.information)
  rw [identifierName.required, objectIdentifiers.required, uris.required, resolved.required,
    evaluations.required, information.required]
  rfl

theorem Metadata.readsBack {metadata : Metadata} {json : Json}
    (written : metadata.toJson = .ok json) :
    ReadsBack Metadata.reader (room + 1) json metadata := by
  rcases Except.bind_eq_ok_iff.mp written with ⟨issueJson, issueWritten, more⟩
  rcases Except.bind_eq_ok_iff.mp more with ⟨updateJson, updateWritten, isJson⟩
  rcases Except.ok.inj isJson with rfl
  refine Declaration.readsBack rfl (by decide) fun record holds => ?_
  have policyName : record.Reads "policy_name" _ _ :=
    holds (by simp) (readsBack_optionalString metadata.policyName)
  have policyObjectIdentifier : record.Reads "policy_object_identifier" _ _ :=
    holds (by simp) (readsBack_optionalString metadata.policyObjectIdentifier)
  have policyUri : record.Reads "policy_uri" _ _ :=
    holds (by simp) (readsBack_optionalString metadata.policyUri)
  have publisherName : record.Reads "publisher_name" _ _ :=
    holds (by simp) (readsBack_optionalString metadata.publisherName)
  have publisherAddress : record.Reads "publisher_address" _ _ :=
    holds (by simp) (readsBack_optionalString metadata.publisherAddress)
  have publisherUri : record.Reads "publisher_uri" _ _ :=
    holds (by simp) (readsBack_optionalString metadata.publisherUri)
  have issueDate : record.Reads "policy_issue_date" _ _ :=
    holds (by simp) (Instant.readsBack_option issueWritten)
  have nextUpdate : record.Reads "next_update" _ _ :=
    holds (by simp) (Instant.readsBack_option updateWritten)
  have usage : record.Reads "usage" _ _ :=
    holds (by simp) (readsBack_optionalString metadata.usage)
  have version : record.Reads "version" _ _ :=
    holds (by simp) (readsBack_string metadata.version)
  have language : record.Reads "lang" _ _ := holds (by simp) (readsBack_string metadata.language)
  have id : record.Reads "id" _ _ := holds (by simp) (readsBack_optionalString metadata.id)
  rw [policyName.implied, policyObjectIdentifier.implied, policyUri.implied,
    publisherName.implied, publisherAddress.implied, publisherUri.implied, issueDate.required,
    nextUpdate.required, usage.implied, version.required, language.required, id.implied]
  rfl

end Parts

/-! ## Catalogues -/

theorem readsBack {catalogue : Catalogue} {json : Json} {room : Nat}
    (written : catalogue.toJson = .ok json) : ReadsBack reader (room + 7) json catalogue := by
  rcases Except.bind_eq_ok_iff.mp written with ⟨recordsJson, recordsWritten, more⟩
  rcases Except.bind_eq_ok_iff.mp more with ⟨metadataJson, metadataWritten, isJson⟩
  rcases Except.map_eq_ok_iff.mp recordsWritten with ⟨jsons, eachWritten, rfl⟩
  rcases Except.ok.inj isJson with rfl
  refine Declaration.readsBack rfl (by decide) fun record holds => ?_
  have records : record.Reads "algorithms" recordsReader _ :=
    holds (by simp) (readsBack_mapM (fun _ _ => Record.readsBack) eachWritten)
  have metadata : record.Reads "metadata" _ _ :=
    holds (by simp) (Metadata.readsBack metadataWritten)
  rw [records.required, metadata.required]
  rfl

end Catalogue

end AlgorithmPolicy
