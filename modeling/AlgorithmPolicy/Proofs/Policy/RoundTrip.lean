import AlgorithmPolicy.Policy.Encoding
import AlgorithmPolicy.Proofs.Json.RoundTrip
import AlgorithmPolicy.Proofs.Time.Rfc3339

/-! A policy that can be written is read back as it was. -/

namespace AlgorithmPolicy

open Json Json.Reader

/-! ## Dates and strings -/

section Simple

variable {room : Nat}

theorem Instant.readsBack_option {instant : Option Instant} {json : Json}
    (written : Instant.optionToJson instant = .ok json) :
    ReadsBack (nullable Reader.instant) room json instant := by
  cases instant with
  | none =>
      rcases Except.ok.inj written with rfl
      exact readsBack_null
  | some instant =>
      rcases Except.map_eq_ok_iff.mp written with ⟨text, isText, rfl⟩
      refine ReadsBack.nullable ?_ nofun
      intro isSorted
      rw [draftOf_string, Reader.instant, Reader.instantOfText, Rfc3339.read_of_write_eq_ok isText]

theorem readsBack_optionalString (text : Option String) :
    ReadsBack (nullable string) room (ofOption .string text) text :=
  readsBack_ofOption readsBack_string nofun text

theorem readsBack_strings (texts : List String) :
    ReadsBack (list string) (room + 1) (ofStrings texts) texts :=
  readsBack_map readsBack_string texts

theorem readsBack_optionalInt64 (number : Option Int64) :
    ReadsBack (nullable int64) room (ofOption (fun number => .integer number.toInt) number)
      number :=
  readsBack_ofOption readsBack_int64 nofun number

end Simple

namespace Policy

/-! ## Parts of policies -/

section Parts

variable {room : Nat}

theorem Identifier.readsBack (identifier : Identifier) :
    ReadsBack Identifier.reader (room + 2) identifier.toJson identifier := by
  refine Declaration.readsBack rfl (by decide) fun record holds => ?_
  have name : record.Reads "name" _ _ := holds (by simp) (readsBack_string identifier.name)
  have objectIdentifiers : record.Reads "object_identifiers" _ _ :=
    holds (by simp) (readsBack_strings identifier.objectIdentifiers)
  have uris : record.Reads "uris" _ _ := holds (by simp) (readsBack_strings identifier.uris)
  rw [name.required, objectIdentifiers.defaulted, uris.defaulted]
  rfl

theorem Parameter.readsBack (parameter : Parameter) :
    ReadsBack Parameter.reader (room + 1) parameter.toJson parameter := by
  refine Declaration.readsBack rfl (by decide) fun record holds => ?_
  have name : record.Reads "name" _ _ := holds (by simp) (readsBack_string parameter.name)
  have min : record.Reads "min" _ _ := holds (by simp) (readsBack_optionalInt64 parameter.min)
  have max : record.Reads "max" _ _ := holds (by simp) (readsBack_optionalInt64 parameter.max)
  rw [name.required, min.defaulted, max.defaulted]
  rfl

theorem Evaluation.readsBack {evaluation : Evaluation} {json : Json}
    (written : evaluation.toJson = .ok json) :
    ReadsBack Evaluation.reader (room + 3) json evaluation := by
  rcases Except.bind_eq_ok_iff.mp written with ⟨dateJson, dateWritten, isJson⟩
  rcases Except.ok.inj isJson with rfl
  refine Declaration.readsBack rfl (by decide) fun record holds => ?_
  have validityEnd : record.Reads "validity_end" _ _ :=
    holds (by simp) (Instant.readsBack_option dateWritten)
  have parameters : record.Reads "parameters" _ _ :=
    holds (by simp) (readsBack_map Parameter.readsBack evaluation.parameters)
  have usage : record.Reads "usage" _ _ := holds (by simp) (readsBack_strings evaluation.usage)
  have recommendation : record.Reads "recommendation" _ _ :=
    holds (by simp) (readsBack_optionalString evaluation.recommendation)
  rw [validityEnd.defaulted, parameters.defaulted, usage.defaulted, recommendation.defaulted]
  rfl

theorem Entry.readsBack {entry : Entry} {json : Json} (written : entry.toJson = .ok json) :
    ReadsBack Entry.reader (room + 5) json entry := by
  rcases Except.bind_eq_ok_iff.mp written with ⟨jsons, evaluationsWritten, isJson⟩
  rcases Except.ok.inj isJson with rfl
  refine Declaration.readsBack rfl (by decide) fun record holds => ?_
  have identifier : record.Reads "identifier" _ _ :=
    holds (by simp) (Identifier.readsBack entry.identifier)
  have evaluations : record.Reads "evaluations" _ _ :=
    holds (by simp) (readsBack_mapM (fun _ _ => Evaluation.readsBack) evaluationsWritten)
  have information : record.Reads "information" _ _ :=
    holds (by simp) (readsBack_strings entry.information)
  rw [identifier.required, evaluations.defaulted, information.defaulted]
  rfl

theorem Title.readsBack (title : Title) :
    ReadsBack Title.reader (room + 1) title.toJson title := by
  refine Declaration.readsBack rfl (by decide) fun record holds => ?_
  have name : record.Reads "name" _ _ := holds (by simp) (readsBack_string title.name)
  have objectIdentifier : record.Reads "object_identifier" _ _ :=
    holds (by simp) (readsBack_optionalString title.objectIdentifier)
  have uri : record.Reads "uri" _ _ := holds (by simp) (readsBack_optionalString title.uri)
  rw [name.required, objectIdentifier.defaulted, uri.defaulted]
  rfl

theorem Publisher.readsBack (publisher : Publisher) :
    ReadsBack Publisher.reader (room + 1) publisher.toJson publisher := by
  refine Declaration.readsBack rfl (by decide) fun record holds => ?_
  have name : record.Reads "name" _ _ := holds (by simp) (readsBack_string publisher.name)
  have address : record.Reads "address" _ _ :=
    holds (by simp) (readsBack_optionalString publisher.address)
  have uri : record.Reads "uri" _ _ := holds (by simp) (readsBack_optionalString publisher.uri)
  rw [name.required, address.defaulted, uri.defaulted]
  rfl

end Parts

/-! ## Policies -/

theorem readsBack {policy : Policy} {json : Json} {room : Nat}
    (written : policy.toJson = .ok json) : ReadsBack reader (room + 7) json policy := by
  rcases Except.bind_eq_ok_iff.mp written with ⟨issueJson, issueWritten, more⟩
  rcases Except.bind_eq_ok_iff.mp more with ⟨updateJson, updateWritten, more⟩
  rcases Except.bind_eq_ok_iff.mp more with ⟨jsons, entriesWritten, isJson⟩
  rcases Except.ok.inj isJson with rfl
  refine Declaration.readsBack rfl (by decide) fun record holds => ?_
  have title : record.Reads "policy_name" _ _ :=
    holds (by simp) (readsBack_ofOption Title.readsBack nofun policy.title)
  have publisher : record.Reads "publisher" _ _ :=
    holds (by simp) (readsBack_ofOption Publisher.readsBack nofun policy.publisher)
  have issueDate : record.Reads "policy_issue_date" _ _ :=
    holds (by simp) (Instant.readsBack_option issueWritten)
  have nextUpdate : record.Reads "next_update" _ _ :=
    holds (by simp) (Instant.readsBack_option updateWritten)
  have usage : record.Reads "usage" _ _ :=
    holds (by simp) (readsBack_optionalString policy.usage)
  have version : record.Reads "version" _ _ :=
    holds (by simp) (readsBack_optionalString policy.version)
  have language : record.Reads "lang" _ _ :=
    holds (by simp) (readsBack_optionalString policy.language)
  have id : record.Reads "id" _ _ := holds (by simp) (readsBack_optionalString policy.id)
  have entries : record.Reads "algorithms" _ _ :=
    holds (by simp) (readsBack_mapM (fun _ _ => Entry.readsBack) entriesWritten)
  rw [title.defaulted, publisher.defaulted, issueDate.defaulted, nextUpdate.defaulted,
    usage.defaulted, version.defaulted, language.defaulted, id.defaulted, entries.defaulted]
  rfl

end Policy

end AlgorithmPolicy
