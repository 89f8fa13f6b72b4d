import StrongAuth.Authorisation
import StrongAuth.Json.Codec

/-! # The JSON forms of authorisations and resources -/

namespace StrongAuth

open Json

/-! ## PSUs, methods and challenges -/

instance : Codec Psu where
  toJson psu := .object [
    field "psuId" psu.id,
    field "psuIdType" psu.idType,
    field "psuCorporateId" psu.corporateId,
    field "psuCorporateIdType" psu.corporateIdType,
    field "psuIpAddress" psu.ipAddress]
  reader := Shape.reader <| Psu.mk <$> .allow "psuId" <*> .allow "psuIdType" <*>
    .allow "psuCorporateId" <*> .allow "psuCorporateIdType" <*> .allow "psuIpAddress"

instance : Codec Method where
  toJson method := .object [
    field "authenticationMethodId" method.id,
    field "authenticationType" method.kind,
    field "name" method.name,
    field "decoupled" method.decoupled]
  reader := Shape.reader <| Method.mk <$> .require "authenticationMethodId" <*>
    .require "authenticationType" <*> .allow "name" <*> .default "decoupled" false

instance : Codec Challenge where
  toJson challenge := .object [
    field "otpFormat" challenge.otpFormat,
    field "otpMaxLength" challenge.otpMaxLength,
    field "image" challenge.image,
    field "additionalInformation" challenge.additionalInformation]
  reader := Shape.reader <| Challenge.mk <$> .allow "otpFormat" <*> .allow "otpMaxLength" <*>
    .allow "image" <*> .allow "additionalInformation"

/-! ## Resources -/

/-- The status of a consent or a payment from a kept value: the words of consents are tried
before those of payments, whatever the kind of the resource. -/
def ParentStatus.keptReader : Reader ParentStatus := fun raw =>
  match Reader.keptVariant false raw with
  | .ok status => .ok (.consent status)
  | .error _ => (Reader.keptVariant false raw).map .payment

/-- The status of a consent or a payment, with the given room for nesting. -/
def ParentStatus.readerWithin (room : Nat) : Reader ParentStatus := fun raw => do
  raw.keep room
  ParentStatus.keptReader raw

instance : Codec ParentStatus where
  toJson status := .text status.word
  reader := ParentStatus.readerWithin Raw.topRoom

instance : Codec Resource where
  toJson resource := .object [
    field "resource_id" resource.id,
    field "resource_kind" resource.kind,
    field "status" resource.status,
    field "multilevel_sca_required" resource.multilevel,
    field "one_factor_authorisation" resource.oneFactor,
    field "partial_authorisation_allowed" resource.partialAllowed,
    field "psus" resource.coSigners,
    field "created_at" resource.created]
  reader := Shape.reader <| Resource.mk <$> .require "resource_id" <*>
    .require "resource_kind" <*>
    .required "status" (ParentStatus.readerWithin (Raw.topRoom - 1)) <*>
    .require "multilevel_sca_required" <*> .require "one_factor_authorisation" <*>
    .require "partial_authorisation_allowed" <*> .require "psus" <*> .require "created_at"

/-! ## Authorisations -/

def readVersion : Reader Int64 := fun raw =>
  (Reader.integer (-9223372036854775808) 9223372036854775807 raw).map Int64.ofInt

instance : Codec Authorisation where
  toJson record := .object [
    field "authorisation_id" record.id,
    field "parent_id" record.parent,
    field "resource_kind" record.kind,
    field "psu" record.psu,
    field "sca_status" record.status,
    field "sca_approach" record.approach,
    field "chosen_sca_method" record.chosen,
    field "available_sca_methods" record.offered,
    field "challenge_data" record.challenge,
    field "confirmation_code_hash" record.codeHash,
    field "aspsp_data" record.bankData,
    field "failed_attempts" record.failedAttempts,
    field "redirect_url_expiration" record.redirectDeadline,
    field "authorisation_expiration" record.deadline,
    ("version", .number record.version.toInt),
    field "created_at" record.created,
    field "updated_at" record.updated]
  reader := Shape.reader <| Authorisation.mk <$> .require "authorisation_id" <*>
    .require "parent_id" <*> .require "resource_kind" <*> .allow "psu" <*>
    .require "sca_status" <*> .require "sca_approach" <*> .allow "chosen_sca_method" <*>
    .require "available_sca_methods" <*> .allow "challenge_data" <*>
    .allow "confirmation_code_hash" <*> .allow "aspsp_data" <*> .require "failed_attempts" <*>
    .require "redirect_url_expiration" <*> .require "authorisation_expiration" <*>
    .required "version" readVersion <*> .require "created_at" <*> .require "updated_at"

end StrongAuth
