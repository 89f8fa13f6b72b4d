import StrongAuth.Bank.Call
import StrongAuth.Codec.Authorisation
import StrongAuth.Request
import StrongAuth.Response

/-! # The JSON forms of requests, responses and code grants -/

namespace StrongAuth

open Json

instance : Codec Request where
  toJson request := .object [
    field "psu" request.psu,
    field "password" request.password,
    field "authenticationMethodId" request.methodId,
    field "scaAuthenticationData" request.code,
    field "bankOutcome" request.bankOutcome]
  reader := Shape.reader <| Request.mk <$> .allow "psu" <*> .allow "password" <*>
    .allow "authenticationMethodId" <*> .allow "scaAuthenticationData" <*> .allow "bankOutcome"

instance : Codec NextLink where
  toJson link := .object [
    field "rel" link.relation,
    field "href" link.address]
  reader := Shape.reader <| NextLink.mk <$> .require "rel" <*> .require "href"

instance : Codec StartResponse where
  toJson response := .object [
    field "authorisationId" response.id,
    field "scaStatus" response.status,
    field "scaApproach" response.approach,
    field "nextLink" response.nextLink]
  reader := Shape.reader <| StartResponse.mk <$> .require "authorisationId" <*>
    .require "scaStatus" <*> .require "scaApproach" <*> .require "nextLink"

/-- The methods are left out if there is nothing to choose from. -/
instance : Codec UpdateResponse where
  toJson response := .object <| [
    field "authorisationId" response.id,
    field "scaStatus" response.status,
    field "scaApproach" response.approach,
    field "psu" response.psu] ++
    (if response.methods.isEmpty then [] else [field "scaMethods" response.methods]) ++ [
    field "chosenScaMethod" response.chosen,
    field "challengeData" response.challenge,
    field "nextLink" response.nextLink]
  reader := Shape.reader <| UpdateResponse.mk <$> .require "authorisationId" <*>
    .require "scaStatus" <*> .require "scaApproach" <*> .allow "psu" <*>
    .default "scaMethods" [] <*> .allow "chosenScaMethod" <*> .allow "challengeData" <*>
    .require "nextLink"

instance : Codec CodeGrant where
  toJson grant := .object [
    field "challenge_data" grant.challenge,
    field "sca_exempted" grant.exempted,
    field "confirmation_code" grant.confirmationCode,
    field "aspsp_data" grant.bankData]
  reader := Shape.reader <| CodeGrant.mk <$> .allow "challenge_data" <*>
    .require "sca_exempted" <*> .allow "confirmation_code" <*> .allow "aspsp_data"

end StrongAuth
