import StrongAuth.Config
import StrongAuth.Json.Codec

/-! # The JSON form of a configuration

Every setting may be left out. The restrictions are an object whose members are named
by approaches; of two members of one name the later one counts. -/

namespace StrongAuth

open Json

namespace StageRestrictions

def readMembers : (before : StageRestrictions) → List (Key × Raw) →
    Except Json.Fault StageRestrictions
  | before, [] => .ok before
  | _, (.absent reading _, _) :: _ => .error reading
  | before, (.text name, value) :: members => do
      let approach ← Reader.word (.text name)
      let statuses ← Codec.reader value
      readMembers (before.set approach statuses) members

def readLists : Reader StageRestrictions
  | .object members ending => do
      let restrictions ← readMembers .none members
      closing ending
      return restrictions
  | raw => .error raw.mismatch

def members (restrictions : StageRestrictions) : List (String × Json) :=
  (Vocabulary.values : List Approach).filterMap fun approach =>
    (restrictions.of approach).map fun statuses => field (Vocabulary.word approach) statuses

end StageRestrictions

instance : Codec StageRestrictions where
  toJson restrictions := .object [("restrictions", .object restrictions.members)]
  reader := Shape.reader (.defaulted "restrictions" .none StageRestrictions.readLists)

instance : Codec Config where
  toJson config := .object [
    field "default_approach" config.defaultApproach,
    field "supported_approaches" config.supportedApproaches,
    field "redirect_url_expiration_secs" config.redirectLifetime,
    field "authorisation_expiration_secs" config.authorisationLifetime,
    field "backend_timeout_secs" config.bankTimeout,
    field "max_failed_attempts" config.maxAttempts,
    field "zero_methods_policy" config.zeroMethods,
    field "exemption_policy" config.exemption,
    field "allowed_stages" config.restrictions,
    field "api_base_url" config.apiBase,
    field "redirect_base_url" config.redirectBase,
    field "expiry_sweep_interval_secs" config.sweepInterval]
  reader := Shape.reader <| Config.mk <$>
    .default "default_approach" Config.standard.defaultApproach <*>
    .default "supported_approaches" Config.standard.supportedApproaches <*>
    .default "redirect_url_expiration_secs" Config.standard.redirectLifetime <*>
    .default "authorisation_expiration_secs" Config.standard.authorisationLifetime <*>
    .default "backend_timeout_secs" Config.standard.bankTimeout <*>
    .default "max_failed_attempts" Config.standard.maxAttempts <*>
    .default "zero_methods_policy" Config.standard.zeroMethods <*>
    .default "exemption_policy" Config.standard.exemption <*>
    .default "allowed_stages" Config.standard.restrictions <*>
    .default "api_base_url" Config.standard.apiBase <*>
    .default "redirect_base_url" Config.standard.redirectBase <*>
    .default "expiry_sweep_interval_secs" Config.standard.sweepInterval

end StrongAuth
