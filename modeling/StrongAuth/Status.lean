import StrongAuth.Vocabulary

/-! # The SCA status of an authorisation

One authorisation walks forward through four live statuses and ends in one of
three terminal ones. `Status.check` is the transition table: every status change
the node stores has passed it.
-/

namespace StrongAuth

inductive Status
  /-- Created, nothing submitted yet. -/
  | received
  /-- The PSU named itself without proving it. -/
  | psuIdentified
  /-- The PSU passed the first factor. -/
  | psuAuthenticated
  /-- An SCA method is chosen and its challenge is out. -/
  | scaMethodSelected
  /-- SCA is complete and the underlying operation was executed. -/
  | finalised
  | failed
  /-- The bank waived SCA and the operation was executed. -/
  | exempted
  deriving DecidableEq, Repr, Inhabited

namespace Status

instance : Vocabulary Status where
  values := [.received, .psuIdentified, .psuAuthenticated, .scaMethodSelected,
    .finalised, .failed, .exempted]
  word
    | .received => "received"
    | .psuIdentified => "psuIdentified"
    | .psuAuthenticated => "psuAuthenticated"
    | .scaMethodSelected => "scaMethodSelected"
    | .finalised => "finalised"
    | .failed => "failed"
    | .exempted => "exempted"
  mem_values value := by cases value <;> simp
  word_injective left right equal := by
    cases left <;> cases right <;> simp at equal ⊢

def parse (text : String) : Except WordFault Status :=
  Vocabulary.parse "SCA status" text

/-- Terminal statuses accept no further change. -/
def isTerminal : Status → Bool
  | .finalised | .failed | .exempted => true
  | _ => false

/-- A successful authorisation counts towards the authorisation of its parent. -/
def isSuccessful : Status → Bool
  | .finalised | .exempted => true
  | _ => false

/-- Position in the forward-only order of the flow. -/
def rank : Status → Nat
  | .received => 0
  | .psuIdentified => 1
  | .psuAuthenticated => 2
  | .scaMethodSelected => 3
  | .finalised | .failed | .exempted => 4

theorem isTerminal_iff_rank (status : Status) :
    status.isTerminal = true ↔ status.rank = 4 := by
  cases status <;> simp [isTerminal, rank]

theorem isTerminal_of_isSuccessful {status : Status}
    (successful : status.isSuccessful = true) : status.isTerminal = true := by
  cases status <;> simp_all [isSuccessful, isTerminal]

end Status

/-! ## Policies -/

/-- From which statuses the bank's exemption may move an authorisation to `exempted`. -/
inductive ExemptionPolicy
  /-- Only before an SCA method is selected. -/
  | preAuthenticationOnly
  /-- From every live status. -/
  | anyNonTerminal
  deriving DecidableEq, Repr, Inhabited

instance : Vocabulary ExemptionPolicy where
  values := [.preAuthenticationOnly, .anyNonTerminal]
  word
    | .preAuthenticationOnly => "pre_authentication_only"
    | .anyNonTerminal => "any_non_terminal"
  mem_values value := by cases value <;> simp
  word_injective left right equal := by
    cases left <;> cases right <;> simp at equal ⊢

def ExemptionPolicy.allowsFrom : ExemptionPolicy → Status → Bool
  | .preAuthenticationOnly, .received
  | .preAuthenticationOnly, .psuIdentified
  | .preAuthenticationOnly, .psuAuthenticated => true
  | .preAuthenticationOnly, _ => false
  | .anyNonTerminal, status => !status.isTerminal

/-! ## Transitions -/

inductive TransitionFault
  | terminal
  | exemptionNotAllowed
  | backwards
  deriving DecidableEq, Repr

structure InvalidTransition where
  current : Status
  requested : Status
  fault : TransitionFault
  deriving DecidableEq, Repr

def TransitionFault.reason : TransitionFault → String
  | .terminal => "status is terminal"
  | .exemptionNotAllowed => "exemption not allowed at this stage"
  | .backwards => "status may not move backwards"

def InvalidTransition.message (refused : InvalidTransition) : String :=
  "Invalid transition: cannot move from " ++ Vocabulary.word refused.current ++ " to " ++
    Vocabulary.word refused.requested ++ " (" ++ refused.fault.reason ++ ")"

namespace Status

/-- The reason why `current` may not become `requested`, if there is one. Failing and
finalising are open to every live status, exemption is up to the policy, and the live
statuses are never left backwards. -/
def transitionFault? (policy : ExemptionPolicy) (current requested : Status) :
    Option TransitionFault :=
  if current.isTerminal then some .terminal
  else match requested with
    | .failed | .finalised => none
    | .exempted => if policy.allowsFrom current then none else some .exemptionNotAllowed
    | _ => if requested.rank < current.rank then some .backwards else none

/-- Accepts a status change or says why it is refused. -/
def check (policy : ExemptionPolicy) (current requested : Status) :
    Except InvalidTransition Unit :=
  match transitionFault? policy current requested with
  | none => .ok ()
  | some fault => .error ⟨current, requested, fault⟩

/-- The other statuses reachable in one change, in the order of the flow. -/
def successors (policy : ExemptionPolicy) (current : Status) : List Status :=
  Vocabulary.values.filter fun requested =>
    requested != current && (transitionFault? policy current requested).isNone

theorem check_eq_ok_iff {policy : ExemptionPolicy} {current requested : Status} :
    check policy current requested = .ok () ↔
      transitionFault? policy current requested = none := by
  unfold check
  split <;> simp_all

/-- An accepted change leaves a live status and never moves backwards. -/
theorem rank_le_of_check {policy : ExemptionPolicy} {current requested : Status}
    (accepted : check policy current requested = .ok ()) :
    current.isTerminal = false ∧ current.rank ≤ requested.rank := by
  rw [check_eq_ok_iff] at accepted
  revert accepted
  cases policy <;> cases current <;> cases requested <;> decide

end Status

end StrongAuth
