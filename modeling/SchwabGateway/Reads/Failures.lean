import Mathlib.Algebra.Order.Ring.Rat
import Mathlib.Data.Rat.Floor

set_option autoImplicit false

namespace SchwabGateway.Reads

inductive FailureKind where
  | rateLimited
  | connectTimeout
  | schedulerTimeout
  | other
deriving DecidableEq

structure FailureMetadata where
  cause : FailureKind
  retryAfter : Option ℚ
deriving DecidableEq

-- A Retry-After header as the standard library reads it: a run of digits, an
-- HTTP date with a timezone, or neither.
inductive HeaderReading where
  | digits (seconds : ℚ)
  | date (instant : ℚ)
  | unusable
deriving DecidableEq

structure RetryHeader where
  length : Nat
  reading : HeaderReading
deriving DecidableEq

def withinBound (seconds : ℚ) : Option ℚ :=
  if 0 ≤ seconds ∧ seconds ≤ 60 then some seconds else none

def retryAfterSeconds (value : Option RetryHeader) (now : ℚ) : Option ℚ :=
  match value with
  | none => none
  | some header =>
      if header.length > 128 then none
      else
        match header.reading with
        | .digits seconds => withinBound seconds
        | .date instant => withinBound (instant - now)
        | .unusable => none

inductive HttpError where
  | connectTimeout
  | status (code : Nat) (retryAfter : Option RetryHeader)
deriving DecidableEq

inductive ExceptionClass where
  | upstreamUnavailable
  | upstreamMalformed
  | valueError
  | other
deriving DecidableEq

structure Raised where
  exceptionClass : ExceptionClass
  metadata : Option FailureMetadata
  http : Option HttpError
deriving DecidableEq

structure Failure where
  head : Raised
  causes : List Raised
deriving DecidableEq

def Raised.metadataOf (raised : Raised) (now : ℚ) : Option FailureMetadata :=
  match raised.metadata, raised.http with
  | some metadata, _ => some metadata
  | none, some .connectTimeout => some ⟨.connectTimeout, none⟩
  | none, some (.status 429 header) => some ⟨.rateLimited, retryAfterSeconds header now⟩
  | none, _ => none

-- At most eight links of the chain are looked at.
def classify (failure : Failure) (now : ℚ) : FailureMetadata :=
  (((failure.head :: failure.causes).take 8).findSome? (·.metadataOf now)).getD ⟨.other, none⟩

def plain (exceptionClass : ExceptionClass) : Raised := ⟨exceptionClass, none, none⟩

-- How a read of an upstream fails. The provider's own exception is wrapped as
-- the cause of an UpstreamUnavailableError; what a normalizer rejects becomes
-- an UpstreamMalformedError or stays the ValueError it is.
inductive ReadFailure where
  | provider (error : Failure)
  | unconfigured
  | malformed
  | valueError
  | unexpected
deriving DecidableEq

def ReadFailure.exception : ReadFailure → Failure
  | .provider error => ⟨plain .upstreamUnavailable, error.head :: error.causes⟩
  | .unconfigured => ⟨plain .upstreamUnavailable, []⟩
  | .malformed => ⟨plain .upstreamMalformed, [plain .valueError]⟩
  | .valueError => ⟨plain .valueError, []⟩
  | .unexpected => ⟨plain .other, []⟩

theorem rate_limited_unavailable (failure : ReadFailure) (now : ℚ)
    (limited : (classify failure.exception now).cause = .rateLimited) :
    failure.exception.head.exceptionClass = .upstreamUnavailable := by
  cases failure with
  | provider error => rfl
  | unconfigured => rfl
  | malformed => cases limited
  | valueError => cases limited
  | unexpected => cases limited

def rateLimitedRead (seconds : ℚ) : Failure :=
  ⟨⟨.upstreamUnavailable, some ⟨.rateLimited, some (min 60 seconds)⟩, none⟩, []⟩

-- max(1.0, retry_after or 1.0): zero counts as missing.
def backoffDelay (retryAfter : Option ℚ) : ℚ :=
  match retryAfter with
  | none => 1
  | some seconds => if seconds = 0 then 1 else max 1 seconds

def validRetryAfter (retryAfter : Option ℚ) : ℚ :=
  match retryAfter with
  | none => 1
  | some seconds => if 0 ≤ seconds ∧ seconds ≤ 60 then seconds else 1

theorem backoff_delay_covers (retryAfter : Option ℚ) :
    max 1 (validRetryAfter retryAfter) ≤ backoffDelay retryAfter := by
  cases retryAfter with
  | none => simp [validRetryAfter, backoffDelay]
  | some seconds =>
      simp only [validRetryAfter, backoffDelay]
      by_cases zero : seconds = 0
      · simp [zero]
      · rw [if_neg zero]
        by_cases valid : 0 ≤ seconds ∧ seconds ≤ 60
        · rw [if_pos valid]
        · rw [if_neg valid]
          simp

theorem retry_after_bound (value : Option RetryHeader) (now seconds : ℚ)
    (valid : retryAfterSeconds value now = some seconds) : 0 ≤ seconds ∧ seconds ≤ 60 := by
  have bound : ∀ candidate, withinBound candidate = some seconds → 0 ≤ seconds ∧ seconds ≤ 60 := by
    intro candidate same
    unfold withinBound at same
    split at same
    · cases same
      assumption
    · cases same
  cases value with
  | none => cases valid
  | some header =>
      simp only [retryAfterSeconds] at valid
      split at valid
      · cases valid
      · cases reading : header.reading with
        | digits candidate => rw [reading] at valid; exact bound candidate valid
        | date instant => rw [reading] at valid; exact bound (instant - now) valid
        | unusable => rw [reading] at valid; cases valid

end SchwabGateway.Reads
