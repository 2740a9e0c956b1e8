import ODataClient.Http.Error

/-! # Retries
Which outcomes of an attempt are tried again, how often, and after which delay. The delay doubles
with every retry; the factor stays below `2 ^ 32`, and the delay never exceeds the longest duration. -/

namespace ODataClient

/-- Whether an outcome may pass by itself: a timeout, an error of the service or of the network. -/
def isTransient : Outcome → Bool
  | .ok response => response.status == requestTimeoutStatus || response.isServerError
  | .error error => error.isTransient

/-- When and how often an attempt is repeated. -/
structure RetryPolicy where
  /-- The largest number of retries after the first attempt. -/
  maxRetries : Nat
  /-- The delay that the doubling starts from. -/
  baseDelay : Duration
  /-- Whether errors of the service are retried. -/
  onServerError : Bool
  /-- Whether timeouts are retried. -/
  onTimeout : Bool
  /-- Whether other errors of the network are retried. -/
  onNetwork : Bool
deriving DecidableEq, Repr

namespace RetryPolicy

/-- Three retries of everything that may pass by itself, the first after two seconds. -/
def standard : RetryPolicy := ⟨3, Duration.ofSeconds 1, true, true, true⟩

/-- No retry of anything. -/
def never : RetryPolicy := ⟨0, Duration.ofSeconds 1, false, false, false⟩

/-- The largest factor of the base delay. -/
def maxFactor : Nat := Nat.pow 2 32 - 1

/-- The factor of the base delay before a retry, counted from one. -/
def factor (retry : Nat) : Nat := if retry < 32 then Nat.pow 2 retry else maxFactor

/-- The delay before a retry, counted from one. -/
def delay (policy : RetryPolicy) (retry : Nat) : Duration :=
  Duration.saturatingMul policy.baseDelay (factor retry)

/-- Whether an outcome is one to try again. -/
def shouldRetry (policy : RetryPolicy) : Outcome → Bool
  | .ok response =>
    if response.status = requestTimeoutStatus then policy.onTimeout
    else response.isServerError && policy.onServerError
  | .error (.timeout _) => policy.onTimeout
  | .error (.connect _) => policy.onNetwork
  | .error (.network _) => policy.onNetwork
  | .error (.circuitOpen _) => false

/-- The delay after which an attempt is repeated, given the retries made so far; none if its outcome
stands. -/
def nextDelay (policy : RetryPolicy) (retries : Nat) (outcome : Outcome) : Option Duration :=
  if retries < policy.maxRetries ∧ policy.shouldRetry outcome then some (policy.delay (retries + 1))
  else none

end RetryPolicy

end ODataClient
