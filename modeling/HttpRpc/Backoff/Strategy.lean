import HttpRpc.Backoff.Duration
import HttpRpc.Number.Binary64
import HttpRpc.Text.Quoted

/-!
# Backoff strategies

A strategy says how long to wait before each further attempt at something that failed. The state of
one run of attempts is a mark, and `BackoffMark.next` asks a mark for the next delay. The
exponential strategy adds a step that grows by a factor and stops once the delay would exceed a
maximum; growth is computed in double arithmetic and rounded to whole nanoseconds.
-/

namespace HttpRpc

open HttpRpc.Number

/-- Why parameters make no exponential strategy. -/
inductive BackoffError where
  | zeroStep
  | invalidMultiplier (multiplier : Binary64)
  | zeroMax
  | zeroStart
deriving DecidableEq, Repr

/-- The wording of an error. -/
def BackoffError.message : BackoffError → String
  | zeroStep => "backoff step must be greater than zero"
  | invalidMultiplier multiplier =>
    "backoff multiplier must be finite and greater than 1, got " ++ Layout.plain.render multiplier
  | zeroMax => "backoff maximum must be greater than zero"
  | zeroStart => "backoff start must be greater than zero"

/-- The name of the kind of an error. -/
def BackoffError.kind : BackoffError → String
  | zeroStep => "ZeroStep"
  | invalidMultiplier _ => "InvalidMultiplier"
  | zeroMax => "ZeroMax"
  | zeroStart => "ZeroStart"

/-- The parameters of an exponential strategy: the first delay, what is first added to it, the
factor by which that grows, and the greatest delay. -/
structure TruncatedExponential where
  start : Duration
  step : Duration
  multiplier : Binary64
  max : Duration
deriving DecidableEq, Repr

namespace TruncatedExponential

/-- The parameters used where none are given. -/
def default : TruncatedExponential :=
  ⟨.ofMillis 50, .ofMillis 50, .ofInt 2, .ofMillis 5000⟩

/-- The parameters if they make a strategy, or the first thing wrong with them. -/
def build (params : TruncatedExponential) : Except BackoffError TruncatedExponential :=
  if params.start.nanos = 0 then .error .zeroStart
  else if params.step.nanos = 0 then .error .zeroStep
  else if !(params.multiplier.isFinite && params.multiplier.exceedsOne) then
    .error (.invalidMultiplier params.multiplier)
  else if params.max.nanos = 0 then .error .zeroMax
  else .ok params

/-- The greatest number of nanoseconds that a step or a sum is counted with. -/
def countLimit : Nat := Nat.pow 2 128 - 1

/-- The whole number nearest to a value, a half going up. -/
def nearest (x : Magnitude) : Nat :=
  (2 * x.num + x.den) / (2 * x.den)

/-- A step multiplied by a factor in double arithmetic. -/
def scale (step : Nat) (factor : Magnitude) : Nat :=
  match (binary64.round step 1).bind fun x => binary64.mul x factor with
  | some product => min (nearest product) countLimit
  | none => countLimit

end TruncatedExponential

/-- A plan of delays. -/
inductive BackoffStrategy where
  | exponential (params : TruncatedExponential)
  | fixed (delay : Duration) (maxRetries : Nat)
  | noRetry
deriving DecidableEq, Repr

/-- Where a run of attempts stands: the next delay and the next step in nanoseconds, or the attempts
that are left. -/
inductive BackoffMark where
  | exponential (current step : Nat) (multiplier : Magnitude) (max : Nat) (exhausted : Bool)
  | fixed (delay : Duration) (remaining : Nat)
  | noRetry
deriving DecidableEq, Repr

namespace BackoffStrategy

/-- The name of a strategy. -/
def name : BackoffStrategy → String
  | exponential _ => "TruncatedExponential"
  | fixed .. => "FixedDelay"
  | noRetry => "NoRetry"

/-- The form of a strategy in descriptions. -/
def describe : BackoffStrategy → String
  | exponential params => Text.record "TruncatedExponential"
      [("start", params.start.describe), ("step", params.step.describe),
        ("multiplier", Layout.described.render params.multiplier), ("max", params.max.describe)]
  | fixed delay maxRetries => Text.record "FixedDelay"
      [("delay", delay.describe), ("max_retries", Text.decimal maxRetries)]
  | noRetry => "NoRetry"

/-- The mark of a fresh run. -/
def newMark : BackoffStrategy → BackoffMark
  | exponential params => .exponential params.start.nanos params.step.nanos
      params.multiplier.magnitude params.max.nanos false
  | fixed delay maxRetries => .fixed delay maxRetries
  | noRetry => .noRetry

end BackoffStrategy

namespace BackoffMark

/-- The next delay, if there is one, and the mark after it. -/
def next : BackoffMark → Option Duration × BackoffMark
  | exponential current step multiplier max exhausted =>
    -- Once a delay would be too long there is never another one.
    if exhausted || max < current then (none, exponential current step multiplier max true)
    else
      (some (.ofNanos current),
        exponential (min (current + step) TruncatedExponential.countLimit)
          (TruncatedExponential.scale step multiplier) multiplier max false)
  | fixed delay 0 => (none, fixed delay 0)
  | fixed delay (remaining + 1) => (some delay, fixed delay remaining)
  | noRetry => (none, noRetry)

/-- A bound on the number of delays that a mark still yields. -/
def bound : BackoffMark → Nat
  | exponential current _ _ max _ => max + 1 - current
  | fixed _ remaining => remaining
  | noRetry => 0

end BackoffMark

end HttpRpc
