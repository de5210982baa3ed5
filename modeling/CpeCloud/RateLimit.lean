import CpeCloud.Lib.Text
import Mathlib.Algebra.Order.Ring.Rat

/-!
# The rate limiter (`app/services/rate_limit.py`)

Token buckets in process memory, one per `(scope, key)`, created at the first call. Time is exact
rational seconds, the reading of `time.monotonic()`.
-/

namespace CpeCloud

/-- `TokenBucket`: `capacity` tokens, refilled at `rate` per second. -/
structure TokenBucket where
  capacity : ℚ
  rate : ℚ
  tokens : ℚ
  lastRefill : ℚ
  deriving DecidableEq

/-- `TokenBucket.__init__`, at the clock reading `now`. -/
def TokenBucket.new (capacity rate now : ℚ) : TokenBucket := ⟨capacity, rate, capacity, now⟩

/-- The refill of `try_consume`. -/
def TokenBucket.refill (b : TokenBucket) (now : ℚ) : TokenBucket :=
  { b with tokens := min b.capacity (b.tokens + (now - b.lastRefill) * b.rate), lastRefill := now }

/-- `TokenBucket.try_consume(cost)`, at the clock reading `now`. -/
def TokenBucket.tryConsume (b : TokenBucket) (now cost : ℚ) : Bool × TokenBucket :=
  let b := b.refill now
  if b.tokens ≥ cost then (true, { b with tokens := b.tokens - cost }) else (false, b)

/-- `_buckets`, lazily filled. -/
abbrev Buckets := Text × Text → Option TokenBucket

/-- The bucket of a key: the stored one, or the `defaultdict`'s fresh one. -/
def Buckets.get (bs : Buckets) (k : Text × Text) (now : ℚ) : TokenBucket :=
  (bs k).getD (TokenBucket.new 10 (10 / 60) now)

/-- `check_rate_limit(scope, key)`. -/
def checkRateLimit (bs : Buckets) (scope key : Text) (now : ℚ) : Bool × Buckets :=
  let r := (bs.get (scope, key) now).tryConsume now 1
  (r.1, Function.update bs (scope, key) (some r.2))

end CpeCloud
