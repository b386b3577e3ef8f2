import WooriDb.Runtime

/-!
# `chrono` instants and durations

`put_user_session_controller` computes `Utc::now() + chrono::Duration::seconds(exp_time)`
(`auth/controllers.rs:177`), and `Types::DateTime` holds a `DateTime<Utc>` (`lib.rs:96`).
chrono is not part of the repository; its `Duration` (the `time 0.1` one chrono 0.4
re-exports) and the range of its `NaiveDateTime` are rendered here: `Duration::seconds`
panics outside `i64::MIN..=i64::MAX` milliseconds, and `DateTime + Duration` panics when the
sum leaves the years `-262144..=262143`.
-/

namespace WooriDb

/-- `i64` (and `isize`, which is 64 bits wide on the targets `woori-db` builds for): from
    `-2 ^ 63` to `2 ^ 63 - 1`. -/
structure I64 where
  val : Int
  ge_min : -9223372036854775808 ≤ val
  lt_max : val < 9223372036854775808
  deriving DecidableEq

namespace I64

/-- `i64::MAX`. -/
def max : I64 := ⟨9223372036854775807, by decide, by decide⟩

/-- An `i64` literal. -/
def ofInt (i : Int) (h : -9223372036854775808 ≤ i ∧ i < 9223372036854775808 := by decide) :
    I64 :=
  ⟨i, h.1, h.2⟩

end I64

/-- Seconds from the Unix epoch to `-262144-01-01T00:00:00`, the first instant of chrono's
    range. -/
def minUtcSecs : Int := -8334632937600

/-- Seconds from the Unix epoch to `+262143-12-31T23:59:59`, the last second of chrono's
    range. -/
def maxUtcSecs : Int := 8210298412799

/-- `DateTime<Utc>`: seconds from the Unix epoch and nanoseconds, inside chrono's range
    (leap-second representations left out). -/
structure DateTimeUtc where
  secs : Int
  nanos : Nat
  nanos_lt : nanos < 10 ^ 9
  ge_min : minUtcSecs ≤ secs
  le_max : secs ≤ maxUtcSecs
  deriving DecidableEq

/-- `chrono::Duration`: seconds, and nanoseconds in `[0, 10 ^ 9)`. -/
structure Duration where
  secs : Int
  nanos : Nat
  nanos_lt : nanos < 10 ^ 9
  deriving DecidableEq

namespace Duration

/-- The derived order of `Duration`, lexicographic on `(secs, nanos)`. -/
def lt (a b : Duration) : Bool := a.secs < b.secs || (a.secs = b.secs && a.nanos < b.nanos)

/-- `MIN`, `i64::MIN` milliseconds: `secs = i64::MIN / 1000 - 1`,
    `nanos = 10 ^ 9 + (i64::MIN % 1000) * 10 ^ 6`. -/
def min : Duration := ⟨-9223372036854775 - 1, 10 ^ 9 - 808 * 10 ^ 6, by decide⟩

/-- `MAX`, `i64::MAX` milliseconds: `secs = i64::MAX / 1000`,
    `nanos = (i64::MAX % 1000) * 10 ^ 6`. -/
def max : Duration := ⟨9223372036854775, 807 * 10 ^ 6, by decide⟩

/-- The message `Duration::seconds` panics with. -/
def secondsOutOfBounds : String := "Duration::seconds out of bounds"

/-- `Duration::seconds`. -/
def seconds {ε : Type} (seconds : I64) : Exit ε Duration :=
  let d : Duration := ⟨seconds.val, 0, by decide⟩
  if d.lt min || max.lt d then .panic secondsOutOfBounds else .ok d

/-- `Duration::seconds` returns exactly on the seconds within `MIN..=MAX`. -/
theorem seconds_eq {ε : Type} (s : I64) :
    (seconds s : Exit ε Duration) =
      if -9223372036854776 < s.val ∧ s.val ≤ 9223372036854775 then .ok ⟨s.val, 0, by decide⟩
      else .panic secondsOutOfBounds := by
  unfold seconds lt min max
  by_cases h : -9223372036854776 < s.val ∧ s.val ≤ 9223372036854775
  · rw [if_neg (by simp; omega), if_pos h]
  · rw [if_pos (by simp; omega), if_neg h]

end Duration

/-- The message `DateTime + Duration` panics with. -/
def addOverflowed : String := "`DateTime + Duration` overflowed"

/-- `DateTime<Utc> + Duration`: `checked_add_signed(rhs).expect(..)`, which fails exactly
    when the sum leaves chrono's range. -/
def DateTimeUtc.add {ε : Type} (t : DateTimeUtc) (d : Duration) : Exit ε DateTimeUtc :=
  let n := t.nanos + d.nanos
  let secs := t.secs + d.secs + ((n / 10 ^ 9 : Nat) : Int)
  if h : minUtcSecs ≤ secs ∧ secs ≤ maxUtcSecs then
    .ok ⟨secs, n % 10 ^ 9, Nat.mod_lt _ (by decide), h.1, h.2⟩
  else .panic addOverflowed

/-- Adding a whole number of seconds moves the seconds and keeps the nanoseconds, and
    panics exactly when the seconds leave chrono's range. -/
theorem DateTimeUtc.add_seconds {ε : Type} (t : DateTimeUtc) (s : Int) :
    (t.add ⟨s, 0, by decide⟩ : Exit ε DateTimeUtc) =
      if h : minUtcSecs ≤ t.secs + s ∧ t.secs + s ≤ maxUtcSecs then
        .ok ⟨t.secs + s, t.nanos, t.nanos_lt, h.1, h.2⟩
      else .panic addOverflowed := by
  have small : t.nanos / 10 ^ 9 = 0 := Nat.div_eq_of_lt t.nanos_lt
  have mod : t.nanos % 10 ^ 9 = t.nanos := Nat.mod_eq_of_lt t.nanos_lt
  unfold add
  simp only [Nat.add_zero, small, mod, Int.ofNat_zero, Int.add_zero]

end WooriDb
