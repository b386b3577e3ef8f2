import WooriDb.Runtime

/-!
# `f64` as its bit pattern

The value domain of `wql` holds `Types::Float(f64)`, and `wql/src/lib.rs` reads a float in
three ways: the comparisons `a > b` and `a == b` (`partial_cmp` at `lib.rs:151-165` and the
derived `PartialEq` at `lib.rs:84`), the cast `*a as f64` of an `isize` (`lib.rs:156,161`),
and `integer_decode` (`lib.rs:126,188`). A float is held here as its 64 bits; the comparisons
follow IEEE 754 on them: NaN compares false with everything, `0.0 == -0.0`, and otherwise
the order of the values is the order of the sign-magnitude key below.
-/

namespace WooriDb

/-- An IEEE 754 binary64 value, held as its bit pattern (`f64::to_bits`). -/
structure F64 where
  bits : UInt64
  deriving DecidableEq, Repr

namespace F64

/-- The sign bit. -/
def sign (x : F64) : Nat := x.bits.toNat / 2 ^ 63

/-- The eleven biased exponent bits. -/
def biasedExponent (x : F64) : Nat := x.bits.toNat / 2 ^ 52 % 2 ^ 11

/-- The 52 fraction bits. -/
def fraction (x : F64) : Nat := x.bits.toNat % 2 ^ 52

/-- The 63 bits below the sign. -/
def magnitude (x : F64) : Nat := x.bits.toNat % 2 ^ 63

/-- `f64::is_nan`: all exponent bits set and a fraction that is not zero. -/
def isNaN (x : F64) : Bool := x.biasedExponent == 2047 && x.fraction != 0

/-- The position of a value that is not NaN on the line: the magnitude bits of a binary64
    grow with its magnitude (infinity included), and both zeros sit at `0`. -/
def key (x : F64) : Int := if x.sign = 0 then (x.magnitude : Int) else -(x.magnitude : Int)

/-- `a > b` on `f64`. -/
def gt (a b : F64) : Bool := !a.isNaN && !b.isNaN && decide (b.key < a.key)

/-- `a == b` on `f64`. -/
def beq (a b : F64) : Bool := !a.isNaN && !b.isNaN && a.key == b.key

/-- `0.0`. -/
def posZero : F64 := ⟨0⟩

/-- `-0.0`. -/
def negZero : F64 := ⟨0x8000000000000000⟩

example : posZero.beq negZero = true := by decide

/-- `1.0`. -/
def one : F64 := ⟨0x3FF0000000000000⟩

/-- The position of the highest set bit of `m < 2 ^ fuel` (`0` for `m = 0`). -/
def topBit : Nat → Nat → Nat
  | 0, _ => 0
  | k + 1, m => if 2 ^ k ≤ m then k else topBit k m

/-- A magnitude `m ≥ 1` below `2 ^ 64` rounded to 53 significant bits, ties to even: the
    significand in `[2 ^ 52, 2 ^ 53)` and the position of its leading bit. -/
def roundSignificand (m : Nat) : Nat × Nat :=
  let e := topBit 64 m
  if e ≤ 52 then (m * 2 ^ (52 - e), e)
  else
    let s := e - 52
    let q := m / 2 ^ s
    let r := m % 2 ^ s
    let q' := if 2 ^ (s - 1) < r ∨ (r = 2 ^ (s - 1) ∧ q % 2 = 1) then q + 1 else q
    if q' = 2 ^ 53 then (2 ^ 52, e + 1) else (q', e)

/-- `i as f64` for `i` of a 64-bit integer type: the nearest binary64, ties to even. -/
def ofInt (i : Int) : F64 :=
  if i = 0 then posZero
  else
    let (sig, e) := roundSignificand i.natAbs
    ⟨UInt64.ofNat ((if i < 0 then 2 ^ 63 else 0) + (e + 1023) * 2 ^ 52 + (sig - 2 ^ 52))⟩

example : ofInt 1 = one := by decide
example : ofInt (2 ^ 53 + 1) = ofInt (2 ^ 53) := by decide

/-- Modelled from the spec: `integer_decode` of `wql/src/logic.rs`, which src/ does not hold.
    The spec has it "decode the bit pattern (sign, mantissa, exponent)" (§3); it is the
    classic decoder returning `(mantissa, exponent, sign)` as `(u64, i16, i8)`: the fraction
    with its hidden bit (a subnormal's shifted left once), the exponent less `1023 + 52`,
    and the sign as `1` or `-1`. -/
def integerDecode (x : F64) : Nat × Int × Int :=
  let e := x.biasedExponent
  ((if e = 0 then x.fraction * 2 else x.fraction + 2 ^ 52), (e : Int) - 1075,
    if x.sign = 0 then 1 else -1)

example : integerDecode posZero ≠ integerDecode negZero := by decide

/-- `f64` has no value strictly above itself, so `a > a` is false. -/
@[simp] theorem gt_self (a : F64) : a.gt a = false := by simp [gt]

theorem eq_of_toNat {a b : F64} (h : a.bits.toNat = b.bits.toNat) : a = b := by
  cases a; cases b; simp only [mk.injEq]; exact UInt64.toNat.inj h

/-- The bits are the sign, then the magnitude; the sign is one bit. -/
theorem bits_eq (x : F64) : x.bits.toNat = x.sign * 2 ^ 63 + x.magnitude ∧ x.sign ≤ 1 := by
  have := x.bits.toNat_lt
  simp only [sign, magnitude]; omega

/-- Two floats that compare equal are the same bits, or are the two zeros: `==` on `f64`
    identifies no other pair of bit patterns. -/
theorem eq_or_zeros_of_beq {a b : F64} (h : a.beq b = true) :
    a = b ∨ (a = posZero ∧ b = negZero) ∨ (a = negZero ∧ b = posZero) := by
  simp only [beq, Bool.and_eq_true, Bool.not_eq_true', beq_iff_eq, key] at h
  have ha := bits_eq a
  have hb := bits_eq b
  have hz : posZero.bits.toNat = 0 := rfl
  have hn : negZero.bits.toNat = 2 ^ 63 := rfl
  have hk := h.2
  split at hk <;> split at hk
  · exact .inl (eq_of_toNat (by omega))
  · exact .inr (.inl ⟨eq_of_toNat (by omega), eq_of_toNat (by omega)⟩)
  · exact .inr (.inr ⟨eq_of_toNat (by omega), eq_of_toNat (by omega)⟩)
  · exact .inl (eq_of_toNat (by omega))

end F64

end WooriDb
