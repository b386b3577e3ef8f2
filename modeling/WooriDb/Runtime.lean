import Mathlib.Order.Basic
import Mathlib.Order.Compare
import Mathlib.Data.String.Basic
import Mathlib.Data.Char

/-!
# How a call of the Rust code ends

`Exit` is the result of a modelled Rust function: a value, an `Err`, or a panic with the
message the standard library prints (`Option::unwrap`, `expect`, chrono's bound checks).
`Mutex` is a `std::sync::Mutex` as the controllers see it: `lock()` fails once a thread
panicked while holding it, and every controller of `woori-db` turns that failure into a
value of its own. `Bcrypt` is the interface of the `bcrypt` crate that `to_hash` and the
auth controllers call. The last section holds the two comparison laws of a `LinearOrder`
that the derived `Ord` impls of the value domain inherit.
-/

namespace WooriDb

/-- Decidable equality of `Result` values, the derived `PartialEq` of `Result`. -/
instance exceptDecidableEq {ε α : Type} [DecidableEq ε] [DecidableEq α] :
    DecidableEq (Except ε α)
  | .ok a, .ok b => if h : a = b then isTrue (h ▸ rfl) else isFalse fun e => h (Except.ok.inj e)
  | .error a, .error b =>
    if h : a = b then isTrue (h ▸ rfl) else isFalse fun e => h (Except.error.inj e)
  | .ok _, .error _ | .error _, .ok _ => isFalse Except.noConfusion

/-- The end of a call: `Ok`, `Err`, or a panic carrying its message. -/
inductive Exit (ε α : Type) where
  | ok (a : α)
  | err (e : ε)
  | panic (msg : String)
  deriving DecidableEq, Repr

namespace Exit

variable {ε α β : Type}

/-- `?` on the result of a call, and sequencing of statements. -/
def bind : Exit ε α → (α → Exit ε β) → Exit ε β
  | ok a, f => f a
  | err e, _ => err e
  | panic m, _ => panic m

instance : Monad (Exit ε) where
  pure := ok
  bind := bind

@[simp] theorem pure_eq (a : α) : (pure a : Exit ε α) = ok a := rfl
@[simp] theorem ok_bind (a : α) (f : α → Exit ε β) : (ok a >>= f) = f a := rfl
@[simp] theorem err_bind (e : ε) (f : α → Exit ε β) : (err e >>= f) = err e := rfl
@[simp] theorem panic_bind (m : String) (f : α → Exit ε β) : (panic m >>= f) = panic m := rfl

/-- Whether the call ended without panicking. -/
def returns : Exit ε α → Bool
  | panic _ => false
  | _ => true

/-- The message `Option::unwrap` panics with. -/
def unwrapNoneMsg : String := "called `Option::unwrap()` on a `None` value"

/-- `Option::unwrap`. -/
def unwrap : Option α → Exit ε α
  | some a => ok a
  | none => panic unwrapNoneMsg

@[simp] theorem unwrap_some (a : α) : (unwrap (some a) : Exit ε α) = ok a := rfl
@[simp] theorem unwrap_none : (unwrap none : Exit ε α) = panic unwrapNoneMsg := rfl

/-- `?` on a `Result` whose error is already the caller's error type. -/
def ofExcept : Except ε α → Exit ε α
  | .ok a => ok a
  | .error e => err e

@[simp] theorem ofExcept_ok (a : α) : (ofExcept (.ok a) : Exit ε α) = ok a := rfl
@[simp] theorem ofExcept_error (e : ε) : (ofExcept (.error e) : Exit ε α) = err e := rfl

theorem returns_ofExcept (x : Except ε α) : (ofExcept x).returns = true := by
  cases x <;> rfl

/-- A sequence of calls that each end without panicking ends without panicking. -/
theorem returns_bind {x : Exit ε α} {f : α → Exit ε β} (hx : x.returns = true)
    (hf : ∀ a, (f a).returns = true) : (x >>= f).returns = true := by
  cases x with
  | ok a => exact hf a
  | err e => rfl
  | panic m => cases hx

theorem ne_panic_of_returns {x : Exit ε α} (hx : x.returns = true) (m : String) :
    x ≠ panic m := by
  rintro rfl
  cases hx

@[simp] theorem map_ok {β : Type} (f : α → β) (a : α) :
    (f <$> ok a : Exit ε β) = ok (f a) := rfl
@[simp] theorem map_err {β : Type} (f : α → β) (e : ε) :
    (f <$> err e : Exit ε β) = err e := rfl
@[simp] theorem map_panic {β : Type} (f : α → β) (msg : String) :
    (f <$> (panic msg : Exit ε α) : Exit ε β) = panic msg := rfl

end Exit

/-- A `std::sync::Mutex`: its data, and whether a thread panicked while holding its guard. -/
structure Mutex (α : Type) where
  data : α
  poisoned : Bool
  deriving DecidableEq, Repr

namespace Mutex

variable {α : Type}

/-- `Mutex::lock`: the guard, or `Err(PoisonError)` once the lock is poisoned. -/
def lock (m : Mutex α) : Option α := if m.poisoned then none else some m.data

/-- The guard dropped while its thread unwinds from a panic. -/
def poison (m : Mutex α) : Mutex α := { m with poisoned := true }

@[simp] theorem lock_eq_some {m : Mutex α} {a : α} :
    m.lock = some a ↔ m.poisoned = false ∧ m.data = a := by
  unfold lock; cases m.poisoned <;> simp

@[simp] theorem lock_eq_none {m : Mutex α} : m.lock = none ↔ m.poisoned = true := by
  unfold lock; cases m.poisoned <;> simp

@[simp] theorem poison_data (m : Mutex α) : m.poison.data = m.data := rfl

end Mutex

/-- The `bcrypt` crate: `hash` salts its input with sixteen fresh random bytes, the
    `salt` it is given here; an error is carried as its `Debug` text. -/
structure Bcrypt where
  hash : String → Nat → Nat → Except String String
  verify : String → String → Except String Bool

/-- `bcrypt::DEFAULT_COST`. -/
def Bcrypt.defaultCost : Nat := 12

section LinearCompare

variable {α : Type} [LinearOrder α]

/-- `compare` of a linear order is antisymmetric: swapping the arguments swaps the result. -/
theorem compare_swap_linear (a b : α) : (compare a b).swap = compare b a := by
  rcases lt_trichotomy a b with h | rfl | h
  · rw [compare_lt_iff_lt.2 h, compare_gt_iff_gt.2 h]; rfl
  · rw [compare_eq_iff_eq.2 rfl]; rfl
  · rw [compare_gt_iff_gt.2 h, compare_lt_iff_lt.2 h]; rfl

/-- `compare` of a linear order is transitive at every outcome. -/
theorem compare_trans_linear {a b c : α} {o : Ordering}
    (hab : compare a b = o) (hbc : compare b c = o) : compare a c = o := by
  cases o with
  | lt => exact compare_lt_iff_lt.2 (lt_trans (compare_lt_iff_lt.1 hab) (compare_lt_iff_lt.1 hbc))
  | eq => rw [compare_eq_iff_eq.1 hab]; exact hbc
  | gt => exact compare_gt_iff_gt.2 (lt_trans (compare_gt_iff_gt.1 hbc) (compare_gt_iff_gt.1 hab))

end LinearCompare

end WooriDb
