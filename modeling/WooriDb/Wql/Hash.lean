import WooriDb.Wql.Types

/-!
# `impl Hash for Types`

`wql/src/lib.rs:178-204`, under the comment `// UNSAFE` and the lint allowance
`derive_hash_xor_eq // for now`. A hash is the sequence of calls the impl makes on its
`Hasher` (std's `Hash` impls of the Rust of `woori-db`'s time: `str` writes its bytes and
`0xff`, a slice its length then its elements). The impl writes no variant tag; a map is
hashed by a fold over `t.into_iter()`, so its writes follow the map's iteration order, and a
float by its `integer_decode`, which tells `0.0` from `-0.0`. Both break the law that equal
values hash equal (`hashWrites_differ_on_equal`), and they are the only breaks: on values whose
maps have at most one entry and whose floats are not zero, `==` is equality
(`eq_of_beq_stable`), and equal values there give equal writes.
-/

namespace WooriDb.Wql

/-- One call on a `Hasher`. chrono's derived `Hash` of the `NaiveDateTime` inside a
    `DateTime<Utc>` (date, seconds and fraction of the day) is one `dateTime` event carrying
    the instant it is a function of. -/
inductive HashWrite where
  | write (bytes : List UInt8)
  | u8 (n : Nat)
  | u32 (n : Nat)
  | u64 (n : Nat)
  | usize (n : Nat)
  | isize (i : Int)
  | i16 (i : Int)
  | i8 (i : Int)
  | dateTime (d : DateTimeUtc)
  deriving DecidableEq

/-- `str::hash`: the UTF-8 bytes, then `0xff`. -/
def strWrites (s : String) : List HashWrite := [.write s.toUTF8.data.toList, .u8 0xff]

/-- The derived `Hash` of `Uuid`, that of `[u8; 16]`: the length, then the bytes. -/
def uuidWrites (u : Uuid) : List HashWrite := [.usize 16, .write u.bytes]

namespace Types

mutual

/-- `Types::hash` (`lib.rs:181-203`). -/
def hashWrites : Types → List HashWrite
  | .char t => [.u32 t.toNat]
  | .integer t => [.isize t.val]
  | .string t => strWrites t
  | .uuid t => uuidWrites t
  | .float t =>
    let (mantissa, exponent, sign) := t.integerDecode
    [.u64 mantissa, .i16 exponent, .i8 sign]
  | .boolean t => [.u8 (if t then 1 else 0)]
  | .vector t => .usize t.length :: vecWrites t
  | .map t => entriesWrites t.entries
  | .hash t => strWrites t
  | .precise t => strWrites t
  | .dateTime t => [.dateTime t]
  | .nil => strWrites ""

/-- `Hash::hash_slice` of `Vec<Types>`: each element in order. -/
def vecWrites : List Types → List HashWrite
  | [] => []
  | v :: vs => v.hashWrites ++ vecWrites vs

/-- The fold over `t.into_iter()`: each key, then its value, in iteration order. -/
def entriesWrites : {keys : List String} → HashEntries String Types keys → List HashWrite
  | _, .nil => []
  | _, .cons k v rest _ => strWrites k ++ v.hashWrites ++ entriesWrites rest

end

/-- Two equal maps that iterate their entries in different orders, and `0.0` and `-0.0`,
    feed the hasher different writes. -/
theorem hashWrites_differ_on_equal :
    ((mapAB == mapBA) = true ∧ mapAB.hashWrites ≠ mapBA.hashWrites) ∧
      ((Types.float F64.posZero == Types.float F64.negZero) = true ∧
        (Types.float F64.posZero).hashWrites ≠ (Types.float F64.negZero).hashWrites) := by
  decide

mutual

/-- Holds no map of two or more entries and no zero float: the values on which the writes
    of `Types::hash` are a function of what `==` compares. -/
def hashStable : Types → Bool
  | .float f => f != F64.posZero && f != F64.negZero
  | .vector vs => vecStable vs
  | .map ⟨_, .nil⟩ => true
  | .map ⟨_, .cons _ v .nil _⟩ => v.hashStable
  | .map _ => false
  | _ => true

/-- `hashStable` at every element. -/
def vecStable : List Types → Bool
  | [] => true
  | v :: vs => v.hashStable && vecStable vs

end

mutual

/-- Away from maps of several entries and from zero floats, `==` is equality. -/
theorem eq_of_beq_stable : ∀ (x y : Types), x.hashStable = true → x.beq y = true → x = y
  | .float a, y, stable, h => by
    cases y <;> try cases h
    obtain ⟨notPos, notNeg⟩ := Bool.and_eq_true_iff.1 stable
    rcases F64.eq_or_zeros_of_beq h with rfl | ⟨rfl, -⟩ | ⟨rfl, -⟩
    · rfl
    · exact absurd notPos (by decide)
    · exact absurd notNeg (by decide)
  | .vector as, y, stable, h => by
    cases y <;> try cases h
    rw [eq_of_vecBeq_stable as _ stable h]
  | .map ⟨_, .nil⟩, y, _, h => by
    cases y <;> try cases h
    rename_i n
    obtain ⟨keys, entries⟩ := n
    cases entries with
    | nil => rfl
    | cons => cases h
  | .map ⟨_, .cons k v .nil fresh⟩, y, stable, h => by
    cases y <;> try cases h
    obtain ⟨w, fresh', rfl, same⟩ := beq_map_singleton h
    rw [eq_of_beq_stable v w stable same]
  | .map ⟨_, .cons _ _ (.cons _ _ _ _) _⟩, _, stable, _ => Bool.noConfusion stable
  | .char _, y, _, h | .integer _, y, _, h | .string _, y, _, h | .uuid _, y, _, h
  | .boolean _, y, _, h | .hash _, y, _, h | .precise _, y, _, h | .dateTime _, y, _, h
  | .nil, y, _, h => by
    cases y <;> try cases h
    all_goals first
      | rfl
      | rw [beq_iff_eq.1 h]

/-- Elementwise `eq_of_beq_stable`. -/
theorem eq_of_vecBeq_stable : ∀ (as bs : List Types), vecStable as = true →
    vecBeq as bs = true → as = bs
  | [], [], _, _ => rfl
  | a :: as, b :: bs, stable, h => by
    obtain ⟨headStable, restStable⟩ := Bool.and_eq_true_iff.1 stable
    obtain ⟨headEq, restEq⟩ := Bool.and_eq_true_iff.1 h
    rw [eq_of_beq_stable a b headStable headEq, eq_of_vecBeq_stable as bs restStable restEq]
  | [], _ :: _, _, h | _ :: _, [], _, h => Bool.noConfusion h

end

theorem eq_of_beq_stable_map :
    (map (.ofList [("a", integer (I64.ofInt 1))] (by decide))).hashStable = true ∧
      (map (.ofList [("a", integer (I64.ofInt 1))] (by decide))).beq
        (map (.ofList [("a", integer (I64.ofInt 1))] (by decide))) = true ∧
      map (.ofList [("a", integer (I64.ofInt 1))] (by decide)) =
        map (.ofList [("a", integer (I64.ofInt 1))] (by decide)) :=
  ⟨rfl, by decide, eq_of_beq_stable _ _ rfl (by decide)⟩

end Types

end WooriDb.Wql
