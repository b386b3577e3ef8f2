import WooriDb.Float
import WooriDb.Uuid
import WooriDb.Chrono
import WooriDb.Collections

/-!
# The value domain of `wql`

`Types` (`wql/src/lib.rs:83-98`), its derived `PartialEq`, its manual `PartialOrd`
(`lib.rs:146-176`) and `default_values` (`lib.rs:101-116`). A `HashMap<String, Types>` is
held as the list of its entries in the map's iteration order, and `Types.beq` compares two
maps as `HashMap`'s `PartialEq` does: same length, and every key of one maps in the other
to an equal value. Two maps holding the same entries are therefore equal whatever order
they iterate in, which is what the hash and the plaintext of the next modules miss.

`partial_cmp` is a lawful partial order on every pair without a float
(`partialCmp_swap`, `partialCmp_trans`, `partialCmp_of_beq`). The float branches answer
`Less` whenever `a > b` is false, so a float that is not NaN compares `Less` with itself
(`float_partialCmp_self`).
-/

namespace WooriDb.Wql

/-- `wql::Types`. -/
inductive Types where
  | char (c : Char)
  | integer (i : I64)
  | string (s : String)
  | uuid (u : Uuid)
  | float (f : F64)
  | boolean (b : Bool)
  | vector (vs : List Types)
  | map (m : HashMap String Types)
  | hash (h : String)
  | precise (p : String)
  | dateTime (d : DateTimeUtc)
  | nil

/-- `wql::Entity`, a `HashMap<String, Types>`. -/
abbrev Entity := HashMap String Types

namespace Types

mutual

/-- The derived `PartialEq` of `Types`. -/
def beq : Types → Types → Bool
  | .char a, .char b => a == b
  | .integer a, .integer b => a == b
  | .string a, .string b => a == b
  | .uuid a, .uuid b => a == b
  | .float a, .float b => a.beq b
  | .boolean a, .boolean b => a == b
  | .vector as, .vector bs => vecBeq as bs
  | .map m, .map n => m.len == n.len && entriesBeq m.entries n
  | .hash a, .hash b => a == b
  | .precise a, .precise b => a == b
  | .dateTime a, .dateTime b => a == b
  | .nil, .nil => true
  | _, _ => false

/-- `==` on `Vec<Types>`: equal lengths, and equal at every position. -/
def vecBeq : List Types → List Types → Bool
  | [], [] => true
  | a :: as, b :: bs => a.beq b && vecBeq as bs
  | _, _ => false

/-- The `all` of `HashMap::eq`: every entry of the first map has its key in `n`, mapped to an
    equal value (`n.get(key).map_or(false, |v| *value == *v)`). -/
def entriesBeq : {keys : List String} → HashEntries String Types keys →
    HashMap String Types → Bool
  | _, .nil, _ => true
  | _, .cons k v rest _, n =>
    (match n.get k with
      | some w => v.beq w
      | none => false) && entriesBeq rest n

end

instance : BEq Types := ⟨beq⟩

theorem beq_def (x y : Types) : (x == y) = x.beq y := rfl

/-- A one-entry map is `==` only to a map of one entry, under the same key, whose value is
    `==` to its own. -/
theorem beq_map_singleton {k : String} {v : Types} {fresh : k ∉ []} {n : HashMap String Types}
    (h : (map ⟨[k], .cons k v .nil fresh⟩).beq (map n) = true) :
    ∃ w fresh', n = ⟨[k], .cons k w .nil fresh'⟩ ∧ v.beq w = true := by
  obtain ⟨keys, entries⟩ := n
  match keys, entries, h with
  | [k'], .cons _ w .nil fresh', h =>
    have h : entriesBeq (.cons k v .nil fresh) ⟨[k'], .cons k' w .nil fresh'⟩ = true := h
    by_cases hk : k = k'
    · subst hk
      simp only [entriesBeq, HashMap.get, HashMap.toList, HashEntries.toList,
        List.lookup_cons_self, Bool.and_true] at h
      exact ⟨w, fresh', rfl, h⟩
    · simp [entriesBeq, HashMap.get, HashMap.toList, HashEntries.toList, lookup_cons_ite, hk] at h
  | [], .nil, h | _ :: _ :: _, .cons _ _ (.cons _ _ _ _) _, h => cases h

/-- A map holding `"a" ↦ Integer(1)` and `"b" ↦ Integer(2)`, iterating `"a"` first. -/
def mapAB : Types :=
  .map (.ofList [("a", .integer (I64.ofInt 1)), ("b", .integer (I64.ofInt 2))] (by decide))

/-- The same two entries, iterating `"b"` first. -/
def mapBA : Types :=
  .map (.ofList [("b", .integer (I64.ofInt 2)), ("a", .integer (I64.ofInt 1))] (by decide))

example : (mapAB == mapBA) = true := by decide

/-- `impl PartialOrd for Types` (`lib.rs:146-176`). -/
def partialCmp : Types → Types → Option Ordering
  | .integer a, .integer b => some (compare a.val b.val)
  | .float a, .float b => some (if a.gt b then .gt else .lt)
  | .integer a, .float b => some (if (F64.ofInt a.val).gt b then .gt else .lt)
  | .float a, .integer b => some (if a.gt (F64.ofInt b.val) then .gt else .lt)
  | .char a, .char b => some (compare a b)
  | .string a, .string b | .precise a, .precise b => some (compare a b)
  | .uuid a, .uuid b => some (compare a b)
  | .boolean a, .boolean b => some (compare a b)
  | .vector a, .vector b => some (compare a.length b.length)
  | _, _ => none

/-- `Types::default_values` (`lib.rs:101-116`); `Uuid::new_v4()` and `Utc::now()` are the
    fresh uuid and the clock reading it is given. -/
def defaultValues (freshUuid : Uuid) (now : DateTimeUtc) : Types → Types
  | .char _ => .char ' '
  | .integer _ => .integer ⟨0, by decide, by decide⟩
  | .string _ => .string ""
  | .uuid _ => .uuid freshUuid
  | .float _ => .float F64.posZero
  | .boolean _ => .boolean false
  | .vector _ => .vector []
  | .map _ => .map .empty
  | .hash _ => .hash ""
  | .precise _ => .precise "0"
  | .dateTime _ => .dateTime now
  | .nil => .nil

/-- `Types::is_hash`. -/
def isHash : Types → Bool
  | .hash _ => true
  | _ => false

/-- The `Float` variant, whose comparisons are not those of a partial order. -/
def isFloat : Types → Bool
  | .float _ => true
  | _ => false

/-! ## `partial_cmp` away from floats -/

/-- Away from floats, swapping the operands reverses the answer: the arms compare like
    variants by their derived `Ord`, and every other pair is `None` both ways. -/
theorem partialCmp_swap (x y : Types) (hx : x.isFloat = false) (hy : y.isFloat = false) :
    x.partialCmp y = (y.partialCmp x).map Ordering.swap := by
  cases x <;> cases hx <;> cases y <;> cases hy
  all_goals first
    | rfl
    | exact congrArg some (compare_swap_linear _ _).symm
    | exact congrArg some (Uuid.compareBytes_swap _ _).symm

theorem partialCmp_swap_integers :
    (integer (I64.ofInt 1)).isFloat = false ∧ (integer (I64.ofInt 2)).isFloat = false ∧
      (integer (I64.ofInt 1)).partialCmp (integer (I64.ofInt 2)) =
        ((integer (I64.ofInt 2)).partialCmp (integer (I64.ofInt 1))).map Ordering.swap :=
  ⟨rfl, rfl, partialCmp_swap _ _ rfl rfl⟩

/-- Away from floats, `partial_cmp` is transitive at every outcome. Once the first answer
    fixes the variants of `x` and `y`, the second fixes that of `z`, and the laws of the
    variant's order finish. -/
theorem partialCmp_trans {x y z : Types} {o : Ordering} (hx : x.isFloat = false)
    (hy : y.isFloat = false) (hz : z.isFloat = false)
    (hxy : x.partialCmp y = some o) (hyz : y.partialCmp z = some o) :
    x.partialCmp z = some o := by
  cases x <;> cases hx <;> cases y <;> cases hy <;> cases hxy <;> cases z <;> cases hz <;>
    try cases hyz
  all_goals first
    | exact congrArg some (compare_trans_linear rfl (Option.some.inj hyz))
    | exact congrArg some (Uuid.compareBytes_trans rfl (Option.some.inj hyz))

theorem partialCmp_trans_vectors :
    (vector []).partialCmp (vector [nil]) = some .lt ∧
      (vector [nil]).partialCmp (vector [nil, nil]) = some .lt ∧
      (vector []).partialCmp (vector [nil, nil]) = some .lt :=
  ⟨rfl, rfl,
    @partialCmp_trans (vector []) (vector [nil]) (vector [nil, nil]) .lt rfl rfl rfl rfl rfl⟩

/-- Vectors that compare equal have the same length. -/
theorem vecBeq_length : ∀ {as bs : List Types}, vecBeq as bs = true → as.length = bs.length
  | [], [], _ => rfl
  | _ :: _, _ :: _, h => congrArg Nat.succ (vecBeq_length (Bool.and_eq_true_iff.1 h).2)
  | [], _ :: _, h | _ :: _, [], h => Bool.noConfusion h

/-- Away from floats, values that are `==` compare `Equal`, or not at all. -/
theorem partialCmp_of_beq {x y : Types} (hx : x.isFloat = false) (h : (x == y) = true) :
    x.partialCmp y = some .eq ∨ x.partialCmp y = none := by
  rw [beq_def] at h
  cases x <;> cases hx <;> cases y <;> try cases h
  all_goals first
    | exact .inr rfl
    | exact .inl (congrArg some (compare_eq_iff_eq.2 (beq_iff_eq.1 h)))
    | exact .inl (congrArg some ((Uuid.compare_eq_iff _ _).2 (beq_iff_eq.1 h)))
    | exact .inl (congrArg some (compare_eq_iff_eq.2 (congrArg I64.val (beq_iff_eq.1 h))))
    | exact .inl (congrArg some (compare_eq_iff_eq.2 (vecBeq_length h)))

theorem partialCmp_of_beq_strings :
    (string "a" == string "a") = true ∧
      ((string "a").partialCmp (string "a") = some .eq ∨
        (string "a").partialCmp (string "a") = none) :=
  ⟨by decide, partialCmp_of_beq rfl (by decide)⟩

/-- Equal numbers compare `Less` to each other: a float that is not NaN equals itself yet
    `partial_cmp` puts it below itself, and an integer and its own `as f64` cast each come
    out below the other. -/
theorem partialCmp_equal_numbers (f : F64) (h : f.isNaN = false) (i : I64) :
    ((float f == float f) = true ∧ (float f).partialCmp (float f) = some .lt) ∧
      (integer i).partialCmp (float (F64.ofInt i.val)) = some .lt ∧
      (float (F64.ofInt i.val)).partialCmp (integer i) = some .lt := by
  have below : ∀ g : F64, (if g.gt g then Ordering.gt else .lt) = .lt := fun g => by simp
  refine ⟨⟨?_, congrArg some (below f)⟩, congrArg some (below _), congrArg some (below _)⟩
  show f.beq f = true
  simp [F64.beq, h]

theorem partialCmp_equal_numbers_one :
    F64.one.isNaN = false ∧
      (((float F64.one == float F64.one) = true ∧
        (float F64.one).partialCmp (float F64.one) = some .lt) ∧
      (integer (I64.ofInt 1)).partialCmp (float (F64.ofInt 1)) = some .lt ∧
      (float (F64.ofInt 1)).partialCmp (integer (I64.ofInt 1)) = some .lt) :=
  ⟨by decide, partialCmp_equal_numbers F64.one (by decide) (I64.ofInt 1)⟩

end Types

end WooriDb.Wql
