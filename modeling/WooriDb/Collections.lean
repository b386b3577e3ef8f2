import Mathlib.Data.List.Dedup
import WooriDb.Runtime

/-!
# The std collections the modelled code holds

A `HashMap` is its entries in iteration order with each key once, a `HashSet` its elements with
each once, and a `BTreeMap` its entries with the keys strictly increasing. Each type carries
its invariant, so no value of it is a collection std cannot build, and every operation below
proves the invariant again for what it returns.

The entries of a `HashMap` are a family indexed by the list of its keys, whose `cons` takes
the proof that the new key is not among them. `wql::Types::Map` nests a `HashMap` inside
`Types`, and Lean's kernel accepts a nested occurrence under that index but not under a field
that states a property of the entry list. `HashMap.ofList` builds a map from a list of entries
without repeated keys, and the operations that change a map are written through it.

`BTreeMap` needs the laws of Rust's `Ord` on its keys (`TotalOrd`): under them `insert` keeps
the keys in order (`insertEntries_sorted`), and two maps with the same lookups are the same map
(`eq_of_get_eq`), whatever inserts built them.
-/

namespace WooriDb

/-- `List.lookup` on a first entry, as an `if`. -/
theorem lookup_cons_ite {K V : Type} [DecidableEq K] (j k : K) (v : V) (es : List (K × V)) :
    ((k, v) :: es).lookup j = if j = k then some v else es.lookup j := by
  by_cases h : j = k
  · subst h; simp [List.lookup_cons]
  · simp [List.lookup_cons, beq_eq_false_iff_ne.2 h, h]

/-- The entries of a `HashMap` in iteration order, indexed by the keys: a key enters only when
    it is not among the keys already there. -/
inductive HashEntries (K V : Type) : List K → Type where
  | nil : HashEntries K V []
  | cons (k : K) (v : V) {keys : List K} (rest : HashEntries K V keys) (fresh : k ∉ keys) :
      HashEntries K V (k :: keys)

namespace HashEntries

variable {K V : Type}

/-- The entries as a list, in iteration order. -/
def toList : {keys : List K} → HashEntries K V keys → List (K × V)
  | _, .nil => []
  | _, .cons k v rest _ => (k, v) :: rest.toList

theorem map_fst_toList : ∀ {keys : List K} (e : HashEntries K V keys),
    e.toList.map Prod.fst = keys
  | _, .nil => rfl
  | _, .cons k _ rest _ => congrArg (k :: ·) (map_fst_toList rest)

theorem nodup : ∀ {keys : List K}, HashEntries K V keys → keys.Nodup
  | _, .nil => List.nodup_nil
  | _, .cons _ _ rest fresh => List.nodup_cons.2 ⟨fresh, rest.nodup⟩

/-- The entries of a list whose keys have no repeats, in its order. -/
def ofList : (l : List (K × V)) → (l.map Prod.fst).Nodup → HashEntries K V (l.map Prod.fst)
  | [], _ => .nil
  | (k, v) :: l, distinct =>
    .cons k v (ofList l (List.nodup_cons.1 distinct).2) (List.nodup_cons.1 distinct).1

@[simp] theorem toList_ofList : ∀ (l : List (K × V)) (distinct : (l.map Prod.fst).Nodup),
    (ofList l distinct).toList = l
  | [], _ => rfl
  | (k, v) :: l, _ => congrArg ((k, v) :: ·) (toList_ofList l _)

end HashEntries

/-- `std::collections::HashMap`: its keys, and its entries in iteration order over them. -/
structure HashMap (K V : Type) where
  keys : List K
  entries : HashEntries K V keys

namespace HashMap

variable {K V : Type}

/-- The entries, in iteration order. -/
def toList (m : HashMap K V) : List (K × V) := m.entries.toList

theorem map_fst_toList (m : HashMap K V) : m.toList.map Prod.fst = m.keys :=
  m.entries.map_fst_toList

/-- A `HashMap` holds each key once. -/
theorem nodup_keys (m : HashMap K V) : (m.toList.map Prod.fst).Nodup :=
  m.map_fst_toList ▸ m.entries.nodup

/-- The map of a list of entries whose keys have no repeats, iterating in the list's order. -/
def ofList (l : List (K × V)) (distinct : (l.map Prod.fst).Nodup) : HashMap K V :=
  ⟨_, .ofList l distinct⟩

@[simp] theorem toList_ofList (l : List (K × V)) (distinct : (l.map Prod.fst).Nodup) :
    (ofList l distinct).toList = l :=
  HashEntries.toList_ofList l distinct

/-- `HashMap::new`. -/
def empty : HashMap K V := ⟨[], .nil⟩

@[simp] theorem toList_empty : (empty : HashMap K V).toList = [] := rfl

/-- `HashMap::len`. -/
def len (m : HashMap K V) : Nat := m.keys.length

/-- `HashMap::get`. -/
def get [DecidableEq K] (m : HashMap K V) (k : K) : Option V := m.toList.lookup k

/-- Keeping the entries that satisfy `p` keeps the keys distinct. -/
theorem nodup_filter (m : HashMap K V) (p : K × V → Bool) :
    ((m.toList.filter p).map Prod.fst).Nodup :=
  m.nodup_keys.sublist ((List.filter_sublist _).map _)

/-- The entries that satisfy `p` (a `filter` followed by `collect::<HashMap<_, _>>()`). -/
def filter (p : K × V → Bool) (m : HashMap K V) : HashMap K V :=
  ofList (m.toList.filter p) (m.nodup_filter p)

@[simp] theorem toList_filter (p : K × V → Bool) (m : HashMap K V) :
    (m.filter p).toList = m.toList.filter p :=
  toList_ofList _ _

/-- `HashMap::insert`: the entry of `k` replaced by `v`, which the model iterates first. -/
def insert [DecidableEq K] (m : HashMap K V) (k : K) (v : V) : HashMap K V :=
  ofList ((k, v) :: m.toList.filter fun e => e.1 != k) <|
    List.nodup_cons.2 ⟨by simp, m.nodup_filter _⟩

theorem lookup_filter_ne [DecidableEq K] (k j : K) (hj : j ≠ k) :
    ∀ es : List (K × V), (es.filter fun e => e.1 != k).lookup j = es.lookup j
  | [] => rfl
  | (k', v') :: es => by
    rw [List.filter_cons]
    by_cases h : k' = k
    · simp [h, hj, lookup_cons_ite, lookup_filter_ne k j hj es]
    · simp [h, lookup_cons_ite, lookup_filter_ne k j hj es]

@[simp] theorem get_insert [DecidableEq K] (m : HashMap K V) (k j : K) (v : V) :
    (m.insert k v).get j = if j = k then some v else m.get j := by
  unfold get insert
  rw [toList_ofList, lookup_cons_ite]
  split
  · rfl
  · exact lookup_filter_ne k j ‹_› _

end HashMap

/-- `std::collections::HashSet`: its elements, each once. -/
structure HashSet (K : Type) where
  elems : List K
  distinct : elems.Nodup

namespace HashSet

variable {K : Type}

/-- `collect::<HashSet<_>>()` of a list: its elements without repeats. -/
def ofList [DecidableEq K] (l : List K) : HashSet K := ⟨l.dedup, List.nodup_dedup l⟩

/-- `HashSet::contains`. -/
def contains [DecidableEq K] (s : HashSet K) (k : K) : Bool := s.elems.contains k

@[simp] theorem contains_ofList [DecidableEq K] (l : List K) (k : K) :
    (ofList l).contains k = l.contains k := by
  simp [contains, ofList, List.elem_iff]

end HashSet

/-- The laws of Rust's `Ord` that `BTreeMap` relies on: `compare` is a strict total order whose
    `Equal` is equality. -/
class TotalOrd (K : Type) [Ord K] : Prop where
  compare_eq_iff : ∀ a b : K, compare a b = .eq ↔ a = b
  compare_swap : ∀ a b : K, (compare a b).swap = compare b a
  compare_lt_trans : ∀ {a b c : K}, compare a b = .lt → compare b c = .lt → compare a c = .lt

instance : TotalOrd String :=
  ⟨fun _ _ => compare_eq_iff_eq, compare_swap_linear, compare_trans_linear⟩

/-- `std::collections::BTreeMap`: its entries, the keys strictly increasing. -/
structure BTreeMap (K V : Type) [Ord K] where
  entries : List (K × V)
  sorted : (entries.map Prod.fst).Pairwise fun a b => compare a b = .lt

namespace BTreeMap

variable {K V : Type} [Ord K]

/-- `BTreeMap::new`. -/
def empty : BTreeMap K V := ⟨[], List.Pairwise.nil⟩

/-- `BTreeMap::get`. -/
def get [DecidableEq K] (m : BTreeMap K V) (k : K) : Option V := m.entries.lookup k

/-- `BTreeMap::contains_key`. -/
def containsKey [DecidableEq K] (m : BTreeMap K V) (k : K) : Bool := (m.get k).isSome

/-- The keys, in order. -/
def keys (m : BTreeMap K V) : List K := m.entries.map Prod.fst

/-- The walk of `BTreeMap::insert`: past the smaller keys, replacing an equal one. -/
def insertEntries (k : K) (v : V) : List (K × V) → List (K × V)
  | [] => [(k, v)]
  | (k', v') :: es =>
    match compare k k' with
    | .lt => (k, v) :: (k', v') :: es
    | .eq => (k, v) :: es
    | .gt => (k', v') :: insertEntries k v es

@[simp] theorem get_empty [DecidableEq K] (k : K) : (empty : BTreeMap K V).get k = none := rfl

@[simp] theorem keys_empty : (empty : BTreeMap K V).keys = [] := rfl

variable [TotalOrd K]

theorem mem_map_fst_insertEntries (k j : K) (v : V) :
    ∀ es : List (K × V),
      j ∈ (insertEntries k v es).map Prod.fst ↔ j = k ∨ j ∈ es.map Prod.fst
  | [] => by simp [insertEntries]
  | (k', v') :: es => by
    unfold insertEntries
    split
    · simp
    · rename_i heq
      obtain rfl := (TotalOrd.compare_eq_iff k k').1 heq
      simp
    · simp only [List.map_cons, List.mem_cons, mem_map_fst_insertEntries k j v es]
      tauto

/-- The walk of `insert` keeps the keys strictly increasing. -/
theorem insertEntries_sorted (k : K) (v : V) : ∀ {es : List (K × V)},
    (es.map Prod.fst).Pairwise (fun a b => compare a b = .lt) →
    ((insertEntries k v es).map Prod.fst).Pairwise fun a b => compare a b = .lt
  | [], _ => List.pairwise_singleton _ _
  | (k', v') :: es, sorted => by
    have hes := List.pairwise_cons.1 sorted
    unfold insertEntries
    split
    · rename_i hlt
      refine List.pairwise_cons.2 ⟨fun y hy => ?_, sorted⟩
      rcases List.mem_cons.1 hy with rfl | hy
      · exact hlt
      · exact TotalOrd.compare_lt_trans hlt (hes.1 y hy)
    · rename_i heq
      obtain rfl := (TotalOrd.compare_eq_iff k k').1 heq
      exact sorted
    · rename_i hgt
      refine List.pairwise_cons.2 ⟨fun y hy => ?_, insertEntries_sorted k v hes.2⟩
      rcases (mem_map_fst_insertEntries k y v es).1 hy with rfl | hy
      · rw [← TotalOrd.compare_swap, hgt]; rfl
      · exact hes.1 y hy

/-- `BTreeMap::insert`. -/
def insert (m : BTreeMap K V) (k : K) (v : V) : BTreeMap K V :=
  ⟨insertEntries k v m.entries, insertEntries_sorted k v m.sorted⟩

theorem lookup_insertEntries [DecidableEq K] (k j : K) (v : V) :
    ∀ es : List (K × V), (insertEntries k v es).lookup j = if j = k then some v else es.lookup j
  | [] => by rw [insertEntries, lookup_cons_ite]
  | (k', v') :: es => by
    unfold insertEntries
    split
    · simp only [lookup_cons_ite]
    · rename_i heq
      obtain rfl := (TotalOrd.compare_eq_iff k k').1 heq
      by_cases h : j = k <;> simp [lookup_cons_ite, h]
    · rename_i hgt
      have hne : k ≠ k' := fun h => by rw [(TotalOrd.compare_eq_iff k k').2 h] at hgt; cases hgt
      rw [lookup_cons_ite, lookup_cons_ite, lookup_insertEntries k j v es]
      by_cases h : j = k
      · subst h; simp [hne]
      · simp [h]

theorem get_insert [DecidableEq K] (m : BTreeMap K V) (k j : K) (v : V) :
    (m.insert k v).get j = if j = k then some v else m.get j :=
  lookup_insertEntries k j v m.entries

theorem mem_keys_insert (m : BTreeMap K V) (k j : K) (v : V) :
    j ∈ (m.insert k v).keys ↔ j = k ∨ j ∈ m.keys :=
  mem_map_fst_insertEntries k j v m.entries

/-- A key below every key of a list of entries has no entry in it. -/
theorem lookup_eq_none_of_lt [DecidableEq K] {j : K} {es : List (K × V)}
    (below : ∀ y ∈ es.map Prod.fst, compare j y = .lt) : es.lookup j = none :=
  List.lookup_eq_none_iff.2 fun p hp => bne_iff_ne.2 fun same => by
    have := below p.1 (List.mem_map_of_mem _ hp)
    rw [(TotalOrd.compare_eq_iff j p.1).2 same] at this
    cases this

/-- A key below the first key of sorted entries has no entry in them. -/
theorem lookup_cons_eq_none_of_lt [DecidableEq K] {j k : K} {v : V} {es : List (K × V)}
    (sorted : (((k, v) :: es).map Prod.fst).Pairwise fun a b => compare a b = .lt)
    (below : compare j k = .lt) : ((k, v) :: es).lookup j = none :=
  lookup_eq_none_of_lt fun y hy => by
    rcases List.mem_cons.1 hy with rfl | hy
    exacts [below, TotalOrd.compare_lt_trans below ((List.pairwise_cons.1 sorted).1 y hy)]

/-- Two maps with the same lookups are the same map: a `BTreeMap` is determined by what it
    holds, whatever the order of the inserts that built it. -/
theorem eq_of_get_eq [DecidableEq K] {m m' : BTreeMap K V} (same : ∀ j, m.get j = m'.get j) :
    m = m' := by
  obtain ⟨es, sorted⟩ := m
  obtain ⟨es', sorted'⟩ := m'
  suffices es = es' by subst this; rfl
  induction es generalizing es' with
  | nil =>
    cases es' with
    | nil => rfl
    | cons e es' =>
      obtain ⟨k, v⟩ := e
      simpa [get, lookup_cons_ite] using same k
  | cons e es ih =>
    obtain ⟨k, v⟩ := e
    cases es' with
    | nil => simpa [get, lookup_cons_ite] using same k
    | cons e' es' =>
      obtain ⟨k', v'⟩ := e'
      have tail := (List.pairwise_cons.1 sorted).1
      have tail' := (List.pairwise_cons.1 sorted').1
      have heads : k = k' := by
        rcases h : compare k k' with _ | _ | _
        · simpa [get, lookup_cons_ite, lookup_cons_eq_none_of_lt sorted' h] using same k
        · exact (TotalOrd.compare_eq_iff k k').1 h
        · have h' : compare k' k = .lt := by rw [← TotalOrd.compare_swap, h]; rfl
          simpa [get, lookup_cons_ite, lookup_cons_eq_none_of_lt sorted h'] using (same k').symm
      subst heads
      have values : v = v' := by simpa [get, lookup_cons_ite] using same k
      subst values
      refine congrArg _ (ih (List.pairwise_cons.1 sorted).2 _ (List.pairwise_cons.1 sorted').2
        fun j => ?_)
      by_cases hj : j = k
      · subst hj
        exact (lookup_eq_none_of_lt tail).trans (lookup_eq_none_of_lt tail').symm
      · simpa [get, lookup_cons_ite, hj] using same j

end BTreeMap

end WooriDb
