import WooriDb.Query.Store

/-!
# The read paths of `controllers/query.rs` over the state store

`check_value_controller` (`query.rs:106-156`), `select_all_with_id` and `select_keys_with_id`
(`query.rs:273-300`, `352-381`), `select_all_with_ids` and `select_keys_with_ids`
(`query.rs:302-350`, `383-433`), and `select_all` and `select_args` (`query.rs:435-490`).
The functions of `core::query` and the actor messages they call are not in src/; they are
the fields of `QueryCore`, `EntityCore` and `Executor`, and every theorem holds for all of
them. Each is a function to a value or an `Err`: the model takes the code outside src/ not to
panic, and every panic it finds is one of src/. Each pair of selects is one definition with
the keys as a parameter, `None` or the `HashSet` the `_keys_` member collects.

`check_value_controller` skips its encrypted-key gate when the encrypted-keys lock is poisoned
or the entity has no entry in that map (`checkValue_skips_gate`), and it unwraps the id lookup
where the two selects report `IdNotCreatedForEntity`; that unwrap is its only panic
(`checkValue_eq_panic`), and it runs on a clone of the store after the guard is dropped, so it
leaves the lock unpoisoned. The id-set selects collect their states into a `BTreeMap`, which
is determined by what it holds: the order in which a request names its ids does not reach the
answer.
-/

namespace WooriDb

open Wql

/-- The `core::query` functions the controllers call. -/
structure QueryCore (Fns Resp : Type) where
  filterKeysAndHash : Entity → Option (HashSet String) → Entity
  getLimitOffsetCount : Fns → Nat × Nat × Bool
  dedupOptionStates : BTreeMap ID (Option Entity) → Fns → BTreeMap ID (Option Entity)
  getResultAfterManipulationForOptions : BTreeMap ID (Option Entity) → Fns → Bool → Resp
  ofEntity : Entity → Resp

/-- The `core::query` functions only the whole-entity selects call. -/
structure EntityCore (Reg Fns Resp : Type) where
  registriesToStates : BTreeMap ID (Reg × Entity) → Option (HashSet String) → Nat → Nat →
    BTreeMap ID Entity
  dedupStates : BTreeMap ID Entity → Fns → BTreeMap ID Entity
  getResultAfterManipulation : BTreeMap ID Entity → Fns → Bool → Resp

/-- The messages `check_value_controller` sends the executor actor, each answered through
    `.await??`: the state text a register points at, the parse of that text, and
    `VerifyEncryption`. -/
structure Executor (Reg Resp : Type) where
  registryState : Reg → Except Error String
  state : String → Except Error Entity
  verifyEncryption : Entity → HashMap String String → Except Error Resp

variable {Reg Resp Fns : Type}

/-- Taking a lock, or `Err(Error::LockData)`. -/
def lockOr {α : Type} (m : Mutex α) : Exit Error α :=
  match m.lock with
  | some guard => .ok guard
  | none => .err .lockData

@[simp] theorem lockOr_unpoisoned {α : Type} (a : α) : lockOr ⟨a, false⟩ = .ok a := rfl

@[simp] theorem lockOr_poisoned {α : Type} (a : α) : lockOr ⟨a, true⟩ = .err .lockData := rfl

/-! ## `check_value_controller` -/

/-- The keys of a `CHECK` content that are not declared encrypted, in iteration order. -/
def nonEncryptKeys (encrypts : HashSet String) (content : HashMap String String) :
    List String :=
  (content.toList.filter fun (k, _) => !encrypts.contains k).map (·.1)

/-- The encrypted-key gate (`query.rs:114-127`): nothing is checked when the lock fails or
    the entity has no entry. -/
def encryptionGate (encryption : Mutex EncryptContext) (entity : String)
    (content : HashMap String String) : Exit Error Unit :=
  match encryption.lock with
  | some guard =>
    if guard.containsKey entity then do
      let encrypts ← Exit.unwrap (guard.get entity)
      let keys := nonEncryptKeys encrypts content
      if !keys.isEmpty then .err (.checkNonEncryptedKeys keys) else pure ()
    else pure ()
  | none => pure ()

/-- The rest of `check_value_controller` (`query.rs:129-155`): the store lookup, whose id
    lookup is unwrapped, and the three actor messages. -/
def checkValueLookup (entity : String) (id : ID) (content : HashMap String String)
    (localData : Mutex (LocalContext Reg)) (actor : Executor Reg Resp) : Exit Error Resp := do
  let localData ← lockOr localData
  if !localData.containsKey entity then .err (.entityNotCreated entity) else do
  let idToRegistry ← Exit.unwrap (localData.get entity)
  let previousEntry ← Exit.unwrap (idToRegistry.get id)
  let previousStateStr ← Exit.ofExcept (actor.registryState previousEntry.1)
  let state ← Exit.ofExcept (actor.state previousStateStr)
  let keys := HashSet.ofList (content.toList.map (·.1))
  let filteredState := state.filter fun (k, _) => keys.contains k
  Exit.ofExcept (actor.verifyEncryption filteredState content)

/-- `check_value_controller`. -/
def checkValueController (entity : String) (id : ID) (content : HashMap String String)
    (localData : Mutex (LocalContext Reg)) (encryption : Mutex EncryptContext)
    (actor : Executor Reg Resp) : Exit Error Resp := do
  encryptionGate encryption entity content
  checkValueLookup entity id content localData actor

theorem mem_nonEncryptKeys (encrypts : HashSet String) (content : HashMap String String)
    (k : String) :
    k ∈ nonEncryptKeys encrypts content ↔
      k ∈ content.toList.map (·.1) ∧ encrypts.contains k = false := by
  simp only [nonEncryptKeys, List.mem_map, List.mem_filter, Bool.not_eq_true']
  constructor
  · rintro ⟨⟨k', v⟩, ⟨hm, hn⟩, rfl⟩; exact ⟨⟨(k', v), hm, rfl⟩, hn⟩
  · rintro ⟨⟨⟨k', v⟩, hm, rfl⟩, hn⟩; exact ⟨(k', v), ⟨hm, hn⟩, rfl⟩

/-- The gate never panics: the entry it unwraps is one `contains_key` has just found. -/
theorem encryptionGate_returns (encryption : Mutex EncryptContext) (entity : String)
    (content : HashMap String String) :
    (encryptionGate encryption entity content).returns = true := by
  unfold encryptionGate
  cases encryption.lock with
  | none => rfl
  | some guard =>
    cases present : guard.get entity with
    | none => simp [BTreeMap.containsKey, present, Exit.returns]
    | some encrypts =>
      simp only [BTreeMap.containsKey, present, Option.isSome_some, if_true, Exit.unwrap_some,
        Exit.ok_bind]
      split <;> rfl

/-- The encrypted-key gate holds only for an entity with an entry, under a free lock: there
    the undeclared keys of the content, exactly those, are reported, and a content without
    any goes on. An entity with no entry, and every entity while the encrypted-keys lock is
    poisoned, go on to the store lookup and `VerifyEncryption` whatever keys the content
    holds. -/
theorem checkValue_skips_gate (entity : String) (id : ID) (content : HashMap String String)
    (localData : Mutex (LocalContext Reg)) (encrypted : EncryptContext)
    (actor : Executor Reg Resp) :
    (∀ encrypts, encrypted.get entity = some encrypts →
      (nonEncryptKeys encrypts content ≠ [] →
        checkValueController entity id content localData ⟨encrypted, false⟩ actor =
          .err (.checkNonEncryptedKeys (nonEncryptKeys encrypts content)) ∧
        ∀ k, k ∈ nonEncryptKeys encrypts content ↔
          k ∈ content.toList.map (·.1) ∧ encrypts.contains k = false) ∧
      (nonEncryptKeys encrypts content = [] →
        checkValueController entity id content localData ⟨encrypted, false⟩ actor =
          checkValueLookup entity id content localData actor)) ∧
    (encrypted.get entity = none →
      checkValueController entity id content localData ⟨encrypted, false⟩ actor =
        checkValueLookup entity id content localData actor) ∧
    checkValueController entity id content localData ⟨encrypted, true⟩ actor =
      checkValueLookup entity id content localData actor := by
  refine ⟨fun encrypts hget => ⟨fun hne => ⟨?_, mem_nonEncryptKeys encrypts content⟩,
    fun hnil => ?_⟩, fun hget => ?_, rfl⟩
  · simp [checkValueController, encryptionGate, Mutex.lock, BTreeMap.containsKey, hget, hne]
  · simp [checkValueController, encryptionGate, Mutex.lock, BTreeMap.containsKey, hget, hnil]
  · simp [checkValueController, encryptionGate, Mutex.lock, BTreeMap.containsKey, hget]

/-- A store whose entity `e` holds the id `1` with an empty state and a unit register. -/
def storeWithOne : LocalContext Unit :=
  BTreeMap.empty.insert "e" (BTreeMap.empty.insert (.number 1) ((), .empty))

/-- A store whose entity `e` holds no id. -/
def storeWithNone : LocalContext Unit := BTreeMap.empty.insert "e" BTreeMap.empty

/-- An executor that answers every message, `VerifyEncryption` with `"verified"`. -/
def answeringExecutor : Executor Unit String :=
  ⟨fun _ => .ok "", fun _ => .ok .empty, fun _ _ => .ok "verified"⟩

/-- The `CHECK` content `{"k": "v"}`. -/
def undeclaredContent : HashMap String String := .ofList [("k", "v")] (by decide)

/-- The key `k` is declared encrypted nowhere. For `e` without an entry in the encrypted-keys
    map, and for `e` under a poisoned encrypted-keys lock, `CHECK` reaches `VerifyEncryption`;
    with an entry for `e` that lacks `k` it is refused. -/
theorem checkValue_skips_gate_undeclared :
    (BTreeMap.empty : EncryptContext).get "e" = none ∧
      checkValueController "e" (.number 1) undeclaredContent ⟨storeWithOne, false⟩
        ⟨.empty, false⟩ answeringExecutor = .ok "verified" ∧
      checkValueController "e" (.number 1) undeclaredContent ⟨storeWithOne, false⟩
        ⟨.empty, true⟩ answeringExecutor = .ok "verified" ∧
      checkValueController "e" (.number 1) undeclaredContent ⟨storeWithOne, false⟩
        ⟨BTreeMap.empty.insert "e" (HashSet.ofList []), false⟩ answeringExecutor =
        .err (.checkNonEncryptedKeys ["k"]) :=
  have verified : checkValueLookup "e" (.number 1) undeclaredContent ⟨storeWithOne, false⟩
      answeringExecutor = .ok "verified" := by decide
  have noEntry := checkValue_skips_gate "e" (.number 1) undeclaredContent ⟨storeWithOne, false⟩
    .empty answeringExecutor
  have entry := checkValue_skips_gate "e" (.number 1) undeclaredContent ⟨storeWithOne, false⟩
    (BTreeMap.empty.insert "e" (HashSet.ofList [])) answeringExecutor
  ⟨rfl, (noEntry.2.1 rfl).trans verified, noEntry.2.2.trans verified,
    ((entry.1 _ rfl).1 (by decide)).1⟩

/-! ## The single-id selects -/

/-- `select_all_with_id` and `select_keys_with_id`, which differ only in the keys they pass
    to `filter_keys_and_hash`. -/
def selectWithId (core : QueryCore Fns Resp) (keys : Option (HashSet String)) (entity : String)
    (id : ID) (localData : Mutex (LocalContext Reg)) : Exit Error Resp := do
  let localData ← lockOr localData
  let registry ←
    match localData.get entity with
    | some idToRegistry =>
      match idToRegistry.get id with
      | some reg => pure reg
      | none => .err (.idNotCreatedForEntity entity id)
    | none => .err (.entityNotCreated entity)
  pure (core.ofEntity (core.filterKeysAndHash registry.2 keys))

/-- `select_all_with_id` (`query.rs:273-300`). -/
def selectAllWithId (core : QueryCore Fns Resp) (entity : String) (id : ID)
    (localData : Mutex (LocalContext Reg)) : Exit Error Resp :=
  selectWithId core none entity id localData

/-- `select_keys_with_id` (`query.rs:352-381`). -/
def selectKeysWithId (core : QueryCore Fns Resp) (entity : String) (id : ID)
    (keys : List String) (localData : Mutex (LocalContext Reg)) : Exit Error Resp :=
  selectWithId core (some (HashSet.ofList keys)) entity id localData

/-- The single-id selects report a poisoned store as `LockData`, an absent entity as
    `EntityNotCreated`, a present entity without the id as `IdNotCreatedForEntity`, and
    never panic. -/
theorem selectWithId_errors (core : QueryCore Fns Resp) (keys : Option (HashSet String))
    (entity : String) (id : ID) (localData : Mutex (LocalContext Reg)) :
    (localData.poisoned = true → selectWithId core keys entity id localData = .err .lockData) ∧
    (localData.poisoned = false →
      (selectWithId core keys entity id localData = .err (.entityNotCreated entity) ↔
        localData.data.get entity = none) ∧
      (selectWithId core keys entity id localData = .err (.idNotCreatedForEntity entity id) ↔
        ∃ idToRegistry, localData.data.get entity = some idToRegistry ∧
          idToRegistry.get id = none)) ∧
    (selectWithId core keys entity id localData).returns = true := by
  obtain ⟨store, poisoned⟩ := localData
  cases poisoned
  · refine ⟨fun h => Bool.noConfusion h, fun _ => ⟨?_, ?_⟩, ?_⟩
    · cases hs : store.get entity with
      | none => simp [selectWithId, hs]
      | some m => cases hm : m.get id <;> simp [selectWithId, hs, hm]
    · cases hs : store.get entity with
      | none => simp [selectWithId, hs]
      | some m => cases hm : m.get id <;> simp [selectWithId, hs, hm]
    · cases hs : store.get entity with
      | none => simp [selectWithId, hs, Exit.returns]
      | some m => cases hm : m.get id <;> simp [selectWithId, hs, hm, Exit.returns]
  · exact ⟨fun _ => rfl, fun h => Bool.noConfusion h, rfl⟩

theorem selectWithId_returns (core : QueryCore Fns Resp) (keys : Option (HashSet String))
    (entity : String) (id : ID) (localData : Mutex (LocalContext Reg)) :
    (selectWithId core keys entity id localData).returns = true :=
  (selectWithId_errors core keys entity id localData).2.2

/-- Where `select_all_with_id` reports an id the entity does not hold, `CHECK` (past its
    encrypted-key gate) unwraps the missing entry and panics. -/
theorem checkValue_panics_on_absent_id (core : QueryCore Fns Resp) (actor : Executor Reg Resp)
    (entity : String) (id : ID) (content : HashMap String String) (store : LocalContext Reg)
    (encryption : Mutex EncryptContext) (idToRegistry : BTreeMap ID (Reg × Entity))
    (present : store.get entity = some idToRegistry) (absent : idToRegistry.get id = none)
    (gate : encryptionGate encryption entity content = .ok ()) :
    selectAllWithId core entity id ⟨store, false⟩ = .err (.idNotCreatedForEntity entity id) ∧
      checkValueController entity id content ⟨store, false⟩ encryption actor =
        .panic Exit.unwrapNoneMsg := by
  refine ⟨by simp [selectAllWithId, selectWithId, present, absent], ?_⟩
  simp [checkValueController, gate, checkValueLookup, BTreeMap.containsKey, present, absent,
    Exit.unwrap]

/-- `core::query` functions that keep every state whole, window sixteen ids from the first,
    and answer the empty text. -/
def plainCore : QueryCore Unit String :=
  ⟨fun state _ => state, fun _ => (16, 0, false), fun states _ => states, fun _ _ _ => "",
    fun _ => ""⟩

theorem checkValue_panics_on_absent_id_one :
    storeWithNone.get "e" = some BTreeMap.empty ∧
      (BTreeMap.empty : BTreeMap ID (Unit × Entity)).get (.number 1) = none ∧
      encryptionGate ⟨.empty, false⟩ "e" .empty = .ok () ∧
      selectAllWithId plainCore "e" (.number 1) ⟨storeWithNone, false⟩ =
        .err (.idNotCreatedForEntity "e" (.number 1)) ∧
      checkValueController "e" (.number 1) .empty ⟨storeWithNone, false⟩ ⟨.empty, false⟩
        answeringExecutor = .panic Exit.unwrapNoneMsg :=
  ⟨rfl, rfl, rfl, checkValue_panics_on_absent_id plainCore answeringExecutor "e" (.number 1) .empty
    storeWithNone ⟨.empty, false⟩ BTreeMap.empty rfl rfl rfl⟩

/-- Past the store lock, the lookup of `check_value_controller` panics exactly when the store
    holds the entity but not the id: the three actor messages after the unwraps end in `Ok`
    or `Err`. -/
theorem checkValueLookup_eq_panic (entity : String) (id : ID) (content : HashMap String String)
    (localData : Mutex (LocalContext Reg)) (actor : Executor Reg Resp) (msg : String) :
    checkValueLookup entity id content localData actor = .panic msg ↔
      localData.poisoned = false ∧
      (∃ idToRegistry, localData.data.get entity = some idToRegistry ∧
        idToRegistry.get id = none) ∧
      msg = Exit.unwrapNoneMsg := by
  obtain ⟨store, poisoned⟩ := localData
  cases poisoned with
  | true => simp [checkValueLookup]
  | false =>
    cases present : store.get entity with
    | none => simp [checkValueLookup, BTreeMap.containsKey, present]
    | some idToRegistry =>
      cases absent : idToRegistry.get id with
      | none =>
        have panics : checkValueLookup entity id content ⟨store, false⟩ actor =
            .panic Exit.unwrapNoneMsg := by
          simp [checkValueLookup, BTreeMap.containsKey, present, absent]
        rw [panics]
        exact ⟨fun same => ⟨rfl, ⟨idToRegistry, rfl, absent⟩, (Exit.panic.inj same).symm⟩,
          fun h => by rw [h.2.2]⟩
      | some reg =>
        have answered :
            (checkValueLookup entity id content ⟨store, false⟩ actor).returns = true := by
          simp only [checkValueLookup, lockOr_unpoisoned, BTreeMap.containsKey, present, absent,
            Option.isSome_some, Bool.not_true, Exit.ok_bind, Exit.unwrap_some]
          exact Exit.returns_bind (Exit.returns_ofExcept _) fun _ =>
            Exit.returns_bind (Exit.returns_ofExcept _) fun _ => Exit.returns_ofExcept _
        simp [Exit.ne_panic_of_returns answered, absent]

/-- `check_value_controller` panics at one place only, the unwrap of the id lookup: exactly
    when its gate lets the content through and the free store holds the entity but not the id. -/
theorem checkValue_eq_panic (entity : String) (id : ID) (content : HashMap String String)
    (localData : Mutex (LocalContext Reg)) (encryption : Mutex EncryptContext)
    (actor : Executor Reg Resp) (msg : String) :
    checkValueController entity id content localData encryption actor = .panic msg ↔
      encryptionGate encryption entity content = .ok () ∧ localData.poisoned = false ∧
      (∃ idToRegistry, localData.data.get entity = some idToRegistry ∧
        idToRegistry.get id = none) ∧
      msg = Exit.unwrapNoneMsg := by
  rcases gate : encryptionGate encryption entity content with _ | e | m
  · simp only [checkValueController, gate, Exit.ok_bind, true_and]
    exact checkValueLookup_eq_panic entity id content localData actor msg
  · simp [checkValueController, gate]
  · exact absurd gate (Exit.ne_panic_of_returns (encryptionGate_returns ..) m)

/-! ## The id-set selects -/

/-- One turn of the `for (id, registry)` loop of the id-set selects (`query.rs:336-343`). -/
def insertState (core : QueryCore Fns Resp) (keys : Option (HashSet String))
    (states : BTreeMap ID (Option Entity)) :
    ID × Option (Reg × Entity) → BTreeMap ID (Option Entity)
  | (id, some (_, state)) => states.insert id (some (core.filterKeysAndHash state keys))
  | (id, none) => states.insert id none

/-- The `states` map of `select_all_with_ids` and `select_keys_with_ids`
    (`query.rs:315-343`, `398-426`): the requested ids the entity holds, in request order
    (rayon's `collect` keeps it), then `skip(offset).take(limit)`, each inserted with its
    filtered state. -/
def idsStates (core : QueryCore Fns Resp) (keys : Option (HashSet String)) (entity : String)
    (idToRegistry : BTreeMap ID (Reg × Entity)) (ids : List ID) (limit offset : Nat) :
    BTreeMap ID (Option Entity) :=
  let registries := ids.filterMap fun id =>
    (some (id, (okOrElse (idToRegistry.get id)
      (Error.idNotCreatedForEntity entity id)).toOption)).filter fun (_, reg) => reg.isSome
  ((registries.drop offset).take limit).foldl (insertState core keys) BTreeMap.empty

/-- `select_all_with_ids` and `select_keys_with_ids`, which differ only in the keys they
    pass to `filter_keys_and_hash`. -/
def selectWithIds (core : QueryCore Fns Resp) (keys : Option (HashSet String)) (entity : String)
    (ids : List ID) (localData : Mutex (LocalContext Reg)) (functions : Fns) :
    Exit Error Resp := do
  let (limit, offset, count) := core.getLimitOffsetCount functions
  let localData ← lockOr localData
  let idToRegistry ←
    match localData.get entity with
    | some idToRegistry => pure idToRegistry
    | none => .err (.entityNotCreated entity)
  let states := idsStates core keys entity idToRegistry ids limit offset
  let states := core.dedupOptionStates states functions
  pure (core.getResultAfterManipulationForOptions states functions count)

/-- `select_all_with_ids` (`query.rs:302-350`). -/
def selectAllWithIds (core : QueryCore Fns Resp) (entity : String) (ids : List ID)
    (localData : Mutex (LocalContext Reg)) (functions : Fns) : Exit Error Resp :=
  selectWithIds core none entity ids localData functions

/-- `select_keys_with_ids` (`query.rs:383-433`). -/
def selectKeysWithIds (core : QueryCore Fns Resp) (entity : String) (keys : List String)
    (ids : List ID) (localData : Mutex (LocalContext Reg)) (functions : Fns) :
    Exit Error Resp :=
  selectWithIds core (some (HashSet.ofList keys)) entity ids localData functions

/-- The id-set selects never panic. -/
theorem selectWithIds_returns (core : QueryCore Fns Resp) (keys : Option (HashSet String))
    (entity : String) (ids : List ID) (localData : Mutex (LocalContext Reg)) (functions : Fns) :
    (selectWithIds core keys entity ids localData functions).returns = true := by
  obtain ⟨store, poisoned⟩ := localData
  cases poisoned with
  | true => rfl
  | false => cases present : store.get entity <;> simp [selectWithIds, present, Exit.returns]

/-- The presence filter of the two id-set selects keeps the requested ids the entity holds,
    each with its register. -/
theorem filterMap_present (entity : String) (idToRegistry : BTreeMap ID (Reg × Entity)) :
    ∀ ids : List ID, ids.filterMap (fun id =>
      (some (id, (okOrElse (idToRegistry.get id)
        (Error.idNotCreatedForEntity entity id)).toOption)).filter fun (_, reg) => reg.isSome) =
      (ids.filter fun i => (idToRegistry.get i).isSome).map fun i => (i, idToRegistry.get i)
  | [] => rfl
  | id :: ids => by
    rw [List.filterMap_cons, filterMap_present entity idToRegistry ids, List.filter_cons]
    cases h : idToRegistry.get id <;> simp [h, Option.filter]

/-- Inserting, in order, each id of `window` with its value: every id of the window is a key
    holding its value, and the keys are the window's ids and those already there. -/
theorem foldl_insert (val : ID → Option Entity) (reg : ID → Option (Reg × Entity))
    (step : BTreeMap ID (Option Entity) → ID × Option (Reg × Entity) →
      BTreeMap ID (Option Entity))
    (hstep : ∀ m i, step m (i, reg i) = m.insert i (val i)) :
    ∀ (window : List ID) (m : BTreeMap ID (Option Entity)),
      (∀ j, ((window.map fun i => (i, reg i)).foldl step m).get j =
        if j ∈ window then some (val j) else m.get j) ∧
      (∀ j, j ∈ ((window.map fun i => (i, reg i)).foldl step m).keys ↔
        j ∈ window ∨ j ∈ m.keys)
  | [], _ => ⟨fun _ => by simp, fun _ => by simp⟩
  | i :: window, m => by
    obtain ⟨hget, hkeys⟩ := foldl_insert val reg step hstep window (m.insert i (val i))
    simp only [List.map_cons, List.foldl_cons, hstep, List.mem_cons]
    refine ⟨fun j => ?_, fun j => ?_⟩
    · rw [hget, BTreeMap.get_insert]
      by_cases hj : j = i
      · subst hj; simp
      · simp [hj]
    · rw [hkeys, BTreeMap.mem_keys_insert]
      tauto

/-- The value the id-set selects keep for an id: `Some` of its filtered state, when the entity
    holds it. -/
def filteredState (core : QueryCore Fns Resp) (keys : Option (HashSet String))
    (idToRegistry : BTreeMap ID (Reg × Entity)) (i : ID) : Option Entity :=
  (idToRegistry.get i).map fun reg => core.filterKeysAndHash reg.2 keys

/-- The `states` map of the id-set selects, by its lookups and its keys: the ids of the
    window, each with its filtered state. -/
theorem idsStates_window (core : QueryCore Fns Resp) (keys : Option (HashSet String))
    (entity : String) (idToRegistry : BTreeMap ID (Reg × Entity)) (ids : List ID)
    (limit offset : Nat) :
    let window := ((ids.filter fun i => (idToRegistry.get i).isSome).drop offset).take limit
    (∀ j, (idsStates core keys entity idToRegistry ids limit offset).get j =
      if j ∈ window then some (filteredState core keys idToRegistry j) else none) ∧
    (∀ j, j ∈ (idsStates core keys entity idToRegistry ids limit offset).keys ↔ j ∈ window) := by
  have hstates := foldl_insert (filteredState core keys idToRegistry) idToRegistry.get
    (insertState core keys)
    (fun m i => by cases h : idToRegistry.get i <;> simp [insertState, filteredState, h])
    (((ids.filter fun i => (idToRegistry.get i).isSome).drop offset).take limit) BTreeMap.empty
  simp only [idsStates, filterMap_present, ← List.map_drop, ← List.map_take]
  exact ⟨fun j => by rw [hstates.1 j]; rfl, fun j => by rw [hstates.2 j]; simp⟩

/-- Both id-set selects hand `dedup_option_states` the map whose keys are exactly the
    requested ids the entity holds, windowed by `skip(offset).take(limit)` in request order,
    each mapped to `Some` of its filtered state. -/
theorem selectWithIds_states (core : QueryCore Fns Resp) (keys : Option (HashSet String))
    (entity : String) (ids : List ID) (store : LocalContext Reg) (functions : Fns)
    (idToRegistry : BTreeMap ID (Reg × Entity)) (present : store.get entity = some idToRegistry) :
    let (limit, offset, count) := core.getLimitOffsetCount functions
    let window := ((ids.filter fun i => (idToRegistry.get i).isSome).drop offset).take limit
    let states := idsStates core keys entity idToRegistry ids limit offset
    selectWithIds core keys entity ids ⟨store, false⟩ functions =
        .ok (core.getResultAfterManipulationForOptions
          (core.dedupOptionStates states functions) functions count) ∧
      (∀ i, i ∈ states.keys ↔ i ∈ window) ∧
      (∀ i ∈ window, ∃ reg, idToRegistry.get i = some reg ∧
        states.get i = some (some (core.filterKeysAndHash reg.2 keys))) := by
  rcases hfns : core.getLimitOffsetCount functions with ⟨limit, offset, count⟩
  obtain ⟨hget, hkeys⟩ := idsStates_window core keys entity idToRegistry ids limit offset
  refine ⟨by simp [selectWithIds, hfns, present], hkeys, fun i hi => ?_⟩
  have hp := (List.mem_filter.1 (List.mem_of_mem_drop (List.mem_of_mem_take hi))).2
  obtain ⟨reg, hreg⟩ := Option.isSome_iff_exists.1 hp
  exact ⟨reg, hreg, by rw [hget, if_pos hi, filteredState, hreg]; rfl⟩

theorem selectWithIds_states_one :
    storeWithOne.get "e" = some (BTreeMap.empty.insert (.number 1) ((), .empty)) ∧
      selectWithIds plainCore none "e" [.number 1, .number 2] ⟨storeWithOne, false⟩ () =
        .ok (plainCore.getResultAfterManipulationForOptions
          (plainCore.dedupOptionStates (idsStates plainCore none "e"
            (BTreeMap.empty.insert (.number 1) ((), .empty)) [.number 1, .number 2] 16 0) ())
          () false) :=
  ⟨rfl, (selectWithIds_states plainCore none "e" [.number 1, .number 2] storeWithOne ()
    (BTreeMap.empty.insert (.number 1) ((), .empty)) rfl).1⟩

/-- With no `OFFSET` and a `LIMIT` that cuts nothing, the answer of both id-set selects depends
    only on which ids the request names: not on their order, nor on repeats. -/
theorem selectWithIds_request_order (core : QueryCore Fns Resp) (keys : Option (HashSet String))
    (entity : String) (ids ids' : List ID) (localData : Mutex (LocalContext Reg))
    (functions : Fns) (limit : Nat) (count : Bool)
    (noOffset : core.getLimitOffsetCount functions = (limit, 0, count))
    (fits : ids.length ≤ limit ∧ ids'.length ≤ limit) (same : ∀ i, i ∈ ids ↔ i ∈ ids') :
    selectWithIds core keys entity ids localData functions =
      selectWithIds core keys entity ids' localData functions := by
  have states : ∀ idToRegistry : BTreeMap ID (Reg × Entity),
      idsStates core keys entity idToRegistry ids limit 0 =
      idsStates core keys entity idToRegistry ids' limit 0 := fun idToRegistry => by
    refine BTreeMap.eq_of_get_eq fun j => ?_
    rw [(idsStates_window core keys entity idToRegistry ids limit 0).1,
      (idsStates_window core keys entity idToRegistry ids' limit 0).1]
    simp only [List.drop_zero, List.mem_filter, same,
      List.take_of_length_le ((List.length_filter_le _ _).trans fits.1),
      List.take_of_length_le ((List.length_filter_le _ _).trans fits.2)]
  simp only [selectWithIds, noOffset, states]

theorem selectWithIds_request_order_swapped :
    plainCore.getLimitOffsetCount () = (16, 0, false) ∧
      selectWithIds plainCore none "e" [.number 1, .number 2] ⟨storeWithOne, false⟩ () =
        selectWithIds plainCore none "e" [.number 2, .number 1, .number 2]
          ⟨storeWithOne, false⟩ () :=
  ⟨rfl, selectWithIds_request_order plainCore none "e" _ _ _ () 16 false rfl
    ⟨by decide, by decide⟩ fun _ => by simp only [List.mem_cons, List.mem_singleton]; tauto⟩

/-! ## The whole-entity selects -/

/-- `select_all` and `select_args`, which differ only in the keys they pass to
    `registries_to_states`. -/
def selectEntity (core : QueryCore Fns Resp) (entityCore : EntityCore Reg Fns Resp)
    (keys : Option (HashSet String)) (entity : String) (localData : Mutex (LocalContext Reg))
    (functions : Fns) : Exit Error Resp := do
  let (limit, offset, count) := core.getLimitOffsetCount functions
  let localData ← lockOr localData
  let registries ←
    match localData.get entity with
    | some idToRegistries => pure idToRegistries
    | none => .err (.entityNotCreated entity)
  let states := entityCore.registriesToStates registries keys offset limit
  let states := entityCore.dedupStates states functions
  pure (entityCore.getResultAfterManipulation states functions count)

/-- `select_all` (`query.rs:435-461`). -/
def selectAll (core : QueryCore Fns Resp) (entityCore : EntityCore Reg Fns Resp)
    (entity : String) (localData : Mutex (LocalContext Reg)) (functions : Fns) :
    Exit Error Resp :=
  selectEntity core entityCore none entity localData functions

/-- `select_args` (`query.rs:463-490`). -/
def selectArgs (core : QueryCore Fns Resp) (entityCore : EntityCore Reg Fns Resp)
    (entity : String) (keys : List String) (localData : Mutex (LocalContext Reg))
    (functions : Fns) : Exit Error Resp :=
  selectEntity core entityCore (some (HashSet.ofList keys)) entity localData functions

/-- The whole-entity selects never panic. -/
theorem selectEntity_returns (core : QueryCore Fns Resp) (entityCore : EntityCore Reg Fns Resp)
    (keys : Option (HashSet String)) (entity : String) (localData : Mutex (LocalContext Reg))
    (functions : Fns) :
    (selectEntity core entityCore keys entity localData functions).returns = true := by
  obtain ⟨store, poisoned⟩ := localData
  cases poisoned with
  | true => rfl
  | false => cases present : store.get entity <;> simp [selectEntity, present, Exit.returns]

end WooriDb
