import WooriDb.Chrono
import WooriDb.Query.Controllers

/-!
# `wql_handler`: from a request body to a controller

`wql_handler` (`controllers/query.rs:33-104`) reads the body with `Wql::from_str`
(`wql/src/lib.rs:62-81`), which drops the leading white space and hands the first character
and the rest to the WQL reader `read_symbol` (not in src/, a parameter here). A blank body is
`Err("Empty WQL")`. The handler sends each read statement to its controller and answers
every write statement with `NonSelectQuery`.

The five `WHEN` selects (`query.rs:158-271`) read the day logs through the actor and never
take the store lock. A date chrono rejects is answered with `DateTimeParse` before any
message goes out.

As in `Query.Controllers`, every function the handler reaches outside src/ is a function to
a value or an `Err`: the reader, the `core::query` functions, chrono's parser, the actor's
messages, and the five controllers of `clauses.rs` and `relation.rs`. Under that reading of
the code outside src/, the one panic of the handler is the unwrap of
`check_value_controller` on an id the entity does not hold (`wqlHandler_eq_panic`).
-/
namespace WooriDb

open Wql

/-- `wql::ToSelect` (`lib.rs:42-46`). -/
inductive ToSelect where
  | all
  | keys (keys : List String)

/-- `wql::Relation`, with the three variants `wql_handler` dispatches on (`relation.rs` is
    not in src/). -/
inductive Relation where
  | intersect
  | difference
  | union

/-- `wql::Wql` (`lib.rs:21-38`). `Fns` is the `HashMap<String, Algebra>` of functions,
    `Clause` the `where_clause::Clause` and `RelationType` the `relation::RelationType`,
    none of them in src/; the `MatchCondition` of `MatchUpdate` is left out, since nothing
    modelled reads it. -/
inductive Wql (Fns Clause RelationType : Type) where
  | createEntity (entity : String) (uniques encrypts : List String)
  | insert (entity : String) (content : Entity) (id : Option ID)
  | updateContent (entity : String) (content : Entity) (id : ID)
  | updateSet (entity : String) (content : Entity) (id : ID)
  | delete (entity : String) (id : String)
  | matchUpdate (entity : String) (content : Entity) (id : ID)
  | evict (entity : String) (id : Option ID)
  | select (entity : String) (toSelect : ToSelect) (id : Option ID) (functions : Fns)
  | selectWhen (entity : String) (toSelect : ToSelect) (id : Option ID) (date : String)
  | selectWhenRange (entity : String) (id : ID) (startDate endDate : String)
  | selectIds (entity : String) (toSelect : ToSelect) (ids : List ID) (functions : Fns)
  | selectWhere (entity : String) (toSelect : ToSelect) (clauses : List Clause)
      (functions : Fns)
  | checkValue (entity : String) (id : ID) (content : HashMap String String)
  | relationQuery (queries : List (Wql Fns Clause RelationType)) (relation : Relation)
      (relationType : RelationType)
  | join (entityA entityB : String × String) (queries : List (Wql Fns Clause RelationType))

variable {Reg Resp Fns Clause RelationType : Type}

/-! ## Reading a statement -/

/-- `char::is_whitespace`: the Unicode `White_Space` property. -/
def isWhitespace (c : Char) : Bool :=
  [9, 10, 11, 12, 13, 32, 0x85, 0xA0, 0x1680, 0x2028, 0x2029, 0x202F, 0x205F, 0x3000].contains
      c.toNat ||
    decide (0x2000 ≤ c.toNat ∧ c.toNat ≤ 0x200A)

/-- `str::trim_start`, on the characters. -/
def trimStart (s : String) : List Char := s.toList.dropWhile isWhitespace

/-- `wql::parse` (`lib.rs:76-81`): the reader on the first character, or `Empty WQL`. The
    iterator `read_symbol` advances is the list of the characters after the first. -/
def parse (readSymbol : Char → List Char → Except String (Wql Fns Clause RelationType)) :
    Option Char → List Char → Except String (Wql Fns Clause RelationType)
  | none, _ => .error "Empty WQL"
  | some ch, chars => readSymbol ch chars

/-- `<Wql as FromStr>::from_str` (`lib.rs:62-74`): `tokenize` is the characters of the
    trimmed text. -/
def Wql.fromStr (readSymbol : Char → List Char → Except String (Wql Fns Clause RelationType))
    (s : String) : Except String (Wql Fns Clause RelationType) :=
  let tokens := trimStart s
  parse readSymbol tokens.head? tokens.tail

/-! ## The `WHEN` selects -/

/-- What the `WHEN` selects use beyond src/: chrono's `parse::<DateTime<Utc>>` (its
    `ParseError` by its text), the day-log name `format("data/%Y_%m_%d.log")`, and the three
    messages of the `when` actor, each answered through `.await??` and converted by `into`. -/
structure WhenCore (Resp : Type) where
  parseDateTime : String → Except String DateTimeUtc
  dateLog : DateTimeUtc → String
  readEntitiesAt : String → String → Option (HashSet String) → Except Error Resp
  readEntityIdAt : String → ID → String → Except Error Entity
  readEntityRange : String → ID → DateTimeUtc → DateTimeUtc → String → Except Error Resp

/-- `date.parse::<DateTime<Utc>>().map_err(Error::DateTimeParse)?`. -/
def parseDate (when : WhenCore Resp) (date : String) : Exit Error DateTimeUtc :=
  Exit.ofExcept ((when.parseDateTime date).mapError .dateTimeParse)

/-- `select_all_when_controller` and `select_keys_when_controller`, which differ only in the
    keys they send. -/
def selectWhenController (when : WhenCore Resp) (keys : Option (HashSet String))
    (entity date : String) : Exit Error Resp := do
  let date ← parseDate when date
  Exit.ofExcept (when.readEntitiesAt entity (when.dateLog date) keys)

/-- `select_all_when_controller` (`query.rs:185-203`). -/
def selectAllWhenController (when : WhenCore Resp) (entity date : String) : Exit Error Resp :=
  selectWhenController when none entity date

/-- `select_keys_when_controller` (`query.rs:250-271`). -/
def selectKeysWhenController (when : WhenCore Resp) (entity date : String)
    (keys : List String) : Exit Error Resp :=
  selectWhenController when (some (HashSet.ofList keys)) entity date

/-- `select_all_id_when_controller` and `select_keys_id_when_controller`, which differ only
    in the keys they pass to `filter_keys_and_hash`. -/
def selectIdWhenController (core : QueryCore Fns Resp) (when : WhenCore Resp)
    (keys : Option (HashSet String)) (entity date : String) (id : ID) : Exit Error Resp := do
  let date ← parseDate when date
  let result ← Exit.ofExcept (when.readEntityIdAt entity id (when.dateLog date))
  pure (core.ofEntity (core.filterKeysAndHash result keys))

/-- `select_all_id_when_controller` (`query.rs:205-224`). -/
def selectAllIdWhenController (core : QueryCore Fns Resp) (when : WhenCore Resp)
    (entity date : String) (id : ID) : Exit Error Resp :=
  selectIdWhenController core when none entity date id

/-- `select_keys_id_when_controller` (`query.rs:226-248`). -/
def selectKeysIdWhenController (core : QueryCore Fns Resp) (when : WhenCore Resp)
    (entity date : String) (keys : List String) (id : ID) : Exit Error Resp :=
  selectIdWhenController core when (some (HashSet.ofList keys)) entity date id

/-- `select_all_when_range_controller` (`query.rs:158-184`): both dates are parsed, and the
    day log is the start date's. -/
def selectAllWhenRangeController (when : WhenCore Resp) (entity : String) (id : ID)
    (startDate endDate : String) : Exit Error Resp := do
  let startDate ← parseDate when startDate
  let endDate ← parseDate when endDate
  Exit.ofExcept (when.readEntityRange entity id startDate endDate (when.dateLog startDate))

/-- The `WHEN` selects never panic: each of their calls is a date parse or an actor answer,
    taken by `?`. -/
theorem whenControllers_return (core : QueryCore Fns Resp) (when : WhenCore Resp) :
    (∀ keys entity date, (selectWhenController when keys entity date).returns = true) ∧
    (∀ keys entity date id, (selectIdWhenController core when keys entity date id).returns = true) ∧
    (∀ entity id startDate endDate,
      (selectAllWhenRangeController when entity id startDate endDate).returns = true) :=
  ⟨fun _ _ _ => Exit.returns_bind (Exit.returns_ofExcept _) fun _ => Exit.returns_ofExcept _,
    fun _ _ _ _ => Exit.returns_bind (Exit.returns_ofExcept _) fun _ =>
      Exit.returns_bind (Exit.returns_ofExcept _) fun _ => rfl,
    fun _ _ _ _ => Exit.returns_bind (Exit.returns_ofExcept _) fun _ =>
      Exit.returns_bind (Exit.returns_ofExcept _) fun _ => Exit.returns_ofExcept _⟩

/-! ## The handler -/

/-- The controllers `wql_handler` calls whose code src/ does not hold: `select_where_controller`
    (`clauses.rs`) and `intersect`, `difference`, `union`, `join` (`relation.rs`). Each reads
    the state store and ends in a value or an `Err`, which the handler takes as it is. -/
structure OtherControllers (Reg Fns Clause RelationType Resp : Type) where
  selectWhere : String → ToSelect → List Clause → Mutex (LocalContext Reg) → Fns →
    Except Error Resp
  intersect : List (Wql Fns Clause RelationType) → RelationType → Mutex (LocalContext Reg) →
    Except Error Resp
  difference : List (Wql Fns Clause RelationType) → RelationType → Mutex (LocalContext Reg) →
    Except Error Resp
  union : List (Wql Fns Clause RelationType) → RelationType → Mutex (LocalContext Reg) →
    Except Error Resp
  join : String × String → String × String → List (Wql Fns Clause RelationType) →
    Mutex (LocalContext Reg) → Except Error Resp

/-- Everything `wql_handler` dispatches through: the WQL reader, the `core::query`
    functions, the actor's messages and the controllers outside src/. -/
structure QueryHandler (Reg Fns Clause RelationType Resp : Type) where
  readSymbol : Char → List Char → Except String (Wql Fns Clause RelationType)
  core : QueryCore Fns Resp
  entityCore : EntityCore Reg Fns Resp
  when : WhenCore Resp
  others : OtherControllers Reg Fns Clause RelationType Resp
  actor : Executor Reg Resp

/-- `wql_handler` (`query.rs:33-104`) up to the `Result` it turns into an HTTP response. -/
def wqlHandler (h : QueryHandler Reg Fns Clause RelationType Resp) (body : String)
    (localData : Mutex (LocalContext Reg)) (encryption : Mutex EncryptContext) :
    Exit Error Resp :=
  match Wql.fromStr h.readSymbol body with
  | .ok (.select entity .all (some id) _) => selectAllWithId h.core entity id localData
  | .ok (.select entity (.keys keys) (some id) _) =>
    selectKeysWithId h.core entity id keys localData
  | .ok (.select entity .all none functions) =>
    selectAll h.core h.entityCore entity localData functions
  | .ok (.select entity (.keys keys) none functions) =>
    selectArgs h.core h.entityCore entity keys localData functions
  | .ok (.selectIds entity .all ids functions) =>
    selectAllWithIds h.core entity ids localData functions
  | .ok (.selectIds entity (.keys keys) ids functions) =>
    selectKeysWithIds h.core entity keys ids localData functions
  | .ok (.selectWhen entity .all none date) => selectAllWhenController h.when entity date
  | .ok (.selectWhen entity (.keys keys) none date) =>
    selectKeysWhenController h.when entity date keys
  | .ok (.selectWhen entity .all (some id) date) =>
    selectAllIdWhenController h.core h.when entity date id
  | .ok (.selectWhen entity (.keys keys) (some id) date) =>
    selectKeysIdWhenController h.core h.when entity date keys id
  | .ok (.selectWhenRange entityName id startDate endDate) =>
    selectAllWhenRangeController h.when entityName id startDate endDate
  | .ok (.selectWhere entityName argsToSelect clauses functions) =>
    .ofExcept (h.others.selectWhere entityName argsToSelect clauses localData functions)
  | .ok (.checkValue entity id content) =>
    checkValueController entity id content localData encryption h.actor
  | .ok (.relationQuery queries .intersect relationType) =>
    .ofExcept (h.others.intersect queries relationType localData)
  | .ok (.relationQuery queries .difference relationType) =>
    .ofExcept (h.others.difference queries relationType localData)
  | .ok (.relationQuery queries .union relationType) =>
    .ofExcept (h.others.union queries relationType localData)
  | .ok (.join entityA entityB queries) =>
    .ofExcept (h.others.join entityA entityB queries localData)
  | .ok _ => .err .nonSelectQuery
  | .error e => .err (.queryFormat e)

/-- A handler whose reader reads every body as a `CHECK` of the empty content against the
    id `1` of `e`, over controllers that answer `"ok"` and a chrono that rejects every date. -/
def checkHandler : QueryHandler Unit Unit Unit Unit String where
  readSymbol _ _ := .ok (.checkValue "e" (.number 1) .empty)
  core := plainCore
  entityCore := ⟨fun _ _ _ _ => .empty, fun states _ => states, fun _ _ _ => "ok"⟩
  when := ⟨fun _ => .error "input contains invalid characters", fun _ => "data/1970_01_01.log",
    fun _ _ _ => .ok "ok", fun _ _ _ => .ok .empty, fun _ _ _ _ _ => .ok "ok"⟩
  others := ⟨fun _ _ _ _ _ => .ok "ok", fun _ _ _ => .ok "ok", fun _ _ _ => .ok "ok",
    fun _ _ _ => .ok "ok", fun _ _ _ _ => .ok "ok"⟩
  actor := answeringExecutor

section Handler

variable (h : QueryHandler Reg Fns Clause RelationType Resp) (body : String)
  (localData : Mutex (LocalContext Reg)) (encryption : Mutex EncryptContext)

/-- Every statement but `CHECK` is answered without a panic. -/
theorem wqlHandler_returns_of_not_check (notCheck : ∀ entity id content,
      Wql.fromStr h.readSymbol body ≠ .ok (.checkValue entity id content)) :
    (wqlHandler h body localData encryption).returns = true := by
  obtain ⟨atDate, idAtDate, range⟩ := whenControllers_return h.core h.when
  rw [wqlHandler]
  cases parsed : Wql.fromStr h.readSymbol body with
  | error e => rfl
  | ok w =>
    cases w with
    | select entity toSelect id functions =>
      cases toSelect <;> cases id
      exacts [selectEntity_returns .., selectWithId_returns .., selectEntity_returns ..,
        selectWithId_returns ..]
    | selectIds entity toSelect ids functions =>
      cases toSelect <;> exact selectWithIds_returns ..
    | selectWhen entity toSelect id date =>
      cases toSelect <;> cases id
      exacts [atDate .., idAtDate .., atDate .., idAtDate ..]
    | selectWhenRange => exact range ..
    | selectWhere => exact Exit.returns_ofExcept _
    | checkValue entity id content => exact absurd parsed (notCheck entity id content)
    | relationQuery queries relation relationType =>
      cases relation
      all_goals exact Exit.returns_ofExcept _
    | join => exact Exit.returns_ofExcept _
    | _ => rfl

/-- With every function outside src/ ending in a value or an `Err`, `wql_handler` panics
    exactly on a `CHECK` statement whose content passes the encrypted-key gate and whose id is absent
    from an entity the free store holds, with the message of `Option::unwrap`: every other
    path, a missing entity or id in any select included, ends in `Ok` or `Err`. -/
theorem wqlHandler_eq_panic (msg : String) :
    wqlHandler h body localData encryption = .panic msg ↔
      ∃ entity id content, Wql.fromStr h.readSymbol body = .ok (.checkValue entity id content) ∧
        encryptionGate encryption entity content = .ok () ∧ localData.poisoned = false ∧
        (∃ idToRegistry, localData.data.get entity = some idToRegistry ∧
          idToRegistry.get id = none) ∧
        msg = Exit.unwrapNoneMsg := by
  by_cases check : ∃ entity id content,
      Wql.fromStr h.readSymbol body = .ok (.checkValue entity id content)
  · obtain ⟨entity, id, content, parsed⟩ := check
    have dispatch : wqlHandler h body localData encryption =
        checkValueController entity id content localData encryption h.actor := by
      rw [wqlHandler, parsed]
    rw [dispatch, checkValue_eq_panic]
    refine ⟨fun conditions => ⟨entity, id, content, parsed, conditions⟩, ?_⟩
    rintro ⟨entity', id', content', parsed', conditions⟩
    rw [parsed] at parsed'
    cases parsed'
    exact conditions
  · push_neg at check
    refine ⟨fun panics => ?_, fun ⟨entity, id, content, parsed, _⟩ =>
      absurd parsed (check entity id content)⟩
    have answered := wqlHandler_returns_of_not_check h body localData encryption check
    rw [panics] at answered
    cases answered

example : wqlHandler checkHandler "CHECK e" ⟨storeWithNone, false⟩ ⟨.empty, false⟩ =
    .panic Exit.unwrapNoneMsg := by decide

end Handler

end WooriDb
