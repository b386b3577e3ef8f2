import WooriDb.Wql.Types
import WooriDb.Wql.Id

/-!
# The state the query controllers read

The error type of `woori-db` (`model::error::Error`, which src/ does not hold) with the
variants the modelled controllers build, and the two locked maps `controllers/query.rs` reads:
the state store `LocalContext` (entity ↦ id ↦ register and state) and the encrypted keys
`EncryptContext` (entity ↦ the set of keys declared with `ENCRYPT`).
-/

namespace WooriDb

open Wql

/-- `model::error::Error`: the variants the modelled controllers build; `other` stands for
    every error an actor or a library reports, which no modelled code inspects. -/
inductive Error where
  | checkNonEncryptedKeys (keys : List String)
  | lockData
  | entityNotCreated (entity : String)
  | idNotCreatedForEntity (entity : String) (id : ID)
  | authenticationBadRequest
  | authenticationBadRequestBody (msg : String)
  | failedToCreateUser
  | failedToDeleteUsers
  | unknown
  | nonSelectQuery
  | queryFormat (msg : String)
  | dateTimeParse (msg : String)
  | other (msg : String)
  deriving DecidableEq

/-- The `Display` text of `Error::Unknown`, the `error_message` the auth tests expect. -/
def Error.unknownMessage : String := "Request credentials failed"

/-- `Option::ok_or_else`. -/
def okOrElse {ε α : Type} : Option α → ε → Except ε α
  | some a, _ => .ok a
  | none, e => .error e

@[simp] theorem toOption_okOrElse {ε α : Type} (o : Option α) (e : ε) :
    (okOrElse o e).toOption = o := by
  cases o <;> rfl

/-- `LocalContext`, the state store: entity ↦ id ↦ (register, state). -/
abbrev LocalContext (Reg : Type) := BTreeMap String (BTreeMap ID (Reg × Entity))

/-- `EncryptContext`: entity ↦ the keys declared encrypted for it. -/
abbrev EncryptContext := BTreeMap String (HashSet String)

end WooriDb
