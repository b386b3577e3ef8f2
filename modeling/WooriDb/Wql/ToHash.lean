import WooriDb.Wql.Types

/-!
# `Types::to_hash`

`wql/src/lib.rs:118-138`: the text handed to `bcrypt::hash` is `format!` of the value, and
for vectors and maps it is their derived `Debug`. `Debug` of a `HashMap` lists its entries in
iteration order, so two equal maps that iterate differently are given different plaintexts,
and `integer_decode` gives `0.0` and `-0.0` different ones (`toHashValue_differs_on_equal`).
The formatting routines of `core` and chrono that the rendering reaches (`Debug` of `char`,
`str` and `f64`, `Debug` and `Display` of `DateTime<Utc>`) are the fields of `Render`;
everything `wql` and the derives add around them is spelled out.
-/

namespace WooriDb.Wql

/-- The formatting routines of `core` and chrono that `to_hash` reaches. -/
structure Render where
  charDebug : Char → String
  strDebug : String → String
  f64Debug : F64 → String
  dateTimeDebug : DateTimeUtc → String
  dateTimeDisplay : DateTimeUtc → String

/-- The entries of a `debug_list` or `debug_map`, separated by `", "`. -/
def joinComma (items : List String) : String := ", ".intercalate items

namespace Types

mutual

/-- The derived `Debug` of `Types`, `{:?}`. -/
def debug (r : Render) : Types → String
  | .char c => "Char(" ++ r.charDebug c ++ ")"
  | .integer i => "Integer(" ++ toString i.val ++ ")"
  | .string s => "String(" ++ r.strDebug s ++ ")"
  | .uuid u => "Uuid(" ++ u.encodeLower ++ ")"
  | .float f => "Float(" ++ r.f64Debug f ++ ")"
  | .boolean b => "Boolean(" ++ toString b ++ ")"
  | .vector vs => "Vector([" ++ joinComma (vecItems r vs) ++ "])"
  | .map m => "Map(\x7b" ++ joinComma (mapItems r m.entries) ++ "\x7d)"
  | .hash h => "Hash(" ++ r.strDebug h ++ ")"
  | .precise p => "Precise(" ++ r.strDebug p ++ ")"
  | .dateTime d => "DateTime(" ++ r.dateTimeDebug d ++ ")"
  | .nil => "Nil"

/-- The entries `Debug` of a `Vec<Types>` lists. -/
def vecItems (r : Render) : List Types → List String
  | [] => []
  | v :: vs => v.debug r :: vecItems r vs

/-- The entries `Debug` of a `HashMap<String, Types>` lists, `key: value` in iteration
    order. -/
def mapItems (r : Render) : {keys : List String} → HashEntries String Types keys → List String
  | _, .nil => []
  | _, .cons k v rest _ => (r.strDebug k ++ ": " ++ v.debug r) :: mapItems r rest

end

/-- `format!("{:?}", (mantissa, exponent, sign))`. -/
def decodeDebug : Nat × Int × Int → String
  | (m, e, s) => "(" ++ toString m ++ ", " ++ toString e ++ ", " ++ toString s ++ ")"

/-- The `value` `to_hash` builds (`lib.rs:120-133`), or its `Err` on `Hash` and `Nil`. -/
def toHashValue (r : Render) : Types → Except String String
  | .char c => .ok (String.singleton c)
  | .integer i => .ok (toString i.val)
  | .string s => .ok s
  | .dateTime d => .ok (r.dateTimeDisplay d)
  | .uuid u => .ok u.encodeLower
  | .float f => .ok (decodeDebug f.integerDecode)
  | .boolean b => .ok (toString b)
  | .vector vs => .ok ("[" ++ joinComma (vecItems r vs) ++ "]")
  | .map m => .ok ("\x7b" ++ joinComma (mapItems r m.entries) ++ "\x7d")
  | .precise p => .ok p
  | .hash _ => .error "Hash cannot be hashed"
  | .nil => .error "Nil cannot be hashed"

/-- `Types::to_hash`: `bcrypt::hash(&value, cost.map_or(DEFAULT_COST, |c| c))`, its error
    given as `format!("{:?}", e)`. -/
def toHash (r : Render) (bcrypt : Bcrypt) (cost : Option Nat) (salt : Nat) (v : Types) :
    Except String Types :=
  match v.toHashValue r with
  | .error e => .error e
  | .ok value =>
    match bcrypt.hash value (cost.getD Bcrypt.defaultCost) salt with
    | .ok s => .ok (.hash s)
    | .error e => .error e

/-- Two equal maps that iterate their entries in different orders, and `0.0` and `-0.0`,
    are given different plaintexts. -/
theorem toHashValue_differs_on_equal (r : Render) :
    ((mapAB == mapBA) = true ∧ mapAB.toHashValue r ≠ mapBA.toHashValue r) ∧
      ((Types.float F64.posZero == Types.float F64.negZero) = true ∧
        (Types.float F64.posZero).toHashValue r ≠ (Types.float F64.negZero).toHashValue r) := by
  refine ⟨⟨by decide, fun h => ?_⟩, by decide, ?_⟩
  · simp only [mapAB, mapBA, toHashValue, mapItems, debug, Except.ok.injEq, joinComma,
      String.intercalate, String.intercalate.go] at h
    have one : toString (I64.ofInt 1).val = "1" := rfl
    have two : toString (I64.ofInt 2).val = "2" := rfl
    have := congrArg (fun s : String => s.data.reverse) h
    simp [List.reverse_append, one, two] at this
  · simp only [toHashValue, ne_eq, Except.ok.injEq]
    decide

end Types

end WooriDb.Wql
