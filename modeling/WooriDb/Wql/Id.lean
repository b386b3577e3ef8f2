import WooriDb.Uuid
import WooriDb.Collections

/-!
# `wql::ID` and its decoders

`ID` (`wql/src/lib.rs:206-211`) is read from text in two places: `ID::from_str`
(`lib.rs:301-315`) inside WQL statements, and the serde visitor `IDVisitor`
(`lib.rs:236-276`) inside RON or JSON bodies. The visitor has no `usize` branch for text, so
the two agree except on the text of a number, which the first reads as `ID::Number` and the
second as `ID::String` (`visitString_agrees_fromStr`). The serializer (`lib.rs:213-230`) is
untagged: `ID::String` of a uuid's text is written exactly as `ID::Uuid` of that uuid, and
reads back as the uuid. The visitor implements `visit_string` and `visit_u64` (with the
narrower unsigned visits serde forwards to it) and leaves `visit_str`, `visit_borrowed_str`
and the byte visits to serde's defaults, which reject the value although `expecting` names a
string. The value `serialize` emits reads back as its id exactly through the implemented entry
points, away from the uuid texts (`visit_serialize_iff`): a string handed over by `visit_str`
is rejected, and so is a uuid serialized in the compact mode, as bytes.
-/

namespace WooriDb.Wql

/-- `wql::ID`; `usize` is 64 bits wide. -/
inductive ID where
  | uuid (u : Uuid)
  | number (n : UInt64)
  | string (s : String)
  deriving DecidableEq

namespace ID

/-- The derived `Ord` of `ID`: by variant in declaration order, then by content. -/
def cmp : ID → ID → Ordering
  | .uuid a, .uuid b => compare a b
  | .uuid _, _ => .lt
  | .number _, .uuid _ => .gt
  | .number a, .number b => compare a.toNat b.toNat
  | .number _, .string _ => .lt
  | .string a, .string b => compare a b
  | .string _, _ => .gt

instance : Ord ID := ⟨cmp⟩

theorem compare_eq_iff (a b : ID) : compare a b = .eq ↔ a = b := by
  show a.cmp b = .eq ↔ a = b
  cases a <;> cases b <;>
    simp [cmp, Uuid.compare_eq_iff, compare_eq_iff_eq, Uuid.toNat_inj_iff]
  exact ⟨UInt64.toNat.inj, congrArg _⟩

theorem compare_swap (a b : ID) : (compare a b).swap = compare b a := by
  show (a.cmp b).swap = b.cmp a
  cases a <;> cases b
  all_goals first
    | rfl
    | exact compare_swap_linear _ _
    | exact Uuid.compareBytes_swap _ _

theorem compare_lt_trans {a b c : ID} (hab : compare a b = .lt) (hbc : compare b c = .lt) :
    compare a c = .lt := by
  cases a <;> cases b <;> (try cases hab) <;> cases c <;> try cases hbc
  all_goals first
    | rfl
    | exact Uuid.compareBytes_trans hab hbc
    | exact @compare_trans_linear Nat _ _ _ _ _ hab hbc
    | exact @compare_trans_linear String _ _ _ _ _ hab hbc

instance : TotalOrd ID := ⟨compare_eq_iff, compare_swap, compare_lt_trans⟩

/-- Whether the id is an `ID::Number`. -/
def isNumber : ID → Bool
  | .number _ => true
  | _ => false

end ID

/-- The digit loop of `from_str_radix(src, 10)` for `usize`: each byte a decimal digit, the
    running value kept below `2 ^ 64` by `checked_mul` and `checked_add`. -/
def parseDigits : List UInt8 → Nat → Option Nat
  | [], acc => some acc
  | c :: cs, acc =>
    if 48 ≤ c.toNat ∧ c.toNat ≤ 57 then
      if acc * 10 < 2 ^ 64 then
        if acc * 10 + (c.toNat - 48) < 2 ^ 64 then parseDigits cs (acc * 10 + (c.toNat - 48))
        else none
      else none
    else none

/-- `<usize as FromStr>::from_str` on the bytes of its input: an empty input is an error, a
    leading `+` (byte 43) is skipped, and what is left must be a non-empty run of digits. -/
def parseUsize (s : String) : Option UInt64 :=
  match s.toUTF8.data.toList with
  | [] => none
  | c :: cs =>
    let digits := if c = 43 then cs else c :: cs
    if digits = [] then none else (parseDigits digits 0).map UInt64.ofNat

/-- `<ID as FromStr>::from_str` (`lib.rs:304-314`); `parse_str(s).is_ok()` followed by
    `parse_str(s).unwrap()` is the `match` on one call. -/
def ID.fromStr (s : String) : Except String ID :=
  match Uuid.parseStr s with
  | some u => .ok (.uuid u)
  | none =>
    match parseUsize s with
    | some n => .ok (.number n)
    | none => if s.isEmpty then .error "Entity cannot be empty in EVICT" else .ok (.string s)

/-- The serde data-model values `<ID as Serialize>::serialize` emits. -/
inductive SerdeValue where
  | str (s : String)
  | bytes (b : List UInt8)
  | u64 (n : UInt64)
  deriving DecidableEq

/-- `<ID as Serialize>::serialize` (`lib.rs:214-229`); `humanReadable` is the serializer's
    `is_human_readable()`. -/
def ID.serialize (humanReadable : Bool) : ID → SerdeValue
  | .uuid id => if humanReadable then .str id.encodeLower else .bytes id.bytes
  | .number num => .u64 num
  | .string s => .str s

/-- The `Visitor` entry points through which `deserialize_any` hands a value over. -/
inductive Visit where
  | str (s : String)
  | borrowedStr (s : String)
  | string (s : String)
  | bytes (b : List UInt8)
  | borrowedBytes (b : List UInt8)
  | byteBuf (b : List UInt8)
  | u8 (n : UInt8)
  | u16 (n : UInt16)
  | u32 (n : UInt32)
  | u64 (n : UInt64)

namespace Visit

/-- The data-model value an entry point carries. -/
def value : Visit → SerdeValue
  | .str s | .borrowedStr s | .string s => .str s
  | .bytes b | .borrowedBytes b | .byteBuf b => .bytes b
  | .u8 n => .u64 n.toUInt64
  | .u16 n => .u64 n.toUInt64
  | .u32 n => .u64 n.toUInt64
  | .u64 n => .u64 n

/-- The entry points `IDVisitor` implements, directly (`visit_string`, `visit_u64`) or
    through serde's forwarding to `visit_u64`. -/
def implemented : Visit → Bool
  | .string _ | .u8 _ | .u16 _ | .u32 _ | .u64 _ => true
  | _ => false

end Visit

/-- serde's `de::Unexpected`, for the two kinds of value the visitor rejects. -/
inductive Unexpected where
  | str (s : String)
  | bytes (b : List UInt8)
  deriving DecidableEq

/-- The `de::Error`s `IDVisitor` can raise. -/
inductive DeError where
  | invalidType (unexpected : Unexpected) (expected : String)
  | custom (msg : String)
  deriving DecidableEq

namespace IDVisitor

/-- `IDVisitor::expecting`. -/
def expecting : String := "an id must be usize, uuid or String"

/-- `IDVisitor::visit_string` (`lib.rs:245-254`). -/
def visitString (v : String) : Except DeError ID :=
  match Uuid.parseStr v with
  | some u => .ok (.uuid u)
  | none => .ok (.string v)

/-- `IDVisitor::visit_u64` (`lib.rs:256-266`); its range test always holds. -/
def visitU64 (value : UInt64) : Except DeError ID :=
  if 0 ≤ value.toNat ∧ value.toNat ≤ 2 ^ 64 - 1 then .ok (.number value)
  else .error (.custom ("u64 out of range: " ++ toString value.toNat))

/-- `deserialize_any(IDVisitor)` at the entry point the format picks. The ones `IDVisitor`
    leaves to serde's defaults: `visit_str` (and `visit_borrowed_str`, which forwards to it)
    and `visit_bytes` (and `visit_borrowed_bytes`, `visit_byte_buf`) reject with
    `invalid_type`; `visit_u8`, `visit_u16`, `visit_u32` widen and call `visit_u64`. -/
def visit : Visit → Except DeError ID
  | .string v => visitString v
  | .str v | .borrowedStr v => .error (.invalidType (.str v) expecting)
  | .bytes v | .borrowedBytes v | .byteBuf v => .error (.invalidType (.bytes v) expecting)
  | .u8 v => visitU64 v.toUInt64
  | .u16 v => visitU64 v.toUInt64
  | .u32 v => visitU64 v.toUInt64
  | .u64 v => visitU64 v

theorem visitU64_eq (v : UInt64) : visitU64 v = .ok (.number v) := by
  simp only [visitU64]
  have := v.toNat_lt_size
  simp only [UInt64.size] at this
  rw [if_pos ⟨Nat.zero_le _, by omega⟩]

end IDVisitor

/-- The uuid whose text is all zeros, written as an `ID::String`. -/
def nilText : String := "00000000-0000-0000-0000-000000000000"

/-! ## The text form -/

/-- `ID::to_string` (`lib.rs:292-298`): a number in decimal, a string as itself, a uuid in
    its hyphenated lower-case form. -/
def ID.toString : ID → String
  | .number num => Nat.repr num.toNat
  | .string s => s
  | .uuid id => id.encodeLower

/-- The byte of a decimal digit. -/
def digitByte (d : Nat) : UInt8 := UInt8.ofNat (48 + d)

theorem toNat_digitByte {d : Nat} (h : d < 10) : (digitByte d).toNat = 48 + d :=
  UInt8.toNat_ofNat_of_lt (by simp only [UInt8.size]; omega)

theorem digitChar_eq : ∀ d, d < 10 → Nat.digitChar d = Char.ofNat (digitByte d).toNat := by
  decide

/-- One step of `Nat.toDigitsCore`: the last digit, then the rest of the number. -/
theorem toDigitsCore_succ (fuel n : Nat) (ds : List Char) :
    Nat.toDigitsCore 10 (fuel + 1) n ds =
      if n / 10 = 0 then Nat.digitChar (n % 10) :: ds
      else Nat.toDigitsCore 10 fuel (n / 10) (Nat.digitChar (n % 10) :: ds) := rfl

/-- `Nat.toDigitsCore` writes its digits in front of the ones it is given. -/
theorem toDigitsCore_append : ∀ (fuel n : Nat) (ds : List Char),
    Nat.toDigitsCore 10 fuel n ds = Nat.toDigitsCore 10 fuel n [] ++ ds
  | 0, _, _ => rfl
  | fuel + 1, n, ds => by
    by_cases last : n / 10 = 0
    · simp [toDigitsCore_succ, last]
    · rw [toDigitsCore_succ, toDigitsCore_succ, if_neg last, if_neg last,
        toDigitsCore_append fuel _ (_ :: ds), toDigitsCore_append fuel _ [_],
        List.append_assoc, List.singleton_append]

/-- The digits `Nat.repr` writes for `m`, as values: at least one, each below ten, reading
    back as `m`, and at most `e` of them when `m < 10 ^ e`. -/
theorem toDigitsCore_digits : ∀ (fuel m : Nat), m < fuel →
    ∃ ds : List Nat, ds ≠ [] ∧ (∀ d ∈ ds, d < 10) ∧
      Nat.toDigitsCore 10 fuel m [] = ds.map Nat.digitChar ∧
      ds.foldl (fun acc d => acc * 10 + d) 0 = m ∧
      ∀ e, 0 < e → m < 10 ^ e → ds.length ≤ e
  | 0, _, h => absurd h (Nat.not_lt_zero _)
  | fuel + 1, m, h => by
    by_cases last : m / 10 = 0
    · refine ⟨[m % 10], List.cons_ne_nil _ _, ?_, ?_, ?_, fun e pos _ => by simpa using pos⟩
      · simp only [List.mem_singleton, forall_eq]; omega
      · simp [toDigitsCore_succ, last]
      · simp only [List.foldl_cons, List.foldl_nil]; omega
    · obtain ⟨ds, -, small, chars, val, len⟩ := toDigitsCore_digits fuel (m / 10) (by omega)
      refine ⟨ds ++ [m % 10], by simp, ?_, ?_, ?_, fun e pos below => ?_⟩
      · simp only [List.forall_mem_append, List.mem_singleton, forall_eq]
        exact ⟨small, Nat.mod_lt _ (by decide)⟩
      · rw [toDigitsCore_succ, if_neg last, toDigitsCore_append, chars, List.map_append,
          List.map_singleton]
      · rw [List.foldl_append, val]
        simp only [List.foldl_cons, List.foldl_nil]
        omega
      · cases e with
        | zero => exact absurd pos (Nat.lt_irrefl 0)
        | succ e =>
          rw [Nat.pow_succ] at below
          have pos' : 0 < e := Nat.pos_of_ne_zero fun h => by subst h; omega
          have := len e pos' (by omega)
          simp only [List.length_append, List.length_singleton]
          omega

theorem le_foldl_digits : ∀ (ds : List Nat) (acc : Nat),
    acc ≤ ds.foldl (fun a d => a * 10 + d) acc
  | [], _ => Nat.le_refl _
  | d :: ds, acc => Nat.le_trans (by omega) (le_foldl_digits ds (acc * 10 + d))

/-- Decimal digits whose value fits in 64 bits parse to that value. -/
theorem parseDigits_digitBytes : ∀ (ds : List Nat) (acc : Nat), (∀ d ∈ ds, d < 10) →
    ds.foldl (fun a d => a * 10 + d) acc < 2 ^ 64 →
    parseDigits (ds.map digitByte) acc = some (ds.foldl (fun a d => a * 10 + d) acc)
  | [], _, _, _ => rfl
  | d :: ds, acc, small, fits => by
    have digit := small d (List.mem_cons_self _ _)
    have byte := toNat_digitByte digit
    have ge := le_foldl_digits ds (acc * 10 + d)
    simp only [List.foldl_cons] at fits ge
    simp only [List.map_cons, parseDigits, byte, Nat.add_sub_cancel_left, List.foldl_cons]
    rw [if_pos (by omega), if_pos (by omega), if_pos (by omega)]
    exact parseDigits_digitBytes ds _ (fun d h => small d (List.mem_cons_of_mem _ h)) fits

/-- The decimal text of a `usize` is never a uuid's, and parses back to the number. -/
theorem parse_repr (n : UInt64) :
    Uuid.parseStr (Nat.repr n.toNat) = none ∧ parseUsize (Nat.repr n.toNat) = some n := by
  have fits : n.toNat < 2 ^ 64 := n.toNat_lt_size
  obtain ⟨ds, nonempty, small, chars, val, len⟩ :=
    toDigitsCore_digits (n.toNat + 1) n.toNat (Nat.lt_succ_self _)
  have bytes : (Nat.repr n.toNat).toUTF8.data.toList = ds.map digitByte := by
    have text : Nat.repr n.toNat =
        String.mk ((ds.map digitByte).map fun b => Char.ofNat b.toNat) := by
      rw [List.map_map]
      show String.mk (Nat.toDigitsCore 10 (n.toNat + 1) n.toNat []) = _
      rw [chars]
      exact congrArg String.mk (List.map_congr_left fun d hd => digitChar_eq d (small d hd))
    rw [text, Uuid.toUTF8_ascii]
    intro b hb
    obtain ⟨d, hd, rfl⟩ := List.mem_map.1 hb
    rw [toNat_digitByte (small d hd)]
    have := small d hd
    omega
  have short : ds.length ≤ 20 := len 20 (by decide) (Nat.lt_trans fits (by decide))
  constructor
  · simp only [Uuid.parseStr, Uuid.parseBytes, bytes, List.length_map]
    rw [if_neg (by omega), if_neg (by omega)]
    rfl
  · obtain ⟨d, rest, rfl⟩ := List.exists_cons_of_ne_nil nonempty
    have notPlus : digitByte d ≠ 43 := fun h => by
      have := toNat_digitByte (small d (List.mem_cons_self _ _))
      rw [h, show (43 : UInt8).toNat = 43 from rfl] at this
      omega
    simp only [parseUsize, bytes, List.map_cons, notPlus, if_false, reduceCtorEq]
    rw [← List.map_cons, parseDigits_digitBytes _ 0 small (by rw [val]; exact fits), val]
    exact congrArg some (UInt64.toNat.inj (UInt64.toNat_ofNat_of_lt fits))

/-- `ID::from_str` reads back `ID::to_string` of every uuid and number, and of every string
    that is neither a uuid's text, nor a `usize`'s, nor empty. -/
theorem fromStr_toString (id : ID)
    (plain : ∀ s, id = .string s →
      Uuid.parseStr s = none ∧ parseUsize s = none ∧ s ≠ "") :
    ID.fromStr id.toString = .ok id := by
  cases id with
  | uuid u => simp [ID.toString, ID.fromStr, Uuid.parseStr_encodeLower]
  | number n => simp [ID.toString, ID.fromStr, (parse_repr n).1, (parse_repr n).2]
  | string s =>
    obtain ⟨notUuid, notNumber, nonempty⟩ := plain s rfl
    simp [ID.toString, ID.fromStr, notUuid, notNumber, String.isEmpty_iff, nonempty]

theorem fromStr_toString_entity :
    ID.fromStr (ID.string "e").toString = .ok (.string "e") :=
  fromStr_toString _ fun s h => by cases h; exact ⟨by decide, by decide, by decide⟩

/-! ## The text decoders -/

/-- The text `5` is `ID::Number(5)` in a statement, `ID::String("5")` in a body. -/
theorem fromStr_visitString_five :
    ID.fromStr "5" = .ok (.number 5) ∧ IDVisitor.visitString "5" = .ok (.string "5") := by
  decide

/-- Whenever `from_str` accepts a text, `visit_string` reads it as the same id, except a
    number, which it keeps as that text. -/
theorem visitString_agrees_fromStr (s : String) (id : ID) (h : ID.fromStr s = .ok id) :
    IDVisitor.visitString s = .ok (if id.isNumber then .string s else id) := by
  unfold ID.fromStr at h
  unfold IDVisitor.visitString
  cases hu : Uuid.parseStr s with
  | some u => simp only [hu, Except.ok.injEq] at h; subst h; rfl
  | none =>
    simp only [hu] at h ⊢
    cases hn : parseUsize s with
    | some n => simp only [hn, Except.ok.injEq] at h; subst h; rfl
    | none =>
      simp only [hn] at h
      split at h
      · cases h
      · simp only [Except.ok.injEq] at h; subst h; rfl

theorem visitString_agrees_fromStr_five :
    ID.fromStr "5" = .ok (.number 5) ∧
      IDVisitor.visitString "5" = .ok (if (ID.number 5).isNumber then .string "5" else .number 5) :=
  ⟨by decide, visitString_agrees_fromStr "5" (.number 5) (by decide)⟩

/-! ## The serde round trip -/

/-- The value `serialize` emits reads back as the id it came from exactly through the entry
    points `IDVisitor` implements, and there for every id but an `ID::String` whose text is a
    uuid's, which reads back as that uuid. A string handed over by `visit_str` or
    `visit_borrowed_str`, and a uuid serialized in the compact mode (bytes), are rejected. -/
theorem visit_serialize_iff (id : ID) (humanReadable : Bool) (e : Visit)
    (carries : e.value = id.serialize humanReadable) :
    IDVisitor.visit e = .ok id ↔
      e.implemented = true ∧ ∀ s, id = .string s → Uuid.parseStr s = none := by
  cases id with
  | uuid u =>
    cases humanReadable <;> cases e <;>
      simp [Visit.implemented, Visit.value, ID.serialize, IDVisitor.visit] at carries ⊢
    subst carries
    simp [IDVisitor.visitString, Uuid.parseStr_encodeLower]
  | number n =>
    cases e <;> simp [Visit.implemented, Visit.value, ID.serialize, IDVisitor.visit,
      IDVisitor.visitU64_eq] at carries ⊢ <;> exact carries
  | string s =>
    cases e <;> simp [Visit.implemented, Visit.value, ID.serialize, IDVisitor.visit] at carries ⊢
    subst carries
    unfold IDVisitor.visitString
    cases Uuid.parseStr _ <;> simp

/-- A body's `ID::String("e")` handed over by `visit_str`, a uuid serialized in the compact
    mode, and `ID::String` of the nil uuid's text do not read back as themselves. -/
theorem visit_serialize_iff_rejects :
    ((Visit.str "e").value = (ID.string "e").serialize true ∧
      IDVisitor.visit (.str "e") ≠ .ok (.string "e")) ∧
    ((Visit.bytes Uuid.nil.bytes).value = (ID.uuid Uuid.nil).serialize false ∧
      IDVisitor.visit (.bytes Uuid.nil.bytes) ≠ .ok (.uuid Uuid.nil)) ∧
    ((Visit.string nilText).value = (ID.string nilText).serialize true ∧
      IDVisitor.visit (.string nilText) ≠ .ok (.string nilText)) :=
  ⟨⟨rfl, fun h => absurd ((visit_serialize_iff (.string "e") true (.str "e") rfl).1 h).1
      (by decide)⟩,
    ⟨rfl, fun h => absurd ((visit_serialize_iff (.uuid Uuid.nil) false
      (.bytes Uuid.nil.bytes) rfl).1 h).1 (by decide)⟩,
    ⟨rfl, fun h => absurd (((visit_serialize_iff (.string nilText) true (.string nilText)
      rfl).1 h).2 nilText rfl) (by decide)⟩⟩

end WooriDb.Wql
