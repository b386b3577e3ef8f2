import WooriDb.Runtime

/-!
# `uuid::Uuid` (uuid 0.8)

`ID::Uuid` and `Types::Uuid` hold a `Uuid`. `wql/src/lib.rs` prints one with
`to_hyphenated().encode_lower` (`lib.rs:221`) or `Display` (`lib.rs:125,296`), compares
one (`lib.rs:170`) and reads one with `Uuid::parse_str` (`lib.rs:249,305`). The crate is
not part of the repository; its encoder and its parser are rendered here after uuid 0.8's
`adapter::encode` and `parser::parse_str`, on the bytes of the text, and
`parseStr_encodeLower` is the round trip the serde path of `ID` relies on.
-/

namespace WooriDb

/-- `uuid::Uuid`: its sixteen bytes (`Uuid::as_bytes`). -/
structure Uuid where
  bytes : List UInt8
  length_bytes : bytes.length = 16
  deriving DecidableEq

namespace Uuid

/-- `Uuid::nil`. -/
def nil : Uuid := ⟨List.replicate 16 0, rfl⟩

/-- The derived `Ord` of `[u8; 16]`: lexicographic on the bytes. -/
def compareBytes : List UInt8 → List UInt8 → Ordering
  | [], [] => .eq
  | [], _ :: _ => .lt
  | _ :: _, [] => .gt
  | a :: as, b :: bs => (compare a.toNat b.toNat).then (compareBytes as bs)

instance : Ord Uuid := ⟨fun u v => compareBytes u.bytes v.bytes⟩

theorem compare_def (u v : Uuid) : compare u v = compareBytes u.bytes v.bytes := rfl

theorem compareBytes_swap : ∀ as bs : List UInt8, (compareBytes as bs).swap = compareBytes bs as
  | [], [] | [], _ :: _ | _ :: _, [] => rfl
  | a :: as, b :: bs => by
    simp only [compareBytes, Ordering.swap_then, compare_swap_linear, compareBytes_swap as bs]

theorem toNat_inj_iff {a b : UInt8} : a.toNat = b.toNat ↔ a = b :=
  ⟨UInt8.toNat.inj, congrArg _⟩

theorem compareBytes_eq_iff : ∀ as bs : List UInt8, compareBytes as bs = .eq ↔ as = bs
  | [], [] => by simp [compareBytes]
  | [], _ :: _ | _ :: _, [] => by simp [compareBytes]
  | a :: as, b :: bs => by
    simp only [compareBytes, Ordering.then_eq_eq, compare_eq_iff_eq, compareBytes_eq_iff as bs,
      List.cons.injEq, toNat_inj_iff]

theorem compareBytes_lt_trans :
    ∀ as bs cs : List UInt8, compareBytes as bs = .lt → compareBytes bs cs = .lt →
      compareBytes as cs = .lt
  | [], _ :: _, _ :: _, _, _ => rfl
  | a :: as, b :: bs, c :: cs, h₁, h₂ => by
    simp only [compareBytes, Ordering.then_eq_lt, compare_lt_iff_lt, compare_eq_iff_eq]
      at h₁ h₂ ⊢
    rcases h₁ with h₁ | ⟨e₁, h₁⟩ <;> rcases h₂ with h₂ | ⟨e₂, h₂⟩
    · exact .inl (by omega)
    · exact .inl (by omega)
    · exact .inl (by omega)
    · exact .inr ⟨by omega, compareBytes_lt_trans as bs cs h₁ h₂⟩
  | [], [], _, h, _ | _, [], [], _, h | _ :: _, [], _, h, _ | _, _ :: _, [], _, h => by
    simp [compareBytes] at h

/-- The byte order is transitive at every outcome. -/
theorem compareBytes_trans {as bs cs : List UInt8} {o : Ordering}
    (h₁ : compareBytes as bs = o) (h₂ : compareBytes bs cs = o) : compareBytes as cs = o := by
  cases o with
  | lt => exact compareBytes_lt_trans as bs cs h₁ h₂
  | eq => rw [(compareBytes_eq_iff as bs).1 h₁]; exact h₂
  | gt =>
    have h₁' : compareBytes bs as = .lt := by rw [← compareBytes_swap, h₁]; rfl
    have h₂' : compareBytes cs bs = .lt := by rw [← compareBytes_swap, h₂]; rfl
    rw [← compareBytes_swap, compareBytes_lt_trans cs bs as h₂' h₁']; rfl

theorem compare_eq_iff (u v : Uuid) : compare u v = .eq ↔ u = v := by
  rw [compare_def, compareBytes_eq_iff]
  cases u; cases v; simp

/-- `LOWER[n]`: the byte of the hex digit `n` in `0-9a-f`. -/
def hexLower (n : Nat) : UInt8 := if n < 10 then UInt8.ofNat (48 + n) else UInt8.ofNat (87 + n)

/-- The two hex digits `encode` writes for one byte: `LOWER[b >> 4]`, `LOWER[b & 0b1111]`. -/
def byteHexLower (b : UInt8) : List UInt8 := [hexLower (b.toNat / 16), hexLower (b.toNat % 16)]

/-- The bytes `bytes[i..j]`. -/
def slice (bytes : List UInt8) (i j : Nat) : List UInt8 := (bytes.drop i).take (j - i)

/-- `Hyphenated::encode_lower`: the hex digits of the byte groups between
    `BYTE_POSITIONS = [0, 4, 6, 8, 10, 16]`, with a `-` (byte 45) after each of the first
    four groups. -/
def encodeLowerBytes (u : Uuid) : List UInt8 :=
  let group (i j : Nat) := (slice u.bytes i j).flatMap byteHexLower
  group 0 4 ++ 45 :: group 4 6 ++ 45 :: group 6 8 ++ 45 :: group 8 10 ++ 45 :: group 10 16

/-- The text `encode_lower` returns, also the `Display` and `Debug` of a `Uuid`. -/
def encodeLower (u : Uuid) : String :=
  String.mk ((encodeLowerBytes u).map fun b => Char.ofNat b.toNat)

/-- `ACC_GROUP_LENS`: how many hex digits are read when each group ends. -/
def accGroupLens : List Nat := [8, 12, 16, 20, 32]

/-- The bytes of `"urn:uuid:"`. -/
def urnPrefix : List UInt8 := [117, 114, 110, 58, 117, 117, 105, 100, 58]

/-- The variables of `parse_str`'s loop: the hex digits read, the groups closed, the byte
    being assembled, and the sixteen-byte buffer. -/
structure ParseState where
  digit : Nat
  group : Nat
  acc : Nat
  buffer : List UInt8
  length_buffer : buffer.length = 16

/-- The loop's state before the first byte. -/
def ParseState.init : ParseState := ⟨0, 0, 0, List.replicate 16 0, rfl⟩

/-- The value of a hex digit `0-9`, `a-f` or `A-F`. -/
def hexValue (c : UInt8) : Option Nat :=
  if 48 ≤ c.toNat ∧ c.toNat ≤ 57 then some (c.toNat - 48)
  else if 97 ≤ c.toNat ∧ c.toNat ≤ 102 then some (c.toNat - 87)
  else if 65 ≤ c.toNat ∧ c.toNat ≤ 70 then some (c.toNat - 55)
  else none

/-- One iteration of `parse_str`'s loop over `input.bytes()`; `none` is the `Err` it
    returns. A `-` leaves `digit` as it was (the loop decrements it before the common
    increment). `ACC_GROUP_LENS[group]` is read only while `group ≤ 4`: a fifth group needs
    a `-` at `digit = 32`, after which the first test fails. -/
def parseStep (st : ParseState) (chr : UInt8) : Option ParseState :=
  if 32 ≤ st.digit ∧ st.group ≠ 4 then none
  else if st.digit % 2 = 0 then
    match hexValue chr with
    | some v => some ⟨st.digit + 1, st.group, v, st.buffer, st.length_buffer⟩
    | none =>
      if chr = 45 then
        if accGroupLens.getD st.group 0 ≠ st.digit then none
        else some ⟨st.digit, st.group + 1, st.acc, st.buffer, st.length_buffer⟩
      else none
  else
    match hexValue chr with
    | some v =>
      let acc := st.acc * 16 + v
      some ⟨st.digit + 1, st.group, acc, st.buffer.set (st.digit / 2) (UInt8.ofNat acc),
        by rw [List.length_set]; exact st.length_buffer⟩
    | none => none

/-- The loop over the input bytes. -/
def parseLoop : List UInt8 → ParseState → Option ParseState
  | [], st => some st
  | c :: cs, st => (parseStep st c).bind (parseLoop cs)

/-- `Uuid::parse_str` on the bytes of its input: the length check (the urn form is cut to
    its last 36 bytes), the loop, and the check that the last group ends at 32 digits. -/
def parseBytes (input : List UInt8) : Option Uuid :=
  let len := input.length
  let body :=
    if len = 45 ∧ urnPrefix.isPrefixOf input = true then some (input.drop 9)
    else if len = 32 ∨ len = 36 then some input
    else none
  body.bind fun body =>
    (parseLoop body ParseState.init).bind fun st =>
      if accGroupLens.getD 4 0 ≠ st.digit then none else some ⟨st.buffer, st.length_buffer⟩

/-- `Uuid::parse_str`. -/
def parseStr (s : String) : Option Uuid := parseBytes s.toUTF8.data.toList

/-! ## The hyphenated form reads back -/

theorem hexLower_ascii : ∀ n, n < 16 → (hexLower n).toNat < 128 := by decide

theorem hexValue_hexLower : ∀ n, n < 16 → hexValue (hexLower n) = some n := by decide

/-- A byte below 128 is the UTF-8 encoding of the character it codes. -/
theorem utf8EncodeChar_ascii (b : UInt8) (h : b.toNat < 128) :
    String.utf8EncodeChar (Char.ofNat b.toNat) = [b] := by
  have hv : (Char.ofNat b.toNat).val.toNat = b.toNat := by
    rw [Char.ofNat, dif_pos (by unfold Nat.isValidChar; omega)]
    simp [Char.ofNatAux, UInt32.toNat]
  have hle : (Char.ofNat b.toNat).val ≤ 0x7f := by
    rw [UInt32.le_def, BitVec.le_def]; simp only [UInt32.toNat] at hv; rw [hv]; simp; omega
  simp only [String.utf8EncodeChar, hle, if_true, List.cons.injEq, and_true]
  apply UInt8.toNat.inj
  simp only [UInt32.toUInt8, hv]
  exact UInt8.toNat_ofNat_of_lt (by simp only [UInt8.size]; omega)

/-- A text made of ASCII bytes has those bytes as its UTF-8 encoding. -/
theorem toUTF8_ascii (l : List UInt8) (h : ∀ b ∈ l, b.toNat < 128) :
    (String.mk (l.map fun b => Char.ofNat b.toNat)).toUTF8.data.toList = l := by
  show (l.map fun b => Char.ofNat b.toNat).flatMap String.utf8EncodeChar = l
  induction l with
  | nil => rfl
  | cons b l ih =>
    simp only [List.map_cons, List.flatMap_cons, List.mem_cons, forall_eq_or_imp] at h ⊢
    rw [utf8EncodeChar_ascii b h.1, ih h.2]; rfl

theorem byteHexLower_ascii (b : UInt8) : ∀ c ∈ byteHexLower b, c.toNat < 128 := by
  have := b.toNat_lt_size
  simp only [UInt8.size] at this
  simp only [byteHexLower, List.mem_cons, List.mem_singleton, List.not_mem_nil, or_false]
  rintro c (rfl | rfl) <;> exact hexLower_ascii _ (by omega)

theorem encodeLowerBytes_ascii (u : Uuid) : ∀ c ∈ encodeLowerBytes u, c.toNat < 128 := by
  have group : ∀ i j, ∀ c ∈ (slice u.bytes i j).flatMap byteHexLower, c.toNat < 128 := by
    intro i j c hc
    obtain ⟨b, -, hb⟩ := List.mem_flatMap.1 hc
    exact byteHexLower_ascii b c hb
  simp only [encodeLowerBytes, List.forall_mem_append, List.forall_mem_cons]
  refine ⟨⟨⟨⟨group _ _, ?_, group _ _⟩, ?_, group _ _⟩, ?_, group _ _⟩, ?_, group _ _⟩
  all_goals decide

theorem length_encodeLowerBytes (u : Uuid) : (encodeLowerBytes u).length = 36 := by
  obtain ⟨bytes, length_bytes⟩ := u
  match bytes, length_bytes with
  | [_, _, _, _, _, _, _, _, _, _, _, _, _, _, _, _], _ => rfl

theorem ofNat_toNat_uint8 (b : UInt8) : UInt8.ofNat b.toNat = b :=
  UInt8.toNat.inj (UInt8.toNat_ofNat_of_lt b.toNat_lt_size)

/-- The loop's state once it has read the two hex digits of `b`. -/
def ParseState.put (st : ParseState) (b : UInt8) : ParseState :=
  ⟨st.digit + 2, st.group, b.toNat, st.buffer.set (st.digit / 2) b,
    by rw [List.length_set]; exact st.length_buffer⟩

/-- The loop's state once it has read the hex digits of `bs`. -/
def ParseState.putAll : ParseState → List UInt8 → ParseState
  | st, [] => st
  | st, b :: bs => (st.put b).putAll bs

@[simp] theorem ParseState.putAll_digit (st : ParseState) (bs : List UInt8) :
    (st.putAll bs).digit = st.digit + 2 * bs.length := by
  induction bs generalizing st with
  | nil => rfl
  | cons b bs ih => simp only [putAll, ih, put, List.length_cons]; omega

@[simp] theorem ParseState.putAll_group (st : ParseState) (bs : List UInt8) :
    (st.putAll bs).group = st.group := by
  induction bs generalizing st with
  | nil => rfl
  | cons b bs ih => simp only [putAll, ih, put]

/-- The first digit of a byte is held in `acc`. -/
theorem parseStep_even {st : ParseState} {chr : UInt8} {v : Nat} (even : st.digit % 2 = 0)
    (below : st.digit < 32) (hv : hexValue chr = some v) :
    parseStep st chr = some ⟨st.digit + 1, st.group, v, st.buffer, st.length_buffer⟩ := by
  simp only [parseStep, hv, if_pos even]; rw [if_neg (by omega)]

/-- The second digit completes the byte and stores it. -/
theorem parseStep_odd {st : ParseState} {chr : UInt8} {v : Nat} (odd : st.digit % 2 = 1)
    (below : st.digit < 32) (hv : hexValue chr = some v) :
    parseStep st chr = some ⟨st.digit + 1, st.group, st.acc * 16 + v,
      st.buffer.set (st.digit / 2) (UInt8.ofNat (st.acc * 16 + v)),
      by rw [List.length_set]; exact st.length_buffer⟩ := by
  simp only [parseStep, hv, if_neg (show ¬st.digit % 2 = 0 by omega)]; rw [if_neg (by omega)]

/-- The two hex digits of a byte, read from an even digit count below 32, land in the
    buffer slot `digit / 2`. -/
theorem parseLoop_byteHex (b : UInt8) (rest : List UInt8) (st : ParseState)
    (even : st.digit % 2 = 0) (below : st.digit < 32) :
    parseLoop (byteHexLower b ++ rest) st = parseLoop rest (st.put b) := by
  have := b.toNat_lt_size
  simp only [UInt8.size] at this
  simp only [byteHexLower, List.cons_append, List.nil_append, parseLoop]
  rw [parseStep_even even below (hexValue_hexLower _ (by omega)), Option.some_bind,
    parseStep_odd (by simp only; omega) (by simp only; omega) (hexValue_hexLower _ (by omega)),
    Option.some_bind]
  have acc : b.toNat / 16 * 16 + b.toNat % 16 = b.toNat := by omega
  have slot : (st.digit + 1) / 2 = st.digit / 2 := by omega
  simp only [acc, slot, ofNat_toNat_uint8, ParseState.put]
  rfl

theorem parseLoop_group (rest : List UInt8) : ∀ (bs : List UInt8) (st : ParseState),
    st.digit % 2 = 0 → st.digit + 2 * bs.length ≤ 32 →
      parseLoop (bs.flatMap byteHexLower ++ rest) st = parseLoop rest (st.putAll bs)
  | [], _, _, _ => rfl
  | b :: bs, st, even, room => by
    simp only [List.length_cons] at room
    rw [List.flatMap_cons, List.append_assoc, parseLoop_byteHex b _ st even (by omega)]
    exact parseLoop_group rest bs (st.put b) (by simp only [ParseState.put]; omega)
      (by simp only [ParseState.put]; omega)

/-- A `-` where a group of `ACC_GROUP_LENS` ends closes the group. -/
theorem parseLoop_hyphen (rest : List UInt8) (st : ParseState) (open_ : st.group < 4)
    (ends : st.digit = accGroupLens.getD st.group 0) :
    parseLoop (45 :: rest) st =
      parseLoop rest ⟨st.digit, st.group + 1, st.acc, st.buffer, st.length_buffer⟩ := by
  have bounds : st.digit % 2 = 0 ∧ st.digit < 32 := by
    have : st.group = 0 ∨ st.group = 1 ∨ st.group = 2 ∨ st.group = 3 := by omega
    rcases this with h | h | h | h <;> simp only [h, accGroupLens] at ends <;> simp [ends]
  have none45 : hexValue 45 = none := by decide
  simp only [parseLoop, parseStep, none45, ← ends, ne_eq, not_true_eq_false, if_false,
    if_true, bounds.1]
  rw [if_neg (by omega), Option.some_bind]

/-- uuid 0.8's parser reads back every uuid its hyphenated lower-case encoder writes. -/
theorem parseStr_encodeLower (u : Uuid) : parseStr (encodeLower u) = some u := by
  rw [parseStr, encodeLower, toUTF8_ascii _ (encodeLowerBytes_ascii u)]
  simp only [parseBytes, length_encodeLowerBytes]
  rw [if_neg (fun h => absurd h.1 (by decide)), if_pos (by decide), Option.some_bind]
  obtain ⟨bytes, length_bytes⟩ := u
  match bytes, length_bytes with
  | [b0, b1, b2, b3, b4, b5, b6, b7, b8, b9, b10, b11, b12, b13, b14, b15], _ =>
    show (parseLoop ([b0, b1, b2, b3].flatMap byteHexLower ++ 45 ::
      [b4, b5].flatMap byteHexLower ++ 45 :: [b6, b7].flatMap byteHexLower ++ 45 ::
      [b8, b9].flatMap byteHexLower ++ 45 ::
      [b10, b11, b12, b13, b14, b15].flatMap byteHexLower) ParseState.init).bind _ = _
    simp only [List.append_assoc, List.cons_append]
    rw [parseLoop_group _ [b0, b1, b2, b3], parseLoop_hyphen, parseLoop_group _ [b4, b5],
      parseLoop_hyphen, parseLoop_group _ [b6, b7], parseLoop_hyphen, parseLoop_group _ [b8, b9],
      parseLoop_hyphen, ← List.append_nil ([b10, b11, b12, b13, b14, b15].flatMap byteHexLower),
      parseLoop_group _ [b10, b11, b12, b13, b14, b15]]
    · simp [parseLoop, accGroupLens, ParseState.init, ParseState.putAll, ParseState.put]
    all_goals simp [ParseState.init, accGroupLens]

example : parseStr "5" = none := by decide
example : parseStr "00000000-0000-0000-0000-000000000000" = some nil := by decide

end Uuid

end WooriDb
