import NestedCss.Decoding
import NestedCss.Proofs.IdentifierRunes
/-!
# Decoding undoes encoding

A text that was written in one of the marked encodings, with the mark in front of it, is decoded to
the same text in UTF-8, and UTF-8 without a mark stays as it is (`decodeSource_encode`).

* `ByteOrder.unit_bytes`: the bytes of a unit stand for the unit, in both orders;
* `Utf16.decode_encode`, `Utf32.decode_encode`, `Utf8.decode_encode`: each decoder undoes its
  encoder, since it takes the bytes of one character off the front whatever comes behind them
  (`Utf16.decode_units`, `Utf8.first?_encodeChar`);
* `MarkedEncoding.detect?_mark`: the mark tells the encoding. The mark of UTF-32 in little order is
  that of UTF-16 with two zero bytes behind it, so a text in UTF-16 must not start with U+0000
  (`Utf16.head?_of_zeros`);
* `leadingCharset?_eq_some`: a statement that is found is one that is there.
-/
namespace NestedCss

/-! ### Bytes of a number -/

namespace Encoding

/-- The lowest `width` bytes of a number, the most significant first. -/
def bigBytes : Nat → Nat → Text
  | 0, _ => []
  | width + 1, n => bigBytes width (n / 256) ++ [(n % 256).toUInt8]

/-- The lowest `width` bytes of a number in an order. -/
def ByteOrder.bytes (order : ByteOrder) (width n : Nat) : Text :=
  match order with
  | .big => bigBytes width n
  | .little => (bigBytes width n).reverse

/-- The bytes of a number that fits in them stand for the number. -/
theorem foldl_bigBytes {width n : Nat} (h : n < Nat.pow 256 width) :
    (bigBytes width n).foldl (fun n b => n * 256 + b.toNat) 0 = n := by
  induction width generalizing n with
  | zero =>
    have hn : n < 1 := h
    exact (Nat.lt_one_iff.mp hn).symm
  | succ width ih =>
    have hn : n < Nat.pow 256 width * 256 := h
    -- the last byte is the remainder, and the others are the bytes of the quotient
    have hquot : n / 256 < Nat.pow 256 width := Nat.div_lt_of_lt_mul (by omega)
    have hrem : (n % 256).toUInt8.toNat = n % 256 := by
      rw [Nat.toUInt8, UInt8.toNat_ofNat']
      omega
    rw [bigBytes, List.foldl_concat, ih hquot, hrem]
    omega

theorem ByteOrder.unit_bytes (order : ByteOrder) {width n : Nat} (h : n < Nat.pow 256 width) :
    order.unit (order.bytes width n) = n := by
  cases order with
  | big => exact foldl_bigBytes h
  | little =>
    rw [unit, bytes, List.reverse_reverse]
    exact foldl_bigBytes h

theorem toNat_bounds (c : Char) :
    c.toNat < 0xD800 ∨ 0xDFFF < c.toNat ∧ c.toNat < 0x110000 := c.valid

/-- Every character is the one with its code point. -/
theorem scalar_toNat (c : Char) : scalar c.toNat = c := by
  rw [scalar, if_pos (toNat_bounds c), Char.ofNat_toNat]

/-! ### UTF-32 -/

namespace Utf32

/-- The bytes of a text in UTF-32, without a mark. -/
def encode (order : ByteOrder) (s : List Char) : Text := s.flatMap fun c => order.bytes 4 c.toNat

theorem decode_encode (order : ByteOrder) (s : List Char) : decode order (encode order s) = s := by
  induction s with
  | nil => rfl
  | cons c s ih =>
    have hunit : order.unit (order.bytes 4 c.toNat) = c.toNat := by
      have hbounds := toNat_bounds c
      refine order.unit_bytes ?_
      show c.toNat < 0x100000000
      omega
    obtain ⟨w, x, y, z, hbytes⟩ : ∃ w x y z, order.bytes 4 c.toNat = [w, x, y, z] := by
      cases order <;> exact ⟨_, _, _, _, rfl⟩
    rw [hbytes] at hunit
    show decode order (order.bytes 4 c.toNat ++ encode order s) = c :: s
    rw [hbytes]
    show scalar (order.unit [w, x, y, z]) :: decode order (encode order s) = c :: s
    rw [hunit, scalar_toNat, ih]

end Utf32

/-! ### UTF-16 -/

namespace Utf16

/-- The units of a character: two surrogates for one beyond the first 0x10000. -/
def units (c : Char) : List Nat :=
  if c.toNat < 0x10000 then [c.toNat]
  else [0xD800 + (c.toNat - 0x10000) / 0x400, 0xDC00 + (c.toNat - 0x10000) % 0x400]

/-- The bytes of a text in UTF-16, without a mark. -/
def encode (order : ByteOrder) (s : List Char) : Text :=
  s.flatMap fun c => (units c).flatMap (order.bytes 2)

theorem bytes_two (order : ByteOrder) (n : Nat) : ∃ a b, order.bytes 2 n = [a, b] := by
  cases order <;> exact ⟨_, _, rfl⟩

/-- A unit that is no surrogate is read on its own, whatever comes behind it. -/
theorem decode_unit (order : ByteOrder) {n : Nat} (hn : n < 0x10000) (h : isSurrogate n = false)
    (r : Text) : decode order (order.bytes 2 n ++ r) = scalar n :: decode order r := by
  have hunit : order.unit (order.bytes 2 n) = n := order.unit_bytes hn
  obtain ⟨a, b, hbytes⟩ := bytes_two order n
  rw [hbytes] at hunit ⊢
  rcases r with _ | ⟨c, _ | ⟨d, r⟩⟩
  · simp [decode, hunit]
  · simp [decode, hunit]
  · simp [decode, hunit, h]

/-- A surrogate is read together with a second half behind it. -/
theorem decode_pair (order : ByteOrder) {n m : Nat} (hn : n < 0x10000) (hm : m < 0x10000)
    (h : isSurrogate n = true) (h' : isSecondHalf m = true) (r : Text) :
    decode order (order.bytes 2 n ++ (order.bytes 2 m ++ r)) = pair n m :: decode order r := by
  have hunit : order.unit (order.bytes 2 n) = n := order.unit_bytes hn
  have hunit' : order.unit (order.bytes 2 m) = m := order.unit_bytes hm
  obtain ⟨a, b, hbytes⟩ := bytes_two order n
  obtain ⟨c, d, hbytes'⟩ := bytes_two order m
  rw [hbytes] at hunit
  rw [hbytes'] at hunit'
  rw [hbytes, hbytes']
  simp [decode, hunit, hunit', h, h']

/-- The units of a character are read as this character, whatever comes behind them. -/
theorem decode_units (order : ByteOrder) (c : Char) (r : Text) :
    decode order ((units c).flatMap (order.bytes 2) ++ r) = c :: decode order r := by
  have hbounds := toNat_bounds c
  rw [units]
  split
  · rename_i hc
    have hsurrogate : isSurrogate c.toNat = false := by
      simp only [isSurrogate, Bool.and_eq_false_iff, decide_eq_false_iff_not]
      omega
    rw [List.flatMap_singleton, decode_unit order hc hsurrogate, scalar_toNat]
  · -- a character beyond the first 0x10000 has ten bits in each half
    rename_i hc
    have hfirst : isSurrogate (0xD800 + (c.toNat - 0x10000) / 0x400) = true := by
      simp only [isSurrogate, Bool.and_eq_true, decide_eq_true_iff]
      omega
    have hnot : isSecondHalf (0xD800 + (c.toNat - 0x10000) / 0x400) = false := by
      simp only [isSecondHalf, Bool.and_eq_false_iff, decide_eq_false_iff_not]
      omega
    have hsecond : isSecondHalf (0xDC00 + (c.toNat - 0x10000) % 0x400) = true := by
      simp only [isSecondHalf, Bool.and_eq_true, decide_eq_true_iff]
      omega
    have hvalue : (0xD800 + (c.toNat - 0x10000) / 0x400 - 0xD800) * 0x400
        + (0xDC00 + (c.toNat - 0x10000) % 0x400 - 0xDC00) + 0x10000 = c.toNat := by omega
    rw [List.flatMap_cons, List.flatMap_singleton, List.append_assoc,
      decode_pair order (by omega) (by omega) hfirst hsecond, pair, hnot, if_neg Bool.false_ne_true,
      hvalue, scalar_toNat]

theorem decode_encode (order : ByteOrder) (s : List Char) : decode order (encode order s) = s := by
  induction s with
  | nil => simp [encode, decode]
  | cons c s ih =>
    show decode order ((units c).flatMap (order.bytes 2) ++ encode order s) = c :: s
    rw [decode_units, ih]

/-- A text that starts with two zero bytes starts with the character U+0000. -/
theorem head?_of_zeros {order : ByteOrder} {s : List Char} (h : [0, 0] <+: encode order s) :
    s.head? = some (Char.ofNat 0) := by
  obtain ⟨r, hr⟩ := h
  have hzeros : order.bytes 2 0 = [0, 0] := by cases order <;> rfl
  have hread := decode_encode order s
  rw [← hr, ← hzeros, decode_unit order (by decide) rfl] at hread
  rw [← hread]
  rfl

end Utf16

end Encoding

/-! ### UTF-8 -/

namespace Utf8

theorem first?_one {a : UInt8} (ha : a.toNat < 0x80) (r : Text) :
    first? (a :: r) = some (.scalar (charOf a.toNat), 1) := by
  have hlt : a < 0x80 := UInt8.lt_iff_toNat_lt.mpr ha
  simp [first?, hlt]

theorem isTail_of_bounds {b : UInt8} (h : 0x80 ≤ b.toNat ∧ b.toNat ≤ 0xBF) : isTail b = true := by
  simpa [isTail, UInt8.le_iff_toNat_le] using h

/-- Behind four of the first bytes the second one has narrower bounds than any other byte. -/
theorem isSecond_of_bounds {a b : UInt8} (h : 0x80 ≤ b.toNat ∧ b.toNat ≤ 0xBF)
    (hE0 : a.toNat = 0xE0 → 0xA0 ≤ b.toNat) (hF0 : a.toNat = 0xF0 → 0x90 ≤ b.toNat)
    (hED : a.toNat = 0xED → b.toNat ≤ 0x9F) (hF4 : a.toNat = 0xF4 → b.toNat ≤ 0x8F) :
    isSecond a b = true := by
  simp only [isSecond, secondMin, secondMax, Bool.and_eq_true, decide_eq_true_iff, beq_iff_eq,
    UInt8.le_iff_toNat_le, ← UInt8.toNat_inj]
  constructor <;> split_ifs <;> simp_all

theorem first?_two {a b : UInt8} (ha : 0xC2 ≤ a.toNat ∧ a.toNat ≤ 0xDF) (hb : isTail b = true)
    (r : Text) : first? (a :: b :: r) =
      some (.scalar (charOf ((a.toNat - 0xC0) * 0x40 + (b.toNat - 0x80))), 2) := by
  rw [first?]
  simp only [Bool.and_eq_true, decide_eq_true_iff, UInt8.lt_iff_toNat_lt, UInt8.le_iff_toNat_le,
    UInt8.reduceToNat]
  rw [if_neg (by omega), if_pos ha, if_pos hb]

theorem first?_three {a b c : UInt8} (ha : 0xE0 ≤ a.toNat ∧ a.toNat ≤ 0xEF)
    (hb : isSecond a b = true) (hc : isTail c = true) (r : Text) : first? (a :: b :: c :: r) =
      some (.scalar (charOf
        ((a.toNat - 0xE0) * 0x1000 + (b.toNat - 0x80) * 0x40 + (c.toNat - 0x80))), 3) := by
  rw [first?]
  simp only [Bool.and_eq_true, decide_eq_true_iff, UInt8.lt_iff_toNat_lt, UInt8.le_iff_toNat_le,
    UInt8.reduceToNat]
  rw [if_neg (by omega), if_neg (by omega), if_pos ha, if_pos ⟨hb, hc⟩]

theorem first?_four {a b c d : UInt8} (ha : 0xF0 ≤ a.toNat ∧ a.toNat ≤ 0xF4)
    (hb : isSecond a b = true) (hc : isTail c = true) (hd : isTail d = true) (r : Text) :
    first? (a :: b :: c :: d :: r) =
      some (.scalar (charOf ((a.toNat - 0xF0) * 0x40000 + (b.toNat - 0x80) * 0x1000
        + (c.toNat - 0x80) * 0x40 + (d.toNat - 0x80))), 4) := by
  rw [first?]
  simp only [Bool.and_eq_true, decide_eq_true_iff, UInt8.lt_iff_toNat_lt, UInt8.le_iff_toNat_le,
    UInt8.reduceToNat]
  rw [if_neg (by omega), if_neg (by omega), if_neg (by omega), if_pos ha,
    if_pos ⟨⟨hb, hc⟩, hd⟩]

/-- The bytes of a character are read as this character, whatever comes behind them. -/
theorem first?_encodeChar (c : Char) (r : Text) :
    first? (encodeChar c ++ r) = some (.scalar c, (encodeChar c).length) := by
  have hbounds : c.val.toNat < 0xD800 ∨ 0xDFFF < c.val.toNat ∧ c.val.toNat < 0x110000 := c.valid
  have hchar : ∀ n, n = c.val.toNat → charOf n = c := by
    rintro n rfl
    exact Char.ofNat_toNat c
  rw [encodeChar, String.utf8EncodeChar]
  generalize c.val.toNat = v at hbounds hchar
  have hbyte : ∀ n < 256, (UInt8.ofNat n).toNat = n := by
    intro n hn
    rw [UInt8.toNat_ofNat']
    exact Nat.mod_eq_of_lt hn
  -- one case for each number of bytes; the bounds of `v` keep out overlong forms and surrogates
  split_ifs with h1 h2 h3
  · have ha := hbyte v (by omega)
    rw [List.singleton_append, first?_one (by omega), hchar _ ha]
    rfl
  · have ha := hbyte (v / 64 % 0x20 + 0xC0) (by omega)
    have hb := hbyte (v % 0x40 + 0x80) (by omega)
    rw [List.cons_append, List.singleton_append,
      first?_two (by omega) (isTail_of_bounds (by omega)), hchar _ (by omega)]
    rfl
  · have ha := hbyte (v / 4096 % 0x10 + 0xE0) (by omega)
    have hb := hbyte (v / 64 % 0x40 + 0x80) (by omega)
    have hc := hbyte (v % 0x40 + 0x80) (by omega)
    have hsecond : isSecond (UInt8.ofNat (v / 4096 % 0x10 + 0xE0))
        (UInt8.ofNat (v / 64 % 0x40 + 0x80)) = true := by
      apply isSecond_of_bounds <;> omega
    rw [List.cons_append, List.cons_append, List.singleton_append,
      first?_three (by omega) hsecond (isTail_of_bounds (by omega)), hchar _ (by omega)]
    rfl
  · have ha := hbyte (v / 262144 % 0x08 + 0xF0) (by omega)
    have hb := hbyte (v / 4096 % 0x40 + 0x80) (by omega)
    have hc := hbyte (v / 64 % 0x40 + 0x80) (by omega)
    have hd := hbyte (v % 0x40 + 0x80) (by omega)
    have hsecond : isSecond (UInt8.ofNat (v / 262144 % 0x08 + 0xF0))
        (UInt8.ofNat (v / 4096 % 0x40 + 0x80)) = true := by
      apply isSecond_of_bounds <;> omega
    rw [List.cons_append, List.cons_append, List.cons_append, List.singleton_append,
      first?_four (by omega) hsecond (isTail_of_bounds (by omega)) (isTail_of_bounds (by omega)),
      hchar _ (by omega)]
    rfl

/-- The first character of a text takes its own bytes off the front. -/
theorem first?_encode (c : Char) (s : List Char) : ∃ b bs, encode (c :: s) = b :: (bs ++ encode s) ∧
    first? (b :: (bs ++ encode s)) = some (.scalar c, bs.length + 1) := by
  obtain ⟨b, bs, hbytes⟩ : ∃ b bs, encodeChar c = b :: bs :=
    List.exists_cons_of_ne_nil String.utf8EncodeChar_ne_nil
  have hcons : encode (c :: s) = encodeChar c ++ encode s := List.flatMap_cons
  have hfirst := first?_encodeChar c (encode s)
  rw [hbytes, List.cons_append] at hcons hfirst
  exact ⟨b, bs, hcons, hfirst⟩

/-- UTF-8 text is read as its characters, without a stray byte. -/
theorem symbols_encode (s : List Char) : symbols (encode s) = s.map Symbol.scalar := by
  induction s with
  | nil => rfl
  | cons c s ih =>
    obtain ⟨b, bs, hcons, hfirst⟩ := first?_encode c s
    rw [hcons, symbols, symbolsFrom, hfirst]
    -- the bytes of the character that are still to be passed over
    show Symbol.scalar c :: symbolsFrom bs.length (bs ++ encode s) = _
    rw [symbolsFrom_eq_drop, List.drop_left, ih, List.map_cons]

theorem isValid_encode (s : List Char) : isValid (encode s) = true := by
  rw [isValid, symbols_encode, List.all_map, List.all_eq_true]
  exact fun _ _ => rfl

end Utf8

namespace Encoding.Utf8

/-- Bytes that belong to the character read last are passed over. -/
theorem decodeFrom_eq_drop (k : Nat) (t : Text) : decodeFrom k t = decode (t.drop k) := by
  induction t generalizing k with
  | nil => cases k <;> rfl
  | cons a t ih =>
    cases k with
    | zero => rfl
    | succ k => exact ih k

theorem decode_encode (s : List Char) : decode (NestedCss.Utf8.encode s) = s := by
  induction s with
  | nil => rfl
  | cons c s ih =>
    obtain ⟨b, bs, hcons, hfirst⟩ := NestedCss.Utf8.first?_encode c s
    rw [hcons, decode, decodeFrom, hfirst]
    show c :: decodeFrom bs.length (bs ++ NestedCss.Utf8.encode s) = _
    rw [decodeFrom_eq_drop, List.drop_left, ih]

end Encoding.Utf8

theorem Text.dropPrefix?_eq_some_iff {t p r : Text} : t.dropPrefix? p = some r ↔ t = p ++ r := by
  fun_induction Text.dropPrefix? t p with
  | case1 t => exact Option.some_inj
  | case2 d p => exact ⟨nofun, nofun⟩
  | case3 c t d p hcd ih =>
    rw [ih, eq_of_beq hcd, List.cons_append, List.cons.injEq, eq_self, true_and]
  | case4 c t d p hcd =>
    have hne : c ≠ d := by simpa using hcd
    simp [hne]

/-! ### Byte order marks -/

namespace MarkedEncoding

/-- The bytes of a text in an encoding, without a mark. -/
def encode : MarkedEncoding → List Char → Text
  | .utf8 => Utf8.encode
  | .utf16 order => Encoding.Utf16.encode order
  | .utf32 order => Encoding.Utf32.encode order

/-- The mark of UTF-16 in little order with U+0000 behind it is the mark of UTF-32. -/
def IsAmbiguous (e : MarkedEncoding) (s : List Char) : Prop :=
  e = .utf16 .little ∧ s.head? = some (Char.ofNat 0)

/-- The mark in front of a text tells its encoding. -/
theorem detect?_mark {e : MarkedEncoding} {s : List Char} (h : ¬ e.IsAmbiguous s) :
    detect? (e.mark ++ e.encode s) = some e := by
  match e with
  | .utf8 => rfl
  | .utf16 .big => rfl
  | .utf32 .big => rfl
  | .utf32 .little => rfl
  | .utf16 .little =>
    -- the mark of UTF-32 is tried before, and must not fit
    have hzeros : ([0, 0] : Text).isPrefixOf (Encoding.Utf16.encode .little s) = false := by
      rw [Bool.eq_false_iff, Ne, List.isPrefixOf_iff_prefix]
      exact fun hprefix => h ⟨rfl, Encoding.Utf16.head?_of_zeros hprefix⟩
    simp [detect?, all, mark, encode, Text.startsWith, hzeros]

/-- The decoder of each encoding takes the mark away and reads the text behind it. -/
theorem decode_mark (e : MarkedEncoding) (s : List Char) :
    e.decode (e.mark ++ e.encode s) = .ok s := by
  match e with
  | .utf8 =>
    have hmark : (mark .utf8 ++ Utf8.encode s).dropPrefix? (mark .utf8) = some (Utf8.encode s) :=
      Text.dropPrefix?_eq_some_iff.mpr rfl
    rw [decode, encode, hmark, Option.getD_some, Encoding.Utf8.decode_encode]
  | .utf16 .big => exact congrArg Except.ok (Encoding.Utf16.decode_encode .big s)
  | .utf16 .little => exact congrArg Except.ok (Encoding.Utf16.decode_encode .little s)
  | .utf32 .big => exact congrArg Except.ok (Encoding.Utf32.decode_encode .big s)
  | .utf32 .little => exact congrArg Except.ok (Encoding.Utf32.decode_encode .little s)

end MarkedEncoding

/-! ### Sources -/

variable {foreign : Encoding.DoubleByte.Reader}

/-- The mark decides, and nothing behind it. -/
theorem decodeSource_mark {e : MarkedEncoding} {s : List Char} (h : ¬ e.IsAmbiguous s) :
    decodeSource foreign (e.mark ++ e.encode s) = .ok (Utf8.encode s) := by
  rw [decodeSource, decodeSourceWith, MarkedEncoding.detect?_mark h]
  show (e.decode (e.mark ++ e.encode s)).map Utf8.encode = .ok (Utf8.encode s)
  rw [MarkedEncoding.decode_mark]
  rfl

/-- The statement that is found stands at the very start, and its label goes to the next quote. -/
theorem leadingCharset?_eq_some {t label : Text} {n : Nat}
    (h : leadingCharset? t = some (label, n)) : Byte.doubleQuote ∉ label ∧
      ∃ rest, t = charsetStart ++ label ++ Byte.doubleQuote :: Byte.semicolon :: rest := by
  rw [leadingCharset?, Option.bind_eq_bind, Option.bind_eq_some_iff] at h
  obtain ⟨r, hr, h⟩ := h
  rw [Text.dropPrefix?_eq_some_iff] at hr
  dsimp only at h
  split at h
  · rename_i rest hdrop
    obtain ⟨rfl, -⟩ := Prod.ext_iff.mp (Option.some.inj h)
    have htake : r.take (r.takeWhile (· != Byte.doubleQuote)).length
        = r.takeWhile (· != Byte.doubleQuote) :=
      (List.prefix_iff_eq_take.mp (List.takeWhile_prefix _)).symm
    refine ⟨fun hquote => ?_, rest, ?_⟩
    · have hne := List.mem_takeWhile_imp hquote
      simp at hne
    · conv_lhs => rw [hr, ← List.take_append_drop _ r, hdrop, htake]
      rw [List.append_assoc]
      rfl
  · cases h

/-- A statement at the very start is found, and its label is what stands between the quotes. -/
theorem leadingCharset?_of_eq {t label rest : Text} (hquote : Byte.doubleQuote ∉ label)
    (h : t = charsetStart ++ label ++ Byte.doubleQuote :: Byte.semicolon :: rest) :
    (leadingCharset? t).map Prod.fst = some label := by
  rw [List.append_assoc] at h
  have hall : ∀ c ∈ label, (c != Byte.doubleQuote) = true := by
    intro c hc
    rw [bne_iff_ne]
    rintro rfl
    exact hquote hc
  have htake : (label ++ Byte.doubleQuote :: Byte.semicolon :: rest).takeWhile
      (· != Byte.doubleQuote) = label := by
    rw [List.takeWhile_append_of_pos hall, List.takeWhile_cons_of_neg (by simp), List.append_nil]
  rw [leadingCharset?, Text.dropPrefix?_eq_some_iff.mpr h]
  simp only [Option.bind_eq_bind, Option.bind_some, htake, List.drop_left]
  rfl

/-- A statement at the very start names UTF-8, if there is one. -/
def NamesOnlyUtf8 (t : Text) : Prop :=
  ∀ label rest, Byte.doubleQuote ∉ label →
    t = charsetStart ++ label ++ Byte.doubleQuote :: Byte.semicolon :: rest →
      Encoding.Charset.ofLabel? label = some .utf8

/-- Without a mark, and without a statement that names another encoding, the bytes stay as they are.
-/
theorem decodeSource_plain {s : List Char}
    (hmark : ∀ e : MarkedEncoding, ¬ e.mark <+: Utf8.encode s)
    (hcharset : NamesOnlyUtf8 (Utf8.encode s)) :
    decodeSource foreign (Utf8.encode s) = .ok (Utf8.encode s) := by
  have hdetect : MarkedEncoding.detect? (Utf8.encode s) = none := by
    rw [MarkedEncoding.detect?, List.find?_eq_none]
    intro e _
    rw [Text.startsWith, List.isPrefixOf_iff_prefix]
    exact hmark e
  have hvalid := Utf8.isValid_encode s
  unfold decodeSource decodeSourceWith
  rw [hdetect]
  cases hleading : leadingCharset? (Utf8.encode s) with
  | none => simp only [hvalid, if_true]
  | some found =>
    obtain ⟨label, n⟩ := found
    obtain ⟨hquote, rest, hstart⟩ := leadingCharset?_eq_some hleading
    simp only [hcharset label rest hquote hstart, Encoding.Charset.isUtf8, hvalid, if_true]

/-- Decoding gives back every text that was written in a marked encoding, with one mark in front of
it, and leaves UTF-8 without a mark alone. -/
theorem decodeSource_encode (foreign : Encoding.DoubleByte.Reader) :
    (∀ (e : MarkedEncoding) (s : List Char), ¬ e.IsAmbiguous s →
      decodeSource foreign (e.mark ++ e.encode s) = .ok (Utf8.encode s)) ∧
    ∀ s : List Char, (∀ e : MarkedEncoding, ¬ e.mark <+: Utf8.encode s) →
      NamesOnlyUtf8 (Utf8.encode s) →
        decodeSource foreign (Utf8.encode s) = .ok (Utf8.encode s) :=
  ⟨fun _ _ => decodeSource_mark, fun _ => decodeSource_plain⟩

theorem decodeSource_encode_marked :
    let foreign := Encoding.DoubleByte.readShared
    let s := [Char.ofNat 0xFEFF, 'a', Char.ofNat 0x1F600]
    let t := "@charset \" UTF8\";é".toList
    (¬ (MarkedEncoding.utf16 .little).IsAmbiguous s ∧
      decodeSource foreign [0xFF, 0xFE, 0xFF, 0xFE, 0x61, 0x00, 0x3D, 0xD8, 0x00, 0xDE]
        = .ok [0xEF, 0xBB, 0xBF, 0x61, 0xF0, 0x9F, 0x98, 0x80]) ∧
    (∀ e : MarkedEncoding, ¬ e.mark <+: Utf8.encode t) ∧ NamesOnlyUtf8 (Utf8.encode t) ∧
      decodeSource foreign (Utf8.encode t) = .ok (Utf8.encode t) := by
  intro foreign s t
  have hs : ¬ (MarkedEncoding.utf16 .little).IsAmbiguous s := by
    rintro ⟨-, hhead⟩
    exact absurd hhead (by decide)
  have hmark : ∀ e : MarkedEncoding, ¬ e.mark <+: Utf8.encode t := by
    rintro (_ | ⟨⟨⟩⟩ | ⟨⟨⟩⟩) <;> decide +kernel
  have hcharset : NamesOnlyUtf8 (Utf8.encode t) := by
    intro label rest hquote hstart
    have hlabel : (leadingCharset? (Utf8.encode t)).map Prod.fst
        = some (Text.ofString " UTF8") := by decide +kernel
    rw [leadingCharset?_of_eq hquote hstart] at hlabel
    rw [Option.some.inj hlabel]
    rfl
  exact ⟨⟨hs, (decodeSource_encode foreign).1 (.utf16 .little) s hs⟩, hmark, hcharset,
    (decodeSource_encode foreign).2 t hmark hcharset⟩

-- the mark of UTF-16 with U+0000 behind it is taken for the mark of UTF-32
example : MarkedEncoding.detect? (MarkedEncoding.mark (.utf16 .little)
    ++ MarkedEncoding.encode (.utf16 .little) [Char.ofNat 0, 'a']) = some (.utf32 .little) := by
  decide +kernel

end NestedCss
