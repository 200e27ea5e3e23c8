import Mathlib.Data.List.DropRight
import Mathlib.Tactic.SplitIfs
import NestedCss.AtRule
import NestedCss.Proofs.Utf8
/-!
# Symbols and bytes of identifiers

Whether a symbol belongs to an identifier can be seen from any one of its bytes. A symbol of several
bytes always does, and so do its bytes, and a stray byte. So a run of identifier symbols is a run of
identifier bytes, behind a position (`flatMap_bytes_takeWhile_isIdent`) and before it
(`flatMap_bytes_rtakeWhile_isIdent`), and the symbol before or behind a position can be told from
the byte there (`isIdent_getLast?_symbols`, `isIdent_head?_symbols`).

All of it rests on reading symbols without losing a byte: the first symbol of a text has the bytes
that it was read from (`bytes_of_first?`).
-/
namespace NestedCss

/-- Whether a symbol belongs to an identifier. What cannot be read does. -/
def Symbol.isIdent : Symbol → Bool
  | .scalar c => c == '-' || c == '_' || c.isAlpha || c.isDigit || decide (0x80 ≤ c.toNat)
  | .stray _ => true

namespace Utf8

/-! ### Reading one symbol -/

theorem toNat_charOf {n : Nat} (h : n.isValidChar) : (charOf n).val.toNat = n := by
  rw [charOf, Char.ofNat, dif_pos h]
  rfl

theorem isTail_bounds {b : UInt8} (h : isTail b = true) : 0x80 ≤ b.toNat ∧ b.toNat ≤ 0xBF := by
  simpa [isTail, UInt8.le_iff_toNat_le] using h

theorem isSecond_bounds {a b : UInt8} (h : isSecond a b = true) :
    0x80 ≤ b.toNat ∧ b.toNat ≤ 0xBF ∧ (a.toNat = 0xE0 → 0xA0 ≤ b.toNat) ∧
      (a.toNat = 0xF0 → 0x90 ≤ b.toNat) ∧ (a.toNat = 0xED → b.toNat ≤ 0x9F) ∧
      (a.toNat = 0xF4 → b.toNat ≤ 0x8F) := by
  simp only [isSecond, secondMin, secondMax, Bool.and_eq_true, decide_eq_true_iff, beq_iff_eq,
    UInt8.le_iff_toNat_le, ← UInt8.toNat_inj] at h
  obtain ⟨hmin, hmax⟩ := h
  split_ifs at hmin hmax <;> simp_all <;> omega

/-- The bytes of a value are what it is put together from. -/
theorem encodeChar_two {a b : UInt8} (ha : 0xC2 ≤ a.toNat ∧ a.toNat ≤ 0xDF)
    (hb : isTail b = true) :
    encodeChar (charOf ((a.toNat - 0xC0) * 0x40 + (b.toNat - 0x80))) = [a, b] := by
  have hb := isTail_bounds hb
  have hval := toNat_charOf (n := (a.toNat - 0xC0) * 0x40 + (b.toNat - 0x80)) (.inl (by omega))
  rw [encodeChar, String.utf8EncodeChar, hval, if_neg (by omega), if_pos (by omega)]
  simp only [List.cons.injEq, ← UInt8.toNat_inj, UInt8.toNat_ofNat', and_true]
  omega

theorem encodeChar_three {a b c : UInt8} (ha : 0xE0 ≤ a.toNat ∧ a.toNat ≤ 0xEF)
    (hb : isSecond a b = true) (hc : isTail c = true) :
    encodeChar (charOf ((a.toNat - 0xE0) * 0x1000 + (b.toNat - 0x80) * 0x40 + (c.toNat - 0x80)))
      = [a, b, c] := by
  obtain ⟨hmin, hmax, hE0, -, hED, -⟩ := isSecond_bounds hb
  have hc := isTail_bounds hc
  have hval := toNat_charOf
    (n := (a.toNat - 0xE0) * 0x1000 + (b.toNat - 0x80) * 0x40 + (c.toNat - 0x80))
    (by unfold Nat.isValidChar; omega)
  rw [encodeChar, String.utf8EncodeChar, hval, if_neg (by omega), if_neg (by omega),
    if_pos (by omega)]
  simp only [List.cons.injEq, ← UInt8.toNat_inj, UInt8.toNat_ofNat', and_true]
  omega

theorem encodeChar_four {a b c d : UInt8} (ha : 0xF0 ≤ a.toNat ∧ a.toNat ≤ 0xF4)
    (hb : isSecond a b = true) (hc : isTail c = true) (hd : isTail d = true) :
    encodeChar (charOf ((a.toNat - 0xF0) * 0x40000 + (b.toNat - 0x80) * 0x1000
      + (c.toNat - 0x80) * 0x40 + (d.toNat - 0x80))) = [a, b, c, d] := by
  obtain ⟨hmin, hmax, -, hF0, -, hF4⟩ := isSecond_bounds hb
  have hc := isTail_bounds hc
  have hd := isTail_bounds hd
  have hval := toNat_charOf (n := (a.toNat - 0xF0) * 0x40000 + (b.toNat - 0x80) * 0x1000
    + (c.toNat - 0x80) * 0x40 + (d.toNat - 0x80)) (by unfold Nat.isValidChar; omega)
  rw [encodeChar, String.utf8EncodeChar, hval, if_neg (by omega), if_neg (by omega),
    if_neg (by omega)]
  simp only [List.cons.injEq, ← UInt8.toNat_inj, UInt8.toNat_ofNat', and_true]
  omega

theorem encodeChar_ascii {a : UInt8} (ha : a.toNat < 0x80) : encodeChar (charOf a.toNat) = [a] := by
  have hval := toNat_charOf (n := a.toNat) (.inl (by omega))
  rw [encodeChar, String.utf8EncodeChar, hval, if_pos (by omega), UInt8.ofNat_toNat]

theorem isIdent_of_not_ascii {b : UInt8} (h : ¬ b < 0x80) : Byte.isIdent b = true := by
  simp [Byte.isIdent, Byte.isAscii, h]

theorem not_ascii_of_mem_encodeChar {c : Char} (hc : ¬ c.val.toNat ≤ 0x7F) {b : UInt8}
    (h : b ∈ encodeChar c) : ¬ b < 0x80 := by
  rw [encodeChar, String.utf8EncodeChar, if_neg hc] at h
  rw [UInt8.lt_iff_toNat_lt]
  show ¬ b.toNat < 0x80
  split_ifs at h
  all_goals
    simp only [List.mem_cons, List.not_mem_nil, or_false, ← UInt8.toNat_inj,
      UInt8.toNat_ofNat'] at h
    omega

/-- Each byte of a value tells whether it belongs to an identifier. -/
theorem isIdent_of_mem_encodeChar {c : Char} {b : UInt8} (h : b ∈ encodeChar c) :
    Byte.isIdent b = Symbol.isIdent (.scalar c) := by
  by_cases hc : c.val.toNat ≤ 0x7F
  · have hb : b.toNat = c.toNat := by
      rw [encodeChar, String.utf8EncodeChar, if_pos hc, List.mem_singleton] at h
      rw [h, UInt8.toNat_ofNat']
      exact Nat.mod_eq_of_lt (Nat.lt_of_le_of_lt hc (by decide))
    have hletter : c.isAlpha = (decide ('A'.val ≤ c.val ∧ c.val ≤ 'Z'.val)
        || (decide ('a'.val ≤ c.val) && decide (c.val ≤ 'z'.val))) := rfl
    have hdigit : c.isDigit = (decide ('0'.val ≤ c.val) && decide (c.val ≤ '9'.val)) := rfl
    -- both sides are the same comparisons of one number, with the letters in another order
    rw [Bool.eq_iff_iff]
    simp only [Byte.isIdent, Symbol.isIdent, Byte.hyphen, Byte.underscore, Byte.isLetter,
      Byte.isLower, Byte.isUpper, Byte.isDigit, Byte.isAscii, hletter, hdigit, Bool.or_eq_true,
      Bool.and_eq_true, Bool.not_eq_true', decide_eq_true_iff, decide_eq_false_iff_not, beq_iff_eq,
      ← UInt8.toNat_inj, UInt8.le_iff_toNat_le, UInt8.lt_iff_toNat_lt, UInt32.le_iff_toNat_le,
      Char.ext_iff, ← UInt32.toNat_inj, UInt8.reduceToNat, Char.reduceVal, UInt32.reduceToNat, hb]
    have hval : c.val.toNat = c.toNat := rfl
    omega
  · have hlarge : 0x80 ≤ c.toNat := Nat.not_le.mp hc
    rw [isIdent_of_not_ascii (not_ascii_of_mem_encodeChar hc h)]
    simp [Symbol.isIdent, hlarge]

/-- What is known of a symbol that has been read: it has bytes, and each of them tells whether it
belongs to an identifier. -/
structure IsRead (s : Symbol) : Prop where
  ne_nil : s.bytes ≠ []
  isIdent : ∀ b ∈ s.bytes, Byte.isIdent b = s.isIdent

theorem isRead_scalar (c : Char) : IsRead (.scalar c) :=
  ⟨String.utf8EncodeChar_ne_nil, fun _ => isIdent_of_mem_encodeChar⟩

theorem isRead_stray {a : UInt8} (ha : ¬ a < 0x80) : IsRead (.stray a) := by
  refine ⟨List.cons_ne_nil _ _, fun b hb => ?_⟩
  rw [List.mem_singleton.mp hb]
  exact isIdent_of_not_ascii ha

/-- The first symbol has the bytes that it was read from. -/
theorem bytes_of_first? {t : Text} {s : Symbol} {w : Nat} (h : first? t = some (s, w)) :
    s.bytes = t.take w ∧ IsRead s := by
  revert h
  fun_cases first? t with
  | case1 => exact nofun
  | case2 a r ha =>
    rintro ⟨⟩
    rw [UInt8.lt_iff_toNat_lt] at ha
    exact ⟨encodeChar_ascii ha, isRead_scalar _⟩
  | case3 a _ ha b r hb =>
    rintro ⟨⟩
    simp only [Bool.and_eq_true, decide_eq_true_iff, UInt8.le_iff_toNat_le] at ha
    exact ⟨encodeChar_two ha hb, isRead_scalar _⟩
  | case6 a _ _ ha b c r h =>
    rintro ⟨⟩
    simp only [Bool.and_eq_true, decide_eq_true_iff, UInt8.le_iff_toNat_le] at ha h
    exact ⟨encodeChar_three ha h.1 h.2, isRead_scalar _⟩
  | case9 a _ _ _ ha b c d r h =>
    rintro ⟨⟩
    simp only [Bool.and_eq_true, decide_eq_true_iff, UInt8.le_iff_toNat_le] at ha h
    exact ⟨encodeChar_four ha h.1.1 h.1.2 h.2, isRead_scalar _⟩
  | _ =>
    rintro ⟨⟩
    exact ⟨rfl, isRead_stray ‹_›⟩

/-! ### The symbols of a text -/

theorem symbolsFrom_eq_drop (k : Nat) (t : Text) : symbolsFrom k t = symbols (t.drop k) := by
  induction t generalizing k with
  | nil => cases k <;> rfl
  | cons a t ih =>
    cases k with
    | zero => rfl
    | succ k => exact ih k

/-- Induction over the symbols of a text, together with the text. -/
theorem symbols_induct {motive : Text → List Symbol → Prop} (nil : motive [] [])
    (cons : ∀ s t, IsRead s → motive t (symbols t) → motive (s.bytes ++ t) (s :: symbols t))
    (t : Text) : motive t (symbols t) := by
  induction h : t.length using Nat.strongRecOn generalizing t with
  | ind n ih =>
    cases t with
    | nil => exact nil
    | cons a t =>
      obtain ⟨s, w, hfirst, -⟩ := exists_first? a t
      obtain ⟨hbytes, hread⟩ := bytes_of_first? hfirst
      have hw : w ≠ 0 := by
        rintro rfl
        exact hread.ne_nil hbytes
      obtain ⟨w, rfl⟩ := Nat.exists_eq_succ_of_ne_zero hw
      have hsymbols : symbols (a :: t) = s :: symbols (t.drop w) := by
        rw [symbols, symbolsFrom, hfirst]
        exact congrArg _ (symbolsFrom_eq_drop w t)
      have htext : a :: t = s.bytes ++ t.drop w := by
        rw [hbytes]
        exact (List.take_append_drop (w + 1) (a :: t)).symm
      rw [hsymbols, htext]
      refine cons s _ hread (ih _ ?_ _ rfl)
      rw [← h, List.length_drop, List.length_cons]
      exact Nat.lt_succ_of_le (Nat.sub_le _ _)

/-- A run of identifier symbols is a run of identifier bytes. -/
theorem flatMap_bytes_takeWhile_isIdent (t : Text) :
    ((symbols t).takeWhile Symbol.isIdent).flatMap Symbol.bytes = t.takeWhile Byte.isIdent := by
  refine symbols_induct
    (motive := fun t ss => (ss.takeWhile Symbol.isIdent).flatMap Symbol.bytes
      = t.takeWhile Byte.isIdent) rfl (fun s t hs ih => ?_) t
  cases h : s.isIdent with
  | true =>
    have hall : ∀ b ∈ s.bytes, Byte.isIdent b = true := fun b hb => (hs.isIdent b hb).trans h
    rw [List.takeWhile_cons_of_pos h, List.flatMap_cons, ih, List.takeWhile_append_of_pos hall]
  | false =>
    obtain ⟨b, r, hb⟩ := List.exists_cons_of_ne_nil hs.ne_nil
    have hnot : Byte.isIdent b = false :=
      (hs.isIdent b (hb ▸ List.mem_cons_self ..)).trans h
    rw [List.takeWhile_cons_of_neg (by simp [h]), hb, List.cons_append,
      List.takeWhile_cons_of_neg (by simp [hnot])]
    rfl

/-- No byte of a text is lost, and each symbol is one that has been read. -/
theorem isRead_symbols (t : Text) :
    (∀ s ∈ symbols t, IsRead s) ∧ (symbols t).flatMap Symbol.bytes = t := by
  refine symbols_induct
    (motive := fun t ss => (∀ s ∈ ss, IsRead s) ∧ ss.flatMap Symbol.bytes = t) ⟨nofun, rfl⟩ ?_ t
  rintro s t hs ⟨hread, hbytes⟩
  exact ⟨List.forall_mem_cons.mpr ⟨hs, hread⟩, congrArg (s.bytes ++ ·) hbytes⟩

theorem rtakeWhile_isIdent_append {a b : Text} (h : ∀ c ∈ b, Byte.isIdent c = true) :
    (a ++ b).rtakeWhile Byte.isIdent = a.rtakeWhile Byte.isIdent ++ b := by
  have hrev : ∀ c ∈ b.reverse, Byte.isIdent c = true := fun c hc => h c (List.mem_reverse.mp hc)
  rw [List.rtakeWhile, List.reverse_append, List.takeWhile_append_of_pos hrev, List.reverse_append,
    List.reverse_reverse, List.rtakeWhile]

theorem flatMap_bytes_rtakeWhile_isIdent (t : Text) :
    ((symbols t).rtakeWhile Symbol.isIdent).flatMap Symbol.bytes = t.rtakeWhile Byte.isIdent := by
  -- the run is at the end, so the symbols are taken away from there
  suffices h : ∀ ss : List Symbol, (∀ s ∈ ss, IsRead s) →
      (ss.rtakeWhile Symbol.isIdent).flatMap Symbol.bytes
        = (ss.flatMap Symbol.bytes).rtakeWhile Byte.isIdent by
    obtain ⟨hread, hbytes⟩ := isRead_symbols t
    rw [h _ hread, hbytes]
  intro ss
  induction ss using List.reverseRecOn with
  | nil => exact fun _ => rfl
  | append_singleton ss s ih =>
    intro hread
    have hs : IsRead s := hread s (List.mem_append_right _ (List.mem_singleton_self s))
    have hbytes : (ss ++ [s]).flatMap Symbol.bytes = ss.flatMap Symbol.bytes ++ s.bytes := by
      rw [List.flatMap_append, List.flatMap_singleton]
    rw [hbytes]
    cases h : s.isIdent with
    | true =>
      have hall : ∀ b ∈ s.bytes, Byte.isIdent b = true := fun b hb => (hs.isIdent b hb).trans h
      rw [List.rtakeWhile_concat_pos _ _ _ h, rtakeWhile_isIdent_append hall, List.flatMap_append,
        List.flatMap_singleton, ih fun x hx => hread x (List.mem_append_left _ hx)]
    | false =>
      have hlast : Byte.isIdent (s.bytes.getLast hs.ne_nil) = false :=
        (hs.isIdent _ (List.getLast_mem hs.ne_nil)).trans h
      rw [List.rtakeWhile_concat_neg _ _ _ (by simp [h]), List.flatMap_nil, eq_comm,
        List.rtakeWhile_eq_nil_iff]
      intro hne
      rw [List.getLast_append_of_ne_nil _ hs.ne_nil, hlast]
      exact Bool.false_ne_true

theorem isIdent_head?_symbols (t : Text) :
    (symbols t).head?.map Symbol.isIdent = t.head?.map Byte.isIdent := by
  refine symbols_induct
    (motive := fun t ss => ss.head?.map Symbol.isIdent = t.head?.map Byte.isIdent) rfl
    (fun s t hs _ => ?_) t
  obtain ⟨b, r, hb⟩ := List.exists_cons_of_ne_nil hs.ne_nil
  rw [hb]
  exact congrArg some (hs.isIdent b (hb ▸ List.mem_cons_self ..)).symm

theorem isIdent_getLast?_symbols (t : Text) :
    (symbols t).getLast?.map Symbol.isIdent = t.getLast?.map Byte.isIdent := by
  refine symbols_induct
    (motive := fun t ss => ss.getLast?.map Symbol.isIdent = t.getLast?.map Byte.isIdent) rfl
    (fun s t hs ih => ?_) t
  have hlast : s.bytes.getLast?.map Byte.isIdent = some s.isIdent := by
    rw [List.getLast?_eq_some_getLast hs.ne_nil, Option.map_some,
      hs.isIdent _ (List.getLast_mem hs.ne_nil)]
  rw [← List.singleton_append, List.getLast?_append, List.getLast?_append, Option.map_or,
    Option.map_or, ih, hlast]
  rfl

theorem head?_symbols_eq_hyphen (t : Text) :
    (symbols t).head? = some (.scalar '-') ↔ t.head? = some Byte.hyphen := by
  constructor
  · refine symbols_induct (motive := fun t ss => ss.head? = some (.scalar '-') →
      t.head? = some Byte.hyphen) nofun (fun s t _ _ h => ?_) t
    obtain rfl : s = .scalar '-' := Option.some.inj h
    rfl
  · intro h
    obtain ⟨r, rfl⟩ := List.head?_eq_some_iff.mp h
    rfl

end Utf8

end NestedCss
