import Mathlib.Data.List.Lex
import Mathlib.Data.List.TakeWhile
import Mathlib.Data.Nat.Digits.Defs
import Mathlib.Data.Prod.Lex
import Mathlib.Tactic.SplitIfs
import NestedCss.Text.Natural
/-!
# Natural order by keys

Natural order reads a text as a list of fields (`Natural.fields`): the runs of digits, and the other
bytes one by one. Where numbers are far apart or written in several ways it is no order at all. It
is one where it agrees with the lexicographic order of the values of fields (`Natural.key`).

* `pair_induct`: two texts are read side by side, field by field, up to where they part;
* `less_nil_left`, `less_nil_right`, `less_byte`, `less_apart` and `less_number` say what the order
  does at each of these steps, so that nothing below unfolds it;
* `not_less_iff`: neither text is less exactly if they have the same key, and the same digits at
  their ends;
* `less_asymm`: both are less only if numbers lie half the range of 64-bit words apart;
* `less_iff`: texts that agree on their numbers (`Agree`) are ordered by their keys;
* `IsPlain.agree` and `IsPlain.eq_of_key`: texts whose numbers are small and have no zeros in front
  agree, and no two of them have the same key.
-/
namespace NestedCss

namespace Text

theorem compareBytes_eq_iff {a b : Text} : compareBytes a b = .eq ↔ a = b := by
  fun_induction compareBytes a b with
  | case1 => simp
  | case2 => simp
  | case3 => simp
  | case4 a r b s hlt =>
    have hne : a ≠ b := UInt8.ne_of_lt hlt
    simp [hne]
  | case5 a r b s _ hlt =>
    have hne : a ≠ b := (UInt8.ne_of_lt hlt).symm
    simp [hne]
  | case6 a r b s hle hge ih =>
    have heq : a = b := UInt8.le_antisymm (UInt8.not_lt.mp hge) (UInt8.not_lt.mp hle)
    simp [heq, ih]

theorem compareBytes_swap (a b : Text) : (compareBytes a b).swap = compareBytes b a := by
  fun_induction compareBytes a b with
  | case1 => rfl
  | case2 => rfl
  | case3 => rfl
  | case4 a r b s hlt => simp [compareBytes, hlt, UInt8.lt_asymm hlt]
  | case5 a r b s hle hlt => simp [compareBytes, hlt]
  | case6 a r b s hle hge ih => simp [compareBytes, hle, hge, ih]

end Text

namespace Natural

/-! ### Fields -/

/-- A part of a text that natural order compares as a whole. -/
inductive Field where
  | number (digits : Text)
  | byte (c : UInt8)
  deriving DecidableEq, Repr

/-- Reads fields; `skip` counts the bytes of the number read last that are still to be passed
over. -/
def fieldsFrom : Nat → Text → List Field
  | _, [] => []
  | skip + 1, _ :: r => fieldsFrom skip r
  | 0, c :: r =>
    if Byte.isDigit c then
      .number ((c :: r).takeWhile Byte.isDigit) :: fieldsFrom (r.takeWhile Byte.isDigit).length r
    else .byte c :: fieldsFrom 0 r

/-- The fields of a text. -/
def fields (t : Text) : List Field := fieldsFrom 0 t

/-- The numbers in a text, as they are written. -/
def numbers (t : Text) : List Text :=
  (fields t).filterMap fun
    | .number d => some d
    | .byte _ => none

/-- The number that a text ends in, as it is written. -/
def lastNumber? (t : Text) : Option Text :=
  match (fields t).getLast? with
  | some (.number d) => some d
  | _ => none

/-- Whether a text is a run of digits. -/
structure IsNumber (d : Text) : Prop where
  ne_nil : d ≠ []
  digits : ∀ c ∈ d, Byte.isDigit c = true

/-- Whether a text does not go on with a digit. -/
def StartsPlain (t : Text) : Prop := ∀ c ∈ t.head?, Byte.isDigit c = false

variable {a b d e : Text} {c c' : UInt8}

theorem takeWhile_number (hd : IsNumber d) (ha : StartsPlain a) :
    (d ++ a).takeWhile Byte.isDigit = d := by
  have hnil : a.takeWhile Byte.isDigit = [] := by
    cases a with
    | nil => rfl
    | cons c a => exact List.takeWhile_cons_of_neg (by simp [ha c rfl])
  rw [List.takeWhile_append_of_pos hd.digits, hnil, List.append_nil]

theorem dropWhile_number (hd : IsNumber d) (ha : StartsPlain a) :
    (d ++ a).dropWhile Byte.isDigit = a := by
  have hsplit := List.takeWhile_append_dropWhile (p := Byte.isDigit) (l := d ++ a)
  rw [takeWhile_number hd ha] at hsplit
  exact List.append_cancel_left hsplit

theorem exists_number (hc : Byte.isDigit c = true) (t : Text) :
    ∃ d r, c :: t = d ++ r ∧ IsNumber d ∧ StartsPlain r := by
  refine ⟨(c :: t).takeWhile Byte.isDigit, (c :: t).dropWhile Byte.isDigit,
    List.takeWhile_append_dropWhile.symm, ⟨?_, fun _ => List.mem_takeWhile_imp⟩, fun c' hc' => ?_⟩
  · rw [List.takeWhile_cons_of_pos hc]
    exact List.cons_ne_nil _ _
  · have hhead := List.head?_dropWhile_not Byte.isDigit (c :: t)
    rw [Option.mem_def.mp hc'] at hhead
    exact hhead

theorem fieldsFrom_eq_drop (k : Nat) (t : Text) : fieldsFrom k t = fields (t.drop k) := by
  induction t generalizing k with
  | nil => cases k <;> rfl
  | cons c t ih =>
    cases k with
    | zero => rfl
    | succ k => exact ih k

@[simp] theorem fields_nil : fields [] = [] := rfl

theorem fields_byte (hc : Byte.isDigit c = false) (t : Text) :
    fields (c :: t) = .byte c :: fields t := by
  rw [fields, fieldsFrom, if_neg (by simp [hc])]
  rfl

theorem fields_number (hd : IsNumber d) (ha : StartsPlain a) :
    fields (d ++ a) = .number d :: fields a := by
  obtain ⟨c, r, rfl⟩ := List.exists_cons_of_ne_nil hd.ne_nil
  have hc : Byte.isDigit c = true := hd.digits c (List.mem_cons_self ..)
  have htake := takeWhile_number hd ha
  rw [List.cons_append] at htake ⊢
  rw [fields, fieldsFrom, if_pos hc, htake]
  rw [List.takeWhile_cons_of_pos hc] at htake
  rw [(List.cons.inj htake).2, fieldsFrom_eq_drop, List.drop_left]

/-! ### Two texts side by side -/

/-- Two texts are read side by side: they have a byte in common, or both go on with a number, or
they part. -/
theorem pair_induct {motive : Text → Text → Prop} (nil_left : ∀ b, motive [] b)
    (nil_right : ∀ c a, motive (c :: a) [])
    (byte : ∀ c a b, Byte.isDigit c = false → motive a b → motive (c :: a) (c :: b))
    (apart : ∀ c a c' b, c ≠ c' → (Byte.isDigit c && Byte.isDigit c') = false →
      motive (c :: a) (c' :: b))
    (number : ∀ d a e b, IsNumber d → StartsPlain a → IsNumber e → StartsPlain b → motive a b →
      motive (d ++ a) (e ++ b))
    (a b : Text) : motive a b := by
  induction hlength : a.length using Nat.strongRecOn generalizing a b with
  | ind n ih =>
    cases a with
    | nil => exact nil_left b
    | cons c a =>
      cases b with
      | nil => exact nil_right c a
      | cons c' b =>
        cases hdigits : Byte.isDigit c && Byte.isDigit c' with
        | true =>
          obtain ⟨hc, hc'⟩ := Bool.and_eq_true_iff.mp hdigits
          obtain ⟨d, r, ha, hd, hr⟩ := exists_number hc a
          obtain ⟨e, s, hb, he, hs⟩ := exists_number hc' b
          have hshorter : r.length < n := by
            have hpos := List.length_pos_iff.mpr hd.ne_nil
            rw [← hlength, ha, List.length_append]
            omega
          rw [ha, hb]
          exact number d r e s hd hr he hs (ih _ hshorter r s rfl)
        | false =>
          by_cases heq : c = c'
          · subst heq
            rw [Bool.and_self] at hdigits
            refine byte c a b hdigits (ih _ ?_ a b rfl)
            rw [← hlength, List.length_cons]
            exact Nat.lt_succ_self _
          · exact apart c a c' b heq hdigits

theorem less_nil_left (b : Text) : less [] b = !b.isEmpty := by
  rw [less]
  cases b <;> rfl

theorem less_nil_right (c : UInt8) (a : Text) : less (c :: a) [] = false := by
  rw [less]
  simp [dropCommon, Text.compareBytes]

theorem less_byte (hc : Byte.isDigit c = false) (a b : Text) :
    less (c :: a) (c :: b) = less a b := by
  have hdrop : dropCommon (c :: a) (c :: b) = dropCommon a b := by simp [dropCommon, hc]
  conv_lhs => rw [less, hdrop]
  conv_rhs => rw [less]

theorem less_apart (hne : c ≠ c') (hdigits : (Byte.isDigit c && Byte.isDigit c') = false)
    (a b : Text) : less (c :: a) (c' :: b) = decide (c < c') := by
  have hdrop : dropCommon (c :: a) (c' :: b) = (c :: a, c' :: b) := by simp [dropCommon, hne]
  have hempty : (c :: a).takeWhile Byte.isDigit = [] ∨ (c' :: b).takeWhile Byte.isDigit = [] := by
    rcases Bool.and_eq_false_iff.mp hdigits with h | h
    · exact .inl (List.takeWhile_cons_of_neg (by simp [h]))
    · exact .inr (List.takeWhile_cons_of_neg (by simp [h]))
  rw [less, hdrop]
  simp only [hempty, dite_true, Text.compareBytes]
  by_cases hlt : c < c'
  · simp [hlt]
  · have hgt : c' < c := UInt8.lt_of_le_of_ne (UInt8.not_lt.mp hlt) hne.symm
    simp [hlt, hgt]

theorem less_number (hd : IsNumber d) (ha : StartsPlain a) (he : IsNumber e) (hb : StartsPlain b) :
    less (d ++ a) (e ++ b) = match compareValues (value d) (value e) with
      | .lt => true
      | .gt => false
      | .eq =>
        if a.isEmpty || b.isEmpty then Text.compareBytes (d ++ a) (e ++ b) == .lt
        else less a b := by
  have hdrop : dropCommon (d ++ a) (e ++ b) = (d ++ a, e ++ b) := by
    obtain ⟨c, r, rfl⟩ := List.exists_cons_of_ne_nil hd.ne_nil
    obtain ⟨c', s, rfl⟩ := List.exists_cons_of_ne_nil he.ne_nil
    simp [dropCommon, hd.digits c (List.mem_cons_self ..)]
  rw [less, hdrop]
  cases hcompare : compareValues (value d) (value e) <;>
    simp only [takeWhile_number hd ha, takeWhile_number he hb, dropWhile_number hd ha,
      dropWhile_number he hb, hd.ne_nil, he.ne_nil, or_self, dite_false, hcompare]

/-! ### Values -/

/-- Whether two numbers lie less than half the range of 64-bit words apart, or one of them is no
such word. -/
def IsNear (m n : Nat) : Prop :=
  m < Nat.pow 2 64 → n < Nat.pow 2 64 → m < n + Nat.pow 2 63 ∧ n < m + Nat.pow 2 63

/-- Whether two numbers are 64-bit words that lie half their range apart. -/
def IsOpposite (m n : Nat) : Prop :=
  m < Nat.pow 2 64 ∧ n < Nat.pow 2 64 ∧ (m = n + Nat.pow 2 63 ∨ n = m + Nat.pow 2 63)

variable {m n : Nat}

/-- The wrapped difference of words: numbers more than half the range apart compare the wrong way
round. -/
theorem compareValues_word (hm : m < Nat.pow 2 64) (hn : n < Nat.pow 2 64) :
    compareValues m n = if m = n then .eq
      else if n < m ∧ m < n + Nat.pow 2 63 ∨ m + Nat.pow 2 63 < n then .gt else .lt := by
  have h64 : Nat.pow 2 64 = 18446744073709551616 := rfl
  have h63 : Nat.pow 2 63 = 9223372036854775808 := rfl
  have hdifference : (m.toUInt64 - n.toUInt64).toNat = (2 ^ 64 - n + m) % 2 ^ 64 := by
    have hword : ∀ k < Nat.pow 2 64, k.toUInt64.toNat = k := fun k hk =>
      UInt64.toNat_ofNat'.trans (Nat.mod_eq_of_lt hk)
    rw [UInt64.toNat_sub, hword m hm, hword n hn]
  rw [h64] at hm hn
  rw [compareValues, hdifference]
  simp only [h64, h63, hm, hn, decide_true, Bool.and_self, if_true, beq_iff_eq]
  split_ifs <;> first | rfl | (exfalso; omega)

theorem compareValues_of_not_word (h : ¬ (m < Nat.pow 2 64 ∧ n < Nat.pow 2 64)) :
    compareValues m n = compare m n := by
  rw [compareValues, if_neg]
  simpa using h

theorem compareValues_eq_iff : compareValues m n = .eq ↔ m = n := by
  by_cases h : m < Nat.pow 2 64 ∧ n < Nat.pow 2 64
  · rw [compareValues_word h.1 h.2]
    split_ifs <;> simp_all
  · rw [compareValues_of_not_word h]
    exact Nat.compare_eq_eq

theorem compareValues_lt_iff (h : IsNear m n) : compareValues m n = .lt ↔ m < n := by
  by_cases hword : m < Nat.pow 2 64 ∧ n < Nat.pow 2 64
  · obtain ⟨hmn, hnm⟩ := h hword.1 hword.2
    rw [compareValues_word hword.1 hword.2]
    split_ifs <;> simp only [false_iff, true_iff] <;> omega
  · rw [compareValues_of_not_word hword]
    exact Nat.compare_eq_lt

/-- Different numbers are told apart at least one way round. -/
theorem compareValues_lt_or (h : m ≠ n) : compareValues m n = .lt ∨ compareValues n m = .lt := by
  by_cases hword : m < Nat.pow 2 64 ∧ n < Nat.pow 2 64
  · rw [compareValues_word hword.1 hword.2, compareValues_word hword.2 hword.1]
    split_ifs <;> first | (exfalso; omega) | simp
  · rw [compareValues_of_not_word hword, compareValues_of_not_word (by omega), Nat.compare_eq_lt,
      Nat.compare_eq_lt]
    omega

/-- Only opposite numbers are less than each other. -/
theorem compareValues_asymm (h : ¬ IsOpposite m n) (hlt : compareValues m n = .lt) :
    compareValues n m = .gt := by
  by_cases hword : m < Nat.pow 2 64 ∧ n < Nat.pow 2 64
  · have hopposite : ¬ (m = n + Nat.pow 2 63 ∨ n = m + Nat.pow 2 63) := fun hor =>
      h ⟨hword.1, hword.2, hor⟩
    rw [compareValues_word hword.1 hword.2] at hlt
    rw [compareValues_word hword.2 hword.1]
    split_ifs at hlt ⊢ <;> first | rfl | (exfalso; omega)
  · rw [compareValues_of_not_word hword, Nat.compare_eq_lt] at hlt
    rw [compareValues_of_not_word (by omega), Nat.compare_eq_gt]
    exact hlt

/-! ### Keys -/

/-- What a field is ordered by: the bytes below the digits come first, then the numbers by value,
and then the bytes above the digits. -/
def Field.key : Field → Nat ×ₗ Nat
  | .number d => toLex (1, value d)
  | .byte c => toLex (if c < 0x30 then 0 else 2, c.toNat)

/-- What a text is ordered by. -/
def key (t : Text) : List (Nat ×ₗ Nat) := (fields t).map Field.key

theorem key_byte (hc : Byte.isDigit c = false) (a : Text) :
    key (c :: a) = Field.key (.byte c) :: key a := by
  rw [key, fields_byte hc, List.map_cons, key]

theorem key_number (hd : IsNumber d) (ha : StartsPlain a) :
    key (d ++ a) = toLex (1, value d) :: key a := by
  rw [key, fields_number hd ha, List.map_cons, key, Field.key]

theorem numbers_byte (hc : Byte.isDigit c = false) (a : Text) : numbers (c :: a) = numbers a := by
  rw [numbers, fields_byte hc]
  rfl

theorem numbers_number (hd : IsNumber d) (ha : StartsPlain a) :
    numbers (d ++ a) = d :: numbers a := by
  rw [numbers, fields_number hd ha]
  rfl

theorem fields_cons_ne_nil (c : UInt8) (a : Text) : fields (c :: a) ≠ [] := by
  rw [fields, fieldsFrom]
  split <;> exact List.cons_ne_nil _ _

theorem key_eq_nil_iff : key a = [] ↔ a = [] := by
  cases a with
  | nil => simp [key]
  | cons c a => simp [key, fields_cons_ne_nil]

theorem lastNumber?_byte (hc : Byte.isDigit c = false) (a : Text) :
    lastNumber? (c :: a) = lastNumber? a := by
  rw [lastNumber?, fields_byte hc, lastNumber?]
  cases a with
  | nil => rfl
  | cons c' a => rw [List.getLast?_cons_of_ne_nil (fields_cons_ne_nil c' a)]

theorem lastNumber?_number (hd : IsNumber d) (ha : StartsPlain a) (hne : a ≠ []) :
    lastNumber? (d ++ a) = lastNumber? a := by
  obtain ⟨c, r, rfl⟩ := List.exists_cons_of_ne_nil hne
  rw [lastNumber?, fields_number hd ha, List.getLast?_cons_of_ne_nil (fields_cons_ne_nil c r),
    lastNumber?]

theorem lastNumber?_self (hd : IsNumber d) : lastNumber? d = some d := by
  have hplain : StartsPlain [] := by simp [StartsPlain]
  have hfields := fields_number hd hplain
  rw [List.append_nil] at hfields
  rw [lastNumber?, hfields]
  rfl

/-- The key of a text starts with that of its first byte, or with that of a number. -/
theorem exists_key_cons (c : UInt8) (a : Text) : ∃ k r, key (c :: a) = k :: r ∧
    (Byte.isDigit c = true ∧ (∃ v, k = toLex (1, v)) ∨
      Byte.isDigit c = false ∧ k = Field.key (.byte c)) := by
  cases hc : Byte.isDigit c with
  | false => exact ⟨_, _, key_byte hc a, .inr ⟨rfl, rfl⟩⟩
  | true =>
    obtain ⟨d, r, hsplit, hd, hr⟩ := exists_number hc a
    exact ⟨_, _, hsplit ▸ key_number hd hr, .inl ⟨rfl, value d, rfl⟩⟩

/-- Where texts part, the greater byte has the greater key. -/
theorem key_lt_of_apart (hlt : c < c') (hdigits : (Byte.isDigit c && Byte.isDigit c') = false)
    (a b : Text) : key (c :: a) < key (c' :: b) := by
  obtain ⟨k, r, hk, hc⟩ := exists_key_cons c a
  obtain ⟨k', r', hk', hc'⟩ := exists_key_cons c' b
  rw [hk, hk', List.cons_lt_cons_iff]
  left
  rw [UInt8.lt_iff_toNat_lt] at hlt
  have hclass : ∀ x : UInt8, Byte.isDigit x = true ↔ 0x30 ≤ x.toNat ∧ x.toNat ≤ 0x39 := by
    intro x
    simp [Byte.isDigit, UInt8.le_iff_toNat_le]
  have hbelow : ∀ x : UInt8, x < 0x30 ↔ x.toNat < 0x30 := fun x => UInt8.lt_iff_toNat_lt
  rcases hc with ⟨hc, v, rfl⟩ | ⟨hc, rfl⟩ <;> rcases hc' with ⟨hc', v', rfl⟩ | ⟨hc', rfl⟩
  · rw [hc, hc'] at hdigits
    cases hdigits
  · rw [hclass] at hc
    rw [← Bool.not_eq_true, hclass] at hc'
    have habove : ¬ c' < 0x30 := by
      rw [hbelow]
      omega
    rw [Field.key, if_neg habove]
    exact Prod.Lex.toLex_lt_toLex.mpr (.inl Nat.one_lt_two)
  · rw [hclass] at hc'
    rw [← Bool.not_eq_true, hclass] at hc
    have hfirst : c < 0x30 := by
      rw [hbelow]
      omega
    rw [Field.key, if_pos hfirst]
    exact Prod.Lex.toLex_lt_toLex.mpr (.inl Nat.zero_lt_one)
  · rw [Field.key, Field.key, Prod.Lex.toLex_lt_toLex]
    simp only [hbelow]
    split_ifs <;> simp <;> omega

/-! ### Where the order holds -/

theorem number_append_inj (hd : IsNumber d) (ha : StartsPlain a) (he : IsNumber e)
    (hb : StartsPlain b) (h : d ++ a = e ++ b) : d = e ∧ a = b := by
  have hde : d = e := by rw [← takeWhile_number hd ha, h, takeWhile_number he hb]
  rw [hde] at h
  exact ⟨hde, List.append_cancel_left h⟩

/-- Where one of the texts ends in the number, they tie only if they are the same. -/
theorem number_append_eq_iff (hd : IsNumber d) (ha : StartsPlain a) (he : IsNumber e)
    (hb : StartsPlain b) (hend : a = [] ∨ b = []) : d ++ a = e ++ b ↔
      key a = key b ∧ lastNumber? (d ++ a) = lastNumber? (e ++ b) := by
  constructor
  · intro h
    obtain ⟨rfl, rfl⟩ := number_append_inj hd ha he hb h
    exact ⟨rfl, rfl⟩
  · rintro ⟨hkey, hlast⟩
    obtain ⟨rfl, rfl⟩ : a = [] ∧ b = [] := by
      rcases hend with rfl | rfl
      · exact ⟨rfl, key_eq_nil_iff.mp hkey.symm⟩
      · exact ⟨key_eq_nil_iff.mp hkey, rfl⟩
    rw [List.append_nil, List.append_nil, lastNumber?_self hd, lastNumber?_self he] at hlast
    rw [Option.some.inj hlast]

theorem compareBytes_not_lt_iff : ((Text.compareBytes a b == .lt) = false ∧
    (Text.compareBytes b a == .lt) = false) ↔ a = b := by
  rw [← Text.compareBytes_swap a b, ← Text.compareBytes_eq_iff]
  cases Text.compareBytes a b <;> decide

/-- Two texts tie exactly if they have the same key and end in the same digits. -/
theorem not_less_iff (a b : Text) : (less a b = false ∧ less b a = false) ↔
    key a = key b ∧ lastNumber? a = lastNumber? b := by
  induction a, b using pair_induct with
  | nil_left b =>
    cases b with
    | nil => simp [less_nil_left]
    | cons c b =>
      have hkey : key (c :: b) ≠ [] := by simp [key_eq_nil_iff]
      simp [less_nil_left, show key [] = [] from rfl, hkey.symm]
  | nil_right c a =>
    have hkey : key (c :: a) ≠ [] := by simp [key_eq_nil_iff]
    simp [less_nil_left, show key [] = [] from rfl, hkey]
  | byte c a b hc ih =>
    rw [less_byte hc, less_byte hc, ih, key_byte hc, key_byte hc, lastNumber?_byte hc,
      lastNumber?_byte hc, List.cons.injEq, eq_self, true_and]
  | apart c a c' b hne hdigits =>
    -- one of the bytes is less, and so is its key
    rw [less_apart hne hdigits, less_apart hne.symm (Bool.and_comm _ _ ▸ hdigits)]
    rcases UInt8.lt_or_lt_of_ne hne with hlt | hlt
    · have hkey := key_lt_of_apart hlt hdigits a b
      simp [hlt, hkey.ne]
    · have hkey := key_lt_of_apart hlt (Bool.and_comm _ _ ▸ hdigits) b a
      simp [hlt, hkey.ne']
  | number d a e b hd ha he hb ih =>
    rw [less_number hd ha he hb, less_number he hb hd ha, key_number hd ha, key_number he hb]
    by_cases hvalue : value d = value e
    · have heq : compareValues (value d) (value e) = .eq := compareValues_eq_iff.mpr hvalue
      rw [hvalue] at heq
      simp only [hvalue, heq, List.cons.injEq, true_and]
      by_cases hend : a = [] ∨ b = []
      · -- the bytes decide
        have hempty : (a.isEmpty || b.isEmpty) = true := by simpa using hend
        rw [if_pos hempty, if_pos (Bool.or_comm _ _ ▸ hempty), compareBytes_not_lt_iff,
          number_append_eq_iff hd ha he hb hend]
      · obtain ⟨hane, hbne⟩ := not_or.mp hend
        have hempty : ¬ (a.isEmpty || b.isEmpty) = true := by simp [hane, hbne]
        rw [if_neg hempty, if_neg (Bool.or_comm _ _ ▸ hempty), ih,
          lastNumber?_number hd ha hane, lastNumber?_number he hb hbne]
    · have hkey : (toLex (1, value d) : Nat ×ₗ Nat) ≠ toLex (1, value e) := by
        simpa using hvalue
      rcases compareValues_lt_or hvalue with hlt | hlt
      · simp [hlt, hkey]
      · simp [hlt, hkey]

/-- Two texts are not less than each other, unless opposite numbers are compared. -/
theorem less_asymm (h : ∀ d ∈ numbers a, ∀ e ∈ numbers b, ¬ IsOpposite (value d) (value e))
    (hlt : less a b = true) : less b a = false := by
  induction a, b using pair_induct with
  | nil_left b =>
    cases b with
    | nil => simp [less_nil_left] at hlt
    | cons c b => exact less_nil_right c b
  | nil_right c a => simp [less_nil_right] at hlt
  | byte c a b hc ih =>
    rw [numbers_byte hc, numbers_byte hc] at h
    rw [less_byte hc] at hlt ⊢
    exact ih h hlt
  | apart c a c' b hne hdigits =>
    rw [less_apart hne hdigits, decide_eq_true_iff] at hlt
    rw [less_apart hne.symm (Bool.and_comm _ _ ▸ hdigits), decide_eq_false_iff_not]
    exact UInt8.lt_asymm hlt
  | number d a e b hd ha he hb ih =>
    rw [numbers_number hd ha, numbers_number he hb] at h
    have hopposite := h d (List.mem_cons_self ..) e (List.mem_cons_self ..)
    rw [less_number hd ha he hb] at hlt
    rw [less_number he hb hd ha]
    cases hvalue : compareValues (value d) (value e) with
    | lt => rw [compareValues_asymm hopposite hvalue]
    | gt => simp [hvalue] at hlt
    | eq =>
      have heq := compareValues_eq_iff.mpr (compareValues_eq_iff.mp hvalue).symm
      simp only [hvalue] at hlt
      simp only [heq]
      rw [Bool.or_comm]
      split at hlt
      · rename_i hempty
        rw [if_pos hempty, ← Text.compareBytes_swap, eq_of_beq hlt]
        rfl
      · rename_i hempty
        rw [if_neg hempty]
        refine ih (fun d hd e he => ?_) hlt
        exact h d (List.mem_cons_of_mem _ hd) e (List.mem_cons_of_mem _ he)

/-- Whether two texts agree on their numbers: none of one lies too far from one of the other, and a
number that ends one text is written the same way in the other. -/
structure Agree (a b : Text) : Prop where
  near : ∀ d ∈ numbers a, ∀ e ∈ numbers b, IsNear (value d) (value e)
  left : ∀ d ∈ lastNumber? a, ∀ e ∈ numbers b, value d = value e → d = e
  right : ∀ e ∈ lastNumber? b, ∀ d ∈ numbers a, value d = value e → d = e

theorem Agree.of_byte (hc : Byte.isDigit c = false) (h : Agree (c :: a) (c :: b)) : Agree a b := by
  obtain ⟨near, left, right⟩ := h
  rw [numbers_byte hc] at near left right
  rw [numbers_byte hc] at near
  rw [lastNumber?_byte hc] at left right
  exact ⟨near, left, right⟩

theorem Agree.of_number (hd : IsNumber d) (ha : StartsPlain a) (he : IsNumber e)
    (hb : StartsPlain b) (hane : a ≠ []) (hbne : b ≠ []) (h : Agree (d ++ a) (e ++ b)) :
    Agree a b := by
  obtain ⟨near, left, right⟩ := h
  rw [numbers_number hd ha, numbers_number he hb] at near
  rw [numbers_number he hb, lastNumber?_number hd ha hane] at left
  rw [numbers_number hd ha, lastNumber?_number he hb hbne] at right
  refine ⟨fun x hx y hy => ?_, fun x hx y hy => ?_, fun x hx y hy => ?_⟩
  · exact near x (List.mem_cons_of_mem d hx) y (List.mem_cons_of_mem e hy)
  · exact left x hx y (List.mem_cons_of_mem e hy)
  · exact right x hx y (List.mem_cons_of_mem d hy)

/-- A number that ends one of the texts is written the same way in both. -/
theorem Agree.eq_of_value (hd : IsNumber d) (ha : StartsPlain a) (he : IsNumber e)
    (hb : StartsPlain b) (hend : a = [] ∨ b = []) (h : Agree (d ++ a) (e ++ b))
    (hvalue : value d = value e) : d = e := by
  have hdmem : d ∈ numbers (d ++ a) := numbers_number hd ha ▸ List.mem_cons_self ..
  have hemem : e ∈ numbers (e ++ b) := numbers_number he hb ▸ List.mem_cons_self ..
  rcases hend with rfl | rfl
  · refine h.left d ?_ e hemem hvalue
    rw [List.append_nil]
    exact lastNumber?_self hd
  · refine h.right e ?_ d hdmem hvalue
    rw [List.append_nil]
    exact lastNumber?_self he

theorem compareBytes_append_left (d a b : Text) :
    Text.compareBytes (d ++ a) (d ++ b) = Text.compareBytes a b := by
  induction d with
  | nil => rfl
  | cons c d ih =>
    rw [List.cons_append, List.cons_append, Text.compareBytes, ih]
    simp

/-- An end comes before anything else, by bytes and by keys. -/
theorem compareBytes_lt_iff_of_end (hend : a = [] ∨ b = []) :
    (Text.compareBytes a b == .lt) = true ↔ key a < key b := by
  have hnil : key [] = [] := rfl
  rcases hend with rfl | rfl
  · cases b with
    | nil => simp [Text.compareBytes]
    | cons c b =>
      obtain ⟨k, r, hk, -⟩ := exists_key_cons c b
      simp [Text.compareBytes, hnil, hk]
  · cases a <;> simp [Text.compareBytes, hnil]

/-- Texts that agree on their numbers are ordered by their keys. -/
theorem less_iff (h : Agree a b) : less a b = true ↔ key a < key b := by
  induction a, b using pair_induct with
  | nil_left b =>
    cases b with
    | nil => simp [less_nil_left]
    | cons c b =>
      obtain ⟨k, r, hk, -⟩ := exists_key_cons c b
      simp [less_nil_left, show key [] = [] from rfl, hk]
  | nil_right c a => simp [less_nil_right, show key [] = [] from rfl]
  | byte c a b hc ih =>
    rw [less_byte hc, ih (h.of_byte hc), key_byte hc, key_byte hc, List.cons_lt_cons_iff]
    simp
  | apart c a c' b hne hdigits =>
    rw [less_apart hne hdigits, decide_eq_true_iff]
    rcases UInt8.lt_or_lt_of_ne hne with hlt | hlt
    · exact iff_of_true hlt (key_lt_of_apart hlt hdigits a b)
    · have hkey := key_lt_of_apart hlt (Bool.and_comm _ _ ▸ hdigits) b a
      exact iff_of_false (UInt8.lt_asymm hlt) hkey.asymm
  | number d a e b hd ha he hb ih =>
    have hnear : IsNear (value d) (value e) := by
      refine h.near d ?_ e ?_
      · rw [numbers_number hd ha]
        exact List.mem_cons_self ..
      · rw [numbers_number he hb]
        exact List.mem_cons_self ..
    have hlt := compareValues_lt_iff hnear
    have hkeys : key (d ++ a) < key (e ++ b) ↔
        value d < value e ∨ value d = value e ∧ key a < key b := by
      rw [key_number hd ha, key_number he hb, List.cons_lt_cons_iff, Prod.Lex.toLex_lt_toLex]
      simp
    rw [less_number hd ha he hb, hkeys]
    cases hvalue : compareValues (value d) (value e) with
    | lt => exact iff_of_true rfl (.inl (hlt.mp hvalue))
    | gt =>
      have hnotlt : ¬ value d < value e := fun hless => by simp [hlt.mpr hless] at hvalue
      have hne : value d ≠ value e := fun heq => by simp [compareValues_eq_iff.mpr heq] at hvalue
      exact iff_of_false Bool.false_ne_true (by simp [hnotlt, hne])
    | eq =>
      have heq := compareValues_eq_iff.mp hvalue
      simp only [heq, lt_irrefl, true_and, false_or]
      by_cases hend : a = [] ∨ b = []
      · have hempty : (a.isEmpty || b.isEmpty) = true := by simpa using hend
        rw [if_pos hempty, h.eq_of_value hd ha he hb hend heq, compareBytes_append_left]
        exact compareBytes_lt_iff_of_end hend
      · obtain ⟨hane, hbne⟩ := not_or.mp hend
        rw [if_neg (by simp [hane, hbne])]
        exact ih (h.of_number hd ha he hb hane hbne)

/-! ### Plain numbers -/

/-- Whether the numbers in a text have no zeros in front, and are less than half the range of 64-bit
words. -/
def IsPlain (t : Text) : Prop :=
  ∀ d ∈ numbers t, (d.head? = some 0x30 → d = [0x30]) ∧ value d < Nat.pow 2 63

instance (t : Text) : Decidable (IsPlain t) :=
  inferInstanceAs (Decidable (∀ d ∈ numbers t, _))

/-- The decimal digits that a run of digits stands for, the last one first. -/
def decimals (d : Text) : List Nat := d.reverse.map fun c => c.toNat - 0x30

theorem value_eq_ofDigits (d : Text) : value d = Nat.ofDigits 10 (decimals d) := by
  rw [Nat.ofDigits_eq_foldr, decimals, List.foldr_map, List.foldr_reverse, value]
  congr 1
  funext n c
  simp only [Nat.cast_id]
  omega

theorem toNat_of_isDigit (hc : Byte.isDigit c = true) : 0x30 ≤ c.toNat ∧ c.toNat ≤ 0x39 := by
  simpa [Byte.isDigit, UInt8.le_iff_toNat_le] using hc

theorem decimals_inj (hd : IsNumber d) (he : IsNumber e) (h : decimals d = decimals e) : d = e := by
  have hback : ∀ t, IsNumber t →
      (decimals t).map (fun n => UInt8.ofNat (n + 0x30)) = t.reverse := by
    intro t ht
    rw [decimals, List.map_map]
    refine (List.map_congr_left fun c hc => ?_).trans (List.map_id _)
    have hdigit := toNat_of_isDigit (ht.digits c (List.mem_reverse.mp hc))
    rw [Function.comp_apply, Nat.sub_add_cancel hdigit.1, UInt8.ofNat_toNat, id]
  have hreverse : d.reverse = e.reverse := by rw [← hback d hd, h, hback e he]
  exact List.reverse_injective hreverse

/-- Apart from zero, a number without zeros in front is known by its decimal digits. -/
theorem digits_value (hd : IsNumber d) (hzero : d.head? ≠ some 0x30) :
    Nat.digits 10 (value d) = decimals d := by
  rw [value_eq_ofDigits]
  refine Nat.digits_ofDigits 10 (by decide) _ (fun n hn => ?_) fun hne' => ?_
  · obtain ⟨c, hc, rfl⟩ := List.mem_map.mp hn
    have hdigit := toNat_of_isDigit (hd.digits c (List.mem_reverse.mp hc))
    omega
  · obtain ⟨c, r, rfl⟩ := List.exists_cons_of_ne_nil hd.ne_nil
    have hdigit := toNat_of_isDigit (hd.digits c (List.mem_cons_self ..))
    have hne : c.toNat ≠ 0x30 := fun hc => hzero (congrArg some (UInt8.toNat.inj hc))
    have hlast : (decimals (c :: r)).getLast hne' = c.toNat - 0x30 := by simp [decimals]
    rw [hlast]
    omega

theorem value_inj (hd : IsNumber d) (he : IsNumber e) (hdplain : d.head? = some 0x30 → d = [0x30])
    (heplain : e.head? = some 0x30 → e = [0x30]) (h : value d = value e) : d = e := by
  have hpos : ∀ t, IsNumber t → t.head? ≠ some 0x30 → value t ≠ 0 := by
    intro t ht hzero hvalue
    have hdigits := digits_value ht hzero
    rw [hvalue, Nat.digits_zero, decimals] at hdigits
    exact ht.ne_nil (by simpa using hdigits.symm)
  by_cases hdzero : d.head? = some 0x30
  · by_cases hezero : e.head? = some 0x30
    · rw [hdplain hdzero, heplain hezero]
    · rw [hdplain hdzero] at h
      exact absurd h.symm (hpos e he hezero)
  · by_cases hezero : e.head? = some 0x30
    · rw [heplain hezero] at h
      exact absurd h (hpos d hd hdzero)
    · exact decimals_inj hd he (by rw [← digits_value hd hdzero, h, digits_value he hezero])

theorem mem_numbers_iff : d ∈ numbers a ↔ .number d ∈ fields a := by
  rw [numbers, List.mem_filterMap]
  constructor
  · rintro ⟨f, hf, hd⟩
    cases f with
    | number e => exact Option.some.inj hd ▸ hf
    | byte c => cases hd
  · exact fun hf => ⟨_, hf, rfl⟩

theorem isNumber_of_mem_fieldsFrom (k : Nat) (t : Text) :
    .number d ∈ fieldsFrom k t → IsNumber d := by
  fun_induction fieldsFrom k t with
  | case1 => simp
  | case2 _ _ _ ih => exact ih
  | case3 c r hc ih =>
    intro hd
    rcases List.mem_cons.mp hd with hd | hd
    · cases hd
      refine ⟨?_, fun _ => List.mem_takeWhile_imp⟩
      rw [List.takeWhile_cons_of_pos hc]
      exact List.cons_ne_nil _ _
    · exact ih hd
  | case4 c r hc ih => simpa using ih

theorem isNumber_of_mem (hd : d ∈ numbers a) : IsNumber d :=
  isNumber_of_mem_fieldsFrom 0 a (mem_numbers_iff.mp hd)

theorem mem_numbers_of_lastNumber? (hd : d ∈ lastNumber? a) : d ∈ numbers a := by
  rw [Option.mem_def, lastNumber?] at hd
  split at hd
  · rename_i e he
    cases hd
    exact mem_numbers_iff.mpr (List.mem_of_getLast? he)
  · cases hd

/-- Plain texts are known by their keys. -/
theorem IsPlain.eq_of_key (ha : IsPlain a) (hb : IsPlain b) (h : key a = key b) : a = b := by
  induction a, b using pair_induct with
  | nil_left b => exact (key_eq_nil_iff.mp h.symm).symm
  | nil_right c a => exact key_eq_nil_iff.mp h
  | byte c a b hc ih =>
    rw [IsPlain, numbers_byte hc] at ha hb
    rw [key_byte hc, key_byte hc] at h
    rw [ih ha hb (List.cons.inj h).2]
  | apart c a c' b hne hdigits =>
    rcases UInt8.lt_or_lt_of_ne hne with hlt | hlt
    · exact absurd h (key_lt_of_apart hlt hdigits a b).ne
    · exact absurd h.symm (key_lt_of_apart hlt (Bool.and_comm _ _ ▸ hdigits) b a).ne
  | number d a e b hd hastart he hbstart ih =>
    rw [IsPlain, numbers_number hd hastart, List.forall_mem_cons] at ha
    rw [IsPlain, numbers_number he hbstart, List.forall_mem_cons] at hb
    rw [key_number hd hastart, key_number he hbstart] at h
    obtain ⟨hvalue, hrest⟩ := List.cons.inj h
    have hde : d = e := value_inj hd he ha.1.1 hb.1.1 (by simpa using hvalue)
    rw [hde, ih ha.2 hb.2 hrest]

theorem IsPlain.agree (ha : IsPlain a) (hb : IsPlain b) : Agree a b := by
  have hinj : ∀ d ∈ numbers a, ∀ e ∈ numbers b, value d = value e → d = e := fun d hd e he =>
    value_inj (isNumber_of_mem hd) (isNumber_of_mem he) (ha d hd).1 (hb e he).1
  refine ⟨fun d hd e he _ _ => ?_, fun d hd => ?_, fun e he d hd => ?_⟩
  · have hdlt := (ha d hd).2
    have helt := (hb e he).2
    omega
  · exact hinj d (mem_numbers_of_lastNumber? hd)
  · exact hinj d hd e (mem_numbers_of_lastNumber? he)

end Natural

end NestedCss
