import Mathlib.Data.List.Induction
import NestedCss.Proofs.Comments
import NestedCss.Proofs.IdentifierRunes
import NestedCss.Value
/-!
# Bare custom properties

Where a bare custom property starts is a matter of the text before and behind a position: which
strings and parentheses are open there, which symbol comes before, and which symbols follow
(`Custom.StartsAt`). It ends where the run of identifier symbols ends. Wrapping a value puts `var(`
and `)` around these spans and changes nothing else.

The search keeps a stack of open parentheses. That a parenthesis is on it says that no closing
parenthesis behind it has met it (`Custom.mem_openPositions_iff`).
-/
namespace NestedCss.Custom

/-! ### Open parentheses -/

/-- Whether the byte `c` stands at position `p` of a value, outside strings. -/
def isPlainAt (v : Text) (c : UInt8) (p : Nat) : Bool :=
  v[p]? == some c && !(Quotes.after {} (v.take p)).isQuoted

/-- The number of bytes `c` outside strings at the positions from `a` up to `b`, without `b`. -/
def countPlain (v : Text) (c : UInt8) (a b : Nat) : Nat :=
  (List.range' a (b - a)).countP (isPlainAt v c)

/-- The parenthesis at position `j` is open at position `i`: up to there, the parentheses behind it
never close more than they have opened. -/
structure IsOpenAt (v : Text) (j i : Nat) : Prop where
  lt : j < i
  opening : isPlainAt v Byte.openParen j = true
  unclosed : ∀ k ≤ i,
    countPlain v Byte.closeParen (j + 1) k ≤ countPlain v Byte.openParen (j + 1) k

/-- The positions of the open parentheses, the innermost first, as a search finds them that stands
at position `i`. -/
def openPositions (v : Text) : Nat → List Nat
  | 0 => []
  | i + 1 =>
    if isPlainAt v Byte.openParen i then i :: openPositions v i
    else if isPlainAt v Byte.closeParen i then (openPositions v i).tail
    else openPositions v i

variable {v : Text} {i j : Nat}

theorem countPlain_self (v : Text) (c : UInt8) (a : Nat) : countPlain v c a a = 0 := by
  rw [countPlain, Nat.sub_self]
  rfl

theorem countPlain_succ (v : Text) (c : UInt8) {a b : Nat} (h : a ≤ b) :
    countPlain v c a (b + 1) = countPlain v c a b + (isPlainAt v c b).toNat := by
  have hlast : a + (b - a) = b := Nat.add_sub_of_le h
  rw [countPlain, Nat.sub_add_comm h, List.range'_1_concat, List.countP_append,
    List.countP_singleton, hlast, countPlain]
  cases isPlainAt v c b <;> rfl

theorem isPlainAt_closeParen (h : isPlainAt v Byte.openParen i = true) :
    isPlainAt v Byte.closeParen i = false := by
  simp only [isPlainAt, Bool.and_eq_true, beq_iff_eq] at h
  rw [isPlainAt, h.1]
  rfl

theorem isOpenAt_succ : IsOpenAt v j (i + 1) ↔
    j = i ∧ isPlainAt v Byte.openParen i = true ∨ IsOpenAt v j i ∧
      countPlain v Byte.closeParen (j + 1) (i + 1)
        ≤ countPlain v Byte.openParen (j + 1) (i + 1) := by
  constructor
  · rintro ⟨hlt, hopening, hunclosed⟩
    rcases Nat.lt_or_eq_of_le (Nat.le_of_lt_succ hlt) with hji | rfl
    · exact .inr ⟨⟨hji, hopening, fun k hk => hunclosed k (Nat.le_succ_of_le hk)⟩,
        hunclosed _ (Nat.le_refl _)⟩
    · exact .inl ⟨rfl, hopening⟩
  · rintro (⟨rfl, hopening⟩ | ⟨hopen, hlast⟩)
    · refine ⟨Nat.lt_succ_self j, hopening, fun k hk => ?_⟩
      have hzero : k - (j + 1) = 0 := Nat.sub_eq_zero_of_le hk
      simp [countPlain, hzero]
    · refine ⟨Nat.lt_succ_of_lt hopen.lt, hopen.opening, fun k hk => ?_⟩
      rcases Nat.lt_or_eq_of_le hk with hk | rfl
      · exact hopen.unclosed k (Nat.le_of_lt_succ hk)
      · exact hlast

/-- The entry number `n` of the stack is the open parenthesis behind which `n` more are open. -/
theorem getElem?_openPositions (v : Text) (i : Nat) : ∀ n j, (openPositions v i)[n]? = some j ↔
    IsOpenAt v j i ∧
      countPlain v Byte.openParen (j + 1) i = countPlain v Byte.closeParen (j + 1) i + n := by
  induction i with
  | zero => exact fun n j => ⟨nofun, fun h => absurd h.1.lt (Nat.not_lt_zero j)⟩
  | succ i ih =>
    intro n j
    have hself := fun c => countPlain_self v c (i + 1)
    have hcount : IsOpenAt v j i →
        countPlain v Byte.openParen (j + 1) (i + 1)
          = countPlain v Byte.openParen (j + 1) i + (isPlainAt v Byte.openParen i).toNat ∧
        countPlain v Byte.closeParen (j + 1) (i + 1)
          = countPlain v Byte.closeParen (j + 1) i + (isPlainAt v Byte.closeParen i).toNat :=
      fun h => ⟨countPlain_succ v _ h.lt, countPlain_succ v _ h.lt⟩
    have hle : IsOpenAt v j i → countPlain v Byte.closeParen (j + 1) i
        ≤ countPlain v Byte.openParen (j + 1) i := fun h => h.unclosed i (Nat.le_refl i)
    rw [isOpenAt_succ, openPositions]
    cases hopen : isPlainAt v Byte.openParen i with
    | true =>
      have hclose := isPlainAt_closeParen hopen
      rw [hopen, hclose, Bool.toNat_true, Bool.toNat_false] at hcount
      rw [if_pos rfl]
      -- the new parenthesis is the entry 0, and every other has one more behind it
      cases n with
      | zero =>
        rw [List.getElem?_cons_zero, Option.some.injEq]
        constructor
        · rintro rfl
          exact ⟨.inl ⟨rfl, rfl⟩, by rw [hself, hself]⟩
        · rintro ⟨⟨rfl, -⟩ | ⟨h, -⟩, heq⟩
          · rfl
          · have := hle h
            have := hcount h
            omega
      | succ n =>
        rw [List.getElem?_cons_succ, ih]
        constructor
        · rintro ⟨h, heq⟩
          have := hcount h
          exact ⟨.inr ⟨h, by omega⟩, by omega⟩
        · rintro ⟨⟨rfl, -⟩ | ⟨h, -⟩, heq⟩
          · rw [hself, hself] at heq
            omega
          · have := hcount h
            exact ⟨h, by omega⟩
    | false =>
      rw [if_neg Bool.false_ne_true]
      cases hclose : isPlainAt v Byte.closeParen i with
      | true =>
        rw [hopen, hclose, Bool.toNat_true, Bool.toNat_false] at hcount
        -- an entry survives if at least one was open behind it
        rw [if_pos rfl, List.getElem?_tail, ih]
        constructor
        · rintro ⟨h, heq⟩
          have := hcount h
          exact ⟨.inr ⟨h, by omega⟩, by omega⟩
        · rintro ⟨⟨-, hfalse⟩ | ⟨h, -⟩, heq⟩
          · exact absurd hfalse Bool.false_ne_true
          · have := hcount h
            exact ⟨h, by omega⟩
      | false =>
        rw [hopen, hclose, Bool.toNat_false] at hcount
        rw [if_neg Bool.false_ne_true, ih]
        constructor
        · rintro ⟨h, heq⟩
          have := hle h
          have := hcount h
          exact ⟨.inr ⟨h, by omega⟩, by omega⟩
        · rintro ⟨⟨-, hfalse⟩ | ⟨h, -⟩, heq⟩
          · exact absurd hfalse Bool.false_ne_true
          · have := hcount h
            exact ⟨h, by omega⟩

/-- What is on the stack is what is open. -/
theorem mem_openPositions_iff : j ∈ openPositions v i ↔ IsOpenAt v j i := by
  rw [List.mem_iff_getElem?]
  constructor
  · rintro ⟨n, h⟩
    exact ((getElem?_openPositions v i n j).mp h).1
  · intro h
    have hle := h.unclosed i (Nat.le_refl i)
    exact ⟨_, (getElem?_openPositions v i _ j).mpr ⟨h, (Nat.add_sub_of_le hle).symm⟩⟩

/-! ### The state of the search -/

/-- Whether `var` stands directly before position `j`, in any letter case. -/
def isVarAt (v : Text) (j : Nat) : Bool :=
  (Text.toLowerAscii (v.take j)).endsWith (Text.ofString "var")

namespace State

/-- The state of a search that stands behind the text `u`, and in no name. -/
def behind (u : Text) : State := u.foldl next {}

theorem behind_concat (u : Text) (c : UInt8) : behind (u ++ [c]) = (behind u).next c :=
  List.foldl_concat ..

theorem toQuotes_behind (u : Text) : (behind u).toQuotes = Quotes.after {} u := by
  induction u using List.reverseRecOn with
  | nil => rfl
  | append_singleton u c ih =>
    rw [behind_concat, Quotes.after_append, ← ih]
    rfl

theorem before_behind (u : Text) : (behind u).before = u.reverse := by
  induction u using List.reverseRecOn with
  | nil => rfl
  | append_singleton u c ih =>
    rw [behind_concat, List.reverse_concat, ← ih]
    rfl

theorem inName_behind (u : Text) : (behind u).inName = false := by
  induction u using List.reverseRecOn with
  | nil => rfl
  | append_singleton u c ih =>
    rw [behind_concat]
    rfl

theorem isVar_behind (u : Text) :
    (behind u).isVar = u.toLowerAscii.endsWith (Text.ofString "var") := by
  rw [Bool.eq_iff_iff, isVar, before_behind, Text.endsWith, List.isSuffixOf_iff_suffix,
    ← List.reverse_prefix, List.prefix_iff_eq_take, beq_iff_eq, Text.toLowerAscii,
    ← List.map_reverse, ← List.map_take]
  exact eq_comm

/-- Outside strings, an opening parenthesis is put on the stack, and a closing one takes the top. -/
theorem nextParens_eq (s : State) (c : UInt8) : s.nextParens c =
    if c = Byte.openParen ∧ s.isQuoted = false then s.isVar :: s.parens
    else if c = Byte.closeParen ∧ s.isQuoted = false then s.parens.tail
    else s.parens := by
  have hopen : s.turns Byte.openParen = false := Quotes.turns_of_not_mem (by decide) _
  have hclose : s.turns Byte.closeParen = false := Quotes.turns_of_not_mem (by decide) _
  rw [nextParens]
  by_cases h1 : c = Byte.openParen
  · subst h1
    cases hq : s.isQuoted <;> simp [hopen, Byte.openParen, Byte.closeParen]
  · by_cases h2 : c = Byte.closeParen
    · subst h2
      cases hq : s.isQuoted <;> simp [hclose, Byte.openParen, Byte.closeParen]
    · simp [h1, h2]

/-- The stack of the search belongs to the positions of the open parentheses. -/
theorem parens_behind (hi : i ≤ v.length) :
    (behind (v.take i)).parens = (openPositions v i).map (isVarAt v) := by
  induction i with
  | zero => rfl
  | succ i ih =>
    have hlast : v[i]? = some v[i] := List.getElem?_eq_getElem hi
    have htake : v.take (i + 1) = v.take i ++ [v[i]] := List.take_succ_eq_append_getElem hi
    have hplain : ∀ c, isPlainAt v c i = true ↔
        v[i] = c ∧ (behind (v.take i)).isQuoted = false := by
      intro c
      rw [isPlainAt, hlast, toQuotes_behind]
      simp
    have hparens : (behind (v.take (i + 1))).parens = (behind (v.take i)).nextParens v[i] := by
      rw [htake, behind_concat]
      rfl
    rw [hparens, nextParens_eq, openPositions, ih (Nat.le_of_succ_le hi), isVar_behind]
    simp only [hplain]
    split
    · rfl
    · split
      · exact (List.map_tail ..).symm
      · rfl

/-- The same state in a wrapped name. -/
def inside (s : State) : State := { s with inName := true }

/-- A byte of a name means nothing for strings and parentheses. -/
theorem not_mem_of_isIdent {c : UInt8} (hc : Byte.isIdent c = true) :
    c ∉ Byte.quoting ++ Byte.brackets := by
  intro hmem
  have hany := List.any_eq_true.mpr ⟨c, hmem, hc⟩
  exact absurd hany (by decide)

theorem nextInName_eq (s : State) {c : UInt8} (hc : Byte.isIdent c = true) :
    s.nextInName c = (s.next c).inside := by
  have hplain := not_mem_of_isIdent hc
  rw [List.mem_append, not_or] at hplain
  have hturns := Quotes.turns_of_not_mem hplain.1 s.toQuotes
  obtain ⟨hquoting, hbrackets⟩ := hplain
  simp only [Byte.quoting, Byte.brackets, List.mem_cons, List.not_mem_nil, or_false, not_or]
    at hquoting hbrackets
  simp [nextInName, inside, next, Quotes.next, nextParens, hturns, hquoting, hbrackets]

theorem eq_hyphen_of_startsName {s : State} {c : UInt8} {r : Text}
    (h : s.startsName (c :: r) = true) : c = Byte.hyphen := by
  simp only [startsName, Bool.and_eq_true] at h
  have hmatch := h.2
  split at hmatch
  · exact (List.cons.inj ‹_›).1
  · exact absurd hmatch Bool.false_ne_true

end State

open State

/-- Apart from the parenthesis that ends the name, a search behind a name goes on as one that has
met none. -/
theorem wrapFrom_inside {s : State} (hs : s.inName = false) {r : Text}
    (hr : ∀ c ∈ r.head?, Byte.isIdent c = false) :
    wrapFrom s.inside r = Byte.closeParen :: wrapFrom s r := by
  cases r with
  | nil => simp [wrapFrom, inside, hs]
  | cons c r =>
    have hc := hr c rfl
    have hsame : (!s.inside.turns c && !s.inside.isQuoted && s.inside.startsName (c :: r))
        = (!s.turns c && !s.isQuoted && s.startsName (c :: r)) := rfl
    simp only [wrapFrom, hc, hs, hsame, Bool.and_false, Bool.false_eq_true, if_false]
    split <;> rfl

theorem wrapFrom_inside_ident (s : State) {c : UInt8} (hc : Byte.isIdent c = true) (r : Text) :
    wrapFrom s.inside (c :: r) = c :: wrapFrom (s.next c).inside r := by
  have hnext : s.inside.nextInName c = (s.next c).inside := nextInName_eq s hc
  rw [wrapFrom, hc, hnext]
  rfl

/-- A search in a name goes on to the end of the name, and closes the parenthesis there. -/
theorem wrapFrom_inside_behind (u r : Text) : wrapFrom (behind u).inside r =
    r.takeWhile Byte.isIdent ++ Byte.closeParen ::
      wrapFrom (behind (u ++ r.takeWhile Byte.isIdent)) (r.dropWhile Byte.isIdent) := by
  induction r generalizing u with
  | nil =>
    rw [wrapFrom_inside (inName_behind u) (by simp), List.takeWhile_nil, List.append_nil]
    rfl
  | cons c r ih =>
    cases hc : Byte.isIdent c with
    | true =>
      rw [wrapFrom_inside_ident _ hc, ← behind_concat, ih, List.takeWhile_cons_of_pos hc,
        List.dropWhile_cons_of_pos hc, List.append_assoc, List.singleton_append, List.cons_append]
    | false =>
      have hnot : ¬ Byte.isIdent c = true := by simp [hc]
      have hhead : ∀ d ∈ (c :: r).head?, Byte.isIdent d = false := by
        rintro d ⟨⟩
        exact hc
      rw [wrapFrom_inside (inName_behind u) hhead, List.takeWhile_cons_of_neg hnot,
        List.dropWhile_cons_of_neg hnot, List.append_nil]
      rfl

/-- Where a name starts, it is wrapped. -/
theorem wrapFrom_of_startsName {u r : Text} (hq : (behind u).isQuoted = false)
    (h : (behind u).startsName r = true) : wrapFrom (behind u) r =
      Text.ofString "var(" ++ r.takeWhile Byte.isIdent ++ Byte.closeParen ::
        wrapFrom (behind (u ++ r.takeWhile Byte.isIdent)) (r.dropWhile Byte.isIdent) := by
  cases r with
  | nil => simp [startsName] at h
  | cons c r =>
    obtain rfl := eq_hyphen_of_startsName h
    have hc : Byte.isIdent Byte.hyphen = true := by decide
    have hturns := Quotes.turns_of_not_mem (c := Byte.hyphen) (by decide) (behind u).toQuotes
    have hname := wrapFrom_inside_behind (u ++ [Byte.hyphen]) r
    rw [behind_concat, List.append_assoc, List.singleton_append] at hname
    rw [wrapFrom, inName_behind, hturns, hq, h, nextInName_eq _ hc, List.takeWhile_cons_of_pos hc,
      List.dropWhile_cons_of_pos hc, hname]
    simp

/-- Where none starts, the next byte is kept. -/
theorem wrapFrom_of_not_startsName {u : Text} {c : UInt8} {r : Text}
    (h : ¬ ((behind u).isQuoted = false ∧ (behind u).startsName (c :: r) = true)) :
    wrapFrom (behind u) (c :: r) = c :: wrapFrom (behind (u ++ [c])) r := by
  have hcond : (!(behind u).turns c && !(behind u).isQuoted && (behind u).startsName (c :: r))
      = false := by
    rw [Bool.eq_false_iff]
    intro hcond
    simp only [Bool.and_eq_true, Bool.not_eq_true'] at hcond
    exact h ⟨hcond.1.2, hcond.2⟩
  rw [wrapFrom, inName_behind, hcond, behind_concat]
  rfl

/-! ### Spans -/

/-- A bare custom property starts at position `i`. -/
structure StartsAt (v : Text) (i : Nat) : Prop where
  unquoted : (Quotes.after {} (v.take i)).isQuoted = false
  hyphens : (v.drop i).take 2 = [Byte.hyphen, Byte.hyphen]
  follows : ∃ s, (Utf8.symbols (v.drop (i + 2))).head? = some s ∧ s.isIdent = true ∧ s ≠ .scalar '-'
  precedes : ∀ s ∈ (Utf8.symbols (v.take i)).getLast?, s.isIdent = false
  free : ∀ j, IsOpenAt v j i → isVarAt v j = false

/-- The position behind the identifier symbols that start at position `i`. -/
def nameEnd (v : Text) (i : Nat) : Nat :=
  i + (((Utf8.symbols (v.drop i)).takeWhile Symbol.isIdent).flatMap Symbol.bytes).length

theorem contains_parens_behind (hi : i ≤ v.length) :
    (behind (v.take i)).parens.contains true = false ↔
      ∀ j, IsOpenAt v j i → isVarAt v j = false := by
  rw [parens_behind hi, Bool.eq_false_iff, Ne, List.contains_iff_mem, List.mem_map, not_exists]
  refine forall_congr' fun j => ?_
  rw [mem_openPositions_iff, not_and, Bool.not_eq_true]

theorem isIdent_before_behind (u : Text) :
    ((behind u).before.head?.map Byte.isIdent).getD false = false ↔
      ∀ s ∈ (Utf8.symbols u).getLast?, s.isIdent = false := by
  rw [before_behind, List.head?_reverse, ← Utf8.isIdent_getLast?_symbols]
  cases (Utf8.symbols u).getLast? <;> simp

/-- Which bytes a name starts with, in terms of symbols. -/
theorem startsName_iff {s : State} {t : Text} : s.startsName t = true ↔
    (s.parens.contains true = false ∧ (s.before.head?.map Byte.isIdent).getD false = false) ∧
      t.take 2 = [Byte.hyphen, Byte.hyphen] ∧
      ∃ x, (Utf8.symbols (t.drop 2)).head? = some x ∧ x.isIdent = true ∧ x ≠ .scalar '-' := by
  unfold startsName
  rw [Bool.and_eq_true, Bool.and_eq_true, Bool.not_eq_true', Bool.not_eq_true']
  refine and_congr_right fun _ => ?_
  constructor
  · intro h
    split at h
    · rename_i c r
      rw [Bool.and_eq_true, bne_iff_ne] at h
      have hident := Utf8.isIdent_head?_symbols (c :: r)
      obtain ⟨x, hx, hxc⟩ := Option.map_eq_some_iff.mp hident
      refine ⟨rfl, x, hx, hxc.trans h.2, ?_⟩
      rintro rfl
      have hhyphen := (Utf8.head?_symbols_eq_hyphen (c :: r)).mp hx
      exact h.1 (Option.some.inj hhyphen)
    · exact absurd h Bool.false_ne_true
  · rintro ⟨htake, x, hx, hident, hne⟩
    have hsplit : t = Byte.hyphen :: Byte.hyphen :: t.drop 2 := by
      conv_lhs => rw [← List.take_append_drop 2 t, htake]
      rfl
    have hhead := Utf8.isIdent_head?_symbols (t.drop 2)
    rw [hx, Option.map_some, hident] at hhead
    obtain ⟨c, hc, hcident⟩ := Option.map_eq_some_iff.mp hhead.symm
    obtain ⟨r, hr⟩ := List.head?_eq_some_iff.mp hc
    have hcne : c ≠ Byte.hyphen := by
      rintro rfl
      rw [(Utf8.head?_symbols_eq_hyphen _).mpr hc] at hx
      exact hne (Option.some.inj hx).symm
    rw [hsplit, hr]
    show (c != Byte.hyphen && Byte.isIdent c) = true
    rw [Bool.and_eq_true, bne_iff_ne]
    exact ⟨hcne, hcident⟩

theorem startsAt_iff (hi : i ≤ v.length) : StartsAt v i ↔
    (behind (v.take i)).isQuoted = false ∧ (behind (v.take i)).startsName (v.drop i) = true := by
  rw [startsName_iff, contains_parens_behind hi, isIdent_before_behind, toQuotes_behind,
    List.drop_drop]
  constructor
  · rintro ⟨hq, htake, hx, hlast, hfree⟩
    exact ⟨hq, ⟨hfree, hlast⟩, htake, hx⟩
  · rintro ⟨hq, ⟨hfree, hlast⟩, htake, hx⟩
    exact ⟨hq, htake, hx, hlast, hfree⟩

theorem nameEnd_eq (v : Text) (i : Nat) :
    nameEnd v i = i + ((v.drop i).takeWhile Byte.isIdent).length := by
  rw [nameEnd, Utf8.flatMap_bytes_takeWhile_isIdent]

/-- The bytes of a value from position `a` up to `b`, without `b`. -/
def slice (v : Text) (a b : Nat) : Text := (v.drop a).take (b - a)

theorem slice_nameEnd (v : Text) (i : Nat) :
    slice v i (nameEnd v i) = (v.drop i).takeWhile Byte.isIdent := by
  rw [slice, nameEnd_eq, Nat.add_sub_cancel_left]
  exact (List.prefix_iff_eq_take.mp (List.takeWhile_prefix _)).symm

theorem take_nameEnd (v : Text) (i : Nat) :
    v.take (nameEnd v i) = v.take i ++ (v.drop i).takeWhile Byte.isIdent := by
  have hle : i ≤ nameEnd v i := Nat.le_add_right ..
  rw [← slice_nameEnd, slice, ← List.take_add, Nat.add_sub_of_le hle]

theorem drop_nameEnd (v : Text) (i : Nat) :
    v.drop (nameEnd v i) = (v.drop i).dropWhile Byte.isIdent := by
  have hdrop := congrArg (List.drop ((v.drop i).takeWhile Byte.isIdent).length)
    (List.takeWhile_append_dropWhile (p := Byte.isIdent) (l := v.drop i))
  rw [List.drop_left, List.drop_drop, ← nameEnd_eq] at hdrop
  exact hdrop.symm

theorem nameEnd_le_length (hi : i ≤ v.length) : nameEnd v i ≤ v.length := by
  have hrun := (List.takeWhile_prefix (p := Byte.isIdent) (l := v.drop i)).length_le
  rw [List.length_drop] at hrun
  rw [nameEnd_eq]
  omega

namespace StartsAt

theorem drop_eq (h : StartsAt v i) :
    v.drop i = Byte.hyphen :: Byte.hyphen :: v.drop (i + 2) := by
  conv_lhs => rw [← List.take_append_drop 2 (v.drop i), h.hyphens, List.drop_drop]
  rfl

theorem lt_nameEnd (h : StartsAt v i) : i < nameEnd v i := by
  have hident : Byte.isIdent Byte.hyphen = true := by decide
  rw [nameEnd_eq, h.drop_eq, List.takeWhile_cons_of_pos hident, List.length_cons]
  omega

theorem lt_length (h : StartsAt v i) : i < v.length := by
  by_contra hlen
  have hnil := h.drop_eq
  rw [List.drop_eq_nil_of_le (Nat.not_lt.mp hlen)] at hnil
  exact absurd hnil (List.cons_ne_nil _ _).symm

/-- No name starts inside of another: the symbol before would be one of an identifier. -/
theorem nameEnd_le {k : Nat} (h : StartsAt v k) (hik : i < k) : nameEnd v i ≤ k := by
  by_contra hlt
  have hrun : slice v i k <+: (v.drop i).takeWhile Byte.isIdent := by
    rw [← slice_nameEnd, slice, slice]
    exact List.take_prefix_take_left (by omega)
  have hne : slice v i k ≠ [] := by
    have hlen := h.lt_length
    rw [← List.length_pos_iff, slice, List.length_take, List.length_drop]
    omega
  have hlast : (v.take k).getLast? = some ((slice v i k).getLast hne) := by
    have htake : v.take k = v.take i ++ slice v i k := by
      rw [slice, ← List.take_add, Nat.add_sub_of_le (Nat.le_of_lt hik)]
    rw [htake, List.getLast?_append_of_ne_nil _ hne, List.getLast?_eq_some_getLast hne]
  have hident : Byte.isIdent ((slice v i k).getLast hne) = true :=
    List.mem_takeWhile_imp (hrun.subset (List.getLast_mem hne))
  have hsymbol := Utf8.isIdent_getLast?_symbols (v.take k)
  rw [hlast, Option.map_some, hident] at hsymbol
  obtain ⟨x, hx, hxident⟩ := Option.map_eq_some_iff.mp hsymbol
  rw [h.precedes x hx] at hxident
  exact absurd hxident Bool.false_ne_true

end StartsAt

/-- The spans of the bare custom properties of a value, from left to right: a span starts where one
does and no span before is still going on, and it takes the identifier symbols from there on. -/
structure IsSpans (v : Text) (spans : List (Nat × Nat)) : Prop where
  ordered : spans.Pairwise fun x y => x.2 ≤ y.1
  mem_iff : ∀ x, x ∈ spans ↔
    (StartsAt v x.1 ∧ ∀ y ∈ spans, y.1 < x.1 → y.2 ≤ x.1) ∧ x.2 = nameEnd v x.1

/-- A value from position `p` on, with `var(` and `)` put around the given spans. -/
def wrapSpans (v : Text) (p : Nat) : List (Nat × Nat) → Text
  | [] => v.drop p
  | (i, e) :: spans =>
    slice v p i ++ Text.ofString "var(" ++ slice v i e ++ Byte.closeParen :: wrapSpans v e spans

/-- No span is inside of another anyway, so that a name has a span wherever it starts. -/
theorem isSpans_iff {spans : List (Nat × Nat)} : IsSpans v spans ↔
    (spans.Pairwise fun x y => x.2 ≤ y.1) ∧
      ∀ x, x ∈ spans ↔ StartsAt v x.1 ∧ x.2 = nameEnd v x.1 := by
  have hfree : ∀ {x y : Nat × Nat}, StartsAt v x.1 → y.2 = nameEnd v y.1 → y.1 < x.1 →
      y.2 ≤ x.1 := by
    intro x y hx hy hlt
    rw [hy]
    exact hx.nameEnd_le hlt
  constructor
  · rintro ⟨hordered, hmem⟩
    refine ⟨hordered, fun x => (hmem x).trans ⟨?_, ?_⟩⟩
    · rintro ⟨⟨hx, -⟩, hend⟩
      exact ⟨hx, hend⟩
    · rintro ⟨hx, hend⟩
      exact ⟨⟨hx, fun y hy => hfree hx ((hmem y).mp hy).2⟩, hend⟩
  · rintro ⟨hordered, hmem⟩
    refine ⟨hordered, fun x => (hmem x).trans ⟨?_, ?_⟩⟩
    · rintro ⟨hx, hend⟩
      exact ⟨⟨hx, fun y hy => hfree hx ((hmem y).mp hy).2⟩, hend⟩
    · rintro ⟨⟨hx, -⟩, hend⟩
      exact ⟨hx, hend⟩

/-- A value has no other spans. -/
theorem IsSpans.unique {spans spans' : List (Nat × Nat)} (h : IsSpans v spans)
    (h' : IsSpans v spans') : spans' = spans := by
  have hlt : ∀ {l : List (Nat × Nat)}, IsSpans v l → ∀ x ∈ l, x.1 < x.2 := by
    intro l hl x hx
    obtain ⟨hstart, hend⟩ := ((isSpans_iff.mp hl).2 x).mp hx
    rw [hend]
    exact hstart.lt_nameEnd
  have hnodup : ∀ {l : List (Nat × Nat)}, IsSpans v l → l.Nodup := by
    intro l hl
    refine hl.ordered.imp_of_mem fun {x y} hx _ hxy heq => ?_
    subst heq
    exact Nat.not_le.mpr (hlt hl x hx) hxy
  have hperm : spans'.Perm spans := by
    rw [List.perm_ext_iff_of_nodup (hnodup h') (hnodup h)]
    exact fun x => ((isSpans_iff.mp h').2 x).trans ((isSpans_iff.mp h).2 x).symm
  -- of two spans, only one can come first
  refine hperm.eq_of_pairwise (fun x y hx hy hxy hyx => ?_) h'.ordered h.ordered
  have hxlt := hlt h' x hx
  have hylt := hlt h y hy
  omega

theorem wrapSpans_of_lt {p : Nat} (hp : p < v.length) {spans : List (Nat × Nat)}
    (h : ∀ x ∈ spans, p < x.1) :
    wrapSpans v p spans = v[p] :: wrapSpans v (p + 1) spans := by
  have hdrop : v.drop p = v[p] :: v.drop (p + 1) := List.drop_eq_getElem_cons hp
  cases spans with
  | nil => exact hdrop
  | cons x spans =>
    have hx : p < x.1 := h x (List.mem_cons_self ..)
    have hlength : x.1 - p = x.1 - (p + 1) + 1 := by omega
    have hslice : slice v p x.1 = v[p] :: slice v (p + 1) x.1 := by
      rw [slice, slice, hdrop, hlength, List.take_succ_cons]
    rw [wrapSpans, wrapSpans, hslice]
    rfl

/-- From any position on, the search wraps the names that start there or behind. -/
theorem exists_spans (v : Text) (p : Nat) (hp : p ≤ v.length) : ∃ spans : List (Nat × Nat),
    spans.Pairwise (fun x y => x.2 ≤ y.1) ∧
    (∀ x, x ∈ spans ↔ p ≤ x.1 ∧ StartsAt v x.1 ∧ x.2 = nameEnd v x.1) ∧
    wrapFrom (behind (v.take p)) (v.drop p) = wrapSpans v p spans := by
  induction h : v.length - p using Nat.strongRecOn generalizing p with
  | ind n ih =>
    rcases Nat.lt_or_eq_of_le hp with hlt | rfl
    · by_cases hstart : StartsAt v p
      · -- the name is passed over as a whole, and nothing starts inside of it
        have hend := hstart.lt_nameEnd
        have hle := nameEnd_le_length hp
        obtain ⟨spans, hordered, hmem, hwrap⟩ :=
          ih (v.length - nameEnd v p) (by omega) (nameEnd v p) hle rfl
        refine ⟨(p, nameEnd v p) :: spans, ?_, fun x => ?_, ?_⟩
        · exact List.pairwise_cons.mpr ⟨fun y hy => ((hmem y).mp hy).1, hordered⟩
        · rw [List.mem_cons, hmem]
          constructor
          · rintro (rfl | ⟨hx, hx'⟩)
            · exact ⟨Nat.le_refl p, hstart, rfl⟩
            · exact ⟨by omega, hx'⟩
          · rintro ⟨hx, hx', hxend⟩
            rcases Nat.lt_or_eq_of_le hx with hpx | rfl
            · exact .inr ⟨hx'.nameEnd_le hpx, hx', hxend⟩
            · exact .inl (Prod.ext rfl hxend)
        · obtain ⟨hq, hname⟩ := (startsAt_iff hp).mp hstart
          have hempty : slice v p p = [] := by rw [slice, Nat.sub_self, List.take_zero]
          rw [wrapFrom_of_startsName hq hname, ← take_nameEnd, ← drop_nameEnd, hwrap, wrapSpans,
            slice_nameEnd, hempty, List.nil_append]
      · obtain ⟨spans, hordered, hmem, hwrap⟩ :=
          ih (v.length - (p + 1)) (by omega) (p + 1) hlt rfl
        have hmem' : ∀ x, x ∈ spans ↔ p ≤ x.1 ∧ StartsAt v x.1 ∧ x.2 = nameEnd v x.1 := by
          intro x
          rw [hmem]
          refine and_congr_left fun hx => ⟨Nat.le_of_succ_le, fun hpx => ?_⟩
          have hne : p ≠ x.1 := fun heq => hstart (heq ▸ hx.1)
          exact Nat.lt_of_le_of_ne hpx hne
        refine ⟨spans, hordered, hmem', ?_⟩
        rw [startsAt_iff hp, List.drop_eq_getElem_cons hlt] at hstart
        rw [List.drop_eq_getElem_cons hlt, wrapFrom_of_not_startsName hstart,
          ← List.take_succ_eq_append_getElem hlt, hwrap,
          wrapSpans_of_lt hlt fun x hx => ((hmem x).mp hx).1]
    · refine ⟨[], List.Pairwise.nil, fun x => ⟨nofun, fun hx => ?_⟩, ?_⟩
      · exact absurd hx.2.1.lt_length (Nat.not_lt.mpr hx.1)
      · rw [List.drop_length, wrapFrom, inName_behind, wrapSpans, List.drop_length]
        rfl

/-- Wrapping puts `var(` and `)` around the spans of the bare custom properties and changes nothing
else. -/
theorem wrap_eq_wrapSpans (v : Text) : ∃ spans, IsSpans v spans ∧
    (∀ spans', IsSpans v spans' → spans' = spans) ∧ wrap v = wrapSpans v 0 spans := by
  obtain ⟨spans, hordered, hmem, hwrap⟩ := exists_spans v 0 (Nat.zero_le _)
  have hspans : IsSpans v spans := by
    refine isSpans_iff.mpr ⟨hordered, fun x => ?_⟩
    rw [hmem, and_iff_right (Nat.zero_le _)]
  exact ⟨spans, hspans, fun _ => hspans.unique, hwrap⟩

example : wrap (Text.ofString "calc(--a*VAR(--b)) '--c' x--d)--e") =
    Text.ofString "calc(var(--a)*VAR(--b)) '--c' x--d)var(--e)" := by decide +kernel

end NestedCss.Custom
