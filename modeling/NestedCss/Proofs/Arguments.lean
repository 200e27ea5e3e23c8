import NestedCss.Proofs.TopPieces
import NestedCss.Value
/-!
# The arguments of a value

A value is divided at its blanks on the top level (`isTopBlank`). In front of such a blank the
scanner is outside strings and brackets, and behind it starts anew, also where a backslash stands
before the blank. So a value is read from argument to argument (`Arguments`), each one as if it
stood alone, by a single equation (`splitValue_append`). Only the last argument may leave a string
or a bracket open, and then the value ends with it.

* `Arguments.isDividedInto`: the arguments are slices of the value in their order, and the other
  bytes are its blanks on the top level.
* `Arguments.splitValue_join`: the blanks between the arguments may be others.
-/
namespace NestedCss

/-- The position `i` lies in the span. -/
def Span.Contains (p : Span) (i : Nat) : Prop := p.off ≤ i ∧ i < p.off + p.text.length

namespace Text

variable {s : Scanner} {t gap a rest : Text} {off : Nat} {args : List Span}

/-! ### Blanks on the top level -/

/-- Whether the byte at position `i` is a blank on the top level, for a scan that starts in state
`s`. -/
def isTopBlankFrom (s : Scanner) (t : Text) (i : Nat) : Bool :=
  (s.topFlags t)[i]?.getD false && t[i]?.any Byte.isBlank

/-- Whether the byte at position `i` is a blank on the top level. -/
def isTopBlank (t : Text) (i : Nat) : Bool := isTopBlankFrom {} t i

@[simp] theorem isTopBlankFrom_nil (s : Scanner) (i : Nat) : isTopBlankFrom s [] i = false := rfl

@[simp] theorem isTopBlankFrom_cons_zero (s : Scanner) (c : UInt8) (t : Text) :
    isTopBlankFrom s (c :: t) 0 = (s.isTop c && Byte.isBlank c) := rfl

@[simp] theorem isTopBlankFrom_cons_succ (s : Scanner) (c : UInt8) (t : Text) (i : Nat) :
    isTopBlankFrom s (c :: t) (i + 1) = isTopBlankFrom (s.next c) t i := rfl

theorem isTopBlankFrom_append (t u : Text) : ∀ (s : Scanner) (i : Nat),
    isTopBlankFrom s (t ++ u) i =
      if i < t.length then isTopBlankFrom s t i
      else isTopBlankFrom (s.after t) u (i - t.length) := by
  induction t with
  | nil => intro s i; rfl
  | cons c t ih =>
    intro s i
    cases i with
    | zero => simp
    | succ i =>
      rw [List.cons_append, isTopBlankFrom_cons_succ, isTopBlankFrom_cons_succ, ih,
        List.length_cons, Nat.add_sub_add_right]
      simp only [Nat.add_lt_add_iff_right]
      rfl

/-- No byte of the text is a blank on the top level, for a scan that starts in state `s`. -/
def IsUnbroken (s : Scanner) (t : Text) : Prop := ∀ i, isTopBlankFrom s t i = false

theorem isUnbroken_cons {c : UInt8} :
    IsUnbroken s (c :: t) ↔ (s.isTop c && Byte.isBlank c) = false ∧ IsUnbroken (s.next c) t := by
  constructor
  · intro h
    exact ⟨h 0, fun i => h (i + 1)⟩
  · rintro ⟨hc, ht⟩ (_ | i)
    · exact hc
    · exact ht i

/-- A text has no blank on the top level, or it has a first one. -/
theorem isUnbroken_or (t : Text) : ∀ s : Scanner, IsUnbroken s t ∨
    ∃ (body : Text) (c : UInt8) (rest : Text), t = body ++ c :: rest ∧ IsUnbroken s body ∧
      Byte.isBlank c = true ∧ (s.after body).isTop c = true := by
  induction t with
  | nil => intro s; exact .inl (isTopBlankFrom_nil s)
  | cons c t ih =>
    intro s
    cases hc : s.isTop c && Byte.isBlank c with
    | true =>
      rw [Bool.and_eq_true] at hc
      exact .inr ⟨[], c, t, rfl, isTopBlankFrom_nil s, hc.2, hc.1⟩
    | false =>
      rcases ih (s.next c) with ht | ⟨body, d, rest, rfl, hbody, hd, htop⟩
      · exact .inl (isUnbroken_cons.mpr ⟨hc, ht⟩)
      · exact .inr ⟨c :: body, d, rest, rfl, isUnbroken_cons.mpr ⟨hc, hbody⟩, hd, htop⟩

/-- A blank outside strings and brackets is on the top level, and the scanner starts anew behind
it. -/
theorem isTop_and_next_of_isBlank {c : UInt8} (hc : Byte.isBlank c = true)
    (hquoted : s.isQuoted = false) (hdepth : s.depth = 0) : s.isTop c = true ∧ s.next c = {} := by
  have hplain : c ∉ Byte.quoting ++ Byte.brackets := not_mem_of_isBlank hc (by decide)
  exact ⟨Scanner.isTop_of_outside hquoted hdepth hplain,
    Scanner.next_of_outside hquoted hdepth hplain⟩

/-! ### One argument -/

/-- A text that is an argument when it stands alone. -/
structure IsArgument (a : Text) : Prop where
  ne_nil : a ≠ []
  unbroken : IsUnbroken {} a

theorem IsArgument.not_blank {c : UInt8} {r : Text} (h : IsArgument (c :: r)) :
    Byte.isBlank c = false := by
  have hc := (isUnbroken_cons.mp h.unbroken).1
  by_contra hblank
  rw [Bool.not_eq_false] at hblank
  rw [(isTop_and_next_of_isBlank hblank rfl rfl).1, hblank] at hc
  exact absurd hc (by decide)

/-- The argument `a` ends in front of `rest`: the value ends there, or a blank follows and nothing
is open. -/
def IsEndedBy (a rest : Text) : Prop := ∀ c ∈ rest.head?, Byte.isBlank c = true ∧ a.IsClosed

theorem isEndedBy_nil (a : Text) : a.IsEndedBy [] := by simp [IsEndedBy]

theorem isEndedBy_cons {c : UInt8} {r : Text} :
    a.IsEndedBy (c :: r) ↔ Byte.isBlank c = true ∧ a.IsClosed := by simp [IsEndedBy]

theorem isTopBlank_blank_append (hgap : gap.IsBlank) (t : Text) : ∀ i : Nat,
    isTopBlank (gap ++ t) i = (decide (i < gap.length) || isTopBlank t (i - gap.length)) := by
  induction gap with
  | nil => intro i; simp
  | cons c gap ih =>
    intro i
    obtain ⟨hc, hgap⟩ := List.forall_mem_cons.mp hgap
    obtain ⟨htop, hnext⟩ := isTop_and_next_of_isBlank (s := {}) hc rfl rfl
    cases i with
    | zero => simp [isTopBlank, htop, hc]
    | succ i =>
      have hi := ih hgap i
      rw [isTopBlank] at hi ⊢
      rw [List.cons_append, isTopBlankFrom_cons_succ, hnext, hi, List.length_cons,
        Nat.add_sub_add_right]
      simp only [Nat.add_lt_add_iff_right]

theorem isTopBlank_argument_append (ha : IsArgument a) (hend : a.IsEndedBy rest) (i : Nat) :
    isTopBlank (a ++ rest) i = (decide (a.length ≤ i) && isTopBlank rest (i - a.length)) := by
  rw [isTopBlank, isTopBlankFrom_append]
  split
  case isTrue hi => rw [ha.unbroken i, decide_eq_false (Nat.not_le.mpr hi), Bool.false_and]
  case isFalse hi =>
    rw [decide_eq_true (Nat.not_lt.mp hi), Bool.true_and, isTopBlank]
    cases rest with
    | nil => rfl
    | cons c r =>
      -- the scan behind `a` may differ from a new one in an escape only, and the blank ends that
      obtain ⟨hc, hclosed⟩ := isEndedBy_cons.mp hend
      obtain ⟨htop, hnext⟩ := isTop_and_next_of_isBlank hc hclosed.unquoted hclosed.depth
      obtain ⟨htop', hnext'⟩ := isTop_and_next_of_isBlank (s := {}) hc rfl rfl
      cases i - a.length with
      | zero => rw [isTopBlankFrom_cons_zero, isTopBlankFrom_cons_zero, htop, htop']
      | succ j => rw [isTopBlankFrom_cons_succ, isTopBlankFrom_cons_succ, hnext, hnext']

/-! ### From argument to argument -/

theorem splitValueFrom_append (rest : Text) {body : Text} :
    ∀ {s : Scanner} (word : Text), IsUnbroken s body →
      splitValueFrom s word (body ++ rest) = splitValueFrom (s.after body) (word ++ body) rest := by
  induction body with
  | nil => intro s word _; rw [List.append_nil]; rfl
  | cons c body ih =>
    intro s word h
    obtain ⟨hc, hbody⟩ := isUnbroken_cons.mp h
    rw [List.cons_append, splitValueFrom, hc, if_neg Bool.false_ne_true, ih _ hbody,
      List.append_assoc, List.singleton_append]
    rfl

theorem splitValue_blank_append (hgap : gap.IsBlank) (t : Text) :
    splitValue (gap ++ t) = splitValue t := by
  induction gap with
  | nil => rfl
  | cons c gap ih =>
    obtain ⟨hc, hgap⟩ := List.forall_mem_cons.mp hgap
    obtain ⟨htop, hnext⟩ := isTop_and_next_of_isBlank (s := {}) hc rfl rfl
    have hstep : splitValue (c :: (gap ++ t)) = splitValue (gap ++ t) := by
      rw [splitValue, splitValueFrom, htop, hc, hnext]
      rfl
    rw [List.cons_append, hstep, ih hgap]

/-- Behind an argument the value is read as if it started there. -/
theorem splitValue_append (ha : IsArgument a) (hend : a.IsEndedBy rest) :
    splitValue (a ++ rest) = a :: splitValue rest := by
  have hne : a.isEmpty = false := List.isEmpty_eq_false_iff.mpr ha.ne_nil
  rw [splitValue, splitValueFrom_append rest [] ha.unbroken, List.nil_append]
  cases rest with
  | nil =>
    rw [splitValueFrom, hne]
    rfl
  | cons c r =>
    obtain ⟨hc, hclosed⟩ := isEndedBy_cons.mp hend
    obtain ⟨htop, hnext⟩ := isTop_and_next_of_isBlank hc hclosed.unquoted hclosed.depth
    have hskip : splitValue (c :: r) = splitValue r :=
      splitValue_blank_append (List.forall_mem_singleton.mpr hc) r
    rw [hskip, splitValueFrom, htop, hc, hne, hnext]
    rfl

/-- The arguments of the text `t`, which stands at position `off`. -/
inductive Arguments : Nat → Text → List Span → Prop
  /-- Blanks only. -/
  | nil {off : Nat} {gap : Text} (blank : gap.IsBlank) : Arguments off gap []
  /-- An argument behind blanks, and the other arguments. -/
  | cons {off : Nat} {gap a rest : Text} {args : List Span} (blank : gap.IsBlank)
      (argument : IsArgument a) (ended : a.IsEndedBy rest)
      (more : Arguments (off + gap.length + a.length) rest args) :
      Arguments off (gap ++ (a ++ rest)) (⟨a, (off + gap.length : Nat)⟩ :: args)

/-- A text that is not blank is an argument behind blanks, with the end or a blank behind it. -/
theorem exists_argument (ht : ¬ t.IsBlank) : ∃ gap a rest : Text,
    t = gap ++ (a ++ rest) ∧ gap.IsBlank ∧ IsArgument a ∧ a.IsEndedBy rest := by
  obtain ⟨gap, hgap, hsplit⟩ := eq_append_trimLeft t
  cases hfront : t.trimLeft with
  | nil => exact absurd (trimLeft_eq_nil_iff.mp hfront) ht
  | cons c r =>
    rw [hfront] at hsplit
    have hc := not_blank_of_trimLeft hfront
    rcases isUnbroken_or (c :: r) {} with hall | ⟨body, d, rest, heq, hbody, hd, htop⟩
    · exact ⟨gap, c :: r, [], by rw [List.append_nil, hsplit], hgap,
        ⟨List.cons_ne_nil c r, hall⟩, isEndedBy_nil _⟩
    · have hne : body ≠ [] := by
        rintro rfl
        obtain ⟨rfl, -⟩ := List.cons.inj heq
        rw [hc] at hd
        exact Bool.false_ne_true hd
      obtain ⟨hquoted, hdepth⟩ := Scanner.outside_of_isTop htop
      exact ⟨gap, body, d :: rest, by rw [← heq, hsplit], hgap, ⟨hne, hbody⟩,
        isEndedBy_cons.mpr ⟨hd, hquoted, hdepth⟩⟩

theorem exists_arguments (t : Text) : ∀ off : Nat,
    ∃ args, Arguments off t args ∧ args.map (·.text) = t.splitValue := by
  -- by the number of bytes that are left, from argument to argument
  induction hlen : t.length using Nat.strong_induction_on generalizing t with
  | _ len ih =>
  intro off
  by_cases ht : t.IsBlank
  · have hnone : splitValue t = [] := by
      have h := splitValue_blank_append ht []
      rwa [List.append_nil] at h
    exact ⟨[], .nil ht, hnone.symm⟩
  · obtain ⟨gap, a, rest, rfl, hgap, ha, hend⟩ := exists_argument ht
    have hpos : 0 < a.length := List.length_pos_iff.mpr ha.ne_nil
    have hshort : rest.length < len := by
      rw [← hlen, List.length_append, List.length_append]
      omega
    obtain ⟨args, hargs, htexts⟩ := ih _ hshort rest rfl (off + gap.length + a.length)
    refine ⟨_, .cons hgap ha hend hargs, ?_⟩
    rw [splitValue_blank_append hgap, splitValue_append ha hend, List.map_cons, htexts]

/-- The spans `args` divide the value `v` at its blanks on the top level. -/
structure IsDividedInto (v : Text) (args : List Span) : Prop where
  /-- Every span is the slice of the value at its position. -/
  slice : ∀ p ∈ args, ∃ front back : Text, v = front ++ p.text ++ back ∧ p.off = front.length
  /-- A span ends before the next ones, with a byte between them. -/
  ordered : args.Pairwise fun (p q : Span) => p.off + p.text.length < q.off
  /-- The bytes outside the spans are the blanks on the top level. -/
  outside : ∀ i < v.length, (∀ p ∈ args, ¬ p.Contains i) ↔ v.isTopBlank i = true

namespace Arguments

theorem isArgument (h : Arguments off t args) : ∀ p ∈ args, IsArgument p.text := by
  induction h with
  | nil => intro p hp; exact absurd hp List.not_mem_nil
  | cons _ argument _ _ ih => exact List.forall_mem_cons.mpr ⟨argument, ih⟩

theorem slice (h : Arguments off t args) : ∀ p ∈ args, ∃ front back : Text,
    t = front ++ p.text ++ back ∧ p.off = (off + front.length : Nat) := by
  induction h with
  | nil => intro p hp; exact absurd hp List.not_mem_nil
  | @cons off gap a rest args _ _ _ _ ih =>
    intro p hp
    rcases List.mem_cons.mp hp with rfl | hp
    · exact ⟨gap, rest, by rw [List.append_assoc], rfl⟩
    · obtain ⟨front, back, hrest, hoff⟩ := ih p hp
      refine ⟨gap ++ a ++ front, back, ?_, ?_⟩
      · rw [hrest]
        simp only [List.append_assoc]
      · rw [hoff, List.length_append, List.length_append, Nat.add_assoc, Nat.add_assoc,
          Nat.add_assoc]

/-- No argument starts directly behind another one. -/
theorem lt_off (h : Arguments off rest args) (hend : a.IsEndedBy rest) :
    ∀ p ∈ args, off < p.off := by
  intro p hp
  obtain ⟨front, back, hrest, hoff⟩ := h.slice p hp
  have hfront : front ≠ [] := by
    rintro rfl
    have hargument := h.isArgument p hp
    obtain ⟨c, r, htext⟩ := List.exists_cons_of_ne_nil hargument.ne_nil
    rw [htext] at hargument hrest
    rw [hrest] at hend
    have hblank := (isEndedBy_cons.mp hend).1
    rw [hargument.not_blank] at hblank
    exact Bool.false_ne_true hblank
  have hpos : 0 < front.length := List.length_pos_iff.mpr hfront
  rw [hoff]
  omega

theorem pairwise (h : Arguments off t args) :
    args.Pairwise fun (p q : Span) => p.off + p.text.length < q.off := by
  induction h with
  | nil => exact .nil
  | cons _ _ ended more ih =>
    refine .cons (fun q hq => ?_) ih
    have hlt := more.lt_off ended q hq
    rwa [Int.natCast_add] at hlt

theorem outside (h : Arguments off t args) : ∀ i < t.length,
    (∀ p ∈ args, ¬ p.Contains (off + i)) ↔ t.isTopBlank i = true := by
  induction h with
  | @nil off gap blank =>
    intro i hi
    have hgap := isTopBlank_blank_append blank [] i
    rw [List.append_nil, decide_eq_true hi, Bool.true_or] at hgap
    simp [hgap]
  | @cons off gap a rest args blank argument ended more ih =>
    intro i hi
    have hbehind := more.lt_off ended
    rw [isTopBlank_blank_append blank, isTopBlank_argument_append argument ended,
      List.forall_mem_cons]
    simp only [Span.Contains] at ih ⊢
    -- in the blanks, in the argument, or behind it
    rcases Nat.lt_or_ge i gap.length with hgap | hgap
    · rw [decide_eq_true hgap, Bool.true_or]
      refine iff_of_true ⟨by omega, fun p hp => ?_⟩ rfl
      have hlt := hbehind p hp
      omega
    rw [decide_eq_false (Nat.not_lt.mpr hgap), Bool.false_or]
    rcases Nat.lt_or_ge (i - gap.length) a.length with ha | ha
    · rw [decide_eq_false (Nat.not_le.mpr ha), Bool.false_and]
      exact iff_of_false (fun h => h.1 (by omega)) Bool.false_ne_true
    · have hin : i - gap.length - a.length < rest.length := by
        rw [List.length_append, List.length_append] at hi
        omega
      have hplace : off + gap.length + a.length + (i - gap.length - a.length) = off + i := by omega
      have hrest := ih _ hin
      rw [hplace] at hrest
      rw [decide_eq_true ha, Bool.true_and, ← hrest]
      exact and_iff_right (by omega)

theorem isDividedInto (h : Arguments 0 t args) : t.IsDividedInto args := by
  refine ⟨fun p hp => ?_, h.pairwise, fun i hi => ?_⟩
  · obtain ⟨front, back, ht, hoff⟩ := h.slice p hp
    exact ⟨front, back, ht, by rw [hoff, Nat.zero_add]⟩
  · have hiff := h.outside i hi
    rwa [Nat.zero_add] at hiff

/-- The arguments are the same with other blanks between them. -/
theorem splitValue_join (hgap : gap.IsBlank) (hne : gap ≠ []) (h : Arguments off t args) :
    (Text.join gap (args.map (·.text))).splitValue = args.map (·.text) := by
  induction h with
  | nil => rfl
  | @cons off _ a rest args _ argument ended more ih =>
    cases args with
    | nil =>
      have hlone := splitValue_append argument (isEndedBy_nil a)
      rw [List.append_nil] at hlone
      exact hlone
    | cons q args =>
      -- another argument follows, so `a` is closed
      have hclosed : a.IsClosed := by
        cases rest with
        | nil =>
          obtain ⟨front, back, hrest, -⟩ := more.slice q List.mem_cons_self
          have hq := (more.isArgument q List.mem_cons_self).ne_nil
          simp [hq] at hrest
        | cons c r => exact (isEndedBy_cons.mp ended).2
      have hend : a.IsEndedBy (gap ++ Text.join gap ((q :: args).map (·.text))) := by
        obtain ⟨c, r, rfl⟩ := List.exists_cons_of_ne_nil hne
        exact isEndedBy_cons.mpr ⟨hgap c List.mem_cons_self, hclosed⟩
      rw [List.map_cons, List.map_cons, Text.join, List.append_assoc, ← List.map_cons,
        splitValue_append argument hend, splitValue_blank_append hgap, ih]

end Arguments

/-- **Dividing a value into its arguments is exact and stable.** Every argument is a text that is
not empty and that has no blank on its top level. The arguments are slices of the value, one behind
the other, and the bytes outside them are the blanks on the top level of the value. Joined with
single spaces they are divided in the same way. -/
theorem splitValue_exact (v : Text) :
    (∀ a ∈ v.splitValue, a ≠ [] ∧ ∀ i, a.isTopBlank i = false) ∧
      (∃ args : List Span, args.map (·.text) = v.splitValue ∧ v.IsDividedInto args) ∧
      (Text.join [Byte.space] v.splitValue).splitValue = v.splitValue := by
  obtain ⟨args, hargs, htexts⟩ := exists_arguments v 0
  have hspace : IsBlank [Byte.space] := isBlank_replicate 1
  refine ⟨?_, ⟨args, htexts, hargs.isDividedInto⟩, ?_⟩
  · rw [← htexts, List.forall_mem_map]
    intro p hp
    exact ⟨(hargs.isArgument p hp).ne_nil, (hargs.isArgument p hp).unbroken⟩
  · rw [← htexts]
    exact hargs.splitValue_join hspace (List.cons_ne_nil _ _)

-- a blank behind a backslash, an escaped quote, a bracket without a partner, and an open string
example : (Text.ofString "\ta\\  \\\"b (c d)] \"e f").splitValue
    = ["a\\", "\\\"b", "(c d)]", "\"e f"].map Text.ofString := by decide

end Text

end NestedCss
