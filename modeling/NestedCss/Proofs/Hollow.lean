import NestedCss.Proofs.SelectorScan
/-!
# Hollow selectors

A selector of blanks and combinators only has an empty normal form. Below an empty parent the same
holds of a selector that has ampersands besides. So an alternative of a nested rule is empty exactly
when it is made of such selectors all the way down (`nests_alternatives`).
-/
namespace NestedCss.Selector

/-! ### What belongs to no run -/

/-- The bytes of a selector that belong to no run. -/
def core (t : Text) : Text := t.filter (! isRunByte ·)

/-- A selector of bytes that belong to runs. -/
def isHollow (a : Text) : Bool := a.all isRunByte

/-- A selector that leaves nothing behind below an empty parent. -/
def isHollowBelow (a : Text) : Bool := a.all fun c => isRunByte c || c == Byte.ampersand

theorem core_append (a b : Text) : core (a ++ b) = core a ++ core b := List.filter_append ..

theorem core_eq_nil_iff {t : Text} : core t = [] ↔ isHollow t = true := by
  simp [core, isHollow]

theorem core_of_isBlank {b : Text} (hb : b.IsBlank) : core b = [] :=
  core_eq_nil_iff.mpr (List.all_eq_true.mpr fun c hc => isRunByte_of_isBlank (hb c hc))

theorem core_trimLeft (t : Text) : core t.trimLeft = core t := by
  obtain ⟨a, ha, hsplit⟩ := Text.eq_append_trimLeft t
  conv_rhs => rw [hsplit, core_append, core_of_isBlank ha, List.nil_append]

theorem core_trimRight (t : Text) : core t.trimRight = core t := by
  obtain ⟨b, hb, hsplit⟩ := Text.eq_trimRight_append t
  conv_rhs => rw [hsplit, core_append, core_of_isBlank hb, List.append_nil]

theorem core_trim (t : Text) : core t.trim = core t := (core_trimRight _).trans (core_trimLeft t)

/-- The normal form changes runs only. -/
theorem core_run (pretty : Bool) (t : Text) : ∀ {st : NormalState}, st.Tidy →
    core (NormalState.run pretty st t) = core t := by
  induction t with
  | nil => intro st _; rfl
  | cons c t ih =>
    intro st ht
    have ih' := ih (NormalState.tidy_next (c := c) ht)
    by_cases habs : st.absorbs c = true
    · rw [NormalState.run_of_absorbs habs, ← NormalState.next_of_absorbs habs, ih', core, core,
        List.filter_cons, NormalState.isRunByte_of_absorbs habs]
      rfl
    · rw [Bool.not_eq_true] at habs
      have hflush : core (st.flush pretty) = [] := core_eq_nil_iff.mpr
        (List.all_eq_true.mpr (NormalState.isRunByte_of_mem_flush ht pretty))
      rw [NormalState.run_of_not_absorbs ht habs, core_append, hflush, List.nil_append, core, core,
        List.filter_cons, List.filter_cons, ← core, ← core, ih']

/-- A run at the end is never written. -/
theorem run_of_isHollow (pretty : Bool) {t : Text} (h : isHollow t = true) : ∀ p,
    NormalState.run pretty { pending := p } t = [] := by
  induction t with
  | nil => intro p; rfl
  | cons c t ih =>
    intro p
    rw [isHollow, List.all_cons, Bool.and_eq_true] at h
    have habs : NormalState.absorbs { pending := p } c = true := by
      rw [NormalState.absorbs_of_outside rfl rfl rfl]
      exact h.1
    rw [NormalState.run_of_absorbs habs]
    exact ih h.2 _

theorem core_normalize (t : Text) (pretty keepLeadingSpace : Bool) :
    core (normalize t pretty keepLeadingSpace) = core t := by
  rw [normalize, core_run pretty _ NormalState.tidy_empty]
  split
  · exact core_trimRight t
  · exact core_trim t

theorem normalize_eq_nil_iff {t : Text} {pretty keepLeadingSpace : Bool} :
    normalize t pretty keepLeadingSpace = [] ↔ isHollow t = true := by
  rw [← core_eq_nil_iff]
  constructor
  · intro h
    rw [← core_normalize t pretty keepLeadingSpace, h]
    rfl
  · intro h
    refine run_of_isHollow pretty (core_eq_nil_iff.mp ?_) none
    split
    · rwa [core_trimRight]
    · rwa [core_trim]

/-! ### One nested selector -/

variable {parent child : Text}

theorem isHollowBelow_of_isHollow (h : isHollow child = true) : isHollowBelow child = true := by
  rw [isHollow, List.all_eq_true] at h
  rw [isHollowBelow, List.all_eq_true]
  intro c hc
  rw [h c hc, Bool.true_or]

/-- Nothing but ampersands is replaced, so every other byte of no run stays. -/
theorem isHollowBelow_of_core (t : Text) : ∀ q,
    core (Text.replaceUnquotedFrom Byte.ampersand parent q t) = [] → isHollowBelow t = true := by
  induction t with
  | nil => intro q _; rfl
  | cons c t ih =>
    intro q h
    rw [Text.replaceUnquotedFrom, core_append, List.append_eq_nil_iff] at h
    rw [isHollowBelow, List.all_cons, Bool.and_eq_true]
    refine ⟨?_, ih _ h.2⟩
    have hc := h.1
    split at hc
    · rename_i hamp
      rw [Bool.and_eq_true] at hamp
      rw [hamp.1, Bool.or_true]
    · rw [core_eq_nil_iff, isHollow, List.all_cons, Bool.and_eq_true] at hc
      rw [hc.1, Bool.true_or]

/-- Without quotes every ampersand is replaced. -/
theorem core_replaceUnquoted (hparent : core parent = []) {t : Text}
    (h : isHollowBelow t = true) : core (t.replaceUnquoted Byte.ampersand parent) = [] := by
  unfold Text.replaceUnquoted
  induction t with
  | nil => rfl
  | cons c t ih =>
    rw [isHollowBelow, List.all_cons, Bool.and_eq_true] at h
    have hplain : c ∉ Byte.quoting := by
      rcases Bool.or_eq_true _ _ ▸ h.1 with hc | hc
      · exact not_mem_of_isRunByte hc (by decide)
      · rw [beq_iff_eq.mp hc]
        decide
    rw [Text.replaceUnquotedFrom, Quotes.next_of_not_mem hplain, core_append, ih h.2,
      List.append_nil]
    split
    · exact hparent
    · rename_i hamp
      have hne : (c == Byte.ampersand) = false := by simpa [Quotes.isQuoted] using hamp
      have hrun : isRunByte c = true := by
        rw [hne, Bool.or_false] at h
        exact h.1
      rw [core_eq_nil_iff, isHollow, List.all_cons, hrun]
      rfl

/-- A text is left as it is, or the parent stands in it. -/
theorem replaceUnquotedFrom_eq_or (old : UInt8) (new t : Text) : ∀ q,
    Text.replaceUnquotedFrom old new q t = t ∨
      ∃ a b, Text.replaceUnquotedFrom old new q t = a ++ new ++ b := by
  induction t with
  | nil => intro q; exact .inl rfl
  | cons c t ih =>
    intro q
    rw [Text.replaceUnquotedFrom]
    split
    · exact .inr ⟨[], _, rfl⟩
    · rcases ih (q.next c) with h | ⟨a, b, h⟩
      · exact .inl (by rw [h]; rfl)
      · exact .inr ⟨c :: a, b, by rw [h]; rfl⟩

theorem isHollowBelow_afterAmpersand (rest : Text) (keepNestingSpace : Bool) :
    isHollowBelow (afterAmpersand rest keepNestingSpace) = isHollowBelow rest := by
  have hleft : isHollowBelow rest.trimLeft = isHollowBelow rest := by
    obtain ⟨a, ha, hsplit⟩ := Text.eq_append_trimLeft rest
    have hblank : isHollowBelow a = true :=
      isHollowBelow_of_isHollow (core_eq_nil_iff.mp (core_of_isBlank ha))
    conv_rhs => rw [hsplit, isHollowBelow, List.all_append, ← isHollowBelow, hblank, Bool.true_and]
    rfl
  unfold afterAmpersand
  split
  · rfl
  · dsimp only
    split
    · exact hleft
    · exact hleft

/-- A nested selector leaves something behind below a parent that is not hollow; below an empty
one, it is itself hollow if it does not. -/
theorem core_combineOne_eq_nil (opts : Options) (h : core (combineOne parent child opts) = []) :
    core parent = [] ∧ (parent = [] → isHollowBelow child = true) := by
  unfold combineOne at h
  split at h
  · -- an ampersand at the front: the parent is written before the rest
    rename_i rest
    dsimp only at h
    rw [core_append, List.append_eq_nil_iff, core_normalize] at h
    refine ⟨h.1, fun _ => ?_⟩
    have hrest := isHollowBelow_of_core _ _ h.2
    rw [isHollowBelow_afterAmpersand] at hrest
    rw [isHollowBelow, List.all_cons, ← isHollowBelow, hrest]
    rfl
  · dsimp only at h
    split at h
    · rename_i hamp
      rw [Bool.and_eq_true, bne_iff_ne] at hamp
      rw [core_normalize] at h
      refine ⟨?_, fun _ => isHollowBelow_of_core _ _ h⟩
      -- the text was changed, so the parent stands in it
      rcases replaceUnquotedFrom_eq_or Byte.ampersand parent child {} with heq | ⟨a, b, heq⟩
      · exact absurd heq hamp.2
      · rw [Text.replaceUnquoted, heq, core_append, core_append, List.append_eq_nil_iff,
          List.append_eq_nil_iff] at h
        exact h.1.2
    · -- no active ampersand: parent and child stand side by side
      have hdescend : core parent = [] ∧ core child = [] := by
        unfold descend at h
        split at h
        · rwa [core_append, List.append_eq_nil_iff, core_normalize] at h
        · have hspace : ∀ t, core (Byte.space :: t) = core t := fun _ => rfl
          rwa [core_append, List.append_eq_nil_iff, hspace, core_normalize] at h
      exact ⟨hdescend.1, fun _ => isHollowBelow_of_isHollow (core_eq_nil_iff.mp hdescend.2)⟩

/-- A trimmed hollow selector begins with a combinator. -/
theorem startsWithCombinator_of_isHollow (ht : child.IsTrimmed) (hne : child ≠ [])
    (h : isHollow child = true) : startsWithCombinator child = true := by
  unfold startsWithCombinator
  rw [ht.trimLeft_eq]
  cases child with
  | nil => exact absurd rfl hne
  | cons c r =>
    have hblank := Text.not_blank_of_trim ht
    rw [isHollow, List.all_cons, Bool.and_eq_true, isRunByte, hblank, Bool.or_false] at h
    exact h.1

/-- A hollow selector leaves nothing behind below an empty parent. -/
theorem combineOne_nil (opts : Options) (ht : child.IsTrimmed) (hne : child ≠ [])
    (h : isHollowBelow child = true) : combineOne [] child opts = [] := by
  have hreplaced : ∀ {t : Text} {pretty keep : Bool}, isHollowBelow t = true →
      normalize (t.replaceUnquoted Byte.ampersand []) pretty keep = [] := fun ht' =>
    normalize_eq_nil_iff.mpr (core_eq_nil_iff.mp (core_replaceUnquoted rfl ht'))
  unfold combineOne
  split
  · rename_i rest
    rw [isHollowBelow, List.all_cons, Bool.and_eq_true, ← isHollowBelow] at h
    exact hreplaced (by rw [isHollowBelow_afterAmpersand]; exact h.2)
  · dsimp only
    split
    · exact hreplaced h
    · rename_i hamp
      -- there is no ampersand: it would not be quoted, and would have been replaced
      have hhollow : isHollow child = true := by
        by_cases hmem : child.contains Byte.ampersand = true
        · rw [hmem, Bool.true_and, bne_iff_ne, not_not] at hamp
          rw [← core_eq_nil_iff, ← hamp]
          exact core_replaceUnquoted rfl h
        · rw [isHollow, List.all_eq_true]
          rw [isHollowBelow, List.all_eq_true] at h
          intro c hc
          have hne : (c == Byte.ampersand) = false := by
            rw [beq_eq_false_iff_ne]
            rintro rfl
            exact hmem (List.contains_iff_mem.mpr hc)
          have hrun := h c hc
          rwa [hne, Bool.or_false] at hrun
      rw [descend, startsWithCombinator_of_isHollow ht hne hhollow, if_pos rfl, List.nil_append,
        normalize_eq_nil_iff]
      exact hhollow

/-! ### Nested selector lists -/

/-- A selector without a run that stands for nothing, as nesting makes them. -/
def IsWhole (x : Text) : Prop := core x = [] → x = []

variable {parents children : List Text}

theorem isWhole_normalize (a : Text) (pretty : Bool) : IsWhole (normalize a pretty false) := by
  intro hcore
  rw [core_normalize] at hcore
  exact normalize_eq_nil_iff.mpr (core_eq_nil_iff.mp hcore)

theorem combineOne_eq_nil_iff (opts : Options) (hp : IsWhole parent) (hc : IsAlternative child) :
    combineOne parent child opts = [] ↔ parent = [] ∧ isHollowBelow child = true := by
  constructor
  · intro h
    have hcore : core (combineOne parent child opts) = [] := by rw [h]; rfl
    obtain ⟨hparent, hchild⟩ := core_combineOne_eq_nil opts hcore
    exact ⟨hp hparent, hchild (hp hparent)⟩
  · rintro ⟨rfl, hchild⟩
    exact combineOne_nil opts hc.trimmed hc.ne_nil hchild

theorem isWhole_combineOne (opts : Options) (hp : IsWhole parent) (hc : IsAlternative child) :
    IsWhole (combineOne parent child opts) := by
  intro hcore
  obtain ⟨hparent, hchild⟩ := core_combineOne_eq_nil opts hcore
  rw [combineOne_eq_nil_iff opts hp hc]
  exact ⟨hp hparent, hchild (hp hparent)⟩

theorem mem_combine_nil {opts : Options} {x : Text} :
    x ∈ combine [] children opts ↔ ∃ a ∈ children, x = normalize a opts.pretty false := by
  simp only [combine, List.isEmpty_nil, if_true, List.mem_map, eq_comm]

theorem mem_combine {opts : Options} (hne : parents ≠ []) (hc : ∀ a ∈ children, IsAlternative a)
    {x : Text} : x ∈ combine parents children opts ↔
      ∃ a ∈ children, ∃ p ∈ parents, x = combineOne p a opts := by
  rw [combine, if_neg (by simpa using hne), List.mem_flatMap]
  refine exists_congr fun a => and_congr_right fun ha => ?_
  rw [(hc a ha).trimmed, List.mem_map]
  simp only [eq_comm]

/-- The alternatives of a nested rule; `gap` tells whether one is empty, `single` whether there is
just one. -/
structure Nests (gap single : Bool) (alternatives : List Text) : Prop where
  ne_nil : alternatives ≠ []
  whole : ∀ x ∈ alternatives, IsWhole x
  nil_mem : [] ∈ alternatives ↔ gap = true
  length : alternatives.length = 1 ↔ single = true

theorem nests_combine_nil (opts : Options) (hne : children ≠ []) :
    Nests (children.any isHollow) (children.length == 1) (combine [] children opts) where
  ne_nil := by simpa [combine] using hne
  whole := by
    intro x hx
    obtain ⟨a, -, rfl⟩ := mem_combine_nil.mp hx
    exact isWhole_normalize a _
  nil_mem := by
    rw [mem_combine_nil, List.any_eq_true]
    refine exists_congr fun a => and_congr_right fun _ => ?_
    rw [eq_comm, normalize_eq_nil_iff]
  length := by simp [combine]

/-- One more selector list. -/
theorem Nests.combine {gap single : Bool} (h : Nests gap single parents) (opts : Options)
    (hne : children ≠ []) (hc : ∀ a ∈ children, IsAlternative a) :
    Nests (gap && children.any isHollowBelow) (single && children.length == 1)
      (combine parents children opts) := by
  have hlength : (Selector.combine parents children opts).length =
      children.length * parents.length := by
    rw [Selector.combine, if_neg (by simpa using h.ne_nil), List.length_flatMap]
    simp
  refine ⟨?_, fun x hx => ?_, ?_, ?_⟩
  · rw [← List.length_pos_iff, hlength]
    exact Nat.mul_pos (List.length_pos_iff.mpr hne) (List.length_pos_iff.mpr h.ne_nil)
  · obtain ⟨a, ha, p, hp, rfl⟩ := (mem_combine h.ne_nil hc).mp hx
    exact isWhole_combineOne opts (h.whole p hp) (hc a ha)
  · -- only an empty parent leaves nothing, and only with a hollow child
    rw [mem_combine h.ne_nil hc, Bool.and_eq_true, ← h.nil_mem, List.any_eq_true]
    constructor
    · rintro ⟨a, ha, p, hp, hnil⟩
      obtain ⟨rfl, hhollow⟩ := (combineOne_eq_nil_iff opts (h.whole p hp) (hc a ha)).mp hnil.symm
      exact ⟨hp, a, ha, hhollow⟩
    · rintro ⟨hp, a, ha, hhollow⟩
      exact ⟨a, ha, [], hp,
        ((combineOne_eq_nil_iff opts (h.whole [] hp) (hc a ha)).mpr ⟨rfl, hhollow⟩).symm⟩
  · rw [hlength, Bool.and_eq_true, beq_iff_eq, ← h.length]
    constructor
    · intro hone
      exact ⟨Nat.dvd_one.mp (hone ▸ Nat.dvd_mul_left ..),
        Nat.dvd_one.mp (hone ▸ Nat.dvd_mul_right ..)⟩
    · rintro ⟨hparents, hchildren⟩
      rw [hparents, hchildren]

/-- Nesting keeps selectors solid. -/
theorem solid_combine (opts : Options) (hp : ∀ p ∈ parents, Solid Byte.isBlank p)
    (hc : ∀ a ∈ children, IsAlternative a ∧ IsComplete a) :
    ∀ x ∈ combine parents children opts, Solid Byte.isBlank x := by
  intro x hx
  by_cases hne : parents = []
  · subst hne
    obtain ⟨a, ha, rfl⟩ := mem_combine_nil.mp hx
    obtain ⟨halternative, hcomplete⟩ := hc a ha
    exact ((hcomplete.solid halternative).mono isMovable_of_isBlank).normalize (fun _ h => h) _ _
  · obtain ⟨a, ha, p, hmem, rfl⟩ := (mem_combine hne fun a ha => (hc a ha).1).mp hx
    obtain ⟨halternative, hcomplete⟩ := hc a ha
    exact (hp p hmem).combineOne (hcomplete.solid halternative) opts

/-- The alternatives of a rule below the given selector lists, from those of the outer rules. -/
def alternativesFrom (carry : List Text) (groups : List (List Text)) (opts : Options) : List Text :=
  groups.foldl (fun carry g => if g.isEmpty then carry else combine carry g opts) carry

theorem alternativesFrom_filter (opts : Options) (groups : List (List Text)) : ∀ carry,
    alternativesFrom carry (groups.filter (! ·.isEmpty)) opts =
      alternativesFrom carry groups opts := by
  induction groups with
  | nil => intro carry; rfl
  | cons g groups ih =>
    intro carry
    cases g with
    | nil => exact ih carry
    | cons a g => exact ih _

theorem alternativesFrom_cons {g : List Text} (hne : g ≠ []) (carry : List Text)
    (groups : List (List Text)) (opts : Options) : alternativesFrom carry (g :: groups) opts =
      alternativesFrom (combine carry g opts) groups opts := by
  rw [alternativesFrom, List.foldl_cons, if_neg (by simpa using hne)]
  rfl

theorem Nests.alternativesFrom (opts : Options) (groups : List (List Text)) :
    ∀ {gap single : Bool} {carry : List Text}, Nests gap single carry →
      (∀ g ∈ groups, g ≠ [] ∧ ∀ a ∈ g, IsAlternative a) →
        Nests (gap && groups.all (·.any isHollowBelow)) (single && groups.all (·.length == 1))
          (alternativesFrom carry groups opts) := by
  induction groups with
  | nil =>
    intro gap single carry h _
    rwa [List.all_nil, List.all_nil, Bool.and_true, Bool.and_true]
  | cons g groups ih =>
    intro gap single carry h hg
    obtain ⟨hne, hc⟩ := hg g (List.mem_cons_self ..)
    rw [alternativesFrom_cons hne, List.all_cons, List.all_cons, ← Bool.and_assoc, ← Bool.and_assoc]
    exact ih (h.combine opts hne hc) fun x hx => hg x (List.mem_cons_of_mem _ hx)

/-- One of the alternatives below non-empty selector lists is empty exactly when the outermost list
has a hollow alternative and every other list one that is hollow below an empty parent. -/
theorem nests_alternatives (opts : Options) {g : List Text} {groups : List (List Text)}
    (hg : ∀ x ∈ g :: groups, x ≠ [] ∧ ∀ a ∈ x, IsAlternative a) :
    Nests (g.any isHollow && groups.all (·.any isHollowBelow)) ((g :: groups).all (·.length == 1))
      (alternativesFrom [] (g :: groups) opts) := by
  obtain ⟨hne, -⟩ := hg g (List.mem_cons_self ..)
  rw [alternativesFrom_cons hne, List.all_cons]
  exact (nests_combine_nil opts hne).alternativesFrom opts groups
    fun x hx => hg x (List.mem_cons_of_mem _ hx)

theorem solid_alternativesFrom (opts : Options) (groups : List (List Text)) :
    ∀ {carry : List Text}, (∀ p ∈ carry, Solid Byte.isBlank p) →
      (∀ g ∈ groups, ∀ a ∈ g, IsAlternative a ∧ IsComplete a) →
        ∀ x ∈ alternativesFrom carry groups opts, Solid Byte.isBlank x := by
  induction groups with
  | nil => intro carry hp _; exact hp
  | cons g groups ih =>
    intro carry hp hg
    have hmore := fun x hx => hg x (List.mem_cons_of_mem g hx)
    by_cases hne : g = []
    · subst hne
      exact ih hp hmore
    · rw [alternativesFrom_cons hne]
      exact ih (solid_combine opts hp (hg g (List.mem_cons_self ..))) hmore

end NestedCss.Selector
