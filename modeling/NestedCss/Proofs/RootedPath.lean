import NestedCss.Proofs.Path
/-!
# Paths from the root

A clean absolute path (`IsRooted`) is told by its components, and they are names without `..`. In
these terms the directory of a path has one component less (`components_directory`), a path lies
within a directory if it goes on from the components of the directory (`isWithin_iff`), and the
directories above a path are the front parts of its components (`isAtOrAbove_iff`).
-/
namespace NestedCss

namespace Text

variable {sep : UInt8}

/-- Only the last piece depends on what the last piece is. -/
theorem join_concat (pieces : List Text) (t : Text) :
    join [sep] (pieces ++ [t]) = join [sep] (pieces ++ [[]]) ++ t := by
  induction pieces with
  | nil => rfl
  | cons u more ih =>
    cases more with
    | nil => simp [join]
    | cons v more =>
      show u ++ [sep] ++ join [sep] (v :: more ++ [t])
        = u ++ [sep] ++ join [sep] (v :: more ++ [[]]) ++ t
      rw [ih]
      simp only [List.append_assoc]

theorem join_append {pieces more : List Text} (hpieces : pieces ≠ []) (hmore : more ≠ []) :
    join [sep] (pieces ++ more) = join [sep] pieces ++ sep :: join [sep] more := by
  induction pieces with
  | nil => exact absurd rfl hpieces
  | cons t pieces ih =>
    cases pieces with
    | nil =>
      obtain ⟨u, more, rfl⟩ := List.exists_cons_of_ne_nil hmore
      simp [join]
    | cons u pieces =>
      show t ++ [sep] ++ join [sep] (u :: pieces ++ more) = _
      rw [ih (List.cons_ne_nil _ _)]
      simp [join]

end Text

namespace Path

variable {p q d base t : Text} {names done : List Text}

/-! ### Clean absolute paths -/

structure IsRooted (p : Text) : Prop where
  absolute : isAbsolute p = true
  clean : clean p = p

namespace IsRooted

theorem eq_ofComponents (hp : IsRooted p) : p = ofComponents true (components p) := by
  conv_lhs => rw [← hp.clean, Path.clean, hp.absolute]

theorem ext (hp : IsRooted p) (hq : IsRooted q) (h : components p = components q) : p = q := by
  rw [hp.eq_ofComponents, h, ← hq.eq_ofComponents]

theorem ne_up (hp : IsRooted p) : ∀ n ∈ components p, n ≠ up := by
  have hstacked := stacked_components p
  rw [hp.absolute] at hstacked
  exact fun n hn => hstacked.ne_up n (List.mem_reverse.mpr hn)

theorem ne_nil (hp : IsRooted p) : p ≠ [] := hp.clean ▸ clean_ne_nil p

end IsRooted

theorem isRooted_clean (hp : isAbsolute p = true) : IsRooted (clean p) := by
  refine ⟨(isAbsolute_clean p).trans hp, ?_⟩
  conv_lhs => rw [clean, isAbsolute_clean, components_clean]
  rfl

/-- A path has no more components than bytes. -/
theorem length_components_le (hp : IsRooted p) : (components p).length ≤ p.length := by
  have hjoin : ∀ names : List Text, names.length ≤ (Text.join [Byte.slash] names).length + 1 := by
    intro names
    induction names with
    | nil => exact Nat.zero_le _
    | cons n names ih =>
      cases names with
      | nil => exact Nat.le_add_left _ _
      | cons m names =>
        simp only [Text.join, List.length_append, List.length_cons] at ih ⊢
        omega
  calc (components p).length ≤ (Text.join [Byte.slash] (components p)).length + 1 := hjoin _
    _ = (ofComponents true (components p)).length := rfl
    _ = p.length := by rw [← hp.eq_ofComponents]

/-! ### Going down -/

/-- Whether a piece between slashes is neither empty nor `.`. -/
def isProper (n : Text) : Bool := !(n.isEmpty || n == [Byte.dot])

theorem foldl_push_of_ne_up {absolute : Bool} (h : ∀ n ∈ names, n ≠ up) :
    names.foldl (push absolute) done = (names.filter isProper).reverse ++ done := by
  induction names generalizing done with
  | nil => rfl
  | cons n names ih =>
    have hn : n ≠ up := h n (List.mem_cons_self ..)
    rw [List.foldl_cons, ih fun m hm => h m (List.mem_cons_of_mem n hm), List.filter_cons]
    cases hname : n.isEmpty || n == [Byte.dot] with
    | true => simp [push, isProper, hname]
    | false => simp [push, isProper, hname, hn]

/-- A path without `..` behind a directory adds its proper pieces. -/
theorem components_join_of_ne_up (hd : d ≠ []) (h : ∀ n ∈ Text.splitOn Byte.slash t, n ≠ up) :
    components (join d t) = components d ++ (Text.splitOn Byte.slash t).filter isProper := by
  have hne : (!d.isEmpty) = true := by simpa using hd
  rw [join, if_pos hne, components_clean, components, isAbsolute_append hd,
    Text.splitOn_append_cons, List.foldl_append, foldl_push_of_ne_up h, List.reverse_append,
    List.reverse_reverse]
  rfl

theorem IsRooted.join (hd : IsRooted d) (t : Text) : IsRooted (Path.join d t) := by
  have hne : (!d.isEmpty) = true := by simpa using hd.ne_nil
  rw [Path.join, if_pos hne]
  exact isRooted_clean ((isAbsolute_append hd.ne_nil _).trans hd.absolute)

theorem filter_isProper (h : ∀ n ∈ names, IsName n) : names.filter isProper = names := by
  refine List.filter_eq_self.mpr fun n hn => ?_
  simp [isProper, (h n hn).ne_nil, (h n hn).ne_dot]

/-! ### Going up -/

theorem lastPart_append {front : Text} (ht : Byte.slash ∉ t) :
    lastPart (front ++ [Byte.slash] ++ t) = t := by
  have hall : ∀ c ∈ t.reverse, (c != Byte.slash) = true := by
    intro c hc
    rw [bne_iff_ne]
    rintro rfl
    exact ht (List.mem_reverse.mp hc)
  rw [lastPart, List.reverse_append, List.reverse_append, List.reverse_singleton,
    List.takeWhile_append_of_pos hall, List.singleton_append,
    List.takeWhile_cons_of_neg (by simp), List.append_nil, List.reverse_reverse]

/-- A slash at the end adds no component. -/
theorem components_slash_join (h : ∀ n ∈ names, IsName n ∧ n ≠ up) :
    components (Byte.slash :: Text.join [Byte.slash] (names ++ [[]])) = names := by
  have hpieces : Text.splitOn Byte.slash (Text.join [Byte.slash] (names ++ [[]]))
      = names ++ [[]] := by
    refine Text.splitOn_join (by simp) fun n hn => ?_
    rcases List.mem_append.mp hn with hn | hn
    · exact (h n hn).1.no_slash
    · rw [List.mem_singleton.mp hn]
      exact List.not_mem_nil
  have hup : ∀ n ∈ [] :: (names ++ [[]]), n ≠ up := by
    intro n hn
    rcases List.mem_cons.mp hn with rfl | hn
    · decide
    · rcases List.mem_append.mp hn with hn | hn
      · exact (h n hn).2
      · rw [List.mem_singleton.mp hn]
        decide
  have hempty : isProper [] = false := rfl
  rw [components, Text.splitOn_cons_self, hpieces, foldl_push_of_ne_up hup, List.append_nil,
    List.reverse_reverse, List.filter_cons_of_neg (by simp [hempty]), List.filter_append,
    filter_isProper fun n hn => (h n hn).1]
  simp [hempty]

/-- The directory of a path is the path less its last component; the root is its own directory. -/
theorem directory_spec (hp : IsRooted p) :
    IsRooted (directory p) ∧ components (directory p) = (components p).dropLast := by
  rcases List.eq_nil_or_concat (components p) with hnil | ⟨names, n, hcomponents⟩
  · obtain rfl : p = [Byte.slash] := by
      rw [hp.eq_ofComponents, hnil]
      rfl
    exact ⟨⟨rfl, rfl⟩, rfl⟩
  rw [List.concat_eq_append] at hcomponents
  have hnames : ∀ m ∈ names ++ [n], IsName m := fun m hm =>
    isName_of_mem_components (hcomponents ▸ hm)
  have hup : ∀ m ∈ names, m ≠ up := fun m hm =>
    hp.ne_up m (hcomponents ▸ List.mem_append_left _ hm)
  -- what stands before the last component ends in a slash
  let front := Byte.slash :: Text.join [Byte.slash] (names ++ [[]])
  obtain ⟨f, hfront⟩ : ∃ f, front = f ++ [Byte.slash] := by
    cases names with
    | nil => exact ⟨[], rfl⟩
    | cons m names =>
      refine ⟨Byte.slash :: Text.join [Byte.slash] (m :: names), ?_⟩
      show Byte.slash :: Text.join [Byte.slash] (m :: names ++ [[]]) = _
      rw [Text.join_append (List.cons_ne_nil _ _) (List.cons_ne_nil _ _)]
      rfl
  have hsplit : p = front ++ n := by
    rw [hp.eq_ofComponents, hcomponents]
    show Byte.slash :: Text.join [Byte.slash] (names ++ [n]) = _
    rw [Text.join_concat]
    rfl
  have hlast : lastPart p = n := by
    rw [hsplit, hfront]
    exact lastPart_append (hnames n (by simp)).no_slash
  have hdirectory : directory p = clean front := by
    rw [directory, hlast, hsplit, List.length_append, Nat.add_sub_cancel, List.take_left]
  refine ⟨hdirectory ▸ isRooted_clean rfl, ?_⟩
  rw [hdirectory, components_clean, hcomponents, List.dropLast_concat]
  exact components_slash_join fun m hm => ⟨hnames m (List.mem_append_left _ hm), hup m hm⟩

/-! ### Within a directory -/

theorem exists_of_dropCommon (l m : List Text) :
    ∃ common, l = common ++ (dropCommon l m).1 ∧ m = common ++ (dropCommon l m).2 := by
  fun_induction dropCommon l m with
  | case1 a r b s hab ih =>
    obtain ⟨common, hr, hs⟩ := ih
    rw [eq_of_beq hab]
    exact ⟨b :: common, congrArg (b :: ·) hr, congrArg (b :: ·) hs⟩
  | case2 => exact ⟨[], rfl, rfl⟩
  | case3 => exact ⟨[], rfl, rfl⟩

/-- The way from one path to another goes up to what they have in common and down from there. -/
theorem relative?_of_ne (hd : IsRooted d) (hp : IsRooted p) (hne : d ≠ p) :
    relative? d p = some (Text.join [Byte.slash]
      ((dropCommon (components d) (components p)).1.map (fun _ => up)
        ++ (dropCommon (components d) (components p)).2)) := by
  have hdot : p ≠ [Byte.dot] := by
    rintro rfl
    cases hp.absolute
  have hhead : (dropCommon (components d) (components p)).1.head? ≠ some up := by
    obtain ⟨common, hl, -⟩ := exists_of_dropCommon (components d) (components p)
    intro hup
    refine hd.ne_up up ?_ rfl
    rw [hl]
    exact List.mem_append_right _ (List.mem_of_head? hup)
  simp [relative?, hd.clean, hp.clean, hne, hd.absolute, hp.absolute, hdot, hhead]

/-- A way that starts by going up leads out. -/
theorem isWithin_eq_false_of_relative? {more : List Text}
    (h : relative? d p = some (Text.join [Byte.slash] (up :: more))) : isWithin d p = false := by
  rw [isWithin, h]
  cases more with
  | nil => rfl
  | cons n more =>
    have hstarts : Text.startsWith (Text.join [Byte.slash] (up :: n :: more))
        (up ++ [Byte.slash]) = true :=
      List.isPrefixOf_iff_prefix.mpr ⟨_, rfl⟩
    simp [hstarts]

theorem prefix_of_isWithin (hd : IsRooted d) (hp : IsRooted p) (h : isWithin d p = true) :
    components d <+: components p := by
  by_cases hne : d = p
  · subst hne
    exact List.prefix_rfl
  obtain ⟨common, hl, hm⟩ := exists_of_dropCommon (components d) (components p)
  have hrelative := relative?_of_ne hd hp hne
  cases hleft : (dropCommon (components d) (components p)).1 with
  | nil =>
    rw [hleft, List.append_nil] at hl
    rw [← hl] at hm
    exact ⟨_, hm.symm⟩
  | cons n left =>
    rw [hleft, List.map_cons, List.cons_append] at hrelative
    rw [isWithin_eq_false_of_relative? hrelative] at h
    cases h

theorem isWithin_iff (hd : IsRooted d) (hp : IsRooted p) :
    isWithin d p = true ↔ components d <+: components p := by
  refine ⟨prefix_of_isWithin hd hp, ?_⟩
  rintro ⟨names, hnames⟩
  refine isWithin_of_components (hp.absolute.trans hd.absolute.symm) hnames.symm fun n hn => ?_
  exact hp.ne_up n (hnames ▸ List.mem_append_right _ hn)

/-- Below a directory other than the root, a path is written as the directory, a slash and more. -/
theorem eq_or_append_slash (hd : IsRooted d) (hp : IsRooted p) (hroot : d ≠ [Byte.slash])
    (h : components d <+: components p) : p = d ∨ d ++ [Byte.slash] <+: p := by
  obtain ⟨names, hnames⟩ := h
  by_cases hne : names = []
  · exact .inl (hp.ext hd (by rw [← hnames, hne, List.append_nil]))
  · have hcomponents : components d ≠ [] := by
      intro hnil
      exact hroot (by rw [hd.eq_ofComponents, hnil]; rfl)
    refine .inr ⟨Text.join [Byte.slash] names, ?_⟩
    calc d ++ [Byte.slash] ++ Text.join [Byte.slash] names
        = Byte.slash :: (Text.join [Byte.slash] (components d)
            ++ Byte.slash :: Text.join [Byte.slash] names) := by
          conv_lhs => rw [hd.eq_ofComponents]
          simp [ofComponents]
      _ = ofComponents true (components d ++ names) := by
          rw [← Text.join_append hcomponents hne]
          rfl
      _ = p := by rw [hnames, ← hp.eq_ofComponents]

/-- From a directory to a path within it there is a way that does not start with `..`, and it leads
back to the path. -/
theorem exists_relative? (hd : IsRooted d) (hp : IsRooted p)
    (h : components d <+: components p) : ∃ r, relative? d p = some r ∧
      (Text.splitOn Byte.slash r).head? ≠ some up ∧ join d r = p := by
  obtain ⟨names, hnames⟩ := h
  by_cases hne : names = []
  · obtain rfl : d = p := hd.ext hp (by rw [← hnames, hne, List.append_nil])
    refine ⟨[Byte.dot], by simp [relative?], by decide, (hd.join _).ext hd ?_⟩
    rw [components_join_of_ne_up hd.ne_nil (by decide)]
    exact List.append_nil _
  have hname : ∀ n ∈ names, IsName n ∧ n ≠ up := fun n hn =>
    have hmem : n ∈ components p := hnames ▸ List.mem_append_right _ hn
    ⟨isName_of_mem_components hmem, hp.ne_up n hmem⟩
  have hsplit : Text.splitOn Byte.slash (Text.join [Byte.slash] names) = names :=
    Text.splitOn_join hne fun n hn => (hname n hn).1.no_slash
  refine ⟨Text.join [Byte.slash] names,
    relative?_of_components (hp.absolute.trans hd.absolute.symm) hnames.symm hne, ?_, ?_⟩
  · rw [hsplit]
    exact fun hhead => (hname up (List.mem_of_head? hhead)).2 rfl
  · refine (hd.join _).ext hp ?_
    rw [components_join_of_ne_up hd.ne_nil (hsplit.symm ▸ fun n hn => (hname n hn).2), hsplit,
      filter_isProper fun n hn => (hname n hn).1, hnames]

/-! ### Above a path -/

/-- Whether `d` is `p` or is reached from `p` by going from a path to its directory. -/
inductive IsAtOrAbove (d : Text) : Text → Prop where
  | here : IsAtOrAbove d d
  | above {p : Text} (h : IsAtOrAbove d (directory p)) : IsAtOrAbove d p

theorem IsAtOrAbove.spec (h : IsAtOrAbove d p) (hp : IsRooted p) :
    IsRooted d ∧ components d <+: components p := by
  induction h with
  | here => exact ⟨hp, List.prefix_rfl⟩
  | @above p _ ih =>
    obtain ⟨hdirectory, hcomponents⟩ := directory_spec hp
    obtain ⟨hd, hprefix⟩ := ih hdirectory
    rw [hcomponents] at hprefix
    exact ⟨hd, hprefix.trans (List.dropLast_prefix _)⟩

/-- A front part that is not the whole is a front part of all but the last. -/
theorem prefix_dropLast {l m : List Text} (h : l <+: m) (hne : l ≠ m) : l <+: m.dropLast := by
  obtain ⟨r, rfl⟩ := h
  have hr : r ≠ [] := by
    rintro rfl
    exact hne (List.append_nil l).symm
  rw [List.dropLast_append_of_ne_nil hr]
  exact List.prefix_append _ _

theorem isAtOrAbove_of_components (hd : IsRooted d) (hp : IsRooted p)
    (h : components d <+: components p) : IsAtOrAbove d p := by
  -- by the number of components of the path
  induction hlength : (components p).length generalizing p with
  | zero =>
    have hnil := List.eq_nil_of_length_eq_zero hlength
    rw [hnil, List.prefix_nil] at h
    rw [hd.ext hp (h.trans hnil.symm)]
    exact .here
  | succ k ih =>
    by_cases heq : components d = components p
    · rw [hd.ext hp heq]
      exact .here
    · obtain ⟨hdirectory, hcomponents⟩ := directory_spec hp
      refine .above (ih hdirectory ?_ ?_)
      · rw [hcomponents]
        exact prefix_dropLast h heq
      · rw [hcomponents, List.length_dropLast, hlength]
        rfl

/-- The directories at or above a path are the front parts of its components. -/
theorem isAtOrAbove_iff (hp : IsRooted p) :
    IsAtOrAbove d p ↔ IsRooted d ∧ components d <+: components p :=
  ⟨fun h => h.spec hp, fun h => isAtOrAbove_of_components h.1 hp h.2⟩

end Path

end NestedCss
