import NestedCss.Path
import NestedCss.Proofs.CompileError
/-!
# Clean paths

The components of a path are held last first while it is read (`Path.push`), and in this order they
are `Stacked`: each of them is a name, and `..` stands only below other `..` at the very front of a
relative path. Components that are stacked are written and read back as they are
(`components_ofComponents`), so making a path clean changes neither its components nor where it
starts, and a path that goes on from `d` with proper names lies within `d`
(`isWithin_of_components`).
-/
namespace NestedCss

namespace Text

variable {sep : UInt8}

theorem not_mem_of_mem_splitOn {t piece : Text} (h : piece ∈ splitOn sep t) : sep ∉ piece := by
  induction t generalizing piece with
  | nil => simp_all [splitOn]
  | cons c r ih =>
    obtain ⟨first, more, hr⟩ := List.exists_cons_of_ne_nil (splitOn_ne_nil sep r)
    rw [hr] at ih
    by_cases hc : c = sep
    · rw [hc, splitOn_cons_self, hr] at h
      rcases List.mem_cons.mp h with rfl | h
      · exact List.not_mem_nil
      · exact ih h
    · rw [splitOn_cons_of_ne hc hr] at h
      rcases List.mem_cons.mp h with rfl | h
      · simpa [Ne.symm hc] using ih (List.mem_cons_self ..)
      · exact ih (List.mem_cons_of_mem _ h)

theorem splitOn_append_cons (a b : Text) :
    splitOn sep (a ++ sep :: b) = splitOn sep a ++ splitOn sep b := by
  induction a with
  | nil => exact splitOn_cons_self b
  | cons c a ih =>
    obtain ⟨first, more, ha⟩ := List.exists_cons_of_ne_nil (splitOn_ne_nil sep a)
    rw [ha, List.cons_append] at ih
    by_cases hc : c = sep
    · rw [hc, List.cons_append, splitOn_cons_self, splitOn_cons_self, ih, ha]
      rfl
    · rw [List.cons_append, splitOn_cons_of_ne hc ih, splitOn_cons_of_ne hc ha]
      rfl

/-- Pieces without the separator are found again. -/
theorem splitOn_join : ∀ {pieces : List Text}, pieces ≠ [] → (∀ t ∈ pieces, sep ∉ t) →
    splitOn sep (join [sep] pieces) = pieces
  | [], h, _ => absurd rfl h
  | [t], _, h => splitOn_of_not_mem (h t (List.mem_cons_self ..))
  | t :: u :: more, _, h => by
    have hrest : splitOn sep (join [sep] (u :: more)) = u :: more :=
      splitOn_join (by simp) fun v hv => h v (List.mem_cons_of_mem t hv)
    rw [join, List.append_assoc, List.singleton_append, splitOn_append_cons, hrest,
      splitOn_of_not_mem (h t (List.mem_cons_self ..))]
    rfl

end Text

namespace Path

/-! ### Components -/

/-- Whether a text can be a component of a clean path. -/
structure IsName (n : Text) : Prop where
  ne_nil : n ≠ []
  ne_dot : n ≠ [Byte.dot]
  no_slash : Byte.slash ∉ n

/-- Whether components, the last first, are those of a clean path: a `..` has nothing but others
below it, and a path that starts at the root has none. -/
def Stacked (absolute : Bool) : List Text → Prop
  | [] => True
  | n :: below => IsName n ∧ (n = up → absolute = false ∧ ∀ m ∈ below, m = up) ∧
      Stacked absolute below

variable {absolute : Bool} {done names : List Text} {n p d : Text}

theorem Stacked.isName (h : Stacked absolute done) : ∀ n ∈ done, IsName n := by
  induction done with
  | nil => simp
  | cons n below ih =>
    obtain ⟨hn, -, hbelow⟩ := h
    exact List.forall_mem_cons.mpr ⟨hn, ih hbelow⟩

theorem Stacked.ne_up (h : Stacked true done) : ∀ n ∈ done, n ≠ up := by
  induction done with
  | nil => simp
  | cons n below ih =>
    obtain ⟨-, hup, hbelow⟩ := h
    refine List.forall_mem_cons.mpr ⟨fun hn => ?_, ih hbelow⟩
    cases (hup hn).1

theorem isName_up : IsName up := ⟨by decide, by decide, by decide⟩

theorem stacked_push (h : Stacked absolute done) (hn : Byte.slash ∉ n) :
    Stacked absolute (push absolute done n) := by
  unfold push
  split
  · exact h
  rename_i hname
  have hisName : IsName n := by
    refine ⟨?_, ?_, hn⟩ <;> rintro rfl <;> simp at hname
  split
  · rename_i hup
    exact ⟨hisName, fun h => by simp [h] at hup, h⟩
  · rename_i hup
    obtain rfl : n = up := by simpa using hup
    cases done with
    | nil =>
      cases absolute with
      | true => trivial
      | false => exact ⟨isName_up, fun _ => ⟨rfl, by simp⟩, trivial⟩
    | cons last rest =>
      dsimp only
      split
      · rename_i hlast
        obtain rfl : last = up := by simpa using hlast
        refine ⟨isName_up, fun _ => ⟨(h.2.1 rfl).1, ?_⟩, h⟩
        exact List.forall_mem_cons.mpr ⟨rfl, (h.2.1 rfl).2⟩
      · exact h.2.2

theorem stacked_foldl_push (h : Stacked absolute done) (hnames : ∀ n ∈ names, Byte.slash ∉ n) :
    Stacked absolute (names.foldl (push absolute) done) := by
  induction names generalizing done with
  | nil => exact h
  | cons n names ih =>
    rw [List.foldl_cons]
    exact ih (stacked_push h (hnames n (List.mem_cons_self ..)))
      fun m hm => hnames m (List.mem_cons_of_mem n hm)

/-- A component that fits is put on top. -/
theorem push_of_stacked (h : Stacked absolute (n :: done)) : push absolute done n = n :: done := by
  obtain ⟨hn, hup, -⟩ := h
  have hname : ¬ (n.isEmpty || n == [Byte.dot]) = true := by simp [hn.ne_nil, hn.ne_dot]
  unfold push
  rw [if_neg hname]
  split
  · rfl
  · rename_i heq
    obtain rfl : n = up := by simpa using heq
    obtain ⟨rfl, hbelow⟩ := hup rfl
    cases done with
    | nil => rfl
    | cons last rest =>
      rw [hbelow last (List.mem_cons_self ..)]
      rfl

/-- Components that are stacked are read as they are. -/
theorem foldl_push_reverse (h : Stacked absolute done) :
    done.reverse.foldl (push absolute) [] = done := by
  induction done with
  | nil => rfl
  | cons n below ih =>
    rw [List.reverse_cons, List.foldl_append, ih h.2.2]
    exact push_of_stacked h

theorem stacked_components (p : Text) : Stacked (isAbsolute p) (components p).reverse := by
  rw [components, List.reverse_reverse]
  exact stacked_foldl_push trivial fun _ hn => Text.not_mem_of_mem_splitOn hn

theorem isName_of_mem_components (h : n ∈ components p) : IsName n :=
  (stacked_components p).isName n (List.mem_reverse.mpr h)

/-! ### Writing and reading -/

theorem join_ne_nil (hnames : ∀ n ∈ names, IsName n) (hne : names ≠ []) :
    Text.join [Byte.slash] names ≠ [] := by
  intro h
  have hsplit := Text.splitOn_join hne fun n hn => (hnames n hn).no_slash
  rw [h] at hsplit
  have hmem : [] ∈ names := by
    rw [← hsplit]
    exact List.mem_cons_self ..
  exact (hnames [] hmem).ne_nil rfl

theorem isAbsolute_join (hnames : ∀ n ∈ names, IsName n) :
    isAbsolute (Text.join [Byte.slash] names) = false := by
  cases hjoin : Text.join [Byte.slash] names with
  | nil => rfl
  | cons c r =>
    have hne : names ≠ [] := by
      rintro rfl
      cases hjoin
    have hsplit := Text.splitOn_join hne fun n hn => (hnames n hn).no_slash
    -- a slash at the front would be behind an empty name
    by_cases hc : c = Byte.slash
    · rw [hjoin, hc, Text.splitOn_cons_self] at hsplit
      have hmem : [] ∈ names := by
        rw [← hsplit]
        exact List.mem_cons_self ..
      exact absurd rfl (hnames [] hmem).ne_nil
    · simp [isAbsolute, hc]

theorem isAbsolute_ofComponents (h : ∀ n ∈ names, IsName n) :
    isAbsolute (ofComponents absolute names) = absolute := by
  unfold ofComponents
  dsimp only
  split
  · rename_i habsolute
    rw [habsolute]
    rfl
  · rename_i habsolute
    rw [Bool.not_eq_true] at habsolute
    rw [habsolute]
    split
    · decide
    · exact isAbsolute_join h

theorem components_ofComponents (h : Stacked absolute names.reverse) :
    components (ofComponents absolute names) = names := by
  have hnames : ∀ n ∈ names, IsName n := fun n hn => h.isName n (List.mem_reverse.mpr hn)
  have hfold := foldl_push_reverse h
  rw [List.reverse_reverse] at hfold
  rw [components, isAbsolute_ofComponents hnames, ofComponents]
  cases names with
  | nil => cases absolute <;> rfl
  | cons n rest =>
    have hsplit : Text.splitOn Byte.slash (Text.join [Byte.slash] (n :: rest)) = n :: rest :=
      Text.splitOn_join (by simp) fun m hm => (hnames m hm).no_slash
    have hempty : (Text.join [Byte.slash] (n :: rest)).isEmpty = false :=
      List.isEmpty_eq_false_iff.mpr (join_ne_nil hnames (by simp))
    cases absolute with
    | true =>
      rw [if_pos rfl, Text.splitOn_cons_self, hsplit, List.foldl_cons,
        show push true [] [] = [] from rfl, hfold, List.reverse_reverse]
    | false =>
      simp only [hempty, Bool.false_eq_true, if_false]
      rw [hsplit, hfold, List.reverse_reverse]

@[simp] theorem isAbsolute_clean (p : Text) : isAbsolute (clean p) = isAbsolute p :=
  isAbsolute_ofComponents fun _ hn => isName_of_mem_components hn

@[simp] theorem components_clean (p : Text) : components (clean p) = components p :=
  components_ofComponents (stacked_components p)

theorem clean_ne_nil (p : Text) : clean p ≠ [] := by
  unfold clean ofComponents
  dsimp only
  split
  · simp
  · split
    · simp
    · rename_i h
      simpa using h

theorem isAbsolute_append (hd : d ≠ []) (t : Text) : isAbsolute (d ++ t) = isAbsolute d := by
  cases d with
  | nil => exact absurd rfl hd
  | cons c d => rfl

/-! ### Going down -/

theorem join_ne_nil_of_ne_nil (hd : d ≠ []) (n : Text) : join d n ≠ [] := by
  have h : (!d.isEmpty) = true := by simpa using hd
  rw [join, if_pos h]
  exact clean_ne_nil _

theorem isAbsolute_joinPath (hd : d ≠ []) : isAbsolute (join d n) = isAbsolute d := by
  have h : (!d.isEmpty) = true := by simpa using hd
  rw [join, if_pos h, isAbsolute_clean, isAbsolute_append hd]

/-- A name below a directory is one more component. -/
theorem components_joinPath (hd : d ≠ []) (hn : IsName n) (hup : n ≠ up) :
    components (join d n) = components d ++ [n] := by
  have h : (!d.isEmpty) = true := by simpa using hd
  have hpush : ∀ done, push (isAbsolute d) done n = n :: done := by
    intro done
    simp [push, hn.ne_nil, hn.ne_dot, hup]
  rw [join, if_pos h, components_clean, components, isAbsolute_append hd,
    Text.splitOn_append_cons, Text.splitOn_of_not_mem hn.no_slash, List.foldl_append,
    List.foldl_cons, List.foldl_nil, hpush, List.reverse_cons]
  rfl

theorem dropCommon_append (l m : List Text) : dropCommon l (l ++ m) = ([], m) := by
  induction l with
  | nil => cases m <;> rfl
  | cons a l ih => simpa [dropCommon] using ih

/-- The way from a directory down to a path below it. -/
theorem relative?_of_components (habsolute : isAbsolute p = isAbsolute d)
    (hp : components p = components d ++ names) (hne : names ≠ []) :
    relative? d p = some (Text.join [Byte.slash] names) := by
  have hdiffer : clean d ≠ clean p := by
    intro h
    have hlength := congrArg (fun q => (components q).length) h
    simp only [components_clean, hp, List.length_append] at hlength
    exact hne (List.eq_nil_of_length_eq_zero (by omega))
  have hdot : clean p ≠ [Byte.dot] := by
    intro h
    have hnil : components (clean p) = [] := by rw [h]; rfl
    rw [components_clean, hp] at hnil
    exact hne (List.append_eq_nil_iff.mp hnil).2
  simp [relative?, hdiffer, hdot, habsolute, hp, dropCommon_append]

theorem isWithin_of_components (habsolute : isAbsolute p = isAbsolute d)
    (hp : components p = components d ++ names) (hup : ∀ n ∈ names, n ≠ up) :
    isWithin d p = true := by
  by_cases hne : names = []
  · have hclean : clean d = clean p := by rw [clean, clean, habsolute, hp, hne, List.append_nil]
    simp [isWithin, relative?, hclean, up, Text.startsWith]
  have hnames : ∀ n ∈ names, Byte.slash ∉ n := fun n hn =>
    (isName_of_mem_components (p := p) (hp ▸ List.mem_append_right _ hn)).no_slash
  have hsplit := Text.splitOn_join hne hnames
  rw [isWithin, relative?_of_components habsolute hp hne]
  -- the way down does not start with a `..`
  have hfirst : ∀ r, Text.splitOn Byte.slash (Text.join [Byte.slash] names) ≠ up :: r := by
    intro r h
    rw [hsplit] at h
    exact hup up (h ▸ List.mem_cons_self ..) rfl
  simp only [Bool.and_eq_true, bne_iff_ne, ne_eq, Bool.not_eq_true']
  constructor
  · intro h
    exact hfirst [] (by rw [h]; decide)
  · rw [Bool.eq_false_iff]
    intro h
    obtain ⟨r, hr⟩ := List.isPrefixOf_iff_prefix.mp h
    refine hfirst (Text.splitOn Byte.slash r) ?_
    rw [← hr, List.append_assoc, List.singleton_append, Text.splitOn_append_cons]
    rfl

end Path

end NestedCss
