import Mathlib.Data.List.DropRight
import NestedCss.Text
/-!
# Trimming

The blanks at the ends of a text: `trim` takes away a blank front and a blank back and nothing else
(`eq_pad_trim`), so that padding a text with blanks does not change what is left of it
(`trim_pad`), and trimming twice is trimming once (`trim_trim`).
-/
namespace NestedCss.Text

/-- All bytes of the text are blank. -/
def IsBlank (t : Text) : Prop := ∀ c ∈ t, Byte.isBlank c = true

instance (t : Text) : Decidable t.IsBlank := List.decidableBAll _ t

/-- The text has no blank at either end. -/
def IsTrimmed (t : Text) : Prop := t.trim = t

instance (t : Text) : Decidable t.IsTrimmed := inferInstanceAs (Decidable (t.trim = t))

@[simp] theorem isBlank_nil : IsBlank [] := by simp [IsBlank]

theorem IsBlank.append {a b : Text} (ha : a.IsBlank) (hb : b.IsBlank) : (a ++ b).IsBlank := by
  intro c hc
  rcases List.mem_append.mp hc with h | h
  · exact ha c h
  · exact hb c h

theorem isBlank_replicate (n : Nat) : IsBlank (List.replicate n Byte.space) := by
  intro c hc
  rw [List.eq_of_mem_replicate hc]
  rfl

/-! ### The front -/

theorem trimLeft_append_of_blank {a : Text} (ha : a.IsBlank) (t : Text) :
    (a ++ t).trimLeft = t.trimLeft := List.dropWhile_append_of_pos ha

theorem trimLeft_of_blank {a : Text} (ha : a.IsBlank) : a.trimLeft = [] := by
  have h := trimLeft_append_of_blank ha []
  rwa [List.append_nil] at h

theorem trimLeft_cons_of_not_blank {c : UInt8} (hc : Byte.isBlank c = false) (t : Text) :
    trimLeft (c :: t) = c :: t := List.dropWhile_cons_of_neg (by simp [hc])

/-- A text is a blank front followed by what trimming its front leaves. -/
theorem eq_append_trimLeft (t : Text) : ∃ a : Text, a.IsBlank ∧ t = a ++ t.trimLeft := by
  refine ⟨t.takeWhile Byte.isBlank, fun c hc => ?_, List.takeWhile_append_dropWhile.symm⟩
  have h := List.all_takeWhile (p := Byte.isBlank) (l := t)
  exact List.all_eq_true.mp h c hc

/-- What trimming the front leaves does not begin with a blank. -/
theorem not_blank_of_trimLeft {t r : Text} {c : UInt8} (h : t.trimLeft = c :: r) :
    Byte.isBlank c = false := by
  have hd := List.head?_dropWhile_not Byte.isBlank t
  have h' : t.dropWhile Byte.isBlank = c :: r := h
  rw [h'] at hd
  exact hd

theorem trimLeft_eq_nil_iff {t : Text} : t.trimLeft = [] ↔ t.IsBlank := List.dropWhile_eq_nil_iff

/-- Trimming the front of a text stops before a byte that is not blank. -/
theorem trimLeft_append_cons {c : UInt8} (hc : Byte.isBlank c = false) (t u : Text) :
    (t ++ c :: u).trimLeft = t.trimLeft ++ c :: u := by
  obtain ⟨a, ha, ht⟩ := eq_append_trimLeft t
  cases h : t.trimLeft with
  | nil =>
    rw [trimLeft_append_of_blank (trimLeft_eq_nil_iff.mp h), trimLeft_cons_of_not_blank hc]
    rfl
  | cons d r =>
    rw [ht, h, List.append_assoc, trimLeft_append_of_blank ha, List.cons_append,
      trimLeft_cons_of_not_blank (not_blank_of_trimLeft h)]

/-! ### The back -/

/-- Trimming the back of a text reaches into its front only where nothing is left behind that. -/
theorem trimRightBy_append (p : UInt8 → Bool) (a t : Text) :
    (a ++ t).trimRightBy p = if t.trimRightBy p = [] then a.trimRightBy p
      else a ++ t.trimRightBy p := by
  unfold trimRightBy
  rw [List.reverse_append, List.dropWhile_append]
  by_cases h : t.reverse.dropWhile p = [] <;> simp [h]

theorem trimRightBy_eq_self {p : UInt8 → Bool} {t : Text} (h : ∀ d ∈ t.getLast?, p d = false) :
    t.trimRightBy p = t := by
  apply List.rdropWhile_eq_self_iff.mpr
  intro hne hp
  rw [h _ (List.getLast?_eq_some_getLast hne)] at hp
  exact Bool.false_ne_true hp

theorem trimRight_append_of_blank {b : Text} (hb : b.IsBlank) (t : Text) :
    (t ++ b).trimRight = t.trimRight := by
  unfold trimRight trimRightBy
  rw [List.reverse_append, List.dropWhile_append_of_pos]
  intro c hc
  exact hb c (List.mem_reverse.mp hc)

theorem trimRight_append_of_not_blank {c : UInt8} (hc : Byte.isBlank c = false) (t : Text) :
    trimRight (t ++ [c]) = t ++ [c] := by
  unfold trimRight trimRightBy
  rw [List.reverse_append, List.reverse_singleton, List.singleton_append,
    List.dropWhile_cons_of_neg (by simp [hc]), List.reverse_cons, List.reverse_reverse]

/-- A text is what trimming its back leaves followed by a blank back. -/
theorem eq_trimRight_append (t : Text) : ∃ b : Text, b.IsBlank ∧ t = t.trimRight ++ b := by
  obtain ⟨a, ha, h⟩ := eq_append_trimLeft t.reverse
  refine ⟨a.reverse, fun c hc => ha c (List.mem_reverse.mp hc), ?_⟩
  have h' := congrArg List.reverse h
  rw [List.reverse_reverse, List.reverse_append] at h'
  exact h'

/-- What trimming the back leaves does not end in a blank. -/
theorem not_blank_of_trimRight {t r : Text} {c : UInt8} (h : t.trimRight = r ++ [c]) :
    Byte.isBlank c = false := by
  have h' : (t.reverse.dropWhile Byte.isBlank).reverse = r ++ [c] := h
  rw [List.reverse_eq_iff, List.reverse_append] at h'
  exact not_blank_of_trimLeft (t := t.reverse) h'

theorem trimRight_eq_self {t : Text} (h : ∀ r c, t = r ++ [c] → Byte.isBlank c = false) :
    t.trimRight = t := by
  rcases List.eq_nil_or_concat t with rfl | ⟨r, c, hr⟩
  · rfl
  · rw [List.concat_eq_append] at hr
    rw [hr]
    exact trimRight_append_of_not_blank (h r c hr) r

/-- Trimming the back stops at the last byte that is not blank. -/
theorem trimRight_append {t u : Text} (h : u.trimRight ≠ []) :
    (t ++ u).trimRight = t ++ u.trimRight := by
  unfold trimRight at h ⊢
  rw [trimRightBy_append, if_neg h]

theorem trimRight_cons (c : UInt8) (t : Text) :
    trimRight (c :: t) = if t.trimRight = [] then trimRight [c] else c :: t.trimRight :=
  trimRightBy_append Byte.isBlank [c] t

theorem trimRight_of_blank {b : Text} (hb : b.IsBlank) : b.trimRight = [] := by
  have h := trimRight_append_of_blank hb []
  rwa [List.nil_append] at h

/-- Trimming the back of a text stops before a byte that is not blank. -/
theorem trimRight_append_cons {c : UInt8} (hc : Byte.isBlank c = false) (t u : Text) :
    (t ++ c :: u).trimRight = t ++ c :: u.trimRight := by
  have hu : trimRight (c :: u) = c :: u.trimRight := by
    rw [trimRight_cons]
    split
    · rename_i h
      rw [h]
      exact trimRight_append_of_not_blank hc []
    · rfl
  rw [trimRight_append (by rw [hu]; exact List.cons_ne_nil _ _), hu]

/-! ### Both ends -/

theorem trim_of_blank {a : Text} (ha : a.IsBlank) : a.trim = [] := by
  unfold trim
  rw [trimLeft_of_blank ha]
  rfl

/-- A text without a blank at its ends is what `trim` leaves of it. -/
theorem trim_eq_self {t : Text} (hl : ∀ c r, t = c :: r → Byte.isBlank c = false)
    (hr : ∀ r c, t = r ++ [c] → Byte.isBlank c = false) : t.trim = t := by
  have h : t.trimLeft = t := by
    cases t with
    | nil => rfl
    | cons c r => exact trimLeft_cons_of_not_blank (hl c r rfl) r
  unfold trim
  rw [h]
  exact trimRight_eq_self hr

theorem trim_cons_append_singleton {c d : UInt8} (hc : Byte.isBlank c = false)
    (hd : Byte.isBlank d = false) (t : Text) : trim (c :: (t ++ [d])) = c :: (t ++ [d]) := by
  refine trim_eq_self (fun e r h => ?_) (fun r e h => ?_)
  · rw [← (List.cons.inj h).1]
    exact hc
  · rw [← List.cons_append] at h
    rw [← List.singleton_inj.mp (List.append_inj' h rfl).2]
    exact hd

theorem not_blank_of_trim {t r : Text} {c : UInt8} (h : t.trim = c :: r) :
    Byte.isBlank c = false := by
  obtain ⟨b, -, hb⟩ := eq_trimRight_append t.trimLeft
  have h' : t.trimLeft = c :: (r ++ b) := by
    rw [hb, show t.trimLeft.trimRight = c :: r from h]
    rfl
  exact not_blank_of_trimLeft h'

theorem trim_trim (t : Text) : t.trim.trim = t.trim :=
  trim_eq_self (fun _ _ h => not_blank_of_trim h)
    (fun _ _ h => not_blank_of_trimRight (t := t.trimLeft) h)

theorem IsTrimmed.trimLeft_eq {t : Text} (h : t.IsTrimmed) : t.trimLeft = t := by
  cases t with
  | nil => rfl
  | cons c r => exact trimLeft_cons_of_not_blank (not_blank_of_trim h) r

theorem IsTrimmed.trimRight_eq {t : Text} (h : t.IsTrimmed) : t.trimRight = t := by
  have htrim : t.trimLeft.trimRight = t := h
  rwa [h.trimLeft_eq] at htrim

/-- The back of a trimmed text is not blank, unless it is empty. -/
theorem IsTrimmed.eq_nil_of_trim {a b : Text} (h : (a ++ b).IsTrimmed) (hb : b.trim = []) :
    b = [] := by
  rcases List.eq_nil_or_concat b with rfl | ⟨r, c, rfl⟩
  · rfl
  · rw [List.concat_eq_append] at h hb
    have hc : Byte.isBlank c = false := by
      apply not_blank_of_trimRight (t := trimLeft (a ++ (r ++ [c]))) (r := a ++ r)
      rw [List.append_assoc]
      exact h
    rw [trim, trimLeft_append_cons hc, trimRight_append_of_not_blank hc] at hb
    exact absurd hb (by simp)

theorem isTrimmed_trim (t : Text) : t.trim.IsTrimmed := trim_trim t

/-- A text is what `trim` leaves of it between a blank front and a blank back. -/
theorem eq_pad_trim (t : Text) :
    ∃ a b : Text, a.IsBlank ∧ b.IsBlank ∧ t = a ++ t.trim ++ b := by
  obtain ⟨a, ha, h⟩ := eq_append_trimLeft t
  obtain ⟨b, hb, h'⟩ := eq_trimRight_append t.trimLeft
  refine ⟨a, b, ha, hb, ?_⟩
  rw [List.append_assoc, show t.trim ++ b = t.trimLeft from h'.symm]
  exact h

/-- Blanks around a text do not change what `trim` leaves of it. -/
theorem trim_eq_nil_iff {t : Text} : t.trim = [] ↔ t.IsBlank := by
  refine ⟨fun h => ?_, trim_of_blank⟩
  obtain ⟨a, b, ha, hb, hsplit⟩ := eq_pad_trim t
  rw [hsplit, h, List.append_nil]
  exact ha.append hb

theorem trim_pad {a b : Text} (ha : a.IsBlank) (hb : b.IsBlank) (t : Text) :
    (a ++ t ++ b).trim = t.trim := by
  unfold trim
  rw [List.append_assoc, trimLeft_append_of_blank ha]
  cases h : t.trimLeft with
  | nil =>
    rw [trimLeft_append_of_blank (trimLeft_eq_nil_iff.mp h), trimLeft_of_blank hb]
  | cons c r =>
    obtain ⟨a', ha', ht⟩ := eq_append_trimLeft t
    rw [ht, h, List.append_assoc, trimLeft_append_of_blank ha', List.cons_append,
      trimLeft_cons_of_not_blank (not_blank_of_trimLeft h), ← List.cons_append,
      trimRight_append_of_blank hb]

theorem trim_trimLeft (t : Text) : t.trimLeft.trim = t.trim := by
  obtain ⟨a, ha, ht⟩ := eq_append_trimLeft t
  have h := trim_pad ha isBlank_nil t.trimLeft
  rw [List.append_nil, ← ht] at h
  exact h.symm

theorem trim_trimRight (t : Text) : t.trimRight.trim = t.trim := by
  obtain ⟨b, hb, ht⟩ := eq_trimRight_append t
  have h := trim_pad isBlank_nil hb t.trimRight
  rw [List.nil_append, ← ht] at h
  exact h.symm

/-! ### Joining -/

theorem join_nil (ts : List Text) : Text.join [] ts = ts.flatten := by
  induction ts with
  | nil => rfl
  | cons t ts ih =>
    cases ts with
    | nil => simp [Text.join]
    | cons u us =>
      rw [Text.join, ih, List.append_nil]
      rfl

end NestedCss.Text
