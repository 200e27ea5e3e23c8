import Mathlib.Data.List.Forall2
import Mathlib.Data.List.Induction
import NestedCss.Value
/-!
# Filling the template of a converter

A template is filled in several passes, one for each argument, the last first, and one for the whole
value. It comes to the same as reading the template once, from left to right, and looking up
what the byte behind each dollar sign stands for (`Converter.convert_eq_substitute`):

* `replaceAll_eq_substitute`: one pass is a substitution for one byte;
* `substitute_substitute`: two substitutions in a row are one, if what the first puts in has no
  dollar sign and the template has no two of them in a row;
* `foldl_replaceAll`: so all the passes together are one.
-/
namespace NestedCss.Converter

/-- A template read once from left to right: a dollar sign with a byte behind it for which `f` has a
text is replaced by this text, and every other byte is copied. -/
def substitute (f : UInt8 → Option Text) : Text → Text
  | [] => []
  | [c] => [c]
  | c :: d :: r =>
    if c = Byte.dollar then
      match f d with
      | some t => t ++ substitute f r
      | none => c :: substitute f (d :: r)
    else c :: substitute f (d :: r)

/-- What the byte behind a dollar sign stands for: a digit from 1 on for the argument with this
number, and an asterisk for the whole value. -/
def referent (value : Text) (c : UInt8) : Option Text :=
  if c = Byte.star then some value
  else if 0x31 ≤ c ∧ c ≤ 0x39 then value.splitValue[c.toNat - 0x31]?
  else none

/-! ### One pass -/

/-- The text `t` for the byte `d`, and none for any other. -/
def only (d : UInt8) (t : Text) (c : UInt8) : Option Text := if c = d then some t else none

variable {f g : UInt8 → Option Text}

theorem substitute_cons_of_ne {c : UInt8} (hc : c ≠ Byte.dollar) (t : Text) :
    substitute f (c :: t) = c :: substitute f t := by
  cases t with
  | nil => rfl
  | cons d t => rw [substitute, if_neg hc]

theorem substitute_append_of_not_mem {s : Text} (hs : Byte.dollar ∉ s) (t : Text) :
    substitute f (s ++ t) = s ++ substitute f t := by
  induction s with
  | nil => rfl
  | cons c s ih =>
    rw [List.mem_cons, not_or] at hs
    rw [List.cons_append, substitute_cons_of_ne (Ne.symm hs.1), ih hs.2, List.cons_append]

theorem replaceAll_eq_substitute (t : Text) (d : UInt8) (new : Text) :
    t.replaceAll [Byte.dollar, d] new = substitute (only d new) t := by
  rw [Text.replaceAll]
  fun_induction substitute (only d new) t with
  | case1 => rfl
  | case2 c => simp [Text.replaceFrom, Text.startsWith]
  | case3 e r t hf ih =>
    obtain ⟨rfl, rfl⟩ : e = d ∧ new = t := by simpa [only] using hf
    rw [Text.replaceFrom]
    simp [Text.replaceFrom, Text.startsWith, ih]
  | case4 e r hf ih =>
    have hne : e ≠ d := by simpa [only] using hf
    rw [Text.replaceFrom]
    simp [Text.startsWith, hne.symm, ih]
  | case5 c e r hc ih =>
    rw [Text.replaceFrom]
    simp [Text.startsWith, Ne.symm hc, ih]

/-! ### Two passes -/

/-- Two substitutions are one in which the first has precedence. -/
theorem substitute_substitute {t : Text} (ht : ¬ [Byte.dollar, Byte.dollar] <:+: t)
    (hf : ∀ c s, f c = some s → Byte.dollar ∉ s) :
    substitute g (substitute f t) = substitute (fun c => (f c).or (g c)) t := by
  fun_induction substitute f t with
  | case1 => rfl
  | case2 c => rfl
  | case3 d r s hd ih =>
    have hr := ih fun h => ht ((h.trans (List.suffix_cons d r).isInfix).trans
      (List.suffix_cons _ _).isInfix)
    rw [substitute_append_of_not_mem (hf d s hd), substitute, if_pos rfl, hd, Option.some_or, hr]
  | case4 d r hd ih =>
    -- the dollar sign that is left keeps the byte behind it, which is none itself
    have hne : d ≠ Byte.dollar := by
      rintro rfl
      exact ht ⟨[], r, rfl⟩
    have hr : substitute g (substitute f r) = substitute (fun c => (f c).or (g c)) r := by
      have hcons := ih fun h => ht (h.trans (List.suffix_cons _ _).isInfix)
      simp only [substitute_cons_of_ne hne] at hcons
      exact (List.cons.inj hcons).2
    rw [substitute_cons_of_ne hne, substitute, if_pos rfl, substitute, if_pos rfl, hd,
      Option.none_or, substitute_cons_of_ne hne, substitute_cons_of_ne hne, hr]
  | case5 c d r hc ih =>
    have hr := ih fun h => ht (h.trans (List.suffix_cons _ _).isInfix)
    rw [substitute_cons_of_ne hc, substitute_cons_of_ne hc, hr]

/-! ### All passes -/

theorem substitute_of_none (hf : ∀ c, f c = none) (t : Text) : substitute f t = t := by
  fun_induction substitute f t with
  | case1 => rfl
  | case2 c => rfl
  | case3 d r s hd ih => exact absurd hd (by rw [hf]; exact nofun)
  | case4 d r hd ih => rw [ih]
  | case5 c d r hc ih => rw [ih]

/-- The digit of a number below ten. -/
def digit (i : Nat) : UInt8 := 0x30 + i.toUInt8

theorem reference_eq {i : Nat} (hi : i ≤ 9) : reference i = [Byte.dollar, digit i] := by
  have hall : ∀ i < 10, reference i = [Byte.dollar, digit i] := by decide
  exact hall i (Nat.lt_succ_of_le hi)

theorem toNat_digit {i : Nat} (hi : i ≤ 9) : (digit i).toNat = 0x30 + i := by
  rw [digit, UInt8.toNat_add, Nat.toUInt8, UInt8.toNat_ofNat']
  show (0x30 + i % 256) % 256 = 0x30 + i
  omega

/-- The first of the numbered texts whose number has the digit `c`. -/
def numbered (args : List (Text × Nat)) (c : UInt8) : Option Text :=
  args.findSome? fun arg => only (digit arg.2) arg.1 c

theorem not_mem_of_numbered {args : List (Text × Nat)} (hargs : ∀ arg ∈ args, Byte.dollar ∉ arg.1)
    {c : UInt8} {s : Text} (h : numbered args c = some s) : Byte.dollar ∉ s := by
  obtain ⟨arg, harg, hsome⟩ := List.exists_of_findSome?_eq_some h
  obtain ⟨-, rfl⟩ : c = digit arg.2 ∧ arg.1 = s := by simpa [only] using hsome
  exact hargs arg harg

theorem foldl_replaceAll {t : Text} (ht : ¬ [Byte.dollar, Byte.dollar] <:+: t)
    {args : List (Text × Nat)} (hargs : ∀ arg ∈ args, Byte.dollar ∉ arg.1 ∧ arg.2 ≤ 9) :
    args.foldl (fun t arg => t.replaceAll (reference arg.2) arg.1) t
      = substitute (numbered args) t := by
  -- the last pass comes on top of one substitution in the template itself
  induction args using List.reverseRecOn with
  | nil => exact (substitute_of_none (fun _ => rfl) t).symm
  | append_singleton args arg ih =>
    have hlast := hargs arg (List.mem_append_right _ (List.mem_singleton_self arg))
    have hfront := fun x hx => hargs x (List.mem_append_left _ hx)
    rw [List.foldl_concat, ih hfront, reference_eq hlast.2, replaceAll_eq_substitute,
      substitute_substitute ht]
    · congr 1
      funext c
      rw [numbered, numbered, List.findSome?_append, List.findSome?_singleton]
    · exact fun c s => not_mem_of_numbered fun x hx => (hfront x hx).1

theorem numbered_zipIdx {args : List Text} (h : args.length ≤ 9) (c : UInt8) :
    numbered (args.zipIdx 1).reverse c
      = if 0x31 ≤ c ∧ c ≤ 0x39 then args[c.toNat - 0x31]? else none := by
  induction args using List.reverseRecOn with
  | nil => simp [numbered]
  | append_singleton args arg ih =>
    rw [List.length_append, List.length_singleton] at h
    have hdigit := toNat_digit (i := 1 + args.length) (by omega)
    have hlast : numbered ((args ++ [arg]).zipIdx 1).reverse c
        = (only (digit (1 + args.length)) arg c).or (numbered (args.zipIdx 1).reverse c) := by
      rw [List.zipIdx_append, List.reverse_append, numbered, List.findSome?_append, numbered]
      exact congrArg (Option.or · _) List.findSome?_singleton
    rw [hlast, ih (by omega), only]
    simp only [UInt8.le_iff_toNat_le, ← UInt8.toNat_inj, hdigit, UInt8.reduceToNat]
    by_cases hc : c.toNat = 0x30 + (1 + args.length)
    · have hindex : c.toNat - 0x31 = args.length := by omega
      rw [if_pos hc, Option.some_or, if_pos (by omega), hindex, List.getElem?_concat_length]
    · rw [if_neg hc, Option.none_or]
      split
      · rcases Nat.lt_or_ge (c.toNat - 0x31) args.length with hlt | hge
        · rw [List.getElem?_append_left hlt]
        · have hbeyond : (args ++ [arg]).length ≤ c.toNat - 0x31 := by
            rw [List.length_append, List.length_singleton]
            omega
          rw [List.getElem?_eq_none hge, List.getElem?_eq_none hbeyond]
      · rfl

/-! ### Arguments -/

theorem mem_of_mem_splitValueFrom {s : Scanner} {word t a : Text}
    (ha : a ∈ Text.splitValueFrom s word t) {c : UInt8} (hc : c ∈ a) : c ∈ word ∨ c ∈ t := by
  fun_induction Text.splitValueFrom s word t with
  | case1 s word h => exact absurd ha List.not_mem_nil
  | case2 s word h => exact .inl (List.mem_singleton.mp ha ▸ hc)
  | case3 s word d r htop hword ih =>
    exact .inr (List.mem_cons_of_mem d ((ih ha).resolve_left List.not_mem_nil))
  | case4 s word d r htop hword ih =>
    rcases List.mem_cons.mp ha with rfl | ha
    · exact .inl hc
    · exact .inr (List.mem_cons_of_mem d ((ih ha).resolve_left List.not_mem_nil))
  | case5 s word d r htop ih =>
    rcases ih ha with hword | hr
    · rw [List.mem_append, List.mem_singleton] at hword
      refine hword.imp_right fun h => ?_
      rw [h]
      exact List.mem_cons_self ..
    · exact .inr (List.mem_cons_of_mem d hr)

theorem mem_of_mem_splitValue {value a : Text} (ha : a ∈ value.splitValue) {c : UInt8}
    (hc : c ∈ a) : c ∈ value :=
  (mem_of_mem_splitValueFrom ha hc).resolve_left List.not_mem_nil

/-! ### The whole template -/

theorem fill_eq_substitute {value template : Text} (hvalue : Byte.dollar ∉ value)
    (hargs : value.splitValue.length ≤ 9) (ht : ¬ [Byte.dollar, Byte.dollar] <:+: template) :
    fill template value = substitute (referent value) template := by
  have hnumbers : ∀ arg ∈ (value.splitValue.zipIdx 1).reverse,
      Byte.dollar ∉ arg.1 ∧ arg.2 ≤ 9 := by
    intro arg harg
    rw [List.mem_reverse] at harg
    obtain ⟨hfrom, hto, hget⟩ := List.mem_zipIdx harg
    have hmem : arg.1 ∈ value.splitValue := by
      rw [hget]
      exact List.getElem_mem _
    exact ⟨fun hdollar => hvalue (mem_of_mem_splitValue hmem hdollar), by omega⟩
  rw [fill, foldl_replaceAll ht hnumbers, replaceAll_eq_substitute, substitute_substitute ht]
  · congr 1
    funext c
    rw [numbered_zipIdx hargs, referent, only]
    by_cases hc : c = Byte.star
    · subst hc
      rfl
    · rw [if_neg hc, if_neg hc, Option.or_none]
  · exact fun c s => not_mem_of_numbered fun arg harg => (hnumbers arg harg).1

/-- A converter gives its properties in their order, and each value is its template with all the
references replaced at once, if the value has no dollar sign and the template no two in a row. -/
theorem convert_eq_substitute (c : Converter) {value : Text} (hvalue : Byte.dollar ∉ value)
    (hargs : value.splitValue.length ≤ 9) :
    List.Forall₂ (fun template d => d.property = template.property ∧
        (¬ [Byte.dollar, Byte.dollar] <:+: template.value →
          d.value = substitute (referent value) template.value))
      c.output (c.convert value) := by
  rw [convert, List.forall₂_map_right_iff, List.forall₂_same]
  intro d _
  exact ⟨rfl, fill_eq_substitute hvalue hargs⟩

theorem convert_eq_substitute_border :
    let c : Converter := ⟨Text.ofString "$b", 2,
      [⟨Text.ofString "border", Text.ofString "$10 $2/$*$3$0$"⟩]⟩
    let value := Text.ofString "red calc(1 + 2)"
    (Byte.dollar ∉ value ∧ value.splitValue.length ≤ 9 ∧
      ¬ [Byte.dollar, Byte.dollar] <:+: Text.ofString "$10 $2/$*$3$0$") ∧
    c.convert value = [⟨Text.ofString "border",
      Text.ofString "red0 calc(1 + 2)/red calc(1 + 2)$3$0$"⟩] := by
  intro c value
  have hvalue : Byte.dollar ∉ value := by decide
  have hargs : value.splitValue.length ≤ 9 := by decide
  have hdollars : ¬ [Byte.dollar, Byte.dollar] <:+: Text.ofString "$10 $2/$*$3$0$" := by decide
  obtain ⟨d, rest, ⟨hproperty, hd⟩, hrest, heq⟩ :=
    List.forall₂_cons_left_iff.mp (convert_eq_substitute c hvalue hargs)
  refine ⟨⟨hvalue, hargs, hdollars⟩, ?_⟩
  rw [heq, List.forall₂_nil_left_iff.mp hrest]
  have hfilled : substitute (referent value) (Text.ofString "$10 $2/$*$3$0$")
      = Text.ofString "red0 calc(1 + 2)/red calc(1 + 2)$3$0$" := by decide
  congr 1
  cases d
  congr 1
  exact (hd hdollars).trans hfilled

end NestedCss.Converter
