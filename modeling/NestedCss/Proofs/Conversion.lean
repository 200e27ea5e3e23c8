import NestedCss.Proofs.Grouping
import NestedCss.Proofs.NestedSheet
import NestedCss.Value
/-!
# What converters leave alone

Converters run over a list of declarations, and what they give is set one after the other, so that a
later declaration can replace the value of an earlier one, at its old place. The declarations of
some properties are not touched by this: those that no converter accepts and whose property no
converter gives (`Conversion.applyAll_keeps`).

Setting a property says nothing about others, and so commutes with looking only at some of them
(`Declarations.select_ofList`). With an eye only for the properties left alone, the declarations to
be set are those that were there (`Conversion.select_applyAll`).
-/
namespace NestedCss

namespace Declarations

variable {q : Text → Bool}

/-- The declarations whose property passes a test. -/
def select (q : Text → Bool) (l : List Declaration) : List Declaration :=
  l.filter fun e => q e.property

theorem select_cons (e : Declaration) (l : List Declaration) :
    select q (e :: l) = if q e.property then e :: select q l else select q l :=
  List.filter_cons

theorem select_setIn (p v : Text) (l : List Declaration) :
    select q (setIn p v l) = if q p then setIn p v (select q l) else select q l := by
  induction l with
  | nil => cases hp : q p <;> simp [select, setIn, hp]
  | cons d l ih =>
    by_cases hd : d.property = p
    · subst hd
      cases hp : q d.property <;> simp [select_cons, setIn, hp]
    · rw [setIn, if_neg hd, select_cons, select_cons, ih]
      -- the two tests are independent, and `d` stays in front of what is set
      cases hq : q d.property <;> cases hp : q p <;> simp [setIn, hd]

theorem select_setAll (l : List Declaration) : ∀ {d d' : Declarations},
    select q d.toList = d'.toList →
      select q (d.setAll l).toList = (d'.setAll (select q l)).toList := by
  induction l with
  | nil => exact fun h => h
  | cons e l ih =>
    intro d d' h
    have hset : select q (d.set e.property e.value).toList
        = if q e.property then (d'.set e.property e.value).toList else d'.toList := by
      rw [set, select_setIn, h]
      rfl
    rw [select_cons]
    cases he : q e.property with
    | true =>
      rw [he, if_pos rfl] at hset
      exact ih hset
    | false =>
      rw [he, if_neg Bool.false_ne_true] at hset
      exact ih hset

theorem select_ofList (l : List Declaration) :
    select q (ofList l).toList = (ofList (select q l)).toList :=
  select_setAll l rfl

theorem toList_ofList {l : List Declaration} (h : (l.map Declaration.property).Nodup) :
    (ofList l).toList = l :=
  toList_setAll l empty h

theorem select_flatMap {f : Declaration → List Declaration} {l : List Declaration}
    (h : ∀ e ∈ l, select q (f e) = select q [e]) : select q (l.flatMap f) = select q l := by
  induction l with
  | nil => rfl
  | cons e l ih =>
    rw [List.forall_mem_cons] at h
    have happend : ∀ a b, select q (a ++ b) = select q a ++ select q b := List.filter_append
    rw [List.flatMap_cons, happend, h.1, ih h.2, ← happend, List.singleton_append]

theorem mem_setIn {p v : Text} {e : Declaration} {l : List Declaration} (h : e ∈ setIn p v l) :
    e = ⟨p, v⟩ ∨ e ∈ l := by
  induction l with
  | nil => exact .inl (List.mem_singleton.mp h)
  | cons d l ih =>
    rw [setIn] at h
    split at h
    · exact (List.mem_cons.mp h).imp_right (List.mem_cons_of_mem d)
    · rcases List.mem_cons.mp h with rfl | h
      · exact .inr (List.mem_cons_self ..)
      · exact (ih h).imp_right (List.mem_cons_of_mem d)

theorem mem_of_mem_setAll (l : List Declaration) : ∀ {d : Declarations} {e : Declaration},
    e ∈ (d.setAll l).toList → e ∈ d.toList ∨ e ∈ l := by
  induction l with
  | nil => exact fun h => .inl h
  | cons x l ih =>
    intro d e h
    rcases ih h with hset | hl
    · rcases mem_setIn hset with rfl | hd
      · exact .inr (List.mem_cons_self ..)
      · exact .inl hd
    · exact .inr (List.mem_cons_of_mem x hl)

theorem mem_of_mem_ofList {l : List Declaration} {e : Declaration} (h : e ∈ (ofList l).toList) :
    e ∈ l :=
  (mem_of_mem_setAll l h).resolve_left List.not_mem_nil

theorem mem_properties_ofList {l : List Declaration} {e : Declaration} (h : e ∈ l) :
    e.property ∈ (ofList l).properties := by
  rw [ofList, properties_setAll, List.mem_eraseDups]
  exact List.mem_append_right _ (List.mem_map_of_mem h)

end Declarations

namespace Conversion

variable {cs : List Conversion} {d : Declarations}

/-- No converter accepts a declaration. -/
def IsRefused (cs : List Conversion) (e : Declaration) : Prop :=
  ∀ c ∈ cs, c.accepts e.property e.value = false

/-- A converter that accepts a declaration of the list gives `o` for it, and `o` is not blank. -/
def IsOutput (cs : List Conversion) (d : Declarations) (o : Declaration) : Prop :=
  ∃ e ∈ d.toList, ∃ c ∈ cs, c.accepts e.property e.value = true ∧
    o ∈ c.convert e.value ∧ o.value.trim ≠ []

instance (cs : List Conversion) (e : Declaration) : Decidable (IsRefused cs e) :=
  List.decidableBAll _ _

theorem applyOne_of_isRefused {e : Declaration} (h : IsRefused cs e) : applyOne cs e = [e] := by
  have hnone : cs.filter (·.accepts e.property e.value) = [] := by
    rw [List.filter_eq_nil_iff]
    exact fun c hc => by simp [h c hc]
  rw [applyOne, hnone]
  rfl

theorem mem_applyOne {e o : Declaration} (h : ¬ IsRefused cs e) : o ∈ applyOne cs e ↔
    ∃ c ∈ cs, c.accepts e.property e.value = true ∧ o ∈ c.convert e.value ∧ o.value.trim ≠ [] := by
  have hsome : (cs.filter (·.accepts e.property e.value)).isEmpty = false := by
    rw [Bool.eq_false_iff, Ne, List.isEmpty_iff, List.filter_eq_nil_iff]
    intro hnone
    exact h fun c hc => by simpa using hnone c hc
  rw [applyOne, hsome, if_neg Bool.false_ne_true, List.mem_filter, List.mem_flatMap]
  constructor
  · rintro ⟨⟨c, hc, ho⟩, hblank⟩
    obtain ⟨hc, haccepts⟩ := List.mem_filter.mp hc
    exact ⟨c, hc, haccepts, ho, by simpa using hblank⟩
  · rintro ⟨c, hc, haccepts, ho, hblank⟩
    exact ⟨⟨c, List.mem_filter.mpr ⟨hc, haccepts⟩, ho⟩, by simpa using hblank⟩

/-- What is set is what was there and is not accepted, and what the converters give. -/
theorem mem_flatMap_applyOne {o : Declaration} : o ∈ d.toList.flatMap (applyOne cs) ↔
    (o ∈ d.toList ∧ IsRefused cs o) ∨ IsOutput cs d o := by
  rw [List.mem_flatMap]
  constructor
  · rintro ⟨e, he, ho⟩
    by_cases hr : IsRefused cs e
    · rw [applyOne_of_isRefused hr, List.mem_singleton] at ho
      exact .inl ⟨ho ▸ he, ho ▸ hr⟩
    · exact .inr ⟨e, he, (mem_applyOne hr).mp ho⟩
  · rintro (⟨ho, hr⟩ | ⟨e, he, c, hc, haccepts, ho⟩)
    · exact ⟨o, ho, by rw [applyOne_of_isRefused hr]; exact List.mem_singleton_self o⟩
    · have hr : ¬ IsRefused cs e := fun hr => by simp [hr c hc] at haccepts
      exact ⟨e, he, (mem_applyOne hr).mpr ⟨c, hc, haccepts, ho⟩⟩

/-- Properties that are not accepted and not given do not change. -/
theorem select_applyAll {q : Text → Bool}
    (hrefused : ∀ e ∈ d.toList, q e.property = true → IsRefused cs e)
    (houtput : ∀ o, IsOutput cs d o → q o.property = false) :
    Declarations.select q (applyAll cs d).toList = Declarations.select q d.toList := by
  have hset : Declarations.select q (d.toList.flatMap (applyOne cs))
      = Declarations.select q d.toList := by
    refine Declarations.select_flatMap fun e he => ?_
    by_cases hr : IsRefused cs e
    · rw [applyOne_of_isRefused hr]
    · -- neither the declaration itself nor what stands for it is looked at
      have hq : q e.property = false := by
        rw [Bool.eq_false_iff]
        exact fun hq => hr (hrefused e he hq)
      have hnone : Declarations.select q (applyOne cs e) = [] := by
        rw [Declarations.select, List.filter_eq_nil_iff]
        intro o ho
        have hoq := houtput o ⟨e, he, (mem_applyOne hr).mp ho⟩
        simp [hoq]
      rw [hnone, Declarations.select_cons, hq]
      rfl
  have hnodup : ((Declarations.select q d.toList).map Declaration.property).Nodup :=
    d.nodup.sublist (List.filter_sublist.map _)
  rw [applyAll, Declarations.select_ofList, hset, Declarations.toList_ofList hnodup]

/-- Declarations that no converter accepts, of properties that no converter gives, stay as they are
and in their order. Nothing else is there than other declarations that are not accepted and what the
converters give, and none of their properties is missing. Where nothing is accepted nothing
changes. -/
theorem applyAll_keeps (cs : List Conversion) (d : Declarations) :
    (∀ l : List Declaration, l.Sublist d.toList →
      (∀ e ∈ l, IsRefused cs e ∧ ∀ o, IsOutput cs d o → o.property ≠ e.property) →
        l.Sublist (applyAll cs d).toList) ∧
    (∀ o ∈ (applyAll cs d).toList, (o ∈ d.toList ∧ IsRefused cs o) ∨ IsOutput cs d o) ∧
    (∀ o, (o ∈ d.toList ∧ IsRefused cs o) ∨ IsOutput cs d o →
      o.property ∈ (applyAll cs d).properties) ∧
    ((∀ e ∈ d.toList, IsRefused cs e) → applyAll cs d = d) := by
  refine ⟨fun l hsub hkept => ?_, fun o ho => ?_, fun o ho => ?_, fun hrefused => ?_⟩
  · -- look at the properties of `l` only
    let q : Text → Bool := fun p => decide (p ∈ l.map Declaration.property)
    have hl : Declarations.select q l = l := by
      rw [Declarations.select, List.filter_eq_self]
      exact fun e he => decide_eq_true (List.mem_map_of_mem he)
    have hselect : Declarations.select q (applyAll cs d).toList
        = Declarations.select q d.toList := by
      refine select_applyAll (fun e he hq => ?_) fun o ho => ?_
      · obtain ⟨x, hx, hproperty⟩ := List.mem_map.mp (of_decide_eq_true hq)
        have heq : x = e := List.inj_on_of_nodup_map d.nodup (hsub.subset hx) he hproperty
        exact heq ▸ (hkept x hx).1
      · rw [decide_eq_false_iff_not, List.mem_map]
        rintro ⟨x, hx, hproperty⟩
        exact (hkept x hx).2 o ho hproperty.symm
    have hfiltered : (Declarations.select q l).Sublist (Declarations.select q d.toList) :=
      hsub.filter _
    rw [hl, ← hselect] at hfiltered
    exact hfiltered.trans List.filter_sublist
  · exact mem_flatMap_applyOne.mp (Declarations.mem_of_mem_ofList ho)
  · exact Declarations.mem_properties_ofList (mem_flatMap_applyOne.mpr ho)
  · have hnone : ∀ o, ¬ IsOutput cs d o := by
      rintro o ⟨e, he, c, hc, haccepts, -⟩
      simp [hrefused e he c hc] at haccepts
    have hselect := select_applyAll (q := fun _ => true) (fun e he _ => hrefused e he)
      fun o ho => absurd ho (hnone o)
    apply Declarations.ext
    simpa [Declarations.select] using hselect

theorem applyAll_keeps_border :
    let c : Converter := ⟨Text.ofString "$B", 0, [⟨Text.ofString "border", Text.ofString "1px $1"⟩,
      ⟨Text.ofString "x", Text.ofString " "⟩]⟩
    let x : Declaration := ⟨Text.ofString "x", Text.ofString "1"⟩
    let y : Declaration := ⟨Text.ofString "y", Text.ofString "2"⟩
    let d := Declarations.ofList [x, ⟨Text.ofString "$b", Text.ofString "red"⟩,
      ⟨Text.ofString "border", Text.ofString "0"⟩, y]
    ([x, y].Sublist d.toList ∧ ∀ e ∈ [x, y], IsRefused [c.toConversion] e ∧
      ∀ o, IsOutput [c.toConversion] d o → o.property ≠ e.property) ∧
    [x, y].Sublist (Converter.convertAll [c] d).toList ∧
    (Converter.convertAll [c] d).toList = [x, ⟨Text.ofString "border", Text.ofString "0"⟩, y] := by
  intro c x y d
  have hsub : [x, y].Sublist d.toList := by decide +kernel
  have hgiven : d.toList.all (fun e => !c.accepts e.property e.value || (c.convert e.value).all
      fun o => o.value.trim.isEmpty || o.property == Text.ofString "border") = true := by
    decide +kernel
  have hborder : ∀ o, IsOutput [c.toConversion] d o → o.property = Text.ofString "border" := by
    rintro o ⟨e, he, c', hc', haccepts, ho, hblank⟩
    obtain rfl := List.mem_singleton.mp hc'
    have hall := List.all_eq_true.mp hgiven e he
    rw [show c.accepts e.property e.value = true from haccepts, Bool.not_true, Bool.false_or,
      List.all_eq_true] at hall
    simpa [hblank] using hall o ho
  have hkept : ∀ e ∈ [x, y], IsRefused [c.toConversion] e ∧
      ∀ o, IsOutput [c.toConversion] d o → o.property ≠ e.property := by
    have hrefused : ∀ e ∈ [x, y], IsRefused [c.toConversion] e ∧
        Text.ofString "border" ≠ e.property := by decide +kernel
    intro e he
    refine ⟨(hrefused e he).1, fun o ho => ?_⟩
    rw [hborder o ho]
    exact (hrefused e he).2
  exact ⟨⟨hsub, hkept⟩, (applyAll_keeps [c.toConversion] d).1 [x, y] hsub hkept, by decide +kernel⟩

end Conversion

end NestedCss
