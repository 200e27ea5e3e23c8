import Mathlib.Data.List.Forall2
import NestedCss.Proofs.Selector
/-!
# Nesting as a product

The selector lists around a rule are combined one after the other, the outermost first. What comes
of it is one selector for each choice of an alternative from every list (`nest`), and the place of
that selector is the number whose digits are the places of the chosen alternatives, with the
outermost as the lowest digit (`choicePlace`). One step is a product of two lists
(`getElem?_combine`); the product of all is built on it (`getElem?_foldl_combine`).
-/
namespace NestedCss.Selector

/-! ### Choices -/

/-- The number of choices of one alternative from each group. -/
def choiceCount : List (List Text) → Nat
  | [] => 1
  | g :: groups => g.length * choiceCount groups

/-- A choice of one alternative from each group, each with its place in the group. -/
def IsChoice (groups : List (List Text)) (choice : List (Nat × Text)) : Prop :=
  List.Forall₂ (fun g c => g[c.1]? = some c.2) groups choice

/-- The number with the given digits, the lowest first; the base of each is the size of its
group. -/
def choicePlace : List (List Text) → List Nat → Nat
  | g :: groups, j :: places => j + g.length * choicePlace groups places
  | _, _ => 0

/-- The selector of a rule below one alternative of each group. -/
def nest (opts : Options) : List Text → Text
  | [] => []
  | outermost :: inner =>
    inner.foldl (fun parent child => combineOne parent child.trim opts)
      (normalize outermost opts.pretty false)

/-- Every number below the number of choices is the place of a choice. -/
theorem exists_isChoice (groups : List (List Text)) : ∀ i < choiceCount groups,
    ∃ choice, IsChoice groups choice ∧ choicePlace groups (choice.map (·.1)) = i := by
  induction groups with
  | nil =>
    intro i hi
    exact ⟨[], .nil, (Nat.lt_one_iff.mp hi).symm⟩
  | cons g groups ih =>
    intro i hi
    rw [choiceCount] at hi
    have hpos : 0 < g.length := Nat.pos_of_mul_pos_right (Nat.zero_lt_of_lt hi)
    -- the lowest digit is the remainder
    have hdigit : i % g.length < g.length := Nat.mod_lt i hpos
    obtain ⟨choice, hchoice, hplace⟩ := ih (i / g.length) (Nat.div_lt_of_lt_mul hi)
    refine ⟨(i % g.length, g.get ⟨i % g.length, hdigit⟩) :: choice,
      .cons (List.getElem?_eq_getElem hdigit) hchoice, ?_⟩
    rw [List.map_cons, choicePlace, hplace]
    exact Nat.mod_add_div i g.length

/-! ### One list below another -/

/-- The product of two lists, where the second varies fastest. -/
theorem getElem?_flatMap_map {α β γ : Type} (f : α → β → γ) {as : List α} {bs : List β}
    {i j : Nat} {a : α} {b : β} (ha : as[j]? = some a) (hb : bs[i]? = some b) :
    (as.flatMap fun a => bs.map (f a))[i + bs.length * j]? = some (f a b) := by
  have hi : i < bs.length := (List.getElem?_eq_some_iff.mp hb).1
  induction as generalizing j with
  | nil => cases ha
  | cons x as ih =>
    rw [List.flatMap_cons]
    cases j with
    | zero =>
      obtain rfl := Option.some.inj ha
      rw [Nat.mul_zero, Nat.add_zero, List.getElem?_append_left (by rwa [List.length_map]),
        List.getElem?_map, hb]
      rfl
    | succ j =>
      have hplace : i + bs.length * (j + 1) = bs.length + (i + bs.length * j) := by
        rw [Nat.mul_succ]
        omega
      rw [hplace, List.getElem?_append_right (by rw [List.length_map]; omega), List.length_map,
        Nat.add_sub_cancel_left]
      exact ih ha

variable (opts : Options)

theorem combine_of_ne_nil {parents : List Text} (h : parents ≠ []) (children : List Text) :
    combine parents children opts
      = children.flatMap fun c => parents.map fun p => combineOne p c.trim opts := by
  rw [combine, if_neg (by simpa using h)]

theorem length_combine {parents : List Text} (h : parents ≠ []) (children : List Text) :
    (combine parents children opts).length = parents.length * children.length := by
  rw [combine_of_ne_nil opts h]
  induction children with
  | nil => rfl
  | cons c children ih =>
    rw [List.flatMap_cons, List.length_append, ih, List.length_map, List.length_cons, Nat.mul_succ,
      Nat.add_comm]

theorem getElem?_combine {parents children : List Text} {i j : Nat} {p c : Text}
    (hp : parents[i]? = some p) (hc : children[j]? = some c) :
    (combine parents children opts)[i + parents.length * j]? = some (combineOne p c.trim opts) := by
  have hne : parents ≠ [] := List.ne_nil_of_mem (List.mem_of_getElem? hp)
  rw [combine_of_ne_nil opts hne]
  exact getElem?_flatMap_map (fun c p => combineOne p (Text.trim c) opts) hc hp

/-! ### A row of lists -/

theorem length_foldl_combine (groups : List (List Text)) (h : ∀ g ∈ groups, g ≠ []) :
    ∀ {carry : List Text}, carry ≠ [] →
      (groups.foldl (combine · · opts) carry).length = carry.length * choiceCount groups := by
  induction groups with
  | nil => intro carry _; exact (Nat.mul_one _).symm
  | cons g groups ih =>
    intro carry hcarry
    rw [List.forall_mem_cons] at h
    have hlength := length_combine opts hcarry g
    have hnext : combine carry g opts ≠ [] := by
      rw [← List.length_pos_iff, hlength]
      exact Nat.mul_pos (List.length_pos_iff.mpr hcarry) (List.length_pos_iff.mpr h.1)
    rw [List.foldl_cons, ih h.2 hnext, hlength, choiceCount, Nat.mul_assoc]

/-- What has been combined so far is the lowest digit of a place. -/
theorem getElem?_foldl_combine {groups : List (List Text)} {choice : List (Nat × Text)}
    (h : IsChoice groups choice) : ∀ {carry : List Text} {i : Nat} {p : Text},
      carry[i]? = some p →
      (groups.foldl (combine · · opts) carry)[i + carry.length
          * choicePlace groups (choice.map (·.1))]?
        = some ((choice.map (·.2)).foldl
            (fun parent child => combineOne parent child.trim opts) p) := by
  induction h with
  | nil => intro carry i p hp; exact hp
  | @cons g c groups choice hc _ ih =>
    intro carry i p hp
    have hne : carry ≠ [] := List.ne_nil_of_mem (List.mem_of_getElem? hp)
    have hnext := ih (getElem?_combine opts hp hc)
    rw [length_combine opts hne, Nat.mul_assoc, Nat.add_assoc, ← Nat.mul_add] at hnext
    exact hnext

/-- Groups without alternatives are skipped. -/
theorem build_eq_join (padded : List (List Text)) :
    build padded opts
      = join ((padded.filter (! ·.isEmpty)).foldl (combine · · opts) []) opts.pretty := by
  rw [build, List.foldl_filter]
  congr 2
  funext carry g
  cases g <;> rfl

/-- **Nesting is the product of all groups.** Combining groups that are not empty gives one selector
for each choice of an alternative from every group, at the place that the choice determines, and no
others. The selector list of a rule is made of these, whatever empty groups stand between the
others. -/
theorem foldl_combine_eq_choices (groups : List (List Text)) (hne : groups ≠ [])
    (hfull : ∀ g ∈ groups, g ≠ []) :
    (groups.foldl (combine · · opts) []).length = choiceCount groups ∧
      (∀ choice, IsChoice groups choice →
        (groups.foldl (combine · · opts) [])[choicePlace groups (choice.map (·.1))]?
          = some (nest opts (choice.map (·.2)))) ∧
      (∀ i < (groups.foldl (combine · · opts) []).length,
        ∃ choice, IsChoice groups choice ∧ choicePlace groups (choice.map (·.1)) = i) ∧
      ∀ padded, padded.filter (! ·.isEmpty) = groups →
        build padded opts = join (groups.foldl (combine · · opts) []) opts.pretty := by
  obtain ⟨g, groups, rfl⟩ := List.exists_cons_of_ne_nil hne
  rw [List.forall_mem_cons] at hfull
  -- the outermost group has no parents
  have hfirst : combine [] g opts = g.map (normalize · opts.pretty false) := rfl
  have hlength : ((g :: groups).foldl (combine · · opts) []).length
      = choiceCount (g :: groups) := by
    rw [List.foldl_cons, hfirst, length_foldl_combine opts groups hfull.2 (by simpa using hfull.1),
      List.length_map, choiceCount]
  refine ⟨hlength, ?_, ?_, ?_⟩
  · rintro choice (_ | ⟨hc, hchoice⟩)
    rename_i c choice
    have hp : (g.map (normalize · opts.pretty false))[c.1]?
        = some (normalize c.2 opts.pretty false) := by
      rw [List.getElem?_map, hc]
      rfl
    have hget := getElem?_foldl_combine opts hchoice hp
    rw [List.length_map] at hget
    rw [List.foldl_cons, hfirst]
    exact hget
  · rw [hlength]
    exact exists_isChoice (g :: groups)
  · rintro padded hpadded
    rw [build_eq_join, hpadded]

/-- Three groups of two. The place 5 is that of the second, the first and again the second
alternative. -/
theorem foldl_combine_eq_choices_three :
    ∃ groups : List (List Text), groups ≠ [] ∧ (∀ g ∈ groups, g ≠ []) ∧
      groups = [["a", "b"], ["&.c", "> d"], ["e", "f &"]].map (·.map Text.ofString) ∧
      (groups.foldl (combine · · { pretty := true }) []).length = 8 ∧
      (groups.foldl (combine · · { pretty := true }) [])[5]?
        = some (Text.ofString "f b.c") ∧
      (groups.foldl (combine · · { pretty := true }) [])[6]?
        = some (Text.ofString "f a > d") ∧
      build ([] :: groups ++ [[]]) { pretty := true }
        = join (groups.foldl (combine · · { pretty := true }) []) true := by
  let groups : List (List Text) :=
    [["a", "b"], ["&.c", "> d"], ["e", "f &"]].map (·.map Text.ofString)
  have hne : groups ≠ [] := by decide
  have hfull : ∀ g ∈ groups, g ≠ [] := by simp [groups]
  obtain ⟨hlength, hget, -, hbuild⟩ :=
    foldl_combine_eq_choices { pretty := true } groups hne hfull
  have h5 : IsChoice groups [(1, Text.ofString "b"), (0, Text.ofString "&.c"),
      (1, Text.ofString "f &")] :=
    .cons rfl (.cons rfl (.cons rfl .nil))
  have h6 : IsChoice groups [(0, Text.ofString "a"), (1, Text.ofString "> d"),
      (1, Text.ofString "f &")] :=
    .cons rfl (.cons rfl (.cons rfl .nil))
  exact ⟨groups, hne, hfull, rfl, hlength, (hget _ h5).trans (by decide),
    (hget _ h6).trans (by decide), hbuild _ rfl⟩

end NestedCss.Selector
