import NestedCss.Proofs.Scanner
import NestedCss.Selector
/-!
# The normal form of a selector

The scan that brings a selector into its normal form takes the bytes of a run one by one
(`NormalState.run_combinator`, `NormalState.run_blank`), and what is pending behind them is an
explicit combinator or a space (`NormalState.IsPending`). A joined list of selectors is cut into its
members again (`map_trim_splitTopLevel_join`).
-/
namespace NestedCss.Selector

theorem mem_of_isCombinator {c : UInt8} (h : isCombinator c = true) :
    c ∈ [Byte.greater, Byte.plus, Byte.tilde] := by
  simpa [isCombinator, or_assoc] using h

theorem not_blank_of_isCombinator {c : UInt8} (h : isCombinator c = true) :
    Byte.isBlank c = false := by
  rw [Bool.eq_false_iff]
  intro hc
  exact Text.not_mem_of_isBlank hc (by decide) (mem_of_isCombinator h)

theorem ne_space_of_isCombinator {c : UInt8} (h : isCombinator c = true) : c ≠ Byte.space := by
  rintro rfl
  exact absurd h (by decide)

namespace NormalState

variable {pretty : Bool} {p : Option UInt8} {c : UInt8}

/-! ### One step -/

/-- The first combinator of a run stays pending; it takes the place of a blank. -/
theorem run_combinator (hc : isCombinator c = true) (r : Text) :
    run pretty { pending := p } (c :: r)
      = run pretty { pending := if p = none ∨ p = some Byte.space then some c else p } r := by
  have h := mem_of_isCombinator hc
  simp only [List.mem_cons, List.not_mem_nil, or_false] at h
  rcases h with rfl | rfl | rfl <;> rfl

theorem run_blank (hc : Byte.isBlank c = true) (r : Text) :
    run pretty { pending := p } (c :: r)
      = run pretty { pending := some (p.getD Byte.space) } r := by
  have h := hc
  simp only [Byte.isBlank, Bool.or_eq_true, beq_iff_eq] at h
  rcases h with ((((rfl | rfl) | rfl) | rfl) | rfl) | rfl <;> rfl

/-! ### Whole runs -/

/-- A pending combinator: an explicit one or a space. -/
def IsPending (p : Option UInt8) : Prop := ∀ c ∈ p, isCombinator c = true ∨ c = Byte.space

theorem isPending_none : IsPending none := fun _ h => absurd h (by simp)

theorem isPending_combinator (hp : IsPending p) (hc : isCombinator c = true) :
    IsPending (if p = none ∨ p = some Byte.space then some c else p) := by
  split
  · intro d hd
    cases hd
    exact .inl hc
  · exact hp

theorem isPending_blank (hp : IsPending p) : IsPending (some (p.getD Byte.space)) := by
  intro d hd
  cases hd
  cases p with
  | none => exact .inr rfl
  | some c => exact hp c rfl

end NormalState

theorem normalize_eq_run {a : Text} (ha : a.IsTrimmed) {pretty : Bool} :
    normalize a pretty false = NormalState.run pretty {} a := by
  unfold normalize
  rw [if_neg Bool.false_ne_true, ha]

/-! ### Lists of selectors -/

/-- A space behind each comma stands in front of the next member. -/
theorem join_comma_space (t : Text) (ts : List Text) :
    Text.join [Byte.comma, Byte.space] (t :: ts)
      = Text.join [Byte.comma] (t :: ts.map (Byte.space :: ·)) := by
  induction ts generalizing t with
  | nil => rfl
  | cons u us ih =>
    rw [List.map_cons, Text.join, Text.join, ih u]
    have hcons : ∀ l : List Text, Text.join [Byte.comma] ((Byte.space :: u) :: l)
        = Byte.space :: Text.join [Byte.comma] (u :: l) := by
      intro l
      cases l <;> rfl
    rw [hcons]
    simp only [List.append_assoc, List.cons_append, List.nil_append]

theorem join_eq_nil_iff {ts : List Text} {pretty : Bool} :
    join ts pretty = [] ↔ ts = [] ∨ ts = [[]] := by
  unfold join
  match ts with
  | [] => simp [Text.join]
  | [t] => simp [Text.join]
  | t :: u :: us => cases pretty <;> simp [Text.join]

/-- A selector list is cut into its members, but for blanks, where every member closes what it opens
and has no comma on the top level. -/
theorem map_trim_splitTopLevel_join_of_closed {ts : List Text} (hne : ts ≠ []) (pretty : Bool)
    (h : ∀ t ∈ ts, Text.countTopFrom Byte.comma {} t = 0 ∧ t.IsClosed) :
    ((join ts pretty).splitTopLevel Byte.comma).map (·.text.trim) = ts.map Text.trim := by
  have hcomma : Byte.comma ∉ Byte.quoting ++ Byte.brackets := by decide
  obtain ⟨t, ts, rfl⟩ := List.exists_cons_of_ne_nil hne
  unfold join
  cases pretty with
  | false =>
    have hsplit := congrArg (List.map Text.trim)
      (Text.map_text_splitTopLevel_join_of_closed hne hcomma h)
    rw [List.map_map] at hsplit
    exact hsplit
  | true =>
    have hpadded : ∀ u ∈ t :: ts.map (Byte.space :: ·),
        Text.countTopFrom Byte.comma {} u = 0 ∧ u.IsClosed := by
      rw [List.forall_mem_cons]
      refine ⟨h t (List.mem_cons_self ..), fun u hu => ?_⟩
      obtain ⟨v, hv, rfl⟩ := List.mem_map.mp hu
      obtain ⟨hcount, hquoted, hdepth⟩ := h v (List.mem_cons_of_mem _ hv)
      have hspace : Scanner.next {} Byte.space = {} := by decide
      refine ⟨?_, ?_, ?_⟩
      · rw [Text.countTopFrom, hspace, hcount]
        rfl
      · rwa [Scanner.after, List.foldl_cons, hspace]
      · rwa [Scanner.after, List.foldl_cons, hspace]
    have hsplit := congrArg (List.map Text.trim)
      (Text.map_text_splitTopLevel_join_of_closed (List.cons_ne_nil t _) hcomma hpadded)
    rw [if_pos rfl, join_comma_space]
    rw [List.map_map, List.map_cons, List.map_map] at hsplit
    exact hsplit

/-- The alternatives of such a list are its members, without blanks at their ends and without those
that are blank. -/
theorem splitAlternatives_join {ts : List Text} (pretty : Bool)
    (h : ∀ t ∈ ts, Text.countTopFrom Byte.comma {} t = 0 ∧ t.IsClosed) :
    (join ts pretty).splitAlternatives = (ts.map Text.trim).filter (! ·.isEmpty) := by
  cases ts with
  | nil => cases pretty <;> rfl
  | cons t ts =>
    rw [Text.splitAlternatives,
      map_trim_splitTopLevel_join_of_closed (List.cons_ne_nil t ts) pretty h]

/-- A selector list is cut into its members, but for blanks. -/
theorem map_trim_splitTopLevel_join {ts : List Text} (hne : ts ≠ []) (pretty : Bool)
    (h : ∀ t ∈ ts, t.Avoids (Byte.quoting ++ Byte.brackets ++ [Byte.comma])) :
    ((join ts pretty).splitTopLevel Byte.comma).map (·.text.trim) = ts.map Text.trim :=
  map_trim_splitTopLevel_join_of_closed hne pretty fun t ht =>
    Text.closed_of_avoids (h t ht)

end NestedCss.Selector
