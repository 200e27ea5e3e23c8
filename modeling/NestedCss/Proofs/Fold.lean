/-!
# Folds that can fail

What is known of a computation that succeeds: all of its steps did. A fold that succeeds has a
result after each of its items, and what every step keeps holds at its end (`foldlM_induct`).
-/
namespace NestedCss

variable {ε α β : Type}

theorem exists_of_bind_eq_ok {x : Except ε α} {f : α → Except ε β} {b : β} (h : x >>= f = .ok b) :
    ∃ a, x = .ok a ∧ f a = .ok b := by
  cases x with
  | error e => cases h
  | ok a => exact ⟨a, rfl, h⟩

theorem exists_of_map_toOption {x : Except ε α} {f : α → β} {b : β}
    (h : x.toOption.map f = some b) : ∃ a, x = .ok a ∧ f a = b := by
  cases x with
  | error e => cases h
  | ok a => exact ⟨a, rfl, Option.some.inj h⟩

variable {f : β → α → Except ε β} {b c : β} {l : List α}

theorem exists_of_foldlM_cons {a : α} (h : (a :: l).foldlM f b = .ok c) :
    ∃ next, f b a = .ok next ∧ l.foldlM f next = .ok c := by
  rw [List.foldlM_cons] at h
  exact exists_of_bind_eq_ok h

theorem foldlM_append_of_ok {m : List α} {next : β} (h : l.foldlM f b = .ok next)
    (hm : m.foldlM f next = .ok c) : (l ++ m).foldlM f b = .ok c := by
  rw [List.foldlM_append, h]
  exact hm

/-- What holds at the start and is carried by every step to the items so far holds at the end. -/
theorem foldlM_induct_before {P : List α → β → Prop} (hstart : P [] b)
    (hstep : ∀ before a rest v next, l = before ++ a :: rest → before.foldlM f b = .ok v →
      P before v → f v a = .ok next → P (before ++ [a]) next)
    (h : l.foldlM f b = .ok c) : P l c := by
  -- by the items that are left
  suffices hrest : ∀ rest before v, l = before ++ rest → before.foldlM f b = .ok v → P before v →
      rest.foldlM f v = .ok c → P l c from hrest l [] b rfl rfl hstart h
  intro rest
  induction rest with
  | nil =>
    intro before v hl _ hv h
    cases h
    rw [hl, List.append_nil]
    exact hv
  | cons a rest ih =>
    intro before v hl hbefore hv h
    obtain ⟨next, hnext, h⟩ := exists_of_foldlM_cons h
    refine ih (before ++ [a]) next (by simp [hl]) (foldlM_append_of_ok hbefore ?_)
      (hstep before a rest v next hl hbefore hv hnext) h
    rw [List.foldlM_cons, hnext]
    rfl

/-- What holds at the start and is kept by every step holds at the end. -/
theorem foldlM_induct {P : β → Prop} (hstart : P b)
    (hstep : ∀ v, ∀ a ∈ l, ∀ next, P v → f v a = .ok next → P next)
    (h : l.foldlM f b = .ok c) : P c := by
  refine foldlM_induct_before (P := fun _ => P) hstart ?_ h
  intro before a rest v next hl _ hv hnext
  exact hstep v a (by simp [hl]) next hv hnext

/-! ### Outcomes without their errors -/

theorem toOption_bind (x : Except ε α) (f : α → Except ε β) :
    (x >>= f).toOption = x.toOption.bind fun a => (f a).toOption := by
  cases x <;> rfl

/-- Folds end alike if their steps do. -/
theorem toOption_foldlM_congr {f' : β → α → Except ε β}
    (h : ∀ a ∈ l, ∀ b, (f' b a).toOption = (f b a).toOption) (b : β) :
    (l.foldlM f' b).toOption = (l.foldlM f b).toOption := by
  induction l generalizing b with
  | nil => rfl
  | cons a l ih =>
    obtain ⟨ha, hl⟩ := List.forall_mem_cons.mp h
    rw [List.foldlM_cons, List.foldlM_cons, toOption_bind, toOption_bind, ha]
    simp only [ih hl]

theorem of_toOption_eq {x y : Except ε α} (h : x.toOption = y.toOption) :
    (∃ e e', x = .error e ∧ y = .error e') ∨ ∃ a, x = .ok a ∧ y = .ok a := by
  cases x with
  | error e =>
    cases y with
    | error e' => exact .inl ⟨e, e', rfl, rfl⟩
    | ok a => cases h
  | ok a =>
    cases y with
    | error e' => cases h
    | ok a' =>
      cases h
      exact .inr ⟨a, rfl, rfl⟩

end NestedCss
