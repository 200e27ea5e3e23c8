import NestedCss.Proofs.CustomNames
/-!
# Wrapping a value again

A wrapped value has no bare custom property left, so that wrapping it again changes nothing
(`Custom.wrap_wrap`). The second search reads what the first has written. The two are compared
where they stand behind the same byte of the value: they are in the same string, have the same
parentheses open, and have the same part of an identifier behind them (`Custom.Agree`).

* `Agree.next`: a byte that both copy keeps the agreement;
* `wrapFrom_group`: the second search copies a group `var(--name)`, and leaves its parentheses as
  they were;
* `Agree.behind_group`: the first byte behind the group finds both in agreement again.

The last step is the one that can fail. A parenthesis directly behind a name that has been wrapped
stands behind `)` in the result, so it must not have counted as that of a `var` before
(`Custom.HasLongVar`).
-/
namespace NestedCss.Custom

open State

/-! ### Identifiers before a parenthesis -/

/-- The identifier directly before position `j`: the longest run of identifier symbols that ends
there. -/
def identifierBefore (v : Text) (j : Nat) : Text :=
  ((Utf8.symbols (v.take j)).rtakeWhile Symbol.isIdent).flatMap Symbol.bytes

/-- At position `j` an opening parenthesis stands directly behind an identifier that ends in `var`,
in any letter case, and is longer than that. -/
def IsLongVarAt (v : Text) (j : Nat) : Prop :=
  v[j]? = some Byte.openParen ∧
    (identifierBefore v j).toLowerAscii.endsWith (Text.ofString "var") = true ∧
    (Text.ofString "var").length < (identifierBefore v j).length

instance (v : Text) (j : Nat) : Decidable (IsLongVarAt v j) := instDecidableAnd

def HasLongVar (v : Text) : Prop := ∃ j, IsLongVarAt v j

theorem exists_mem_range_iff (v : Text) :
    (∃ j ∈ List.range v.length, IsLongVarAt v j) ↔ HasLongVar v := by
  refine exists_congr fun j => and_iff_right_of_imp fun h => ?_
  exact List.mem_range.mpr (List.getElem?_eq_some_iff.mp h.1).1

instance (v : Text) : Decidable (HasLongVar v) :=
  @decidable_of_iff _ _ (exists_mem_range_iff v) (List.decidableBEx _ _)

/-- The identifier bytes at the end of a text. -/
def trailing (u : Text) : Text := u.rtakeWhile Byte.isIdent

theorem trailing_concat (u : Text) (c : UInt8) :
    trailing (u ++ [c]) = if Byte.isIdent c then trailing u ++ [c] else [] :=
  List.rtakeWhile_concat ..

theorem identifierBefore_eq (u r : Text) : identifierBefore (u ++ r) u.length = trailing u := by
  rw [identifierBefore, List.take_left, Utf8.flatMap_bytes_rtakeWhile_isIdent, trailing]

theorem isIdent_of_toLower {c : UInt8} (h : Byte.toLower c ∈ Text.ofString "var") :
    Byte.isIdent c = true := by
  cases hupper : Byte.isUpper c with
  | true => simp [Byte.isIdent, Byte.isLetter, hupper]
  | false =>
    have hall : (Text.ofString "var").all Byte.isIdent = true := by decide
    rw [Byte.toLower, hupper] at h
    exact List.all_eq_true.mp hall c h

/-- Whether `var` comes before is a matter of the identifier there. -/
theorem isVar_behind_eq_trailing (u : Text) :
    (behind u).isVar = (trailing u).toLowerAscii.endsWith (Text.ofString "var") := by
  rw [isVar_behind, Bool.eq_iff_iff, Text.endsWith, Text.endsWith, List.isSuffixOf_iff_suffix,
    List.isSuffixOf_iff_suffix, Text.toLowerAscii, Text.toLowerAscii]
  constructor
  · intro h
    obtain ⟨t, ⟨a, rfl⟩, ht⟩ := List.suffix_map_iff.mp h
    have hident : ∀ c ∈ t, Byte.isIdent c = true := by
      intro c hc
      exact isIdent_of_toLower (ht ▸ List.mem_map_of_mem hc)
    rw [trailing, Utf8.rtakeWhile_isIdent_append hident, List.map_append, ht]
    exact List.suffix_append ..
  · intro h
    exact h.trans ((List.rtakeWhile_suffix _ u).map _)

theorem hasLongVar_of_hyphen {u r : Text} (hvar : (behind u).isVar = true)
    (hhyphen : Byte.hyphen ∈ trailing u) : HasLongVar (u ++ Byte.openParen :: r) := by
  rw [isVar_behind_eq_trailing] at hvar
  refine ⟨u.length, ?_, ?_, ?_⟩
  · rw [List.getElem?_append_right (Nat.le_refl _), Nat.sub_self, List.getElem?_cons_zero]
  · rwa [identifierBefore_eq]
  · rw [identifierBefore_eq]
    -- an identifier of three bytes would be `var` itself, which has no hyphen
    by_contra hlen
    have hsuffix : Text.ofString "var" <:+ (trailing u).toLowerAscii := by
      rwa [Text.endsWith, List.isSuffixOf_iff_suffix] at hvar
    have heq : Text.ofString "var" = (trailing u).toLowerAscii := by
      refine hsuffix.eq_of_length_le ?_
      rw [Text.toLowerAscii, List.length_map]
      exact Nat.not_lt.mp hlen
    have hmem : Byte.toLower Byte.hyphen ∈ Text.ofString "var" :=
      heq ▸ List.mem_map_of_mem hhyphen
    exact absurd hmem (by decide)

/-! ### Two searches in agreement -/

/-- A search behind `w` finds the same as one behind `u`. -/
structure Agree (u w : Text) : Prop where
  quotes : (behind w).toQuotes = (behind u).toQuotes
  parens : (behind w).parens = (behind u).parens
  run : trailing w = trailing u

theorem isIdent_before_eq_trailing (u : Text) :
    ((behind u).before.head?.map Byte.isIdent).getD false = !(trailing u).isEmpty := by
  rw [before_behind, trailing, List.rtakeWhile, List.isEmpty_reverse]
  cases u.reverse with
  | nil => rfl
  | cons c r => cases h : Byte.isIdent c <;> simp [h]

theorem parens_behind_concat (u : Text) (c : UInt8) :
    (behind (u ++ [c])).parens = (behind u).nextParens c := by
  rw [behind_concat]
  rfl

namespace Agree

variable {u w : Text}

/-- One more byte. What comes before it matters only for a parenthesis. -/
theorem concat {c : UInt8} (hquotes : (behind w).toQuotes = (behind u).toQuotes)
    (hparens : (behind w).parens = (behind u).parens)
    (hvar : c = Byte.openParen → (behind w).isVar = (behind u).isVar)
    (hrun : trailing (w ++ [c]) = trailing (u ++ [c])) : Agree (u ++ [c]) (w ++ [c]) := by
  refine ⟨?_, ?_, hrun⟩
  · rw [behind_concat, behind_concat]
    show (behind w).toQuotes.next c = (behind u).toQuotes.next c
    rw [hquotes]
  · rw [parens_behind_concat, parens_behind_concat, nextParens_eq, nextParens_eq, hquotes, hparens]
    by_cases hc : c = Byte.openParen
    · rw [hvar hc]
    · simp only [hc, false_and, if_false]

theorem startsName (h : Agree u w) (t : Text) :
    (behind w).startsName t = (behind u).startsName t := by
  unfold State.startsName
  rw [isIdent_before_eq_trailing, isIdent_before_eq_trailing, h.parens, h.run]

theorem next (h : Agree u w) (c : UInt8) : Agree (u ++ [c]) (w ++ [c]) := by
  refine concat h.quotes h.parens (fun _ => ?_) ?_
  · rw [isVar_behind_eq_trailing, isVar_behind_eq_trailing, h.run]
  · rw [trailing_concat, trailing_concat, h.run]

end Agree

/-! ### What the first search writes -/

theorem wrapFrom_behind_nil (u : Text) : wrapFrom (behind u) [] = [] := by
  rw [wrapFrom, inName_behind]
  rfl

theorem startsName_of_take_ne {s : State} {t : Text}
    (h : t.take 2 ≠ [Byte.hyphen, Byte.hyphen]) : s.startsName t = false := by
  rw [Bool.eq_false_iff]
  intro hstart
  exact h (startsName_iff.mp hstart).2.1

/-- Behind a byte that belongs to an identifier no name starts, and the next byte is kept. -/
theorem wrapFrom_of_isIdent (u : Text) {c : UInt8} (hc : Byte.isIdent c = true) (d : UInt8)
    (r : Text) :
    wrapFrom (behind (u ++ [c])) (d :: r) = d :: wrapFrom (behind (u ++ [c] ++ [d])) r := by
  refine wrapFrom_of_not_startsName ?_
  rintro ⟨-, hstart⟩
  have hbefore := (startsName_iff.mp hstart).1.2
  rw [isIdent_before_eq_trailing, trailing_concat, if_pos hc] at hbefore
  simp at hbefore

/-- What is written behind a byte makes a name of it only if what is read there does. -/
theorem startsName_cons_wrapFrom (s : State) (u : Text) (c : UInt8) (r : Text) :
    s.startsName (c :: wrapFrom (behind (u ++ [c])) r) = s.startsName (c :: r) := by
  have hident : Byte.isIdent Byte.hyphen = true := by decide
  by_cases hc : c = Byte.hyphen
  · subst hc
    -- three bytes decide, and the second hyphen is read like the first
    cases r with
    | nil => rw [wrapFrom_behind_nil]
    | cons d r =>
      rw [wrapFrom_of_isIdent u hident]
      by_cases hd : d = Byte.hyphen
      · subst hd
        cases r with
        | nil => rw [wrapFrom_behind_nil]
        | cons e r =>
          rw [wrapFrom_of_isIdent _ hident]
          rfl
      · rw [startsName_of_take_ne, startsName_of_take_ne]
        all_goals simp [hd]
  · rw [startsName_of_take_ne, startsName_of_take_ne]
    all_goals simp [hc]

/-! ### A group in the result -/

/-- A text that has become a group. -/
def group (name : Text) : Text := Text.ofString "var(" ++ name ++ [Byte.closeParen]

variable {u w name : Text}

theorem toQuotes_behind_append (hq : (behind w).isQuoted = false) {t : Text}
    (ht : t.Avoids Byte.quoting) (hne : t ≠ []) : (behind (w ++ t)).toQuotes = {} := by
  obtain ⟨c, t, rfl⟩ := List.exists_cons_of_ne_nil hne
  rw [Text.avoids_cons] at ht
  have hfirst : (behind w).toQuotes.next c = {} := by
    have hturns := Quotes.turns_of_not_mem ht.1 (behind w).toQuotes
    have hquoting : (behind w).quoting = .outside := by simpa [Quotes.isQuoted] using hq
    have hslash : (c == Byte.backslash) = false := by
      rw [beq_eq_false_iff_ne]
      rintro rfl
      exact ht.1 (by decide)
    rw [Quotes.next, hturns, hquoting, hslash]
    rfl
  rw [toQuotes_behind, Quotes.after_append, ← toQuotes_behind, Quotes.after, List.foldl_cons,
    hfirst]
  exact Quotes.after_of_avoids ht.2

theorem parens_behind_append (u : Text) (h : ∀ c ∈ name, Byte.isIdent c = true) :
    (behind (u ++ name)).parens = (behind u).parens := by
  induction name using List.reverseRecOn with
  | nil => rw [List.append_nil]
  | append_singleton name c ih =>
    have hplain := not_mem_of_isIdent (h c (List.mem_append_right _ (List.mem_singleton_self c)))
    simp only [Byte.quoting, Byte.brackets, List.mem_append, List.mem_cons, List.not_mem_nil,
      or_false, not_or] at hplain
    rw [← List.append_assoc, parens_behind_concat, nextParens_eq, if_neg (by tauto),
      if_neg (by tauto), ih fun d hd => h d (List.mem_append_left _ hd)]

theorem wrapFrom_append_of_no_hyphen {t : Text} (h : Byte.hyphen ∉ t) (r : Text) :
    wrapFrom (behind w) (t ++ r) = t ++ wrapFrom (behind (w ++ t)) r := by
  induction t generalizing w with
  | nil => rw [List.append_nil]; rfl
  | cons c t ih =>
    rw [List.mem_cons, not_or] at h
    have hstart : (behind w).startsName (c :: (t ++ r)) = false :=
      startsName_of_take_ne (by simp [Ne.symm h.1])
    rw [List.cons_append, wrapFrom_of_not_startsName (by simp [hstart]), ih h.2,
      List.append_assoc, List.singleton_append, List.cons_append]

/-- Inside a `var`, no name is wrapped. -/
theorem wrapFrom_append_of_var (h : ∀ c ∈ name, Byte.isIdent c = true)
    (hvar : (behind w).parens.contains true = true) (r : Text) :
    wrapFrom (behind w) (name ++ r) = name ++ wrapFrom (behind (w ++ name)) r := by
  induction name generalizing w with
  | nil => rw [List.append_nil]; rfl
  | cons c name ih =>
    rw [List.forall_mem_cons] at h
    have hstart : ¬ ((behind w).isQuoted = false ∧
        (behind w).startsName (c :: (name ++ r)) = true) := by
      rintro ⟨-, hstart⟩
      have hfree := (startsName_iff.mp hstart).1.1
      rw [hvar] at hfree
      exact absurd hfree Bool.false_ne_true.symm
    have hparens : (behind (w ++ [c])).parens = (behind w).parens :=
      parens_behind_append w (by simpa using h.1)
    rw [List.cons_append, wrapFrom_of_not_startsName hstart, ih h.2 (hparens ▸ hvar),
      List.append_assoc, List.singleton_append, List.cons_append]

theorem isVar_behind_var (w : Text) : (behind (w ++ Text.ofString "var")).isVar = true := by
  have hlower : (Text.ofString "var").map Byte.toLower = Text.ofString "var" := by decide
  rw [isVar_behind, Text.endsWith, List.isSuffixOf_iff_suffix, Text.toLowerAscii, List.map_append,
    hlower]
  exact List.suffix_append ..

/-- The parenthesis of a group is one of `var`. -/
theorem parens_behind_open (hq : (behind w).isQuoted = false) :
    (behind (w ++ Text.ofString "var(")).parens = true :: (behind w).parens := by
  have hsplit : Text.ofString "var(" = Text.ofString "var" ++ [Byte.openParen] := by decide
  have hident : (Text.ofString "var").all Byte.isIdent = true := by decide
  have hquotes : (behind (w ++ Text.ofString "var")).toQuotes = {} :=
    toQuotes_behind_append hq (by decide) (by decide)
  have hunquoted : (behind (w ++ Text.ofString "var")).isQuoted = false := by rw [hquotes]; rfl
  rw [hsplit, ← List.append_assoc, parens_behind_concat, nextParens_eq, if_pos ⟨rfl, hunquoted⟩,
    isVar_behind_var, parens_behind_append w (List.all_eq_true.mp hident)]

theorem avoids_of_isIdent (h : ∀ c ∈ name, Byte.isIdent c = true) : name.Avoids Byte.quoting :=
  Text.avoids_of_all (List.all_eq_true.mpr h) _ (by decide)

theorem toQuotes_behind_group (hq : (behind w).isQuoted = false)
    (h : ∀ c ∈ name, Byte.isIdent c = true) :
    (behind (w ++ Text.ofString "var(" ++ name)).toQuotes = {} := by
  have hstart : (Text.ofString "var(").Avoids Byte.quoting := by decide
  rw [List.append_assoc]
  refine toQuotes_behind_append hq (Text.avoids_append.mpr ⟨hstart, avoids_of_isIdent h⟩) ?_
  exact List.append_ne_nil_of_left_ne_nil (by decide) name

/-- The second search leaves a group as it is. -/
theorem wrapFrom_group (hq : (behind w).isQuoted = false) (h : ∀ c ∈ name, Byte.isIdent c = true)
    (r : Text) : wrapFrom (behind w) (group name ++ r) =
      group name ++ wrapFrom (behind (w ++ group name)) r := by
  have hvar : (behind (w ++ Text.ofString "var(")).parens.contains true = true := by
    rw [parens_behind_open hq]
    rfl
  simp only [group, List.append_assoc]
  rw [wrapFrom_append_of_no_hyphen (by decide), wrapFrom_append_of_var h hvar,
    wrapFrom_append_of_no_hyphen (by decide), List.append_assoc, List.append_assoc]

/-- A group closes what it opens. -/
theorem parens_behind_group (hq : (behind w).isQuoted = false)
    (h : ∀ c ∈ name, Byte.isIdent c = true) :
    (behind (w ++ group name)).parens = (behind w).parens := by
  have hunquoted : (behind (w ++ Text.ofString "var(" ++ name)).isQuoted = false := by
    rw [toQuotes_behind_group hq h]
    rfl
  have hopen : Byte.closeParen ≠ Byte.openParen := by decide
  rw [group, ← List.append_assoc, ← List.append_assoc, parens_behind_concat, nextParens_eq,
    if_neg fun hand => hopen hand.1, if_pos ⟨rfl, hunquoted⟩, parens_behind_append _ h,
    parens_behind_open hq, List.tail_cons]

/-- Behind a name and its group, and one more byte, the searches agree as they did before. -/
theorem Agree.behind_group {c : UInt8} {r : Text} (h : Agree u w)
    (hq : (behind u).isQuoted = false) (hname : ∀ d ∈ name, Byte.isIdent d = true)
    (hhyphen : Byte.hyphen ∈ name) (hc : Byte.isIdent c = false)
    (hlong : ¬ HasLongVar (u ++ name ++ c :: r)) :
    Agree (u ++ name ++ [c]) (w ++ group name ++ [c]) := by
  have hqw : (behind w).isQuoted = false := by rwa [h.quotes]
  have hu : (behind (u ++ name)).toQuotes = {} :=
    toQuotes_behind_append hq (avoids_of_isIdent hname) (List.ne_nil_of_mem hhyphen)
  have hw : (behind (w ++ group name)).toQuotes = {} := by
    rw [group, ← List.append_assoc, ← List.append_assoc, toQuotes_behind, Quotes.after_append,
      ← toQuotes_behind, toQuotes_behind_group hqw hname]
    rfl
  refine Agree.concat (by rw [hw, hu]) ?_ ?_ ?_
  · rw [parens_behind_group hqw hname, parens_behind_append u hname, h.parens]
  · rintro rfl
    -- `)` is no `var`, so the name in its place must have been none either
    have hnot : (behind (u ++ name)).isVar = false := by
      rw [Bool.eq_false_iff]
      intro hvar
      have hmem : Byte.hyphen ∈ trailing (u ++ name) := by
        rw [trailing, Utf8.rtakeWhile_isIdent_append hname]
        exact List.mem_append_right _ hhyphen
      exact hlong (hasLongVar_of_hyphen hvar hmem)
    have hclose : trailing (w ++ group name) = [] := by
      rw [group, ← List.append_assoc, trailing_concat, if_neg (by decide)]
    rw [hnot, isVar_behind_eq_trailing, hclose]
    decide
  · rw [trailing_concat, trailing_concat, if_neg (by simp [hc]), if_neg (by simp [hc])]

/-! ### Wrapping twice -/

/-- Where a name starts, its group is written, and behind it comes a byte that is not part of it. -/
theorem exists_group {r : Text} (hq : (behind u).isQuoted = false)
    (hstart : (behind u).startsName r = true) : ∃ name rest, r = name ++ rest ∧
      (∀ c ∈ name, Byte.isIdent c = true) ∧ Byte.hyphen ∈ name ∧
      (∀ c ∈ rest.head?, Byte.isIdent c = false) ∧
      wrapFrom (behind u) r = group name ++ wrapFrom (behind (u ++ name)) rest := by
  refine ⟨r.takeWhile Byte.isIdent, r.dropWhile Byte.isIdent,
    List.takeWhile_append_dropWhile.symm, fun c hc => List.mem_takeWhile_imp hc, ?_, ?_, ?_⟩
  · cases r with
    | nil => exact absurd hstart (by simp [State.startsName])
    | cons c r =>
      obtain rfl := eq_hyphen_of_startsName hstart
      rw [List.takeWhile_cons_of_pos (by decide)]
      exact List.mem_cons_self ..
  · intro c hc
    have hhead := List.head?_dropWhile_not Byte.isIdent r
    rw [Option.mem_def.mp hc] at hhead
    exact hhead
  · rw [wrapFrom_of_startsName hq hstart, group, List.append_assoc, List.append_assoc,
      List.append_assoc, List.singleton_append]

/-- The second of two searches that agree leaves alone what the first one writes. -/
theorem wrapFrom_wrapFrom {r : Text} (h : Agree u w) (hlong : ¬ HasLongVar (u ++ r)) :
    wrapFrom (behind w) (wrapFrom (behind u) r) = wrapFrom (behind u) r := by
  -- on the length of what is left to read: a whole group may be written in one step
  induction hn : r.length using Nat.strongRecOn generalizing u w r with
  | ind n ih =>
    cases r with
    | nil => rw [wrapFrom_behind_nil, wrapFrom_behind_nil]
    | cons c r =>
      by_cases hstart : (behind u).isQuoted = false ∧ (behind u).startsName (c :: r) = true
      · obtain ⟨hq, hstart⟩ := hstart
        have hqw : (behind w).isQuoted = false := by rwa [h.quotes]
        obtain ⟨name, rest, hr, hname, hhyphen, hhead, hwritten⟩ := exists_group hq hstart
        rw [hwritten, wrapFrom_group hqw hname]
        congr 1
        -- directly behind the group the two do not agree yet, so one more byte is read
        cases rest with
        | nil => rw [wrapFrom_behind_nil, wrapFrom_behind_nil]
        | cons d rest =>
          have hd : Byte.isIdent d = false := hhead d rfl
          have hne : Byte.hyphen ∉ [d] := by
            rw [List.mem_singleton]
            rintro rfl
            exact absurd hd (by decide)
          rw [hr, ← List.append_assoc] at hlong
          have hcopy := fun w r => wrapFrom_append_of_no_hyphen (w := w) hne r
          simp only [List.singleton_append] at hcopy
          rw [hcopy, hcopy, ih rest.length ?_ (h.behind_group hq hname hhyphen hd hlong) ?_ rfl]
          · rw [← hn, hr, List.length_append, List.length_cons]
            omega
          · rwa [List.append_assoc, List.singleton_append]
      · have hagain : ¬ ((behind w).isQuoted = false ∧
            (behind w).startsName (c :: wrapFrom (behind (u ++ [c])) r) = true) := by
          rwa [h.quotes, h.startsName, startsName_cons_wrapFrom]
        rw [wrapFrom_of_not_startsName hstart, wrapFrom_of_not_startsName hagain]
        rw [ih r.length (by rw [← hn]; exact Nat.lt_succ_self _) (h.next c) _ rfl]
        rwa [List.append_assoc]

/-- Every span makes a value five bytes longer. -/
theorem length_wrapSpans {v : Text} {p : Nat} {spans : List (Nat × Nat)}
    (hordered : spans.Pairwise fun x y => x.2 ≤ y.1)
    (hspans : ∀ x ∈ spans, p ≤ x.1 ∧ x.1 ≤ x.2 ∧ x.2 ≤ v.length) :
    (wrapSpans v p spans).length = v.length - p + 5 * spans.length := by
  induction spans generalizing p with
  | nil => exact List.length_drop ..
  | cons x spans ih =>
    obtain ⟨i, e⟩ := x
    rw [List.pairwise_cons] at hordered
    rw [List.forall_mem_cons] at hspans
    obtain ⟨⟨hpi, hie, hev⟩, hspans⟩ := hspans
    have hrest := ih hordered.2 fun y hy => ⟨hordered.1 y hy, (hspans y hy).2⟩
    have hvar : (Text.ofString "var(").length = 4 := by decide
    rw [wrapSpans]
    simp only [List.length_append, List.length_cons, slice, List.length_take, List.length_drop,
      hvar, hrest]
    omega

theorem wrap_eq_self_iff {v : Text} : wrap v = v ↔ ∀ i, ¬ StartsAt v i := by
  obtain ⟨spans, hordered, hmem, hwrap⟩ := exists_spans v 0 (Nat.zero_le _)
  replace hwrap : wrap v = wrapSpans v 0 spans := hwrap
  constructor
  · intro h i hstart
    have hspans : ∀ x ∈ spans, 0 ≤ x.1 ∧ x.1 ≤ x.2 ∧ x.2 ≤ v.length := by
      intro x hx
      obtain ⟨hzero, hx, hend⟩ := (hmem x).mp hx
      rw [hend]
      exact ⟨hzero, Nat.le_of_lt hx.lt_nameEnd, nameEnd_le_length (Nat.le_of_lt hx.lt_length)⟩
    have hlength := length_wrapSpans hordered hspans
    have hpos : 0 < spans.length :=
      List.length_pos_of_mem ((hmem (i, nameEnd v i)).mpr ⟨Nat.zero_le i, hstart, rfl⟩)
    rw [← hwrap, h] at hlength
    omega
  · intro h
    have hnil : spans = [] := by
      rw [List.eq_nil_iff_forall_not_mem]
      exact fun x hx => h x.1 ((hmem x).mp hx).2.1
    rw [hwrap, hnil]
    rfl

/-- Wrapping leaves no bare custom property, so that wrapping again changes nothing, unless a
parenthesis stands directly behind an identifier that ends in `var` and is longer. -/
theorem wrap_wrap {v : Text} (hlong : ¬ HasLongVar v) :
    wrap (wrap v) = wrap v ∧ ∀ i, ¬ StartsAt (wrap v) i := by
  have htwice : wrap (wrap v) = wrap v :=
    wrapFrom_wrapFrom (u := []) (w := []) ⟨rfl, rfl, rfl⟩ hlong
  exact ⟨htwice, wrap_eq_self_iff.mp htwice⟩

theorem wrap_wrap_called :
    let v := Text.ofString "--a(var(--b) --é) '--c' calc(--d*2)"
    ¬ HasLongVar v ∧ wrap v = Text.ofString "var(--a)(var(--b) var(--é)) '--c' calc(var(--d)*2)" ∧
      wrap (wrap v) = wrap v :=
  ⟨by decide +kernel, by decide +kernel, (wrap_wrap (by decide +kernel)).1⟩

-- the parenthesis behind `--x-var` counts as one of `var` until the name is wrapped
example : wrap (Text.ofString "--x-var(--y)") = Text.ofString "var(--x-var)(--y)" ∧
    wrap (Text.ofString "var(--x-var)(--y)") = Text.ofString "var(--x-var)(var(--y))" := by
  decide +kernel

end NestedCss.Custom
