import Mathlib.Data.List.SplitBy
import Mathlib.Data.Nat.Find
import NestedCss.Proofs.TokenQuotes
/-!
# The shape of a token stream

The tokens of a source have a shape (`Shaped`): a name is followed by its value, selectors by the
brace that opens their block, and the braces are balanced. On a stream of that shape a single token
decides whether a sheet can be read from it: `Offends` says which tokens may not stand where, and
with which fault that is told.

What such a sheet holds is told by the tokens too: the statements, the maximal runs of selectors
(`selectorRuns`), and for each block the declarations directly inside it (`declarationsIn`).
-/
namespace NestedCss

namespace Token

/-! ### The shape of a stream -/

/-- Where a stream stands: between two clauses, behind a selector or behind the name of a
property. -/
inductive Phase where
  | clause
  | selectors
  | value
  deriving DecidableEq

/-- The streams of tokens that can follow below `d` open blocks. -/
inductive Shaped : Nat → Phase → List Token → Prop
  | finish : Shaped 0 .clause []
  | statement {d : Nat} {t : Token} {ts : List Token} (kind : t.kind = .statement)
      (more : Shaped d .clause ts) : Shaped d .clause (t :: ts)
  | name {d : Nat} {t : Token} {ts : List Token} (kind : t.kind = .propertyName)
      (more : Shaped d .value ts) : Shaped d .clause (t :: ts)
  | value {d : Nat} {t : Token} {ts : List Token} (kind : t.kind = .propertyValue)
      (more : Shaped d .clause ts) : Shaped d .value (t :: ts)
  | selector {d : Nat} {p : Phase} {t : Token} {ts : List Token} (phase : p ≠ .value)
      (kind : t.kind = .selector) (more : Shaped d .selectors ts) : Shaped d p (t :: ts)
  | start {d : Nat} {t : Token} {ts : List Token} (kind : t.kind = .ruleStart)
      (more : Shaped (d + 1) .clause ts) : Shaped d .selectors (t :: ts)
  | stop {d : Nat} {t : Token} {ts : List Token} (kind : t.kind = .ruleEnd)
      (more : Shaped d .clause ts) : Shaped (d + 1) .clause (t :: ts)

variable {src : Source} {own ts : List Token} {off d : Nat} {body : Text} {t : Token}

theorem shaped_of_alternatives (h : Alternatives off body own) (hts : Shaped d .selectors ts) :
    ∀ {p : Phase}, p ≠ .value → Shaped d p (own ++ ts) := by
  induction h with
  | last =>
    intro p hp
    exact .selector hp rfl hts
  | cons _ _ _ _ _ ih =>
    intro p hp
    exact .selector hp rfl (ih (by decide))

theorem shaped_of_phrase (h : Phrase off body own) (hts : Shaped d .clause ts) :
    Shaped d .clause (own ++ ts) := by
  cases h with
  | blank => exact hts
  | statement => exact .statement rfl hts
  | declaration => exact .name rfl (.value rfl hts)

/-- The tokens of a text have the shape of a stream. -/
theorem shaped_of_stream {text : Text} (h : Stream d off text ts) : Shaped d .clause ts := by
  induction h with
  | finish => exact .finish
  | semicolon _ hphrase _ ih => exact shaped_of_phrase hphrase ih
  | opening _ halts _ ih => exact shaped_of_alternatives halts (.start rfl ih) (by decide)
  | closing _ hphrase _ ih => exact shaped_of_phrase hphrase (.stop rfl ih)

/-! ### Tokens that offend -/

/-- `t.Offends depth off fault`: below `depth` open blocks the token `t` may not stand, which is told
as `fault` at `off`. -/
inductive Offends (t : Token) (depth : Int) : Int → Fault → Prop
  /-- An empty selector. -/
  | selector (kind : t.kind = .selector) (empty : t.text = []) :
      t.Offends depth t.off .emptySelector
  /-- A declaration outside every block. -/
  | property (kind : t.kind = .propertyName) (outside : depth = 0) :
      t.Offends depth t.off (.unexpectedToken t.text)
  /-- A statement inside a block. -/
  | statement (kind : t.kind = .statement) (inside : 1 ≤ depth) :
      t.Offends depth t.off (.unexpectedToken t.text)
  /-- A selector inside a block whose first line has a colon and is followed by another line. -/
  | semicolon {line rest : Text} (kind : t.kind = .selector) (inside : 1 ≤ depth)
      (text : t.text = line ++ Byte.lineFeed :: rest) (first : Byte.lineFeed ∉ line)
      (colon : Byte.colon ∈ line) :
      t.Offends depth (t.off + line.trimRight.length) .semicolonExpected

/-- The token at index `i` offends below the blocks that the tokens before it leave open, and below
`d` more. -/
def OffendsFrom (d : Int) (ts : List Token) (i : Nat) (off : Int) (fault : Fault) : Prop :=
  ∃ t, ts[i]? = some t ∧ t.Offends (d + depth (ts.take i)) off fault

/-- The token at index `i` offends below the blocks that the tokens before it leave open. -/
def OffendsAt (ts : List Token) (i : Nat) (off : Int) (fault : Fault) : Prop :=
  ∃ t, ts[i]? = some t ∧ t.Offends (depth (ts.take i)) off fault

theorem offendsFrom_zero_iff {i : Nat} {o : Int} {fault : Fault} :
    OffendsFrom 0 ts i o fault ↔ OffendsAt ts i o fault := by
  unfold OffendsFrom OffendsAt
  simp only [Int.zero_add]

theorem offendsFrom_cons_zero {d : Int} {o : Int} {fault : Fault} :
    OffendsFrom d (t :: ts) 0 o fault ↔ t.Offends d o fault := by
  unfold OffendsFrom
  simp [depth_nil]

theorem offendsFrom_cons_succ {d : Int} {i : Nat} {o : Int} {fault : Fault} :
    OffendsFrom d (t :: ts) (i + 1) o fault ↔ OffendsFrom (d + depth [t]) ts i o fault := by
  unfold OffendsFrom
  rw [List.getElem?_cons_succ, List.take_succ_cons, depth_cons, Int.add_assoc]

theorem exists_first_offendsAt (h : ∃ i off fault, OffendsAt ts i off fault) :
    ∃ i off fault, OffendsAt ts i off fault ∧
      ∀ j < i, ∀ off fault, ¬ OffendsAt ts j off fault := by
  classical
  obtain ⟨off, fault, hi⟩ := Nat.find_spec h
  exact ⟨Nat.find h, off, fault, hi, fun j hj off fault hj' => Nat.find_min h hj ⟨off, fault, hj'⟩⟩

/-- The faults of tokens that offend are not those of a missing selector or value. -/
theorem Offends.message_ne {depth o : Int} {fault : Fault} (h : t.Offends depth o fault) :
    fault.message ≠ Fault.selectorExpected.message ∧
      fault.message ≠ Fault.propertyValueExpected.message := by
  -- the wording of an unexpected token is told from the others by its fifteenth byte
  have hunexpected : ∀ u : Text, (Fault.unexpectedToken u).message.take 15
      = Text.ofString "syntax error: u" := by
    intro u
    unfold Fault.message
    rw [List.take_append_of_le_length (by decide +kernel)]
    decide +kernel
  have hne : ∀ (u : Text) (other : Fault), other.message.take 15 ≠ Text.ofString "syntax error: u" →
      (Fault.unexpectedToken u).message ≠ other.message := by
    intro u other hother heq
    rw [← heq] at hother
    exact hother (hunexpected u)
  cases h with
  | selector => decide +kernel
  | semicolon => decide +kernel
  | property => exact ⟨hne _ _ (by decide +kernel), hne _ _ (by decide +kernel)⟩
  | statement => exact ⟨hne _ _ (by decide +kernel), hne _ _ (by decide +kernel)⟩

/-! ### What the tokens say -/

/-- The texts of the statements. -/
def statements (ts : List Token) : List Text := (ts.filter (·.kind == .statement)).map (·.text)

/-- The maximal runs of selectors, as their texts. -/
def selectorRuns (ts : List Token) : List (List Text) :=
  ((ts.splitBy fun t u => (t.kind == .selector) == (u.kind == .selector)).filter
    (·.all (·.kind == .selector))).map (·.map (·.text))

/-- What stands behind each opening brace. -/
def bodies : List Token → List (List Token)
  | [] => []
  | t :: ts => if t.kind = .ruleStart then ts :: bodies ts else bodies ts

/-- The tokens directly inside a block, of which `n` inner blocks are open in front of the given
tokens. -/
def directlyInside : Nat → List Token → List Token
  | _, [] => []
  | n, t :: ts =>
    if t.kind = .ruleStart then directlyInside (n + 1) ts
    else if t.kind = .ruleEnd then (if n = 0 then [] else directlyInside (n - 1) ts)
    else if n = 0 then t :: directlyInside 0 ts
    else directlyInside n ts

/-- The names that have a value next to them, each with that value. -/
def pairs : List Token → List Declaration
  | name :: value :: ts =>
    if name.kind = .propertyName ∧ value.kind = .propertyValue then
      ⟨name.text, value.text⟩ :: pairs ts
    else pairs (value :: ts)
  | _ => []

/-- The declarations directly inside a block, of which `n` inner blocks are open; those without a
value do not count. -/
def declarationsIn (n : Nat) (ts : List Token) : List Declaration :=
  (pairs (directlyInside n ts)).filter (·.value ≠ [])

theorem statements_cons_of_ne (h : t.kind ≠ .statement) (ts : List Token) :
    statements (t :: ts) = statements ts := by
  simp [statements, h]

theorem bodies_cons_of_ne (h : t.kind ≠ .ruleStart) (ts : List Token) :
    bodies (t :: ts) = bodies ts := by
  rw [bodies, if_neg h]

theorem pairs_cons_of_ne (h : t.kind ≠ .propertyName) (ts : List Token) :
    pairs (t :: ts) = pairs ts := by
  cases ts with
  | nil => rfl
  | cons u ts => rw [pairs, if_neg fun hk => h hk.1]

theorem declarationsIn_start (h : t.kind = .ruleStart) (n : Nat) (ts : List Token) :
    declarationsIn n (t :: ts) = declarationsIn (n + 1) ts := by
  simp [declarationsIn, directlyInside, h]

theorem declarationsIn_stop_zero (h : t.kind = .ruleEnd) (ts : List Token) :
    declarationsIn 0 (t :: ts) = [] := by
  simp [declarationsIn, directlyInside, h, pairs]

theorem declarationsIn_stop_succ (h : t.kind = .ruleEnd) (n : Nat) (ts : List Token) :
    declarationsIn (n + 1) (t :: ts) = declarationsIn n ts := by
  simp [declarationsIn, directlyInside, h]

/-- A token that is neither a brace nor a name does not count. -/
theorem declarationsIn_other (h : t.isBrace = false) (hname : t.kind ≠ .propertyName) (n : Nat)
    (ts : List Token) : declarationsIn n (t :: ts) = declarationsIn n ts := by
  have hkind : t.kind ≠ .ruleStart ∧ t.kind ≠ .ruleEnd := by simpa [isBrace] using h
  unfold declarationsIn
  rw [directlyInside, if_neg hkind.1, if_neg hkind.2]
  split
  case isTrue hn => rw [hn, pairs_cons_of_ne hname]
  case isFalse => rfl

/-- A name and its value count where no inner block is open, if the value is not empty. -/
theorem declarationsIn_pair {name value : Token} (hname : name.kind = .propertyName)
    (hvalue : value.kind = .propertyValue) (n : Nat) (ts : List Token) :
    declarationsIn n (name :: value :: ts)
      = if n = 0 ∧ value.text ≠ [] then ⟨name.text, value.text⟩ :: declarationsIn n ts
        else declarationsIn n ts := by
  by_cases hn : n = 0
  · by_cases hv : value.text = [] <;>
      simp [declarationsIn, directlyInside, hname, hvalue, hn, pairs, hv]
  · simp [declarationsIn, directlyInside, hname, hvalue, hn]

/-- The runs of selectors, the first of which has begun with `begun`. -/
def runsFrom (begun : List Text) : List Token → List (List Text)
  | [] => if begun = [] then [] else [begun]
  | t :: ts =>
    if t.kind = .selector then runsFrom (begun ++ [t.text]) ts
    else (if begun = [] then [] else [begun]) ++ runsFrom [] ts

theorem selectorRuns_of_forall {g : List Token} {b : Bool}
    (h : ∀ t ∈ g, (t.kind == .selector) = b) :
    selectorRuns g = if b = true ∧ g ≠ [] then [g.map (·.text)] else [] := by
  by_cases hg : g = []
  · simp [hg, selectorRuns]
  · have hchain : g.IsChain fun t u => ((t.kind == .selector) == (u.kind == .selector)) = true := by
      apply List.Pairwise.isChain
      rw [List.pairwise_iff_forall_sublist]
      intro t u htu
      have ht := h t (htu.subset (by simp))
      have hu := h u (htu.subset (by simp))
      rw [ht, hu, beq_self_eq_true]
    have hall : (g.all fun t => t.kind == .selector) = b := by
      cases b with
      | true => exact List.all_eq_true.mpr h
      | false =>
        obtain ⟨t, ht⟩ := List.exists_mem_of_ne_nil g hg
        exact List.all_eq_false.mpr ⟨t, ht, by simp [h t ht]⟩
    unfold selectorRuns
    rw [List.splitBy_of_isChain hg hchain]
    cases b <;> simp [hall, hg]

/-- Where a selector and another token meet, a run ends or begins. -/
theorem selectorRuns_append {g : List Token} {b : Bool} (h : ∀ t ∈ g, (t.kind == .selector) = b)
    (ht : (t.kind == .selector) ≠ b) (ts : List Token) :
    selectorRuns (g ++ t :: ts) = selectorRuns g ++ selectorRuns (t :: ts) := by
  unfold selectorRuns
  rw [List.splitBy_append, List.filter_append, List.map_append]
  intro u hu v hv
  obtain rfl : t = v := by simpa using hv
  rw [h u (List.mem_of_getLast? hu)]
  exact beq_eq_false_iff_ne.mpr (Ne.symm ht)

/-- The runs behind tokens that are all selectors or all not. -/
theorem runsFrom_eq_selectorRuns_append : ∀ (ts : List Token) {g : List Token} {b : Bool},
    (∀ t ∈ g, (t.kind == .selector) = b) →
      runsFrom (if b then g.map (·.text) else []) ts = selectorRuns (g ++ ts)
  | [], g, b, h => by
    rw [List.append_nil, selectorRuns_of_forall h, runsFrom]
    cases b <;> simp
  | t :: ts, g, b, h => by
    by_cases ht : (t.kind == .selector) = b
    · -- the token belongs to the tokens before it
      have hg : ∀ u ∈ g ++ [t], (u.kind == .selector) = b := by
        simpa [or_imp, forall_and] using ⟨h, ht⟩
      have ih := runsFrom_eq_selectorRuns_append ts hg
      rw [List.append_assoc, List.singleton_append] at ih
      rw [← ih, runsFrom]
      cases b <;> simp_all
    · have ih := runsFrom_eq_selectorRuns_append ts (g := [t]) (b := t.kind == .selector) (by simp)
      rw [runsFrom, selectorRuns_append h ht, selectorRuns_of_forall h]
      rw [List.singleton_append] at ih
      rw [← ih]
      cases b <;> simp_all

theorem runsFrom_nil (ts : List Token) : runsFrom [] ts = selectorRuns ts :=
  runsFrom_eq_selectorRuns_append ts (g := []) (b := false) (by simp)

theorem runsFrom_cons_of_ne (h : t.kind ≠ .selector) (ts : List Token) :
    runsFrom [] (t :: ts) = runsFrom [] ts := by
  simp [runsFrom, h]

end Token

end NestedCss
