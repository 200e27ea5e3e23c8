import NestedCss.Compiler
import NestedCss.Proofs.Fold
import NestedCss.Proofs.SelectorScan
import NestedCss.Proofs.Token
import NestedCss.Proofs.TopPieces
/-!
# The alternatives of a source

Every selector that is read from a source is an alternative: it is not empty, has no blanks at its
ends and no comma on its top level. The tokens are cut that way
(`Token.holdsAlternative_of_ofSource`), the reader refuses empty selectors
(`SheetReader.Named.read`), and so every selector list of a flat sheet is a non-empty list of
alternatives (`Compiler.isNamed_flatten`).
-/
namespace NestedCss

/-- What is left of a piece without commas is an alternative. -/
theorem Selector.isAlternative_trim {u : Text} (h : u.countTopLevel Byte.comma = 0)
    (hne : u.trim ≠ []) : IsAlternative u.trim :=
  ⟨hne, Text.isTrimmed_trim u, Text.countTopLevel_trim h⟩

/-! ### The tokenizer -/

namespace Token

variable {src : Source} {ts : List Token}

/-- A selector token is empty or holds an alternative. -/
def HoldsAlternative (t : Token) : Prop :=
  t.kind = .selector → t.text ≠ [] → Selector.IsAlternative t.text

/-- Selector tokens are the trimmed pieces between commas. -/
theorem holdsAlternative_of_mem_ofSelectors {p : Piece} {t : Token} (ht : t ∈ ofSelectors p) :
    t.HoldsAlternative := by
  intro _ hne
  have hshape : t.shape ∈ (ofSelectors p).map shape := List.mem_map_of_mem ht
  rw [map_shape_ofSelectors, List.mem_map] at hshape
  obtain ⟨q, hq, heq⟩ := hshape
  obtain ⟨-, htext⟩ := Prod.mk.inj heq
  rw [← htext] at hne ⊢
  exact Selector.isAlternative_trim (Text.countTopLevel_of_mem_splitTopLevel (by decide) hq) hne

/-- A declaration has no selector tokens. -/
theorem holdsAlternative_of_ofDeclaration {s : Span} (h : ofDeclaration src s = .ok ts) :
    ∀ t ∈ ts, t.HoldsAlternative := by
  unfold ofDeclaration at h
  split at h
  · cases h
  · dsimp only at h
    split at h
    · cases h
    · split at h
      · cases h
      · cases h
        intro t ht hkind
        rcases List.mem_pair.mp ht with rfl | rfl <;> cases hkind

theorem holdsAlternative_of_ofStatement {p : Piece} (h : ofStatement src p = .ok ts) :
    ∀ t ∈ ts, t.HoldsAlternative := by
  unfold ofStatement at h
  dsimp only at h
  split at h
  · cases h
    exact fun t ht => absurd ht List.not_mem_nil
  · split at h
    · cases h
      intro t ht hkind
      rw [List.mem_singleton.mp ht] at hkind
      cases hkind
    · exact holdsAlternative_of_ofDeclaration h

theorem holdsAlternative_of_ofBlockEnd {p : Piece} (h : ofBlockEnd src p = .ok ts) :
    ∀ t ∈ ts, t.HoldsAlternative := by
  unfold ofBlockEnd at h
  dsimp only at h
  split at h
  · cases h
    exact fun t ht => absurd ht List.not_mem_nil
  · exact holdsAlternative_of_ofDeclaration h

/-- By the pieces of the text: only those in front of an opening brace have selector tokens. -/
theorem holdsAlternative_of_ofPieces (ps : List Piece) : ∀ {opened : List Nat} {ts : List Token},
    ofPieces src opened ps = .ok ts → ∀ t ∈ ts, t.HoldsAlternative := by
  induction ps with
  | nil =>
    intro opened ts h
    cases h
    exact fun t ht => absurd ht List.not_mem_nil
  | cons p ps ih =>
    intro opened ts h
    have hbrace : ∀ {kind : TokenKind} {u : Text} {off : Int}, kind ≠ .selector →
        HoldsAlternative ⟨kind, u, off⟩ := fun hne hkind => absurd hkind hne
    unfold ofPieces at h
    split at h
    · -- a statement or a declaration
      obtain ⟨own, hown, h⟩ := exists_of_bind_eq_ok h
      obtain ⟨rest, hrest, h⟩ := exists_of_bind_eq_ok h
      cases h
      intro t ht
      rcases List.mem_append.mp ht with ht | ht
      · exact holdsAlternative_of_ofStatement hown t ht
      · exact ih hrest t ht
    · -- the selectors in front of an opening brace
      obtain ⟨rest, hrest, h⟩ := exists_of_bind_eq_ok h
      cases h
      intro t ht
      rcases List.mem_append.mp ht with ht | ht
      · exact holdsAlternative_of_mem_ofSelectors ht
      · rcases List.mem_cons.mp ht with rfl | ht
        · exact hbrace (by decide)
        · exact ih hrest t ht
    · -- the last declaration of a block
      obtain ⟨own, hown, h⟩ := exists_of_bind_eq_ok h
      split at h
      · cases h
      · obtain ⟨rest, hrest, h⟩ := exists_of_bind_eq_ok h
        cases h
        intro t ht
        rcases List.mem_append.mp ht with ht | ht
        · exact holdsAlternative_of_ofBlockEnd hown t ht
        · rcases List.mem_cons.mp ht with rfl | ht
          · exact hbrace (by decide)
          · exact ih hrest t ht
    · -- the end of the text, which has no tokens
      dsimp only at h
      split at h
      · cases h
      · split at h
        · cases h
          exact fun t ht => absurd ht List.not_mem_nil
        · cases h

theorem holdsAlternative_of_ofSource (h : ofSource src = .ok ts) :
    ∀ t ∈ ts, t.HoldsAlternative := holdsAlternative_of_ofPieces _ h

end Token

/-! ### The reader -/

/-- A rule with a non-empty list of alternatives, like every rule inside it. -/
inductive NestedRule.Named : NestedRule → Prop
  | mk {selectors : List Text} {declarations : Declarations} {children : List NestedRule}
      (selectors_ne : selectors ≠ [])
      (selector : ∀ a ∈ selectors, Selector.IsAlternative a)
      (child : ∀ c ∈ children, Named c) : Named ⟨selectors, declarations, children⟩

namespace SheetReader

/-- What holds of a reader between two tokens. -/
structure Named (st : SheetReader) : Prop where
  pending : ∀ a ∈ st.pending, Selector.IsAlternative a
  opened : ∀ o ∈ st.opened, o.close.Named
  rules : ∀ r ∈ st.sheet.rules, r.Named

namespace Named

variable {src : Source} {st st' : SheetReader} {t : Token}

/-- A closed rule joins the rule around it, or the sheet. -/
theorem addRule (h : st.Named) {r : NestedRule} (hr : r.Named) : (st.addRule r).Named := by
  unfold SheetReader.addRule
  split
  · refine ⟨h.pending, h.opened, fun x hx => ?_⟩
    rcases List.mem_append.mp hx with hx | hx
    · exact h.rules x hx
    · rwa [List.mem_singleton.mp hx]
  · rename_i o outer hopened
    have hstack := hopened ▸ h.opened
    refine ⟨h.pending, fun x hx => ?_, h.rules⟩
    rcases List.mem_cons.mp hx with rfl | hx
    · obtain ⟨hne, hselector, hchild⟩ := hstack o (List.mem_cons_self ..)
      refine .mk hne hselector fun c hc => ?_
      rcases List.mem_append.mp hc with hc | hc
      · exact hchild c hc
      · rwa [List.mem_singleton.mp hc]
    · exact hstack x (List.mem_cons_of_mem _ hx)

theorem closeRule (h : st.Named) : st.closeRule.Named := by
  unfold SheetReader.closeRule
  split
  · exact ⟨by simp, h.opened, h.rules⟩
  · rename_i o outer hopened
    have hstack := hopened ▸ h.opened
    have hclosed : Named { st with opened := outer, pending := [] } :=
      ⟨by simp, fun x hx => hstack x (List.mem_cons_of_mem _ hx), h.rules⟩
    exact hclosed.addRule (hstack o (List.mem_cons_self ..))

theorem closeRules (n : Nat) : ∀ {st : SheetReader}, st.Named →
    (SheetReader.closeRules n st).Named := by
  induction n with
  | zero => intro st h; exact h
  | succ n ih => intro st h; exact ih h.closeRule

theorem setProperty (h : st.Named) (p v : Text) : (st.setProperty p v).Named := by
  unfold SheetReader.setProperty
  split
  · exact h
  · split
    · exact h
    · rename_i o outer hopened _
      have hstack := hopened ▸ h.opened
      refine ⟨h.pending, fun x hx => ?_, h.rules⟩
      rcases List.mem_cons.mp hx with rfl | hx
      · obtain ⟨hne, hselector, hchild⟩ := hstack o (List.mem_cons_self ..)
        exact .mk hne hselector hchild
      · exact hstack x (List.mem_cons_of_mem _ hx)

/-- The reader refuses an empty selector, so what it keeps is an alternative. -/
theorem readSelector (h : st.Named) (hkind : t.kind = .selector) (ht : t.HoldsAlternative)
    (hread : readSelector src st t = .ok st') : st'.Named := by
  unfold SheetReader.readSelector at hread
  split at hread
  · cases hread
  · rename_i hne
    split at hread
    · cases hread
    · cases hread
      refine ⟨fun a ha => ?_, h.opened, h.rules⟩
      rcases List.mem_append.mp ha with ha | ha
      · exact h.pending a ha
      · rw [List.mem_singleton.mp ha]
        exact ht hkind (by simpa using hne)

theorem readToken (h : st.Named) (ht : t.HoldsAlternative)
    (hread : readToken src st t = .ok st') : st'.Named := by
  unfold SheetReader.readToken at hread
  split at hread
  · rename_i hkind
    exact h.readSelector hkind ht hread
  · split at hread
    · cases hread
    · -- the pending selectors become those of the rule that is opened
      rename_i hne
      cases hread
      refine ⟨by simp, fun x hx => ?_, h.rules⟩
      rcases List.mem_cons.mp hx with rfl | hx
      · exact .mk (by simpa using hne) h.pending (by simp)
      · exact h.opened x hx
  · cases hread
    exact h.closeRule
  · cases hread
    exact ⟨h.pending, h.opened, h.rules⟩
  · cases hread
    exact ⟨h.pending, h.opened, h.rules⟩
  · cases hread

/-- Every token that is read keeps the rules named. -/
theorem read (h : st.Named) (ht : t.HoldsAlternative) (hread : read src st t = .ok st') :
    st'.Named := by
  unfold SheetReader.read at hread
  split at hread
  · exact h.readToken ht hread
  · split at hread
    · cases hread
      exact ⟨(h.setProperty _ _).pending, (h.setProperty _ _).opened, (h.setProperty _ _).rules⟩
    · cases hread

theorem foldlM {ts : List Token} (h : st.Named) (hts : ∀ t ∈ ts, t.HoldsAlternative)
    (hread : ts.foldlM (SheetReader.read src) st = .ok st') : st'.Named :=
  foldlM_induct h (fun _ t ht _ h hnext => h.read (hts t ht) hnext) hread

end Named

end SheetReader

/-- All rules of a sheet that was read are named. -/
theorem NestedSheet.named_of_ofSource {src : Source} {N : NestedSheet}
    (h : NestedSheet.ofSource src = .ok N) : ∀ r ∈ N.rules, r.Named := by
  obtain ⟨ts, hts, h⟩ := exists_of_bind_eq_ok h
  obtain ⟨st, hst, h⟩ := exists_of_bind_eq_ok h
  have hnamed : st.Named := SheetReader.Named.foldlM ⟨by simp, by simp, by simp⟩
    (Token.holdsAlternative_of_ofSource hts) hst
  unfold SheetReader.finish at h
  split at h
  · cases h
  · cases h
    exact (hnamed.closeRules _).rules

/-! ### Flat sheets -/

namespace FlatSheet

/-- A chain of non-empty lists of alternatives. -/
def IsNamed (chain : List (List Text)) : Prop :=
  ∀ g ∈ chain, g ≠ [] ∧ ∀ a ∈ g, Selector.IsAlternative a

/-- A chain that gets the selectors of a rule stays named and is not empty. -/
theorem isNamed_extendChain {chain : List (List Text)} {selectors : List Text}
    (hchain : IsNamed chain) (hne : selectors ≠ [])
    (h : ∀ a ∈ selectors, Selector.IsAlternative a) :
    extendChain chain selectors ≠ [] ∧ IsNamed (extendChain chain selectors) := by
  unfold extendChain
  split
  · exact absurd rfl hne
  · split
    · refine ⟨by simp, fun g hg => ?_⟩
      rw [List.mem_singleton.mp hg]
      exact ⟨hne, h⟩
    · refine ⟨by simp, fun g hg => ?_⟩
      rcases List.mem_append.mp hg with hg | hg
      · exact hchain g hg
      · rw [List.mem_singleton.mp hg]
        exact ⟨hne, h⟩

theorem isNamed_of_mem_ofRules {rs : List NestedRule}
    (h : ∀ r ∈ rs, ∀ chain, IsNamed chain → ∀ f ∈ ofRule chain r, f.chain ≠ [] ∧ IsNamed f.chain)
    (chain : List (List Text)) (hchain : IsNamed chain) :
    ∀ f ∈ ofRules chain rs, f.chain ≠ [] ∧ IsNamed f.chain := by
  induction rs with
  | nil => exact fun f hf => absurd hf List.not_mem_nil
  | cons r rs ih =>
    intro f hf
    rw [ofRules, List.mem_append] at hf
    rcases hf with hf | hf
    · exact h r (List.mem_cons_self ..) chain hchain f hf
    · exact ih (fun x hx => h x (List.mem_cons_of_mem _ hx)) f hf

/-- By the nesting of rules: a flat rule stands below the chain of its own rule. -/
theorem isNamed_of_mem_ofRule {r : NestedRule} (h : r.Named) : ∀ chain, IsNamed chain →
    ∀ f ∈ ofRule chain r, f.chain ≠ [] ∧ IsNamed f.chain := by
  induction h with
  | @mk selectors declarations children hne hselector _ ih =>
    intro chain hchain f hf
    have hext := isNamed_extendChain hchain hne hselector
    rw [ofRule, List.mem_append] at hf
    rcases hf with hf | hf
    · split at hf
      · exact absurd hf List.not_mem_nil
      · rwa [List.mem_singleton.mp hf]
    · exact isNamed_of_mem_ofRules ih _ hext.2 f hf

end FlatSheet

/-- Every flat rule of a source stands below non-empty lists of alternatives, of which there is at
least one. -/
theorem Compiler.isNamed_flatten {t : Text} {flat : FlatSheet} (h : flatten t = .ok flat) :
    ∀ r ∈ flat.rules, r.chain ≠ [] ∧ FlatSheet.IsNamed r.chain := by
  obtain ⟨N, hN, h⟩ := exists_of_bind_eq_ok h
  cases h
  exact FlatSheet.isNamed_of_mem_ofRules
    (fun r hr => FlatSheet.isNamed_of_mem_ofRule (NestedSheet.named_of_ofSource hN r hr)) []
    fun g hg => absurd hg List.not_mem_nil

end NestedCss
