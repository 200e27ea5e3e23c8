import NestedCss.NestedSheet
import NestedCss.Proofs.Token
/-!
# Reading undoes writing

The clauses of a nested sheet are its statements and rules in the order in which they are written
(`NestedSheet.clauses`). Reading their tokens gives the sheet back (`ofTokens_clauses`), so that
every text that spells them is read as the sheet (`ofSource_spells`). The written form of a sheet
without blanks is such a text (`ofSource_render`).
-/
namespace NestedCss

/-! ### Setting distinct properties -/

namespace Declarations

theorem setIn_of_not_mem {p : Text} (v : Text) {l : List Declaration}
    (h : p ∉ l.map Declaration.property) : setIn p v l = l ++ [⟨p, v⟩] := by
  induction l with
  | nil => rfl
  | cons d l ih =>
    rw [List.map_cons, List.mem_cons, not_or] at h
    rw [setIn, if_neg (Ne.symm h.1), ih h.2]
    rfl

/-- Setting new distinct properties adds them at the end. -/
theorem toList_setAll (l : List Declaration) : ∀ d : Declarations,
    ((d.toList ++ l).map Declaration.property).Nodup → (d.setAll l).toList = d.toList ++ l := by
  induction l with
  | nil =>
    intro d _
    rw [List.append_nil]
    rfl
  | cons e l ih =>
    intro d h
    have hset : (d.set e.property e.value).toList = d.toList ++ [e] := by
      apply setIn_of_not_mem
      rw [List.map_append, List.nodup_append] at h
      intro hm
      exact h.2.2 e.property hm e.property (List.mem_cons_self ..) rfl
    show ((d.set e.property e.value).setAll l).toList = _
    rw [ih _ (by rw [hset, List.append_assoc]; exact h), hset, List.append_assoc]
    rfl

/-- Declarations arise from setting each of them in turn. -/
theorem setAll_toList (d : Declarations) : empty.setAll d.toList = d :=
  ext (toList_setAll d.toList empty d.nodup)

end Declarations

/-! ### The clauses of a sheet -/

mutual

/-- The clauses of a rule: its selectors and brace, its declarations, the rules inside it, and its
closing brace. -/
def NestedRule.clauses : NestedRule → List Clause
  | ⟨selectors, declarations, children⟩ =>
    .opening selectors :: (declarations.toList.map .declaration
      ++ (NestedRule.clausesAll children ++ [.closing]))

/-- The clauses of a list of rules. -/
def NestedRule.clausesAll : List NestedRule → List Clause
  | [] => []
  | r :: more => r.clauses ++ NestedRule.clausesAll more

end

/-- The clauses of a sheet: its statements, then its rules. -/
def NestedSheet.clauses (s : NestedSheet) : List Clause :=
  s.statements.map .statement ++ NestedRule.clausesAll s.rules

/-- A rule that can be read back: it has selectors, none of them is empty or has a line feed, and
no value is empty. The same holds of the rules inside it. -/
inductive NestedRule.Readable : NestedRule → Prop
  | mk {selectors : List Text} {declarations : Declarations} {children : List NestedRule}
      (selectors_ne : selectors ≠ [])
      (selector : ∀ s ∈ selectors, s ≠ [] ∧ Byte.lineFeed ∉ s)
      (value : ∀ d ∈ declarations.toList, d.value ≠ [])
      (child : ∀ c ∈ children, Readable c) : Readable ⟨selectors, declarations, children⟩

namespace Clause

/-- Clauses without a brace do not count. -/
theorem balanced_map_append {α : Type} {f : α → Clause}
    (hf : ∀ a n cs, Balanced n (f a :: cs) ↔ Balanced n cs) (l : List α) (n : Nat)
    (cs : List Clause) : Balanced n (l.map f ++ cs) ↔ Balanced n cs := by
  induction l with
  | nil => exact Iff.rfl
  | cons a l ih => rw [List.map_cons, List.cons_append, hf, ih]

theorem balanced_declaration (d : Declaration) (n : Nat) (cs : List Clause) :
    Balanced n (declaration d :: cs) ↔ Balanced n cs := by
  cases n <;> exact Iff.rfl

theorem balanced_statement (t : Text) (n : Nat) (cs : List Clause) :
    Balanced n (statement t :: cs) ↔ Balanced n cs := by
  cases n <;> exact Iff.rfl

mutual

/-- The braces of a rule are balanced. -/
theorem balanced_clauses : ∀ (r : NestedRule) (n : Nat) (cs : List Clause),
    Balanced n (r.clauses ++ cs) ↔ Balanced n cs
  | ⟨selectors, declarations, children⟩, n, cs => by
    have hopen : ∀ more, Balanced n (.opening selectors :: more) ↔ Balanced (n + 1) more := by
      intro more
      cases n <;> exact Iff.rfl
    rw [NestedRule.clauses, List.cons_append, hopen, List.append_assoc,
      balanced_map_append balanced_declaration, List.append_assoc, balanced_clausesAll children]
    exact Iff.rfl

theorem balanced_clausesAll : ∀ (rs : List NestedRule) (n : Nat) (cs : List Clause),
    Balanced n (NestedRule.clausesAll rs ++ cs) ↔ Balanced n cs
  | [], _, _ => Iff.rfl
  | r :: more, n, cs => by
    rw [NestedRule.clausesAll, List.append_assoc, balanced_clauses r, balanced_clausesAll more]

end

theorem balanced_sheet (s : NestedSheet) : Balanced 0 s.clauses := by
  rw [NestedSheet.clauses, balanced_map_append balanced_statement,
    ← List.append_nil (NestedRule.clausesAll s.rules), balanced_clausesAll]
  rfl

end Clause

/-! ### Reading clauses -/

namespace SheetReader

/-- Reading tokens with the kinds and texts of the clauses `cs` leads from `st` to `st'`. -/
def Reads (src : Source) (st : SheetReader) (cs : List Clause) (st' : SheetReader) : Prop :=
  ∀ ts : List Token, ts.map Token.shape = cs.flatMap Clause.shapes →
    ts.foldlM (read src) st = .ok st'

variable {src : Source} {st : SheetReader}

theorem Reads.nil : Reads src st [] st := by
  intro ts hts
  rw [List.map_eq_nil_iff.mp hts]
  rfl

theorem Reads.append {st₁ st₂ : SheetReader} {cs₁ cs₂ : List Clause} (h₁ : Reads src st cs₁ st₁)
    (h₂ : Reads src st₁ cs₂ st₂) : Reads src st (cs₁ ++ cs₂) st₂ := by
  intro ts hts
  rw [List.flatMap_append, List.map_eq_append_iff] at hts
  obtain ⟨ts₁, ts₂, rfl, hts₁, hts₂⟩ := hts
  rw [List.foldlM_append, h₁ ts₁ hts₁]
  exact h₂ ts₂ hts₂

theorem Reads.cons {st₁ st₂ : SheetReader} {c : Clause} {cs : List Clause}
    (h₁ : Reads src st [c] st₁) (h₂ : Reads src st₁ cs st₂) : Reads src st (c :: cs) st₂ :=
  h₁.append h₂

/-- One token that is read as itself. -/
theorem foldlM_singleton {k : TokenKind} {u : Text} {st' : SheetReader}
    (h : ∀ t : Token, t.kind = k → t.text = u → read src st t = .ok st') {ts : List Token}
    (hts : ts.map Token.shape = [(k, u)]) : ts.foldlM (read src) st = .ok st' := by
  obtain ⟨t, rfl, ht⟩ := List.map_eq_singleton_iff.mp hts
  have h' := h t (congrArg Prod.fst ht) (congrArg Prod.snd ht)
  rw [List.foldlM_cons, h']
  rfl

theorem reads_statement (src : Source) (S : NestedSheet) (u : Text) :
    Reads src { sheet := S } [.statement u]
      { sheet := { S with statements := S.statements ++ [u] } } := by
  intro ts hts
  refine foldlM_singleton (fun t hk hu => ?_) hts
  simp [read, readToken, hk, hu]

theorem reads_closing (src : Source) (st : SheetReader) (h : st.awaiting = none) :
    Reads src st [.closing] st.closeRule := by
  intro ts hts
  refine foldlM_singleton (fun t hk _ => ?_) hts
  simp [read, readToken, hk, h]

theorem reads_declaration (src : Source) (S : NestedSheet) (o : OpenRule) (outer : List OpenRule)
    (d : Declaration) (hv : d.value ≠ []) :
    Reads src { sheet := S, opened := o :: outer } [.declaration d]
      { sheet := S,
        opened := { o with declarations := o.declarations.set d.property d.value } :: outer } := by
  intro ts hts
  rw [show [Clause.declaration d].flatMap Clause.shapes
    = (.propertyName, d.property) :: [(.propertyValue, d.value)] from rfl] at hts
  obtain ⟨name, more, rfl, hname, hmore⟩ := List.map_eq_cons_iff.mp hts
  have hkind : name.kind = .propertyName := congrArg Prod.fst hname
  have htext : name.text = d.property := congrArg Prod.snd hname
  -- the name waits for its value
  have hread : read src { sheet := S, opened := o :: outer } name
      = .ok { sheet := S, opened := o :: outer, awaiting := some name } := by
    simp [read, readToken, hkind]
  rw [List.foldlM_cons, hread]
  refine foldlM_singleton (fun t hk hu => ?_) hmore
  have hempty : List.isEmpty d.value = false := List.isEmpty_eq_false_iff.mpr hv
  simp [read, hk, hu, htext, setProperty, hempty]

theorem missingSemicolon?_eq_none {t : Text} (h : Byte.lineFeed ∉ t) :
    missingSemicolon? t = none := by
  have hline : t.takeWhile (· != Byte.lineFeed) = t := by
    rw [List.takeWhile_eq_self_iff]
    intro c hc
    have : c ≠ Byte.lineFeed := fun he => h (he ▸ hc)
    simpa using this
  unfold missingSemicolon?
  rw [hline]
  simp

/-- Reading the selectors of a rule collects them. -/
theorem foldlM_selectors (S : NestedSheet) (opened : List OpenRule) (selectors : List Text) :
    ∀ (pending : List Text) (ts : List Token), (∀ s ∈ selectors, s ≠ [] ∧ Byte.lineFeed ∉ s) →
      ts.map Token.shape = selectors.map (fun s => (TokenKind.selector, s)) →
      ts.foldlM (read src) { sheet := S, opened, pending }
        = .ok { sheet := S, opened, pending := pending ++ selectors } := by
  induction selectors with
  | nil =>
    intro pending ts _ hts
    rw [List.map_eq_nil_iff.mp hts, List.append_nil]
    rfl
  | cons s selectors ih =>
    intro pending ts hs hts
    rw [List.map_cons] at hts
    obtain ⟨t, more, rfl, ht, hmore⟩ := List.map_eq_cons_iff.mp hts
    have hkind : t.kind = .selector := congrArg Prod.fst ht
    have htext : t.text = s := congrArg Prod.snd ht
    obtain ⟨hne, hlf⟩ := hs s (List.mem_cons_self ..)
    have hread : read src { sheet := S, opened, pending } t
        = .ok { sheet := S, opened, pending := pending ++ [s] } := by
      have hempty : List.isEmpty s = false := List.isEmpty_eq_false_iff.mpr hne
      simp [read, readToken, readSelector, hkind, htext, hempty, missingSemicolon?_eq_none hlf]
    rw [List.foldlM_cons, hread]
    have := ih (pending ++ [s]) more (fun x hx => hs x (List.mem_cons_of_mem _ hx)) hmore
    rw [List.append_assoc] at this
    exact this

theorem reads_opening (src : Source) (S : NestedSheet) (opened : List OpenRule)
    {selectors : List Text}
    (hne : selectors ≠ []) (hs : ∀ s ∈ selectors, s ≠ [] ∧ Byte.lineFeed ∉ s) :
    Reads src { sheet := S, opened } [.opening selectors]
      { sheet := S, opened := { selectors } :: opened } := by
  intro ts hts
  rw [show [Clause.opening selectors].flatMap Clause.shapes
    = selectors.map (fun s => (.selector, s)) ++ [(.ruleStart, [Byte.openBrace])] from by
      simp [Clause.shapes], List.map_eq_append_iff] at hts
  obtain ⟨ts₁, ts₂, rfl, hts₁, hts₂⟩ := hts
  rw [List.foldlM_append, foldlM_selectors S opened selectors [] ts₁ hs hts₁]
  refine foldlM_singleton (fun t hk _ => ?_) hts₂
  have hempty : selectors.isEmpty = false := List.isEmpty_eq_false_iff.mpr hne
  simp [read, readToken, hk, hempty]

/-- Reading declarations sets them in turn. -/
theorem reads_declarations (src : Source) (S : NestedSheet) (outer : List OpenRule)
    (l : List Declaration) : ∀ o : OpenRule, (∀ d ∈ l, d.value ≠ []) →
      Reads src { sheet := S, opened := o :: outer } (l.map .declaration)
        { sheet := S, opened := { o with declarations := o.declarations.setAll l } :: outer } := by
  induction l with
  | nil => intro o _; exact Reads.nil
  | cons d l ih =>
    intro o hl
    exact (reads_declaration src S o outer d (hl d (List.mem_cons_self ..))).cons
      (ih _ fun e he => hl e (List.mem_cons_of_mem _ he))

theorem reads_statements (src : Source) (l : List Text) : ∀ S : NestedSheet,
    Reads src { sheet := S } (l.map .statement)
      { sheet := { S with statements := S.statements ++ l } } := by
  induction l with
  | nil =>
    intro S
    rw [List.append_nil]
    exact Reads.nil
  | cons u l ih =>
    intro S
    have := (reads_statement src S u).cons (ih { S with statements := S.statements ++ [u] })
    rw [List.append_assoc] at this
    exact this

theorem foldl_addRule_opened (S : NestedSheet) (outer : List OpenRule) (rs : List NestedRule) :
    ∀ o : OpenRule, rs.foldl addRule { sheet := S, opened := o :: outer }
      = { sheet := S, opened := { o with children := o.children ++ rs } :: outer } := by
  induction rs with
  | nil => intro o; simp
  | cons r rs ih =>
    intro o
    rw [List.foldl_cons]
    have := ih { o with children := o.children ++ [r] }
    rw [List.append_assoc] at this
    exact this

/-- Adding a rule to a reader between two clauses leaves it between two clauses. -/
theorem addRule_eq (S : NestedSheet) (opened : List OpenRule) (r : NestedRule) :
    ∃ S' opened', addRule { sheet := S, opened } r = { sheet := S', opened := opened' } := by
  cases opened with
  | nil => exact ⟨_, _, rfl⟩
  | cons o outer => exact ⟨_, _, rfl⟩

/-- Reading rules one after the other adds each of them. -/
theorem reads_clausesAll (src : Source) {rs : List NestedRule}
    (h : ∀ r ∈ rs, ∀ S opened,
      Reads src { sheet := S, opened } r.clauses (addRule { sheet := S, opened } r)) :
    ∀ S opened, Reads src { sheet := S, opened } (NestedRule.clausesAll rs)
      (rs.foldl addRule { sheet := S, opened }) := by
  induction rs with
  | nil => intro S opened; exact Reads.nil
  | cons r rs ih =>
    intro S opened
    have hr := h r (List.mem_cons_self ..) S opened
    obtain ⟨S', opened', hadd⟩ := addRule_eq S opened r
    rw [NestedRule.clausesAll, List.foldl_cons]
    rw [hadd] at hr ⊢
    exact hr.append (ih (fun q hq => h q (List.mem_cons_of_mem _ hq)) S' opened')

/-- Reading the clauses of a rule adds the rule. -/
theorem reads_clauses (src : Source) {r : NestedRule} (h : r.Readable) : ∀ S opened,
    Reads src { sheet := S, opened } r.clauses (addRule { sheet := S, opened } r) := by
  induction h with
  | @mk selectors declarations children hne hsel hval _ ih =>
    intro S opened
    rw [NestedRule.clauses]
    -- declarations and children gather in the open rule, which the brace behind them closes
    have hopen := reads_opening src S opened hne hsel
    have hdecl := reads_declarations src S opened declarations.toList { selectors } hval
    rw [Declarations.setAll_toList] at hdecl
    have hchildren := reads_clausesAll src ih S ({ selectors, declarations } :: opened)
    rw [foldl_addRule_opened] at hchildren
    have hclose := reads_closing src
      { sheet := S
        opened := { selectors, declarations, children := [] ++ children } :: opened } rfl
    exact hopen.cons (hdecl.append (hchildren.append hclose))

end SheetReader

namespace NestedSheet

theorem foldl_addRule_sheet (rs : List NestedRule) : ∀ S : NestedSheet,
    rs.foldl SheetReader.addRule { sheet := S }
      = { sheet := { S with rules := S.rules ++ rs } } := by
  induction rs with
  | nil => intro S; simp
  | cons r rs ih =>
    intro S
    have := ih { S with rules := S.rules ++ [r] }
    rw [List.append_assoc] at this
    exact this

/-- Tokens with the kinds and texts of the clauses of a sheet are read as the sheet. -/
theorem ofTokens_clauses (src : Source) {N : NestedSheet} (h : ∀ r ∈ N.rules, r.Readable)
    {ts : List Token} (hts : ts.map Token.shape = N.clauses.flatMap Clause.shapes) :
    ofTokens src ts = .ok N := by
  have hstatements := SheetReader.reads_statements src N.statements {}
  have hrules := SheetReader.reads_clausesAll src
    (fun r hr => SheetReader.reads_clauses src (h r hr)) { statements := [] ++ N.statements } []
  rw [foldl_addRule_sheet] at hrules
  have hread := (hstatements.append hrules) ts hts
  unfold ofTokens
  rw [hread]
  rfl

/-- A text that spells the clauses of a sheet, and keeps all but the blanks at its ends, is read as
the sheet. -/
theorem ofSource_spells_of_text {N : NestedSheet} (h : ∀ r ∈ N.rules, r.Readable) {t : Text}
    (ht : Spells N.clauses t) (htext : (Source.sanitize t).text = t.trim) :
    ofSource (Source.sanitize t) = .ok N := by
  obtain ⟨ts, hts, hshape⟩ := Token.ofSource_spells_of_text ht htext (Clause.balanced_sheet N)
  unfold ofSource
  rw [hts]
  exact ofTokens_clauses _ h hshape

/-- A text that spells the clauses of a sheet is read as the sheet. -/
theorem ofSource_spells {N : NestedSheet} (h : ∀ r ∈ N.rules, r.Readable) {t : Text}
    (ht : Spells N.clauses t) (hslash : Byte.slash ∉ t) :
    ofSource (Source.sanitize t) = .ok N :=
  ofSource_spells_of_text h ht (Source.text_sanitize hslash)

end NestedSheet

/-! ### Writing a sheet -/

/-- The bytes that delimit strings, comments, blocks, brackets and statements. -/
def Byte.delimiters : List UInt8 :=
  [Byte.doubleQuote, Byte.singleQuote, Byte.backslash, Byte.slash, Byte.openBrace, Byte.closeBrace,
    Byte.openBracket, Byte.closeBracket, Byte.openParen, Byte.closeParen, Byte.semicolon]

/-- A text that can stand for itself: it is not empty, has no blank at its ends, and has no
delimiter. -/
def Text.IsField (t : Text) : Prop := t ≠ [] ∧ t.IsTrimmed ∧ t.Avoids Byte.delimiters

instance (t : Text) : Decidable t.IsField :=
  inferInstanceAs (Decidable (t ≠ [] ∧ t.IsTrimmed ∧ t.Avoids Byte.delimiters))

/-- A declaration that can be written down. -/
def Declaration.Writable (d : Declaration) : Prop :=
  d.property.isPropertyName = true ∧ d.value.IsField ∧ Byte.colon ∉ d.value

instance (d : Declaration) : Decidable d.Writable :=
  inferInstanceAs (Decidable (_ ∧ d.value.IsField ∧ Byte.colon ∉ d.value))

/-- A rule that can be written down, with the rules inside it. -/
inductive NestedRule.Writable : NestedRule → Prop
  | mk {selectors : List Text} {declarations : Declarations} {children : List NestedRule}
      (selectors_ne : selectors ≠ [])
      (selector : ∀ s ∈ selectors, s.IsField ∧ s.Avoids [Byte.comma, Byte.lineFeed])
      (declaration : ∀ d ∈ declarations.toList, d.Writable)
      (child : ∀ c ∈ children, Writable c) : Writable ⟨selectors, declarations, children⟩

/-- A sheet that can be written down. -/
structure NestedSheet.Writable (s : NestedSheet) : Prop where
  statement : ∀ t ∈ s.statements, t.IsField ∧ t.head? = some Byte.atSign
  rule : ∀ r ∈ s.rules, r.Writable

/-- A declaration with its semicolon. -/
def Declaration.render (d : Declaration) : Text :=
  d.property ++ Byte.colon :: d.value ++ [Byte.semicolon]

mutual

/-- A rule: its selectors with commas between them, and in braces its declarations and the rules
inside it. -/
def NestedRule.render : NestedRule → Text
  | ⟨selectors, declarations, children⟩ =>
    Text.join [Byte.comma] selectors ++ Byte.openBrace ::
      (declarations.toList.flatMap Declaration.render ++ NestedRule.renderAll children
        ++ [Byte.closeBrace])

/-- Rules one after the other. -/
def NestedRule.renderAll : List NestedRule → Text
  | [] => []
  | r :: more => r.render ++ NestedRule.renderAll more

end

/-- A sheet: its statements, each with a semicolon, and its rules. -/
def NestedSheet.render (s : NestedSheet) : Text :=
  s.statements.flatMap (· ++ [Byte.semicolon]) ++ NestedRule.renderAll s.rules

namespace Spells

variable {cs : List Clause} {rest : Text}

/-- A declaration spells itself, with or without blanks in front of its value. -/
theorem spelledBy_of_writable {d : Declaration} (hd : d.Writable) {b : Text} (hb : b.IsBlank) :
    d.SpelledBy (d.property ++ Byte.colon :: (b ++ d.value)) := by
  obtain ⟨hname, ⟨_, htrim, _⟩, hcolon⟩ := hd
  refine ⟨hname, Text.countTopFrom_eq_zero hcolon {}, [], b ++ d.value, Text.isBlank_nil, ?_, rfl⟩
  have := Text.trim_pad hb Text.isBlank_nil d.value
  rwa [List.append_nil, htrim] at this

theorem avoids_of_writable {d : Declaration} (hd : d.Writable) {b : Text} (hb : b.IsBlank) :
    Text.Avoids (d.property ++ Byte.colon :: (b ++ d.value))
      (Byte.quoting ++ Piece.Search.cutting ++ [Byte.openParen, Byte.closeParen]
        ++ [Byte.slash]) := by
  obtain ⟨hname, ⟨_, _, havoid⟩, _⟩ := hd
  rw [Text.avoids_append, Text.avoids_cons, Text.avoids_append]
  exact ⟨Token.isPropertyName_avoids hname _ (by decide), by decide, hb.avoids (by decide),
    havoid.mono (by decide)⟩

/-- A declaration with its semicolon. -/
theorem declaration_pad {d : Declaration} (hd : d.Writable) {b : Text} (hb : b.IsBlank)
    (h : Spells cs rest) :
    Spells (.declaration d :: cs)
      (d.property ++ Byte.colon :: (b ++ d.value) ++ Byte.semicolon :: rest) := by
  have havoid := avoids_of_writable hd hb
  have hends := Piece.endsAt_semicolon (havoid.mono (by decide)) (havoid.mono (by decide))
  exact .declaration hends (spelledBy_of_writable hd hb) h

theorem declaration_append {d : Declaration} (hd : d.Writable) (h : Spells cs rest) :
    Spells (.declaration d :: cs) (d.render ++ rest) := by
  rw [Declaration.render, List.append_assoc]
  exact declaration_pad hd Text.isBlank_nil h

theorem declarations_append {l : List Declaration} (hl : ∀ d ∈ l, d.Writable)
    (h : Spells cs rest) :
    Spells (l.map .declaration ++ cs) (l.flatMap Declaration.render ++ rest) := by
  induction l with
  | nil => exact h
  | cons d l ih =>
    rw [List.flatMap_cons, List.append_assoc]
    exact declaration_append (hl d (List.mem_cons_self ..))
      (ih fun e he => hl e (List.mem_cons_of_mem _ he))

theorem statement_append {t : Text} (ht : t.IsField) (hat : t.head? = some Byte.atSign)
    (h : Spells cs rest) : Spells (.statement t :: cs) (t ++ Byte.semicolon :: rest) := by
  obtain ⟨_, htrim, havoid⟩ := ht
  have hends := Piece.endsAt_semicolon (havoid.mono (by decide)) (havoid.mono (by decide))
  exact .statement hends htrim hat h

theorem statements_append {l : List Text}
    (hl : ∀ t ∈ l, t.IsField ∧ t.head? = some Byte.atSign) (h : Spells cs rest) :
    Spells (l.map .statement ++ cs) (l.flatMap (· ++ [Byte.semicolon]) ++ rest) := by
  induction l with
  | nil => exact h
  | cons t l ih =>
    rw [List.forall_mem_cons] at hl
    rw [List.flatMap_cons, List.append_assoc, List.append_assoc]
    exact statement_append hl.1.1 hl.1.2 (ih hl.2)

theorem opening_append {selectors : List Text} (hne : selectors ≠ [])
    (hs : ∀ s ∈ selectors, s.IsField ∧ s.Avoids [Byte.comma, Byte.lineFeed])
    (h : Spells cs rest) :
    Spells (.opening selectors :: cs)
      (Text.join [Byte.comma] selectors ++ Byte.openBrace :: rest) := by
  have hends : Piece.EndsAt (Text.join [Byte.comma] selectors) Byte.openBrace .openBrace := by
    apply Piece.endsAt_openBrace
    exact Text.avoids_join (by decide) fun s hm => (hs s hm).1.2.2.mono (by decide)
  have hcomma : Byte.comma ∉ Byte.quoting ++ Byte.brackets := by decide
  have hsplit := Text.map_text_splitTopLevel_join hne hcomma fun s hm =>
    Text.avoids_append_right.mpr
      ⟨(hs s hm).1.2.2.mono (by decide), (hs s hm).2.mono (by decide)⟩
  refine Spells.opening hends ?_ h
  have htrim := congrArg (List.map Text.trim) hsplit
  rw [List.map_map] at htrim
  refine htrim.trans ?_
  rw [List.map_congr_left fun s hm => (hs s hm).1.2.1, List.map_id']

theorem renderAll_append {rs : List NestedRule}
    (hrs : ∀ r ∈ rs, ∀ cs rest, Spells cs rest → Spells (r.clauses ++ cs) (r.render ++ rest)) :
    Spells cs rest → Spells (NestedRule.clausesAll rs ++ cs) (NestedRule.renderAll rs ++ rest) := by
  intro h
  induction rs with
  | nil => exact h
  | cons r rs ih =>
    rw [NestedRule.clausesAll, NestedRule.renderAll, List.append_assoc, List.append_assoc]
    exact hrs r (List.mem_cons_self ..) _ _ (ih fun q hq => hrs q (List.mem_cons_of_mem _ hq))

/-- The written form of a rule spells its clauses. -/
theorem render_append {r : NestedRule} (hr : r.Writable) : ∀ cs rest, Spells cs rest →
    Spells (r.clauses ++ cs) (r.render ++ rest) := by
  induction hr with
  | @mk selectors declarations children hne hsel hdecl _ ih =>
    intro cs rest h
    have hclose : Spells (.closing :: cs) (Byte.closeBrace :: rest) :=
      Spells.closing Text.isBlank_nil h
    have hall := opening_append hne hsel (declarations_append hdecl (renderAll_append ih hclose))
    simp only [NestedRule.clauses, NestedRule.render, List.append_assoc, List.cons_append,
      List.nil_append] at hall ⊢
    exact hall

end Spells

namespace NestedRule

theorem Writable.readable {r : NestedRule} (h : r.Writable) : r.Readable := by
  induction h with
  | mk hne hsel hdecl _ ih =>
    refine .mk hne (fun s hs => ⟨(hsel s hs).1.1, ?_⟩) (fun d hd => (hdecl d hd).2.1.1) ih
    exact fun hm => (hsel s hs).2 _ hm (by decide)

theorem avoids_renderAll {bytes : List UInt8} {rs : List NestedRule}
    (h : ∀ r ∈ rs, r.render.Avoids bytes) : (renderAll rs).Avoids bytes := by
  induction rs with
  | nil => exact Text.avoids_nil bytes
  | cons r rs ih =>
    rw [renderAll, Text.avoids_append]
    exact ⟨h r (List.mem_cons_self ..), ih fun q hq => h q (List.mem_cons_of_mem _ hq)⟩

theorem Writable.avoids_slash {r : NestedRule} (h : r.Writable) :
    r.render.Avoids [Byte.slash] := by
  induction h with
  | @mk selectors declarations children _ hsel hdecl _ ih =>
    have hdecls : Text.Avoids (declarations.toList.flatMap Declaration.render) [Byte.slash] := by
      refine Text.avoids_flatMap fun d hd => ?_
      obtain ⟨hname, hvalue, _⟩ := hdecl d hd
      rw [Declaration.render, Text.avoids_append, Text.avoids_append, Text.avoids_cons]
      exact ⟨⟨Token.isPropertyName_avoids hname _ (by decide), by decide,
        hvalue.2.2.mono (by decide)⟩, by decide⟩
    rw [render, Text.avoids_append, Text.avoids_cons, Text.avoids_append, Text.avoids_append]
    exact ⟨Text.avoids_join (by decide) fun s hs => (hsel s hs).1.2.2.mono (by decide), by decide,
      ⟨hdecls, avoids_renderAll ih⟩, by decide⟩

end NestedRule

/-- **Reading undoes writing.** Every sheet that can be written down is read back from its written
form: the same statements, and the same rules with the same selectors and declarations in the same
order and nesting. -/
theorem NestedSheet.ofSource_render (N : NestedSheet) (h : N.Writable) :
    ofSource (Source.sanitize N.render) = .ok N := by
  have hspells : Spells N.clauses N.render := by
    have hend : Spells [] [] := .finish Text.isBlank_nil
    have hrules := Spells.renderAll_append (fun r hr => Spells.render_append (h.rule r hr)) hend
    have := Spells.statements_append h.statement hrules
    rw [List.append_nil, List.append_nil] at this
    exact this
  have hslash : N.render.Avoids [Byte.slash] := by
    rw [render, Text.avoids_append]
    refine ⟨Text.avoids_flatMap fun t ht => Text.avoids_append.mpr ⟨?_, by decide⟩,
      NestedRule.avoids_renderAll fun r hr => (h.rule r hr).avoids_slash⟩
    exact (h.statement t ht).1.2.2.mono (by decide)
  refine ofSource_spells (fun r hr => (h.rule r hr).readable) hspells fun hm => ?_
  exact hslash _ hm (List.mem_singleton.mpr rfl)

/-- A statement, and a rule inside a rule inside a block:
`@import x;@media tv{a,b{x:1;y:2 3;&:c{x:4;}}}`. -/
theorem NestedSheet.ofSource_render_block :
    let inner : NestedRule :=
      ⟨[Text.ofString "&:c"], .ofList [⟨Text.ofString "x", Text.ofString "4"⟩], []⟩
    let rule : NestedRule :=
      ⟨[Text.ofString "a", Text.ofString "b"],
        .ofList [⟨Text.ofString "x", Text.ofString "1"⟩, ⟨Text.ofString "y", Text.ofString "2 3"⟩],
        [inner]⟩
    let N : NestedSheet :=
      ⟨[Text.ofString "@import x"], [⟨[Text.ofString "@media tv"], .empty, [rule]⟩]⟩
    N.Writable ∧ ofSource (Source.sanitize N.render) = .ok N := by
  intro inner rule N
  have hinner : inner.Writable := .mk (by decide) (by decide) (by decide) (by simp)
  have hrule : rule.Writable := by
    refine .mk (by decide) (by decide) (by decide) fun c hc => ?_
    rw [List.mem_singleton.mp hc]
    exact hinner
  have hN : N.Writable := by
    refine ⟨by decide, fun r hr => ?_⟩
    rw [List.mem_singleton.mp hr]
    refine .mk (by decide) (by decide) (by decide) fun c hc => ?_
    rw [List.mem_singleton.mp hc]
    exact hrule
  exact ⟨hN, ofSource_render N hN⟩

end NestedCss
