import NestedCss.Proofs.TokenShape
/-!
# The grammar of nested sheets

On the tokens of a source the reader accepts exactly its grammar
(`NestedSheet.ofTokens_follows_grammar`): it fails at the first token that offends, with the fault
of that token and no other, and where none does it has read what the tokens say.

`SheetReader.Stands` ties a reader to the phase of the stream in front of it, and
`SheetReader.summary` says what it will have read at the end, from what it has read and from the
tokens to come. A token that does not offend keeps both (`SheetReader.read_of_not_offends`).
-/
namespace NestedCss

/-! ### What a reader will have read -/

mutual

/-- A rule and the rules inside it, in the order in which they begin. -/
def NestedRule.walk (r : NestedRule) : List NestedRule :=
  match r with
  | ⟨selectors, declarations, children⟩ =>
    ⟨selectors, declarations, children⟩ :: NestedRule.walkAll children

/-- Rules and the rules inside them, in the order in which they begin. -/
def NestedRule.walkAll : List NestedRule → List NestedRule
  | [] => []
  | r :: more => NestedRule.walk r ++ NestedRule.walkAll more

end

/-- All rules of a nested sheet, in the order in which they begin. -/
def NestedSheet.walk (s : NestedSheet) : List NestedRule := NestedRule.walkAll s.rules

theorem NestedRule.walkAll_append (a b : List NestedRule) :
    walkAll (a ++ b) = walkAll a ++ walkAll b := by
  induction a with
  | nil => rfl
  | cons r a ih => rw [List.cons_append, walkAll, walkAll, ih, List.append_assoc]

theorem OpenRule.walkAll_append_close (rs : List NestedRule) (o : OpenRule) :
    NestedRule.walkAll (rs ++ [o.close])
      = NestedRule.walkAll rs ++ o.close :: NestedRule.walkAll o.children := by
  rw [NestedRule.walkAll_append]
  simp [NestedRule.walkAll, NestedRule.walk, OpenRule.close]

@[simp] theorem OpenRule.selectors_close (o : OpenRule) : o.close.selectors = o.selectors := rfl

@[simp] theorem OpenRule.declarations_close (o : OpenRule) :
    o.close.declarations = o.declarations := rfl

/-- What the tokens of a sheet determine about it. -/
structure SheetSummary where
  /-- The statements. -/
  statements : List Text
  /-- The selector list of every rule. -/
  selectors : List (List Text)
  /-- The declarations of every rule. -/
  declarations : List Declarations

/-- What is in a sheet. -/
def NestedSheet.summary (s : NestedSheet) : SheetSummary :=
  ⟨s.statements, s.walk.map (·.selectors), s.walk.map (·.declarations)⟩

/-- What the tokens of a sheet say that is in it. -/
def Token.summary (ts : List Token) : SheetSummary :=
  ⟨statements ts, runsFrom [] ts, (bodies ts).map fun body => .ofList (declarationsIn 0 body)⟩

namespace SheetReader

/-- The selector lists of the open rules and of the finished ones inside them. -/
def openSelectors : List OpenRule → List (List Text)
  | [] => []
  | o :: outer =>
    openSelectors outer ++ o.selectors :: (NestedRule.walkAll o.children).map (·.selectors)

/-- The declarations that the open rules will have behind the given tokens, and those of the
finished rules inside them; in front of the tokens `n` blocks are open inside the innermost. -/
def openDeclarations (ts : List Token) : Nat → List OpenRule → List Declarations
  | _, [] => []
  | n, o :: outer =>
    openDeclarations ts (n + 1) outer
      ++ o.declarations.setAll (Token.declarationsIn n ts)
        :: (NestedRule.walkAll o.children).map (·.declarations)

/-- What a reader will have read behind the given tokens. -/
def summary (st : SheetReader) (ts : List Token) : SheetSummary where
  statements := st.sheet.statements ++ Token.statements ts
  selectors := st.sheet.walk.map (·.selectors) ++ openSelectors st.opened
    ++ Token.runsFrom st.pending ts
  declarations := st.sheet.walk.map (·.declarations)
    ++ openDeclarations (st.awaiting.toList ++ ts) 0 st.opened
    ++ (Token.bodies ts).map fun body => .ofList (Token.declarationsIn 0 body)

variable {S : NestedSheet} {opened outer : List OpenRule} {o : OpenRule} {pending : List Text}
  {src : Source} {t name : Token} {ts us : List Token}

theorem openDeclarations_congr : ∀ {opened : List OpenRule} {n m : Nat},
    (∀ i, Token.declarationsIn (n + i) ts = Token.declarationsIn (m + i) us) →
      openDeclarations ts n opened = openDeclarations us m opened
  | [], _, _, _ => rfl
  | o :: outer, n, m, h => by
    have hinner : Token.declarationsIn n ts = Token.declarationsIn m us := h 0
    have houter : openDeclarations ts (n + 1) outer = openDeclarations us (m + 1) outer := by
      apply openDeclarations_congr
      intro i
      rw [Nat.add_assoc, Nat.add_assoc]
      exact h (1 + i)
    rw [openDeclarations, openDeclarations, hinner, houter]

theorem summary_nil (S : NestedSheet) : summary { sheet := S } [] = S.summary := by
  simp [summary, NestedSheet.summary, openSelectors, openDeclarations, Token.statements,
    Token.runsFrom, Token.bodies]

theorem openDeclarations_stop (ht : t.kind = .ruleEnd) (n : Nat) (opened : List OpenRule) :
    openDeclarations (t :: ts) (n + 1) opened = openDeclarations ts n opened := by
  apply openDeclarations_congr
  intro i
  rw [Nat.add_right_comm, Token.declarationsIn_stop_succ ht]

theorem summary_statement (ht : t.kind = .statement) :
    summary { sheet := { S with statements := S.statements ++ [t.text] } } ts
      = summary { sheet := S } (t :: ts) := by
  simp [summary, NestedSheet.walk, openDeclarations, Token.statements, ht, Token.bodies_cons_of_ne,
    Token.runsFrom_cons_of_ne]

theorem summary_name (ht : t.kind = .propertyName) :
    summary { sheet := S, opened, awaiting := some t } ts
      = summary { sheet := S, opened } (t :: ts) := by
  simp [summary, ht, Token.statements_cons_of_ne, Token.bodies_cons_of_ne,
    Token.runsFrom_cons_of_ne]

theorem summary_value (hname : name.kind = .propertyName) (ht : t.kind = .propertyValue) :
    summary { setProperty { sheet := S, opened := o :: outer, awaiting := some name }
        name.text t.text with awaiting := none } ts
      = summary { sheet := S, opened := o :: outer, awaiting := some name } (t :: ts) := by
  have hpair := Token.declarationsIn_pair hname ht
  have houter : openDeclarations (name :: t :: ts) 1 outer = openDeclarations ts 1 outer := by
    apply openDeclarations_congr
    intro i
    rw [hpair, if_neg (by omega)]
  by_cases hv : t.text = [] <;>
    simp [summary, setProperty, openSelectors, openDeclarations, ht, Token.statements_cons_of_ne,
      Token.bodies_cons_of_ne, Token.runsFrom_cons_of_ne, hpair, houter, hv, Declarations.setAll]

theorem summary_selector (ht : t.kind = .selector) :
    summary { sheet := S, opened, pending := pending ++ [t.text] } ts
      = summary { sheet := S, opened, pending } (t :: ts) := by
  have hopened : openDeclarations (t :: ts) 0 opened = openDeclarations ts 0 opened := by
    apply openDeclarations_congr
    intro i
    exact Token.declarationsIn_other (by simp [Token.isBrace, ht]) (by simp [ht]) _ ts
  simp [summary, hopened, Token.runsFrom, ht, Token.statements_cons_of_ne, Token.bodies_cons_of_ne]

theorem summary_ruleStart (ht : t.kind = .ruleStart) (hpending : pending ≠ []) :
    summary { sheet := S, opened := { selectors := pending } :: opened } ts
      = summary { sheet := S, opened, pending } (t :: ts) := by
  have hopened : openDeclarations (t :: ts) 0 opened = openDeclarations ts 1 opened := by
    apply openDeclarations_congr
    intro i
    rw [Token.declarationsIn_start ht, Nat.zero_add, Nat.add_comm]
  simp [summary, openSelectors, openDeclarations, hopened, Token.runsFrom, ht, Token.bodies,
    Token.statements_cons_of_ne, hpending, NestedRule.walkAll, Declarations.ofList]

theorem summary_ruleEnd (ht : t.kind = .ruleEnd) :
    summary (closeRule { sheet := S, opened := o :: outer }) ts
      = summary { sheet := S, opened := o :: outer } (t :: ts) := by
  have hinner : o.declarations.setAll (Token.declarationsIn 0 (t :: ts)) = o.declarations := by
    rw [Token.declarationsIn_stop_zero ht]
    rfl
  -- the closed rule follows what stands in the rule around it, or in the sheet
  cases outer with
  | nil =>
    simp [summary, closeRule, addRule, openSelectors, openDeclarations, ht,
      Token.statements_cons_of_ne, Token.bodies_cons_of_ne, Token.runsFrom_cons_of_ne, hinner,
      NestedSheet.walk, OpenRule.walkAll_append_close]
  | cons o' outer =>
    have houter : openDeclarations (t :: ts) 2 outer = openDeclarations ts 1 outer :=
      openDeclarations_stop ht 1 outer
    have hnext := Token.declarationsIn_stop_succ ht 0 ts
    simp [summary, closeRule, addRule, openSelectors, openDeclarations, ht,
      Token.statements_cons_of_ne, Token.bodies_cons_of_ne, Token.runsFrom_cons_of_ne, hinner,
      houter, hnext, OpenRule.walkAll_append_close]

/-! ### Where a reader stands -/

/-- The readers that stand below `d` open blocks in a phase of the stream. -/
inductive Stands (d : Nat) : Token.Phase → SheetReader → Prop
  | clause (S : NestedSheet) {opened : List OpenRule} (depth : opened.length = d) :
      Stands d .clause { sheet := S, opened }
  | selectors (S : NestedSheet) {opened : List OpenRule} {pending : List Text}
      (depth : opened.length = d) (some : pending ≠ []) :
      Stands d .selectors { sheet := S, opened, pending }
  | value (S : NestedSheet) (o : OpenRule) {outer : List OpenRule} {name : Token}
      (depth : outer.length + 1 = d) (kind : name.kind = .propertyName) :
      Stands d .value { sheet := S, opened := o :: outer, awaiting := some name }

variable {st : SheetReader} {d : Nat} {p : Token.Phase}

theorem stands_start : Stands 0 .clause {} := .clause {} rfl

/-- A reader that does not wait for a value, field by field. -/
theorem Stands.eq_of_ne_value (h : Stands d p st) (hp : p ≠ .value) :
    ∃ (S : NestedSheet) (opened : List OpenRule) (pending : List Text),
      st = { sheet := S, opened, pending } ∧ opened.length = d := by
  cases h with
  | clause S hdepth => exact ⟨S, _, [], rfl, hdepth⟩
  | selectors S hdepth _ => exact ⟨S, _, _, rfl, hdepth⟩
  | value => exact absurd rfl hp

theorem stands_setProperty {u v : Text} (hdepth : outer.length + 1 = d) :
    Stands d .clause { setProperty { sheet := S, opened := o :: outer, awaiting := some name } u v
      with awaiting := none } := by
  unfold setProperty
  dsimp only
  split <;> exact .clause S hdepth

theorem stands_closeRule (hdepth : outer.length = d) :
    Stands d .clause (closeRule { sheet := S, opened := o :: outer }) := by
  cases outer with
  | nil => exact .clause _ hdepth
  | cons o' outer => exact .clause _ hdepth

/-! ### One token -/

theorem missingSemicolon?_append {line rest : Text} (hline : Byte.lineFeed ∉ line)
    (hcolon : Byte.colon ∈ line) :
    missingSemicolon? (line ++ Byte.lineFeed :: rest) = some line.trimRight.length := by
  have htake : (line ++ Byte.lineFeed :: rest).takeWhile (· != Byte.lineFeed) = line := by
    rw [List.takeWhile_append_of_pos]
    · simp
    · intro c hc
      have hne : c ≠ Byte.lineFeed := fun he => hline (he ▸ hc)
      simpa using hne
  unfold missingSemicolon?
  rw [htake]
  simp [hcolon]

theorem exists_of_missingSemicolon?_eq_some {u : Text} {n : Nat}
    (h : missingSemicolon? u = some n) :
    ∃ line rest : Text, u = line ++ Byte.lineFeed :: rest ∧ Byte.lineFeed ∉ line ∧
      Byte.colon ∈ line ∧ n = line.trimRight.length := by
  unfold missingSemicolon? at h
  dsimp only at h
  split at h
  case isFalse => cases h
  case isTrue hcond =>
    rw [Bool.and_eq_true, decide_eq_true_eq, List.contains_iff_mem] at hcond
    obtain ⟨hlen, hcolon⟩ := hcond
    have hline : Byte.lineFeed ∉ u.takeWhile (· != Byte.lineFeed) := by
      intro hmem
      simpa using List.mem_takeWhile_imp hmem
    have hu := List.takeWhile_append_dropWhile (p := (· != Byte.lineFeed)) (l := u)
    cases hrest : u.dropWhile (· != Byte.lineFeed) with
    | nil =>
      rw [hrest, List.append_nil] at hu
      rw [hu] at hlen
      omega
    | cons c rest =>
      have hc : c = Byte.lineFeed := by
        have hhead := List.head?_dropWhile_not (· != Byte.lineFeed) u
        rw [hrest] at hhead
        simpa using hhead
      rw [hrest, hc] at hu
      exact ⟨_, rest, hu.symm, hline, hcolon, (Option.some.inj h).symm⟩

/-- A token that offends stops the reader with its fault. -/
theorem read_of_offends {off : Int} {fault : Fault} (hst : Stands d p st)
    (hts : Token.Shaped d p (t :: ts)) (h : t.Offends d off fault) :
    read src st t = .error (src.error off fault) := by
  -- behind a name there is nothing but its value, which never offends
  have hp : t.kind ≠ .propertyValue → p ≠ .value := by
    rintro hkind rfl
    cases hts with
    | value hvalue => exact hkind hvalue
    | selector hp => exact hp rfl
  cases h with
  | selector hkind hempty =>
    obtain ⟨S, opened, pending, rfl, -⟩ := hst.eq_of_ne_value (hp (by simp [hkind]))
    simp [read, readToken, hkind, readSelector, hempty]
  | property hkind houtside =>
    obtain ⟨S, opened, pending, rfl, hlen⟩ := hst.eq_of_ne_value (hp (by simp [hkind]))
    obtain rfl : opened = [] := List.length_eq_zero_iff.mp (by omega)
    simp [read, readToken, hkind]
  | statement hkind hinside =>
    obtain ⟨S, opened, pending, rfl, hlen⟩ := hst.eq_of_ne_value (hp (by simp [hkind]))
    obtain ⟨o, outer, rfl⟩ := List.exists_cons_of_length_pos (l := opened) (by omega)
    simp [read, readToken, hkind]
  | semicolon hkind hinside htext hline hcolon =>
    obtain ⟨S, opened, pending, rfl, hlen⟩ := hst.eq_of_ne_value (hp (by simp [hkind]))
    obtain ⟨o, outer, rfl⟩ := List.exists_cons_of_length_pos (l := opened) (by omega)
    simp [read, readToken, hkind, readSelector, htext, missingSemicolon?_append hline hcolon]

theorem readSelector_of_not_offends (src : Source) (S : NestedSheet) (pending : List Text)
    (hdepth : opened.length = d) (hkind : t.kind = .selector)
    (hfine : ∀ off fault, ¬ t.Offends d off fault) :
    readSelector src { sheet := S, opened, pending } t
      = .ok { sheet := S, opened, pending := pending ++ [t.text] } := by
  have hne : t.text ≠ [] := fun hempty => hfine _ _ (.selector hkind hempty)
  cases opened with
  | nil => simp [readSelector, hne]
  | cons o outer =>
    have hinside : 1 ≤ (d : Int) := by
      rw [List.length_cons] at hdepth
      omega
    have hsemicolon : missingSemicolon? t.text = none := by
      by_contra hsome
      obtain ⟨n, hn⟩ := Option.ne_none_iff_exists'.mp hsome
      obtain ⟨line, rest, htext, hline, hcolon, -⟩ := exists_of_missingSemicolon?_eq_some hn
      exact hfine _ _ (.semicolon hkind hinside htext hline hcolon)
    simp [readSelector, hne, hsemicolon]

/-- A token that does not offend is read, and what the reader will have read stays the same. -/
theorem read_of_not_offends (src : Source) (hst : Stands d p st)
    (hts : Token.Shaped d p (t :: ts)) (hfine : ∀ off fault, ¬ t.Offends d off fault) :
    ∃ (d' : Nat) (p' : Token.Phase) (st' : SheetReader), read src st t = .ok st' ∧
      Stands d' p' st' ∧ Token.Shaped d' p' ts ∧ (d' : Int) = d + Token.depth [t] ∧
      st'.summary ts = st.summary (t :: ts) := by
  cases hts with
  | statement hkind hmore =>
    cases hst with
    | clause S hdepth =>
      have hd : d = 0 := by
        by_contra hd
        exact hfine _ _ (.statement hkind (by omega))
      subst hd
      obtain rfl := List.length_eq_zero_iff.mp hdepth
      refine ⟨0, _, _, ?_, .clause _ rfl, hmore, ?_, summary_statement hkind⟩
      · simp [read, readToken, hkind]
      · simp [Token.depth, hkind]
  | name hkind hmore =>
    cases hst with
    | @clause S opened hdepth =>
      cases opened with
      | nil => exact absurd (.property hkind (by simp [← hdepth])) (hfine _ _)
      | cons o outer =>
        refine ⟨d, _, _, ?_, .value _ _ hdepth hkind, hmore, ?_, summary_name hkind⟩
        · simp [read, readToken, hkind]
        · simp [Token.depth, hkind]
  | value hkind hmore =>
    cases hst with
    | @value S o outer name hdepth hname =>
      refine ⟨d, _, _, ?_, stands_setProperty hdepth, hmore, ?_, summary_value hname hkind⟩
      · simp [read, hkind]
      · simp [Token.depth, hkind]
  | selector hp hkind hmore =>
    obtain ⟨S, opened, pending, rfl, hdepth⟩ := hst.eq_of_ne_value hp
    have hread := readSelector_of_not_offends src S pending hdepth hkind hfine
    refine ⟨d, _, _, ?_, .selectors S hdepth (by simp), hmore, ?_, summary_selector hkind⟩
    · simp [read, readToken, hkind, hread]
    · simp [Token.depth, hkind]
  | start hkind hmore =>
    cases hst with
    | @selectors S opened pending hdepth hpending =>
      refine ⟨d + 1, _, _, ?_, .clause S (by rw [List.length_cons, hdepth]), hmore, ?_,
        summary_ruleStart hkind hpending⟩
      · simp [read, readToken, hkind, hpending]
      · simp [Token.depth, hkind]
  | @stop d t ts hkind hmore =>
    cases hst with
    | @clause S opened hdepth =>
      obtain ⟨o, outer, rfl⟩ := List.exists_cons_of_length_eq_add_one hdepth
      refine ⟨d, _, _, ?_, stands_closeRule (Nat.succ.inj hdepth), hmore, ?_, summary_ruleEnd hkind⟩
      · simp [read, readToken, hkind]
      · rw [Token.depth_singleton_ruleEnd hkind]
        omega

/-! ### All tokens -/

/-- Reading stops at the first token that offends, with its fault. -/
theorem foldlM_of_offends {off : Int} {fault : Fault} {i : Nat} (hst : Stands d p st)
    (hts : Token.Shaped d p ts) (h : Token.OffendsFrom d ts i off fault)
    (hfirst : ∀ j < i, ∀ off fault, ¬ Token.OffendsFrom d ts j off fault) :
    ts.foldlM (read src) st = .error (src.error off fault) := by
  -- the index goes down as the depth that it is counted from moves on
  induction ts generalizing d p st i with
  | nil =>
    obtain ⟨t, ht, -⟩ := h
    simp at ht
  | cons t ts ih =>
    cases i with
    | zero =>
      rw [Token.offendsFrom_cons_zero] at h
      rw [List.foldlM_cons, read_of_offends hst hts h]
      rfl
    | succ i =>
      have hfine : ∀ off fault, ¬ t.Offends d off fault := fun off fault ht =>
        hfirst 0 (by omega) off fault (Token.offendsFrom_cons_zero.mpr ht)
      obtain ⟨d', p', st', hread, hst', hts', hd', -⟩ :=
        read_of_not_offends src hst hts hfine
      rw [Token.offendsFrom_cons_succ, ← hd'] at h
      rw [List.foldlM_cons, hread]
      refine ih hst' hts' h fun j hj off fault hj' => ?_
      refine hfirst (j + 1) (by omega) off fault ?_
      rw [Token.offendsFrom_cons_succ, ← hd']
      exact hj'

/-- Where no token offends all tokens are read, and the sheet is what the tokens say. -/
theorem foldlM_of_not_offends (src : Source) (hst : Stands d p st) (hts : Token.Shaped d p ts)
    (hfine : ∀ i off fault, ¬ Token.OffendsFrom d ts i off fault) :
    ∃ S : NestedSheet, ts.foldlM (read src) st = .ok { sheet := S } ∧
      S.summary = st.summary ts := by
  induction ts generalizing d p st with
  | nil =>
    cases hts
    cases hst with
    | clause S hdepth =>
      obtain rfl := List.length_eq_zero_iff.mp hdepth
      exact ⟨S, rfl, (summary_nil S).symm⟩
  | cons t ts ih =>
    obtain ⟨d', p', st', hread, hst', hts', hd', hsummary⟩ :=
      read_of_not_offends src hst hts fun off fault ht =>
        hfine 0 off fault (Token.offendsFrom_cons_zero.mpr ht)
    obtain ⟨S, hS, hsum⟩ := ih hst' hts' fun i off fault hi => by
      refine hfine (i + 1) off fault ?_
      rw [Token.offendsFrom_cons_succ, ← hd']
      exact hi
    refine ⟨S, ?_, hsum.trans hsummary⟩
    rw [List.foldlM_cons, hread]
    exact hS

end SheetReader

namespace NestedSheet

variable {src : Source} {ts : List Token}

/-- The tokens of a source are read up to the first token that offends. -/
theorem ofTokens_of_offendsAt {i : Nat} {off : Int} {fault : Fault}
    (h : Token.ofSource src = .ok ts) (hi : Token.OffendsAt ts i off fault)
    (hfirst : ∀ j < i, ∀ off fault, ¬ Token.OffendsAt ts j off fault) :
    ofTokens src ts = .error (src.error off fault) := by
  have hts := Token.shaped_of_stream (Token.stream_of_ofSource h)
  simp only [← Token.offendsFrom_zero_iff] at hi hfirst
  unfold ofTokens
  rw [SheetReader.foldlM_of_offends SheetReader.stands_start hts hi hfirst]
  rfl

/-- Where no token of a source offends, the sheet is what the tokens say. -/
theorem ofTokens_of_not_offendsAt (h : Token.ofSource src = .ok ts)
    (hfine : ∀ i off fault, ¬ Token.OffendsAt ts i off fault) :
    ∃ S, ofTokens src ts = .ok S ∧ S.summary = Token.summary ts := by
  have hts := Token.shaped_of_stream (Token.stream_of_ofSource h)
  simp only [← Token.offendsFrom_zero_iff] at hfine
  obtain ⟨S, hread, hsummary⟩ :=
    SheetReader.foldlM_of_not_offends src SheetReader.stands_start hts hfine
  refine ⟨S, ?_, hsummary⟩
  unfold ofTokens
  rw [hread]
  rfl

/-- Reading the tokens `ts` of a source follows the grammar of nested sheets. -/
structure FollowsGrammar (src : Source) (ts : List Token) : Prop where
  /-- Reading fails exactly where some token offends. -/
  fails_iff : (∃ e, ofTokens src ts = .error e) ↔ ∃ i off fault, Token.OffendsAt ts i off fault
  /-- The error is that of the first token that offends. -/
  first : ∀ i off fault, Token.OffendsAt ts i off fault →
    (∀ j < i, ∀ off fault, ¬ Token.OffendsAt ts j off fault) →
      ofTokens src ts = .error (src.error off fault)
  /-- No error is told as a missing selector or a missing value. -/
  message : ∀ e, ofTokens src ts = .error e →
    e.fault.message ≠ Fault.selectorExpected.message ∧
      e.fault.message ≠ Fault.propertyValueExpected.message
  /-- The statements of the sheet are those of the tokens. -/
  statements : ∀ S, ofTokens src ts = .ok S → S.statements = Token.statements ts
  /-- The selector lists of the rules, in the order in which the rules begin, are the maximal runs
  of selectors. -/
  selectors : ∀ S, ofTokens src ts = .ok S →
    S.walk.map (·.selectors) = Token.selectorRuns ts
  /-- The declarations of each rule arise from setting, in turn, those directly inside its block. -/
  declarations : ∀ S, ofTokens src ts = .ok S →
    S.walk.map (·.declarations)
      = (Token.bodies ts).map fun body => .ofList (Token.declarationsIn 0 body)

/-- **The reader accepts exactly its grammar.** -/
theorem ofTokens_follows_grammar (h : Token.ofSource src = .ok ts) : FollowsGrammar src ts := by
  by_cases hsome : ∃ i off fault, Token.OffendsAt ts i off fault
  · obtain ⟨i, off, fault, hi, hbefore⟩ := Token.exists_first_offendsAt hsome
    have hfail := ofTokens_of_offendsAt h hi hbefore
    refine ⟨⟨fun _ => hsome, fun _ => ⟨_, hfail⟩⟩, fun _ _ _ => ofTokens_of_offendsAt h,
      fun e he => ?_, ?_, ?_, ?_⟩
    · obtain rfl := Except.error.inj (hfail.symm.trans he)
      obtain ⟨t, -, ht⟩ := hi
      exact ht.message_ne
    all_goals
      intro S hS
      cases hfail.symm.trans hS
  · obtain ⟨S, hread, hsummary⟩ :=
      ofTokens_of_not_offendsAt h fun i off fault hi => hsome ⟨i, off, fault, hi⟩
    have hsame : ∀ S', ofTokens src ts = .ok S' → S'.summary = Token.summary ts := by
      intro S' hS'
      obtain rfl := Except.ok.inj (hread.symm.trans hS')
      exact hsummary
    refine ⟨⟨fun hfails => ?_, fun hoffence => absurd hoffence hsome⟩,
      fun _ _ _ => ofTokens_of_offendsAt h, fun e he => ?_, fun S' hS' => ?_, fun S' hS' => ?_,
      fun S' hS' => ?_⟩
    · obtain ⟨e, he⟩ := hfails
      cases hread.symm.trans he
    · cases hread.symm.trans he
    · exact congrArg SheetSummary.statements (hsame S' hS')
    · rw [← Token.runsFrom_nil]
      exact congrArg SheetSummary.selectors (hsame S' hS')
    · exact congrArg SheetSummary.declarations (hsame S' hS')

/-- A statement, a rule inside another, an empty value and a property that is set twice. -/
theorem ofTokens_follows_grammar_nested : ∃ (src : Source) (ts : List Token),
    src = Source.sanitize (Text.ofString "@x y; a, b\n{ c: d; e:; f:hover {c:g; c: h}}")
      ∧ Token.ofSource src = .ok ts ∧ ts.length = 16 ∧ FollowsGrammar src ts := by
  have h : ∃ ts, Token.ofSource (Source.sanitize (Text.ofString
      "@x y; a, b\n{ c: d; e:; f:hover {c:g; c: h}}")) = .ok ts ∧ ts.length = 16 :=
    exists_of_map_toOption (f := List.length) (by decide +kernel)
  obtain ⟨ts, hts, hlen⟩ := h
  exact ⟨_, ts, rfl, hts, hlen, ofTokens_follows_grammar hts⟩

end NestedSheet

end NestedCss
