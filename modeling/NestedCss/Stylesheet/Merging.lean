import NestedCss.AtRule
import NestedCss.Selector
import NestedCss.Stylesheet
/-!
# Merging

Three passes that put rules or blocks together: rules with one selector list, blocks with one
header, and, at the root only, rules with the same declarations.
-/
namespace NestedCss

/-! ### Rules with one selector list -/

/-- The rule `r` taken into an earlier rule with the same selector list: later values win, and
under `preserveLast` the rule takes the later place. -/
def Rule.absorb (existing r : Rule) (order : MergeOrder) : Rule :=
  { existing with
    declarations := existing.declarations.map fun d => d.setAll r.entries
    order :=
      if order = .preserveLast ∧ existing.order < r.order then r.order else existing.order }

/-- A rule together with the key it is merged under; rules without a key stay alone. -/
structure KeyedRule (κ : Type) where
  /-- The key. -/
  key : Option κ
  /-- The rule. -/
  rule : Rule

/-- Adds a rule to a list: it is taken into the first rule with its key by `f`, and goes to the end
where there is none or where it has no key. -/
def KeyedRule.insert {κ : Type} [DecidableEq κ] (f : Rule → Rule → Rule) (key : Option κ)
    (r : Rule) : List (KeyedRule κ) → List (KeyedRule κ)
  | [] => [⟨key, r⟩]
  | e :: more =>
    if key ≠ none ∧ e.key = key then ⟨e.key, f e.rule r⟩ :: more
    else e :: KeyedRule.insert f key r more

/-- The key under which rules are merged by selector. -/
def Rule.selectorKey? (r : Rule) : Option Text :=
  if AtRule.isMergeEligible r.selector then some (Selector.key r.selector) else none

/-- The rules with those of one selector list put together. -/
def Rule.mergeBySelector (order : MergeOrder) (rules : List Rule) : List Rule :=
  (rules.foldl (fun out r => KeyedRule.insert (Rule.absorb · · order) r.selectorKey? r out)
    []).map (·.rule)

/-! ### Rules with the same declarations -/

/-- A rule's own declarations, under which rules are merged; at-rules and rules without
declarations have none. -/
def Rule.declarationsKey? (r : Rule) : Option (List Declaration) :=
  if AtRule.isHeader r.selector || r.entries.isEmpty then none else some r.entries

/-- The rule with the selectors of a second one added. -/
def Rule.unite (pretty : Bool) (existing r : Rule) : Rule :=
  { existing with selector := Selector.union existing.selector r.selector pretty }

/-- The rules that are kept, and where those are found that others may be merged into. -/
structure BucketTable where
  /-- The rules kept so far. -/
  rules : List Rule := []
  /-- For each rule that is looked up, the digest of its declarations and its place. -/
  places : List (UInt64 × Nat) := []

namespace BucketTable

/-- The places under a digest, in the order in which they were taken. -/
def bucket (t : BucketTable) (h : UInt64) : List Nat := (t.places.filter (·.1 == h)).map (·.2)

/-- The first place under a digest at which a rule has the given declarations. -/
def find? (t : BucketTable) (h : UInt64) (l : List Declaration) : Option Nat :=
  (t.bucket h).find? fun i => t.rules[i]?.any (·.entries == l)

/-- Adds a rule: the rule with the same declarations gets its selectors, and where there is none it
is kept. Rules that are not looked up are kept as they are. -/
def add (digest : List Declaration → UInt64) (pretty : Bool) (t : BucketTable) (r : Rule) :
    BucketTable :=
  match r.declarationsKey? with
  | none => { t with rules := t.rules ++ [r] }
  | some l =>
    match t.find? (digest l) l with
    | some i => { t with rules := t.rules.modify i (Rule.unite pretty · r) }
    | none =>
      { rules := t.rules ++ [r], places := t.places ++ [(digest l, t.rules.length)] }

end BucketTable

/-- The rules with those of the same declarations put together, found through a digest. -/
def Rule.mergeByDeclarations (digest : List Declaration → UInt64) (pretty : Bool)
    (rules : List Rule) : List Rule :=
  (rules.foldl (BucketTable.add digest pretty) {}).rules

namespace Stylesheet

/-! ### Blocks with one header -/

/-- A sheet with the content of a second one behind its own. -/
def append (s c : Stylesheet) : Stylesheet :=
  { s with
    statements := s.statements ++ c.statements
    rules := s.rules ++ c.rules
    children := s.children ++ c.children }

/-- Adds a block to a list: its content goes to the first block with the same header up to blanks,
and it goes to the end where there is none. -/
def insertBlock (c : Stylesheet) : List Stylesheet → List Stylesheet
  | [] => [c]
  | e :: more =>
    if e.atRule.removeSpaces == c.atRule.removeSpaces then e.append c :: more
    else e :: insertBlock c more

/-- The blocks with those of one header put together. -/
def mergeBlocks (cs : List Stylesheet) : List Stylesheet :=
  cs.foldl (fun out c => insertBlock c out) []

/-- A sheet whose child blocks with one header are put together. -/
def mergeAtRules (s : Stylesheet) : Stylesheet := { s with children := mergeBlocks s.children }

/-- A sheet whose rules with one selector list are put together. -/
def mergeSelectors (s : Stylesheet) (opts : Options) : Stylesheet :=
  { s with rules := Rule.mergeBySelector opts.mergeOrder s.rules }

/-- A sheet whose rules with the same declarations are put together, found through a digest. -/
def mergeDeclarationsBy (digest : List Declaration → UInt64) (s : Stylesheet) (opts : Options) :
    Stylesheet :=
  { s with rules := Rule.mergeByDeclarations digest opts.pretty s.rules }

/-- A sheet whose rules with the same declarations are put together. -/
def mergeDeclarations (s : Stylesheet) (opts : Options) : Stylesheet :=
  s.mergeDeclarationsBy (fun l => Digest.xxh64 (Declarations.digestInput l)) opts

/-! ### The whole tree -/

mutual

/-- The number of sheets of a tree. -/
def sheetCount (s : Stylesheet) : Nat :=
  match s with
  | ⟨_, _, _, children⟩ => 1 + sheetCountAll children

/-- The number of sheets of a list of trees. -/
def sheetCountAll : List Stylesheet → Nat
  | [] => 0
  | c :: more => sheetCount c + sheetCountAll more

end

/-- The passes over one sheet that its options ask for. -/
def mergeLevel (opts : Options) (s : Stylesheet) : Stylesheet :=
  let s := if opts.merge.has .atRules then s.mergeAtRules else s
  if opts.merge.has .selectors then s.mergeSelectors opts else s

theorem sheetCount_eq (s : Stylesheet) : s.sheetCount = 1 + sheetCountAll s.children := by
  cases s; simp [sheetCount]

theorem sheetCountAll_append (a b : List Stylesheet) :
    sheetCountAll (a ++ b) = sheetCountAll a + sheetCountAll b := by
  induction a with
  | nil => simp [sheetCountAll]
  | cons c more ih => simp [sheetCountAll, ih]; omega

theorem sheetCountAll_insertBlock_le (c : Stylesheet) (cs : List Stylesheet) :
    sheetCountAll (insertBlock c cs) ≤ sheetCount c + sheetCountAll cs := by
  induction cs with
  | nil => simp [insertBlock, sheetCountAll]
  | cons e more ih =>
    simp only [insertBlock]
    split
    · simp only [sheetCountAll, sheetCount_eq, append, sheetCountAll_append]; omega
    · simp only [sheetCountAll]; omega

theorem sheetCountAll_mergeBlocks_le (cs : List Stylesheet) :
    sheetCountAll (mergeBlocks cs) ≤ sheetCountAll cs := by
  suffices h : ∀ out, sheetCountAll (cs.foldl (fun out c => insertBlock c out) out)
      ≤ sheetCountAll out + sheetCountAll cs by
    simpa [sheetCountAll, mergeBlocks] using h []
  induction cs with
  | nil => simp [sheetCountAll]
  | cons c more ih =>
    intro out
    have h₁ := ih (insertBlock c out)
    have h₂ := sheetCountAll_insertBlock_le c out
    simp only [List.foldl_cons, sheetCountAll]
    omega

theorem sheetCountAll_children_mergeLevel_le (opts : Options) (s : Stylesheet) :
    sheetCountAll (mergeLevel opts s).children ≤ sheetCountAll s.children := by
  unfold mergeLevel
  split <;> split <;>
    simp [mergeAtRules, mergeSelectors, sheetCountAll_mergeBlocks_le]

theorem sheetCount_le_of_mem {c : Stylesheet} {cs : List Stylesheet} (h : c ∈ cs) :
    sheetCount c ≤ sheetCountAll cs := by
  induction cs with
  | nil => cases h
  | cons e more ih =>
    simp only [sheetCountAll]
    rcases List.mem_cons.1 h with rfl | h
    · omega
    · have := ih h; omega

/-- A tree with the passes over single sheets run on every sheet, parents first. -/
def mergeTree (opts : Options) (s : Stylesheet) : Stylesheet :=
  { mergeLevel opts s with
    children := (mergeLevel opts s).children.attach.map fun ⟨c, _⟩ => mergeTree opts c }
termination_by s.sheetCount
decreasing_by
  have h₁ := sheetCount_le_of_mem ‹_›
  have h₂ := sheetCountAll_children_mergeLevel_le opts s
  have h₃ := sheetCount_eq s
  omega

/-- A tree with all passes run that its options ask for. -/
def merge (s : Stylesheet) (opts : Options) : Stylesheet :=
  if opts.merge = .none then s
  else
    let s := mergeTree opts s
    if opts.merge.has .declarations then s.mergeDeclarations opts else s

end Stylesheet

end NestedCss
