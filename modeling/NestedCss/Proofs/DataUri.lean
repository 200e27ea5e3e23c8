import NestedCss.Compiler
import NestedCss.Proofs.Comments
import NestedCss.Proofs.Printer
/-!
# Data addresses

An unquoted data address has a semicolon inside its parentheses, which does not end the declaration
it stands in. So a rule with such a value compiles to itself, as long as the data are kept
(`Compiler.compile_dataUri`). They are not where they hold two slashes in a row, for these open a
comment inside parentheses as they do anywhere else outside quotes. Then the parenthesis is never
closed, and compiling fails.
-/
namespace NestedCss

/-- A byte of data in base 64, or of its padding. -/
def Byte.isBase64 (c : UInt8) : Bool :=
  isLetter c || isDigit c || c == plus || c == slash || c == 0x3D

namespace DataUri

/-- The part of an address in front of the data. -/
def opening : Text := Text.ofString "url(data:image/png;base64,"

/-- An unquoted data address. -/
def render (data : Text) : Text := opening ++ data ++ [Byte.closeParen]

/-- A rule whose only value is a data address. -/
def rule (property data : Text) : Text :=
  Text.ofString "a" ++ Byte.openBrace ::
    (property ++ Byte.colon :: render data ++ [Byte.closeBrace])

variable {property data : Text}

/-! ### Reading the declaration -/

/-- Inside the parenthesis neither the semicolon of the address nor the data are a cut. -/
theorem crosses_data (hp : property.isPropertyName = true) (hd : data.all Byte.isBase64 = true) :
    Piece.Search.Crosses {} (property ++ Byte.colon :: (opening ++ data)) { parens := 1 } := by
  have hname : Piece.Search.Crosses {} property {} :=
    Piece.Search.crosses_of_avoids (Token.isPropertyName_avoids hp _ (by decide)) 0
  have hopening : Piece.Search.Crosses {} (Byte.colon :: opening) { parens := 1 } :=
    ⟨by decide, by decide⟩
  have hdata := Piece.Search.crosses_of_avoids (Text.avoids_of_all hd _ (by decide)) 1
  exact hname.append (hopening.append hdata)

theorem endsAt_declaration (hp : property.isPropertyName = true)
    (hd : data.all Byte.isBase64 = true) :
    Piece.EndsAt (property ++ Byte.colon :: render data) Byte.closeBrace .closeBrace := by
  have hclose : Piece.Search.Crosses { parens := 1 } [Byte.closeParen] {} := ⟨rfl, rfl⟩
  obtain ⟨hpass, hafter⟩ := (crosses_data hp hd).append hclose
  rw [List.append_assoc, List.cons_append] at hpass hafter
  refine ⟨hpass, ?_⟩
  rw [render, hafter]
  rfl

theorem trim_render (data : Text) : (render data).trim = render data :=
  Text.trim_cons_append_singleton (c := 0x75) (by decide) (by decide) (opening.tail ++ data)

/-- The colon of the address is inside its parentheses. -/
theorem countTopLevel_render (hd : data.all Byte.isBase64 = true) :
    Text.countTopLevel (render data) Byte.colon = 0 := by
  have hmem : Byte.colon ∉ data ++ [Byte.closeParen] := by
    rw [List.mem_append, not_or]
    exact ⟨fun hm => Text.avoids_of_all hd [Byte.colon] (by decide) _ hm (by decide), by decide⟩
  rw [Text.countTopLevel, render, List.append_assoc, Text.countTopFrom_append,
    Text.countTopFrom_eq_zero hmem]
  decide

/-! ### Comments in the data -/

/-- The rule up to the comma in front of the data. -/
def front (property : Text) : Text :=
  Text.ofString "a" ++ Byte.openBrace ::
    (property ++ Byte.colon :: Text.ofString "url(data:image/png;base64")

theorem front_append (property rest : Text) :
    front property ++ Byte.comma :: rest
      = Text.ofString "a" ++ Byte.openBrace :: (property ++ Byte.colon :: (opening ++ rest)) := by
  have hopening : opening = Text.ofString "url(data:image/png;base64" ++ [Byte.comma] := by decide
  simp [front, hopening]

theorem rule_eq (property data : Text) :
    rule property data
      = front property ++ Byte.comma :: (data ++ Byte.closeParen :: [Byte.closeBrace]) := by
  rw [front_append]
  simp [rule, render]

/-- In front of the data all is code, and nothing is quoted. -/
theorem code_front (hp : property.isPropertyName = true) :
    Source.opensComment {} (front property) = false ∧ Quotes.after {} (front property) = {} := by
  have hname := Quotes.after_of_avoids (Token.isPropertyName_avoids hp _ (by decide))
  have hslash : Byte.slash ∉ property := fun hm =>
    Token.isPropertyName_avoids hp [Byte.slash] (by decide) _ hm (by decide)
  constructor
  · rw [front, Source.opensComment_append_cons (by decide),
      Source.opensComment_append_cons (by decide),
      show (Quotes.after {} (Text.ofString "a")).next Byte.openBrace = {} by decide, hname,
      Source.opensComment_of_not_mem hslash]
    decide
  · rw [front, Quotes.after_append, Quotes.after, List.foldl_cons, ← Quotes.after,
      Quotes.after_append,
      show (Quotes.after {} (Text.ofString "a")).next Byte.openBrace = {} by decide, hname]
    decide

/-- A comment opens in the rule exactly where one opens in the data. -/
theorem opensComment_rule (hp : property.isPropertyName = true) :
    Source.opensComment {} (rule property data) = Source.opensComment {} data := by
  obtain ⟨hcode, hquotes⟩ := code_front hp
  have hlast : ∀ q, Source.opensComment q [Byte.closeBrace] = false :=
    Source.opensComment_of_not_mem (by decide)
  rw [rule_eq, Source.opensComment_append_cons (by decide), hcode, hquotes,
    Source.opensComment_append_cons (by decide), hlast, Bool.false_or, Bool.or_false]
  rfl

/-! ### Data that are kept -/

/-- The sheet with the rule as its only one. -/
def sheet (property data : Text) : NestedSheet :=
  ⟨[], [⟨[Text.ofString "a"], Declarations.empty.set property (render data), []⟩]⟩

theorem spells_rule (hp : property.isPropertyName = true) (hd : data.all Byte.isBase64 = true) :
    Spells (sheet property data).clauses (rule property data) := by
  have hspelled : Declaration.SpelledBy ⟨property, render data⟩
      (property ++ Byte.colon :: render data) :=
    ⟨hp, countTopLevel_render hd, [], render data, Text.isBlank_nil, trim_render data, rfl⟩
  have hopening : Piece.EndsAt (Text.ofString "a") Byte.openBrace .openBrace := ⟨rfl, rfl⟩
  have hsplit : ((Text.ofString "a").splitTopLevel Byte.comma).map (·.text.trim)
      = [Text.ofString "a"] := by decide
  exact .opening hopening hsplit
    (.last (endsAt_declaration hp hd) hspelled (.finish Text.isBlank_nil))

theorem print_rule (hd : data.all Byte.isBase64 = true) (order : Int) :
    Stylesheet.print
      { rules := [⟨Text.ofString "a", some (Declarations.empty.set property (render data)),
          order⟩] } false
      = rule property data := by
  have hline : (render data).Avoids [Byte.lineFeed, Byte.carriageReturn] := by
    rw [render, Text.avoids_append, Text.avoids_append]
    exact ⟨⟨by decide, Text.avoids_of_all hd _ (by decide)⟩, by decide⟩
  have hrule : Stylesheet.printRule false 0
      ⟨Text.ofString "a", some (Declarations.empty.set property (render data)), order⟩
      = rule property data := by
    show Text.ofString "a" ++ Byte.openBrace ::
      (property ++ Byte.colon :: (render data).minifyValue) ++ [Byte.closeBrace] = _
    rw [Stylesheet.minifyValue_eq_self hline, rule, List.append_assoc]
    rfl
  have hsort : ∀ r : Rule, Stylesheet.sortRules [r] = [r] := fun r => List.mergeSort_singleton r
  have htrim : (rule property data).trim = rule property data :=
    Text.trim_cons_append_singleton (c := 0x61) (by decide) (by decide)
      (Byte.openBrace :: (property ++ Byte.colon :: render data))
  simp [Stylesheet.print, Stylesheet.printStatements, Stylesheet.printRules, hsort, hrule,
    Stylesheet.printBlocks, htrim]

theorem compile_rule_of_code (hp : property.isPropertyName = true)
    (hd : data.all Byte.isBase64 = true) (hcode : Source.opensComment {} data = false) :
    Compiler.compile (rule property data) {} = .ok (rule property data) := by
  have hread : NestedSheet.ofSource (Source.sanitize (rule property data))
      = .ok (sheet property data) := by
    refine NestedSheet.ofSource_spells_of_code (fun r hr => ?_) (spells_rule hp hd)
      (by rw [opensComment_rule hp, hcode])
    rw [List.mem_singleton.mp hr]
    refine .mk (by simp) (by decide) (fun d hd => ?_) (by simp)
    rw [List.mem_singleton.mp hd]
    exact List.cons_ne_nil _ _
  have hflat : Compiler.flatten (rule property data)
      = .ok ⟨[], [⟨[[Text.ofString "a"]], Declarations.empty.set property (render data)⟩]⟩ := by
    unfold Compiler.flatten
    rw [hread]
    rfl
  have htree : Compiler.build (rule property data) {}
      = .ok { rules := [⟨Text.ofString "a",
          some (Declarations.empty.set property (render data)), 1⟩] } := by
    unfold Compiler.build
    rw [hflat]
    rfl
  unfold Compiler.compile
  rw [htree]
  exact congrArg Except.ok (print_rule hd 1)

/-! ### Data that hold a comment -/

/-- The parenthesis is never closed, so no brace is either. -/
theorem compile_rule_of_comment (hp : property.isPropertyName = true)
    (hd : data.all Byte.isBase64 = true) (hopen : Source.opensComment {} data = true) :
    ∃ e, Compiler.compile (rule property data) {} = .error e := by
  obtain ⟨hcode, hquotes⟩ := code_front hp
  obtain ⟨kept, lost, hsplit, hkept⟩ :=
    Source.map_byte_removeComments_of_comment (b := Byte.closeParen :: [Byte.closeBrace])
      (Text.avoids_of_all hd _ (by decide))
      (Text.avoids_append.mpr ⟨Text.avoids_of_all hd _ (by decide), by decide⟩) hopen
  have hbase : kept.all Byte.isBase64 = true := by
    rw [hsplit, List.all_append, Bool.and_eq_true] at hd
    exact hd.1
  have htext : (Source.sanitize (rule property data)).text
      = Text.ofString "a" ++ Byte.openBrace :: (property ++ Byte.colon :: (opening ++ kept)) := by
    have hright : kept.trimRight = kept := Text.trimRight_eq_self fun r c hr =>
      (Text.avoids_of_all hbase _ (by decide)).not_blank c (by rw [hr]; simp)
    have hleft : Text.trimLeft (front property ++ Byte.comma :: kept)
        = front property ++ Byte.comma :: kept :=
      Text.trimLeft_cons_of_not_blank (c := 0x61) (by decide) _
    rw [Source.text, Source.sanitize, Source.map_byte_trimPlaced, rule_eq,
      Source.map_byte_removeComments_append (by decide) _ _ _ hcode, hquotes,
      show Quotes.next {} Byte.comma = {} by decide, hkept, Text.trim, hleft,
      Text.trimRight_append_cons (by decide), hright, front_append]
  have hne : (property ++ Byte.colon :: (opening ++ kept)).trim ≠ [] := by
    rw [Text.trim, Text.trimLeft_append_cons (by decide), Text.trimRight_append_cons (by decide)]
    simp
  have htokens : ∃ e, Token.ofSource (Source.sanitize (rule property data)) = .error e := by
    unfold Token.ofSource Piece.cut
    have hopening : Piece.EndsAt (Text.ofString "a") Byte.openBrace .openBrace := ⟨rfl, rfl⟩
    rw [htext, Piece.cutFrom_endsAt hopening, Token.ofPieces_openBrace _ _ _ rfl,
      Token.ofPieces_unfinished _ _ _ (crosses_data hp hbase).1 hne]
    exact ⟨_, rfl⟩
  obtain ⟨e, he⟩ := htokens
  refine ⟨e, ?_⟩
  unfold Compiler.compile Compiler.build Compiler.flatten NestedSheet.ofSource
  rw [he]
  rfl

end DataUri

/-- **A data address survives exactly when no comment opens in it.** The semicolon in its
parentheses does not end the declaration, but two slashes in a row do open a comment there. -/
theorem Compiler.compile_dataUri {property data : Text} (hp : property.isPropertyName = true)
    (hd : data.all Byte.isBase64 = true) :
    (compile (DataUri.rule property data) {} = .ok (DataUri.rule property data)
      ↔ ¬ [Byte.slash, Byte.slash] <:+: data) ∧
    ([Byte.slash, Byte.slash] <:+: data →
      ∃ e, compile (DataUri.rule property data) {} = .error e) := by
  have hslashes := Source.opensComment_iff_slashes (Text.avoids_of_all hd _ (by decide))
  have hcomment : [Byte.slash, Byte.slash] <:+: data →
      ∃ e, compile (DataUri.rule property data) {} = .error e :=
    fun h => DataUri.compile_rule_of_comment hp hd (hslashes.mpr h)
  refine ⟨⟨fun hok h => ?_, fun h => ?_⟩, hcomment⟩
  · obtain ⟨e, he⟩ := hcomment h
    rw [hok] at he
    cases he
  · refine DataUri.compile_rule_of_code hp hd ?_
    rw [← Bool.not_eq_true, hslashes]
    exact h

/-- Image data with single slashes, and the same data with one slash more. -/
theorem Compiler.compile_dataUri_png :
    (Text.ofString "background-image").isPropertyName = true ∧
      (Text.ofString "iVBORw0KGgo/AAAA+SUhEUg/=").all Byte.isBase64 = true ∧
      (Text.ofString "iVBORw0KGgo//AAAA+SUhEUg/=").all Byte.isBase64 = true ∧
      compile (DataUri.rule (Text.ofString "background-image")
          (Text.ofString "iVBORw0KGgo/AAAA+SUhEUg/=")) {}
        = .ok (DataUri.rule (Text.ofString "background-image")
            (Text.ofString "iVBORw0KGgo/AAAA+SUhEUg/=")) ∧
      ∃ e, compile (DataUri.rule (Text.ofString "background-image")
          (Text.ofString "iVBORw0KGgo//AAAA+SUhEUg/=")) {} = .error e :=
  ⟨by decide, by decide, by decide,
    (compile_dataUri (by decide) (by decide)).1.mpr (by decide),
    (compile_dataUri (by decide) (by decide)).2 (by decide)⟩

/-- A rule with a data address whose data are two slashes does not compile to itself. -/
theorem Compiler.compile_dataUri_slashes_ne :
    (Text.ofString "b").isPropertyName = true ∧ (Text.ofString "//").all Byte.isBase64 = true ∧
      compile (DataUri.rule (Text.ofString "b") (Text.ofString "//")) {}
        ≠ .ok (DataUri.rule (Text.ofString "b") (Text.ofString "//")) := by
  decide

end NestedCss
