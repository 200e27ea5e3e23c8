import Mathlib.Data.List.Nodup
import Mathlib.Data.List.Perm.Subperm
import NestedCss.Report
/-!
# Entries of debug reports

A report is filled by calls that keep paths and data, and names with numbers behind them share one
namespace with the names that callers give. All the same, what a name stands for is settled once and
for all (`Report.Keeps`): a call writes at a free name, or at one that stands for the very path it
keeps. One call keeps what all names stand for (`Report.keeps_apply`), and so does a run of calls.

A name that is taken is numbered. The search for a free number ends, since the numbered names are
all different and a report has finitely many entries (`Report.exists_version`).
-/
namespace NestedCss

/-! ### Numbers as texts -/

/-- The digits can be read back from their bytes, and the number from its digits. -/
theorem Text.ofNat_injective : Function.Injective Text.ofNat := by
  have hdigits : ∀ n, (ofNat n).map (fun b => Char.ofNat b.toNat) = Nat.toDigits 10 n := by
    intro n
    rw [ofNat, List.map_map]
    refine (List.map_congr_left fun c hc => ?_).trans (List.map_id _)
    have hdigit := Nat.isDigit_of_mem_toDigits (by decide) (by decide) hc
    have hsmall : c.toNat < 256 := by
      simp only [Char.isDigit, Bool.and_eq_true, decide_eq_true_eq,
        UInt32.le_iff_toNat_le] at hdigit
      exact Nat.lt_of_le_of_lt hdigit.2 (by decide)
    have hbyte : c.toNat.toUInt8.toNat = c.toNat := by
      rw [Nat.toUInt8, UInt8.toNat_ofNat']
      exact Nat.mod_eq_of_lt hsmall
    rw [Function.comp_apply, hbyte, Char.ofNat_toNat, id]
  intro m n h
  have hmn : Nat.toDigits 10 m = Nat.toDigits 10 n := by rw [← hdigits m, ← hdigits n, h]
  rw [← Nat.ofDigitChars_toDigits (n := m) (by decide : 1 < 10) (by decide), hmn,
    Nat.ofDigitChars_toDigits (by decide) (by decide)]

/-! ### What entries stand for -/

namespace ReportEntry

/-- What an entry stands for: data, or the absolute form of a path. -/
def subject : ReportEntry → Text ⊕ Text
  | .data d => .inl d
  | .path _ actual => .inr actual

variable {e : ReportEntry}

theorem subject_eq_data {d : Text} (h : e.subject = .inl d) : e = .data d := by
  cases e with
  | data d' => rw [Sum.inl.inj h]
  | path given actual => cases h

theorem subject_eq_path {p : Text} (h : e.subject = .inr p) : ∃ given, e = .path given p := by
  cases e with
  | data d => cases h
  | path given actual => exact ⟨given, by rw [Sum.inr.inj h]⟩

theorem subject_of_isPath {p : Text} (h : e.isPath p = true) : e.subject = .inr p := by
  cases e with
  | data d => cases h
  | path given actual => rw [subject, eq_of_beq h]

end ReportEntry

namespace Report

variable (r : Report)

theorem find?_set (name other : Text) (e : ReportEntry) :
    (r.set name e).find? other = if other = name then some e else r.find? other := by
  rw [find?, set, List.lookup_cons]
  by_cases h : other = name
  · rw [if_pos h, h, beq_self_eq_true]
  · rw [if_neg h, beq_eq_false_iff_ne.mpr h, find?]
    dsimp only
    -- of the entries, only such go that do not have the other name
    induction r.entries with
    | nil => rfl
    | cons x entries ih =>
      by_cases hx : x.1 = name
      · have hother : (other == x.1) = false := beq_eq_false_iff_ne.mpr (hx ▸ h)
        rw [List.filter_cons_of_neg (by simp [hx]), List.lookup_cons, hother]
        exact ih
      · rw [List.filter_cons_of_pos (by simp [hx]), List.lookup_cons, List.lookup_cons, ih]

/-! ### Numbered names -/

theorem numbered_injective (name : Text) : Function.Injective (numbered name) := fun _ _ h =>
  Text.ofNat_injective (List.cons.inj (List.append_cancel_left h)).2

/-- Of more numbered names than there are entries, one is free. -/
theorem exists_free (name : Text) :
    ∃ n, n < r.entries.length + 1 ∧ r.find? (numbered name (n + 1)) = none := by
  by_contra hnone
  push Not at hnone
  let names := (List.range (r.entries.length + 1)).map fun n => numbered name (n + 1)
  have hnodup : names.Nodup :=
    List.nodup_range.map fun _ _ h => Nat.succ.inj (numbered_injective name h)
  have hsub : names ⊆ r.entries.map (·.1) := by
    intro x hx
    obtain ⟨n, hn, rfl⟩ := List.mem_map.mp hx
    have htaken := hnone n (List.mem_range.mp hn)
    rw [find?, ne_eq, List.lookup_eq_none_iff] at htaken
    push Not at htaken
    obtain ⟨e, he, hname⟩ := htaken
    have hname : numbered name (n + 1) = e.1 := by simpa using hname
    exact List.mem_map.mpr ⟨e, he, hname.symm⟩
  have hlength := (List.subperm_of_subset hnodup hsub).length_le
  simp only [names, List.length_map, List.length_range] at hlength
  omega

/-- The search for a number ends, with the smallest one that is free. -/
theorem exists_version (name : Text) : ∃ k, 1 ≤ k ∧ k ≤ r.entries.length + 1 ∧
    r.version name = numbered name k ∧ r.find? (numbered name k) = none ∧
    ∀ j, 1 ≤ j → j < k → r.find? (numbered name j) ≠ none := by
  let isFree := fun n => (r.find? (numbered name (n + 1))).isNone
  cases hfind : (List.range (r.entries.length + 1)).find? isFree with
  | none =>
    obtain ⟨n, hn, hfree⟩ := r.exists_free name
    have htaken := List.find?_range_eq_none.mp hfind n hn
    simp [isFree, hfree] at htaken
  | some n =>
    obtain ⟨hfree, hn, hleast⟩ := List.find?_range_eq_some.mp hfind
    refine ⟨n + 1, by omega, List.mem_range.mp hn, ?_, Option.isNone_iff_eq_none.mp hfree, ?_⟩
    · rw [version, List.find?_map]
      exact congrArg (fun o => (o.map fun n => numbered name (n + 1)).getD name) hfind
    · intro j hj hlt hnone
      obtain ⟨m, rfl⟩ := Nat.exists_eq_add_of_le' hj
      have htaken := hleast m (by omega)
      simp [isFree, hnone] at htaken

/-! ### Calls -/

/-- What a report can be asked to keep. -/
inductive Call where
  /-- A path, seen from the directory `base`. -/
  | path (base name path : Text)
  /-- Data. -/
  | data (name data : Text)

namespace Call

/-- The name that a call asks for. -/
def name : Call → Text
  | .path _ name _ => name
  | .data name _ => name

/-- What a call keeps. -/
def entry : Call → ReportEntry
  | .path base _ p => .path p (Path.absolute base p)
  | .data _ d => .data d

/-- Whether a call may write over an entry: only a path that stands there already. -/
def mayReplace : Call → ReportEntry → Bool
  | .path base _ p, e => e.isPath (Path.absolute base p)
  | .data _ _, _ => false

/-- The name under which a call keeps its entry. -/
def place (c : Call) (r : Report) : Text :=
  if (r.find? c.name).all c.mayReplace then c.name else r.version c.name

end Call

/-- The report after a call. -/
def apply : Call → Report
  | .path base name path => r.store base name path
  | .data name data => r.storeData name data

/-- The report after calls. -/
def run (calls : List Call) : Report := calls.foldl apply r

theorem apply_eq_set (c : Call) : r.apply c = r.set (c.place r) c.entry := by
  cases c with
  | path base name path =>
    rw [apply, store, Call.place]
    cases hfind : r.find? name <;> simp [Call.name, hfind, Call.mayReplace, Call.entry]
  | data name data =>
    rw [apply, storeData, Call.place]
    cases hfind : r.find? name <;> simp [Call.name, hfind, Call.mayReplace, Call.entry]

theorem place_eq (c : Call) :
    c.place r = c.name ∨ ∃ k, 1 ≤ k ∧ c.place r = numbered c.name k := by
  unfold Call.place
  split
  · exact .inl rfl
  · obtain ⟨k, hk, -, hversion, -⟩ := r.exists_version c.name
    exact .inr ⟨k, hk, hversion⟩

/-- A call writes at a free name, or over an entry that it may replace. -/
theorem place_free_or (c : Call) : r.find? (c.place r) = none ∨
    ∃ e, r.find? (c.place r) = some e ∧ c.mayReplace e = true := by
  unfold Call.place
  split
  · next hall =>
    cases hfind : r.find? c.name with
    | none => exact .inl rfl
    | some e =>
      rw [hfind] at hall
      exact .inr ⟨e, rfl, hall⟩
  · obtain ⟨k, -, -, hversion, hfree, -⟩ := r.exists_version c.name
    exact .inl (hversion ▸ hfree)

theorem subject_of_mayReplace {c : Call} {e : ReportEntry} (h : c.mayReplace e = true) :
    e.subject = c.entry.subject := by
  cases c with
  | path base name path => exact ReportEntry.subject_of_isPath h
  | data name data => cases h

/-! ### What is kept -/

/-- What a name stands for. -/
def subject? (name : Text) : Option (Text ⊕ Text) := (r.find? name).map ReportEntry.subject

variable {r}

theorem subject?_eq_some {name : Text} {x : Text ⊕ Text} :
    r.subject? name = some x ↔ ∃ e, r.find? name = some e ∧ e.subject = x :=
  Option.map_eq_some_iff

/-- In the second report, every name of the first one stands for what it stood for. -/
def Keeps (r r' : Report) : Prop :=
  ∀ name x, r.subject? name = some x → r'.subject? name = some x

theorem Keeps.refl (r : Report) : Keeps r r := fun _ _ h => h

theorem Keeps.trans {r₁ r₂ r₃ : Report} (h : Keeps r₁ r₂) (h' : Keeps r₂ r₃) : Keeps r₁ r₃ :=
  fun name x hx => h' name x (h name x hx)

theorem find?_apply_place (r : Report) (c : Call) :
    (r.apply c).find? (c.place r) = some c.entry := by
  rw [apply_eq_set, find?_set, if_pos rfl]

theorem keeps_apply (r : Report) (c : Call) : Keeps r (r.apply c) := by
  intro name x hx
  obtain ⟨e, he, rfl⟩ := subject?_eq_some.mp hx
  by_cases hname : name = c.place r
  · subst hname
    rcases r.place_free_or c with hfree | ⟨e', he', hreplace⟩
    · rw [hfree] at he
      cases he
    · obtain rfl := Option.some.inj (he.symm.trans he')
      exact subject?_eq_some.mpr
        ⟨c.entry, find?_apply_place r c, (subject_of_mayReplace hreplace).symm⟩
  · rw [subject?, apply_eq_set, find?_set, if_neg hname]
    exact hx

theorem keeps_run (r : Report) (calls : List Call) : Keeps r (r.run calls) := by
  induction calls generalizing r with
  | nil => exact .refl r
  | cons c calls ih => exact (keeps_apply r c).trans (ih (r.apply c))

variable {calls : List Call} {i j : Nat} {c : Call}

theorem keeps_take (r : Report) (calls : List Call) (h : i ≤ j) :
    Keeps (r.run (calls.take i)) (r.run (calls.take j)) := by
  obtain ⟨later, hlater⟩ : calls.take i <+: calls.take j := List.take_prefix_take_left h
  rw [← hlater, run, run, List.foldl_append]
  exact keeps_run _ later

theorem run_take_succ (r : Report) (h : calls[i]? = some c) :
    r.run (calls.take (i + 1)) = (r.run (calls.take i)).apply c := by
  rw [run, List.take_add_one, h, List.foldl_append]
  rfl

/-! ### The places of calls -/

/-- The name under which call number `i` keeps its entry, in the report that it finds. -/
def placeAt (r : Report) (calls : List Call) (i : Nat) : Text :=
  match calls[i]? with
  | some c => c.place (r.run (calls.take i))
  | none => []

theorem placeAt_eq (r : Report) (h : calls[i]? = some c) :
    r.placeAt calls i = c.place (r.run (calls.take i)) := by
  rw [placeAt, h]

/-- From a call on, its place stands for what it keeps. -/
theorem exists_placeAt (r : Report) (h : calls[i]? = some c) (hij : i < j) :
    ∃ e, (r.run (calls.take j)).find? (r.placeAt calls i) = some e ∧
      e.subject = c.entry.subject := by
  have hfirst : (r.run (calls.take (i + 1))).subject? (r.placeAt calls i)
      = some c.entry.subject := by
    rw [subject?, placeAt_eq r h, run_take_succ r h, find?_apply_place]
    rfl
  exact subject?_eq_some.mp (keeps_take r calls hij _ _ hfirst)

/-- Data is kept at a name that was free. -/
theorem find?_placeAt_data (r : Report) {name d : Text} (h : calls[i]? = some (.data name d)) :
    (r.run (calls.take i)).find? (r.placeAt calls i) = none := by
  rw [placeAt_eq r h]
  rcases (r.run (calls.take i)).place_free_or (.data name d) with hfree | ⟨e, -, hreplace⟩
  · exact hfree
  · cases hreplace

/-- No call has the place of data that another call keeps. -/
theorem placeAt_ne_of_data (r : Report) {name d : Text} (hi : calls[i]? = some (.data name d))
    (hj : calls[j]? = some c) (hne : j ≠ i) : r.placeAt calls j ≠ r.placeAt calls i := by
  intro heq
  rcases Nat.lt_or_gt_of_ne hne with hlt | hgt
  · -- an earlier call has filled its place
    obtain ⟨e, he, -⟩ := exists_placeAt r hj hlt
    rw [heq, find?_placeAt_data r hi] at he
    cases he
  · -- a later call finds the data, which it may not replace
    obtain ⟨e, he, hsubject⟩ := exists_placeAt r hi hgt
    obtain rfl := ReportEntry.subject_eq_data hsubject
    rw [← heq, placeAt_eq r hj] at he
    rcases (r.run (calls.take j)).place_free_or c with hfree | ⟨e, he', hreplace⟩
    · rw [hfree] at he
      cases he
    · obtain rfl := Option.some.inj (he.symm.trans he')
      cases c <;> cases hreplace

/-- **A report never overwrites.** Each call has a place, under the name it asks for or a numbered
one. Data stays as it is from its call on, at a place that was free before and that no other call
has; the place of a path goes on to stand for that path. The numbers never run out. -/
theorem run_never_overwrites (r : Report) (calls : List Call) : ∃ place : Nat → Text,
    (∀ i c, calls[i]? = some c →
      place i = c.name ∨ ∃ k, 1 ≤ k ∧ place i = numbered c.name k) ∧
    (∀ i name d, calls[i]? = some (.data name d) →
      (r.run (calls.take i)).find? (place i) = none ∧
      (∀ j, i < j → (r.run (calls.take j)).find? (place i) = some (.data d)) ∧
      ∀ j c, calls[j]? = some c → j ≠ i → place j ≠ place i) ∧
    (∀ i base name path, calls[i]? = some (.path base name path) →
      ∀ j, i < j → ∃ given, (r.run (calls.take j)).find? (place i)
        = some (.path given (Path.absolute base path))) ∧
    ∀ name, ∃ k, 1 ≤ k ∧ k ≤ (r.run calls).entries.length + 1 ∧
      (r.run calls).version name = numbered name k ∧
      (r.run calls).find? (numbered name k) = none ∧
      ∀ j, 1 ≤ j → j < k → (r.run calls).find? (numbered name j) ≠ none := by
  refine ⟨r.placeAt calls, ?names, ?data, ?paths, fun name => exists_version _ name⟩
  case names =>
    intro i c h
    rw [placeAt_eq r h]
    exact place_eq _ c
  case data =>
    intro i name d h
    refine ⟨find?_placeAt_data r h, fun j hij => ?_, fun j c hj => placeAt_ne_of_data r h hj⟩
    obtain ⟨e, he, hsubject⟩ := exists_placeAt r h hij
    rw [he, ReportEntry.subject_eq_data hsubject]
  case paths =>
    intro i base name path h j hij
    obtain ⟨e, he, hsubject⟩ := exists_placeAt r h hij
    obtain ⟨given, rfl⟩ := ReportEntry.subject_eq_path hsubject
    exact ⟨given, he⟩

-- a number that a caller has given is passed over, and a path gives way to data
example : (run {} [.data (Text.ofString "x.1") [], .data (Text.ofString "x") [],
    .data (Text.ofString "x") [], .path (Text.ofString "/") (Text.ofString "x") [],
    .path (Text.ofString "/") (Text.ofString "x.3") []]).entries.map (·.1)
      = ["x.3", "x.2", "x", "x.1"].map Text.ofString := by decide +kernel

end Report

end NestedCss
