import Mathlib.Data.List.Nodup
import NestedCss.Build.Pool
/-!
# The cache under shared use

A compilation looks its text up and, if nothing is there, compiles it and stores the result at any
later time. Between the two, other compilations and sweeps may come. `Shared` is a cache with the
compilations that use it, and a list of moves is one order in which things happen.

The cache can be trusted because it stays sound: each entry stands under the hash of its text and
holds what the text compiles to (`IsSound`). So all compilations give what compiling alone gives,
whatever the hash is and whatever happens in between (`run_transparent`). An entry is marked as used
exactly if it was found or stored since the last sweep (`Shared.Inv`), which is what a sweep goes
by.
-/
namespace NestedCss

namespace Cache

variable {α ε : Type} {hash : Text → UInt64} {build : Text → Except ε α} {c : Cache α}

/-! ### Sound caches -/

/-- Every entry stands under the hash of its text, no hash occurs twice, and each entry holds what
its text compiles to. -/
structure IsSound (hash : Text → UInt64) (build : Text → Except ε α) (c : Cache α) : Prop where
  key_eq : ∀ e ∈ c.entries, e.1 = hash e.2.text
  built : ∀ e ∈ c.entries, build e.2.text = .ok e.2.result
  nodup : (c.entries.map Prod.fst).Nodup

theorem isSound_empty : IsSound hash build ({} : Cache α) :=
  ⟨fun _ h => absurd h List.not_mem_nil, fun _ h => absurd h List.not_mem_nil, List.nodup_nil⟩

theorem exists_of_find? {key : UInt64} {text : Text} {a : α} (h : c.find? key text = some a) :
    ∃ used, (key, ⟨text, a, used⟩) ∈ c.entries := by
  unfold find? at h
  split at h
  · rename_i e hlookup
    split at h
    · rename_i htext
      obtain ⟨l, r, hentries, -⟩ := List.lookup_eq_some_iff.mp hlookup
      have he : e = ⟨text, a, e.used⟩ := by
        rw [← eq_of_beq htext, ← Option.some.inj h]
      refine ⟨e.used, ?_⟩
      rw [hentries, ← he]
      simp
    · cases h
  · cases h

/-- What a sound cache has for a text is what the text compiles to. -/
theorem IsSound.build_of_find? (hc : IsSound hash build c) {key : UInt64} {text : Text} {a : α}
    (h : c.find? key text = some a) : build text = .ok a := by
  obtain ⟨used, hmem⟩ := exists_of_find? h
  exact hc.built _ hmem

/-- No entry has the hash of another text. -/
theorem IsSound.eq_of_key_eq (hc : IsSound hash build c) {d e : UInt64 × CacheEntry α}
    (hd : d ∈ c.entries) (he : e ∈ c.entries) (h : d.1 = e.1) : d = e :=
  List.inj_on_of_nodup_map hc.nodup hd he h

theorem lookup_of_some {key : UInt64} {text : Text} {a : α} (h : c.find? key text = some a) :
    c.lookup key text =
      (some a, { c with entries := markUsed key c.entries, hits := c.hits + 1 }) := by
  simp only [lookup, h]

theorem lookup_of_none {key : UInt64} {text : Text} (h : c.find? key text = none) :
    c.lookup key text = (none, { c with misses := c.misses + 1 }) := by
  simp only [lookup, h]

theorem mem_markUsed {key : UInt64} {entries : List (UInt64 × CacheEntry α)}
    {e : UInt64 × CacheEntry α} : e ∈ markUsed key entries ↔
      (∃ d ∈ entries, d.1 = key ∧ e = (key, { d.2 with used := true })) ∨
        (e ∈ entries ∧ e.1 ≠ key) := by
  rw [markUsed, List.mem_map]
  constructor
  · rintro ⟨d, hd, rfl⟩
    by_cases hk : d.1 = key
    · exact .inl ⟨d, hd, hk, by simp [hk]⟩
    · simp only [beq_iff_eq, hk, if_false]
      exact .inr ⟨hd, hk⟩
  · rintro (⟨d, hd, hk, rfl⟩ | ⟨he, hk⟩)
    · exact ⟨d, hd, by simp [hk]⟩
    · exact ⟨e, he, by simp [hk]⟩

theorem map_fst_markUsed (key : UInt64) (entries : List (UInt64 × CacheEntry α)) :
    (markUsed key entries).map Prod.fst = entries.map Prod.fst := by
  rw [markUsed, List.map_map]
  refine List.map_congr_left fun e _ => ?_
  by_cases hk : e.1 = key <;> simp [hk]

theorem mem_store {key : UInt64} {text : Text} {a : α} {e : UInt64 × CacheEntry α} :
    e ∈ (c.store key text a).entries ↔
      e = (key, ⟨text, a, true⟩) ∨ (e ∈ c.entries ∧ e.1 ≠ key) := by
  simp [store]

theorem mem_sweep {e : UInt64 × CacheEntry α} : e ∈ c.sweep.2.entries ↔
    ∃ d ∈ c.entries, d.2.used = true ∧ e = (d.1, { d.2 with used := false }) := by
  simp only [sweep, List.mem_map, List.mem_filter]
  constructor
  · rintro ⟨d, ⟨hd, hu⟩, rfl⟩
    exact ⟨d, hd, hu, rfl⟩
  · rintro ⟨d, hd, hu, rfl⟩
    exact ⟨d, ⟨hd, hu⟩, rfl⟩

theorem IsSound.lookup (hc : IsSound hash build c) (key : UInt64) (text : Text) :
    IsSound hash build (c.lookup key text).2 := by
  cases h : c.find? key text with
  | none =>
    rw [lookup_of_none h]
    exact ⟨hc.key_eq, hc.built, hc.nodup⟩
  | some a =>
    rw [lookup_of_some h]
    -- a mark changes neither text nor result
    refine ⟨fun e he => ?_, fun e he => ?_, ?_⟩
    · rcases mem_markUsed.mp he with ⟨d, hd, hk, rfl⟩ | ⟨he, -⟩
      · exact hk ▸ hc.key_eq d hd
      · exact hc.key_eq e he
    · rcases mem_markUsed.mp he with ⟨d, hd, -, rfl⟩ | ⟨he, -⟩
      · exact hc.built d hd
      · exact hc.built e he
    · rw [map_fst_markUsed]
      exact hc.nodup

theorem IsSound.store (hc : IsSound hash build c) {text : Text} {a : α}
    (h : build text = .ok a) : IsSound hash build (c.store (hash text) text a) := by
  refine ⟨fun e he => ?_, fun e he => ?_, ?_⟩
  · rcases mem_store.mp he with rfl | ⟨he, -⟩
    · rfl
    · exact hc.key_eq e he
  · rcases mem_store.mp he with rfl | ⟨he, -⟩
    · exact h
    · exact hc.built e he
  · -- what had the hash before is taken out first
    rw [Cache.store, List.map_cons, List.nodup_cons]
    refine ⟨?_, (List.filter_sublist.map Prod.fst).nodup hc.nodup⟩
    simp

theorem IsSound.sweep (hc : IsSound hash build c) : IsSound hash build c.sweep.2 := by
  refine ⟨fun e he => ?_, fun e he => ?_, ?_⟩
  · obtain ⟨d, hd, -, rfl⟩ := mem_sweep.mp he
    exact hc.key_eq d hd
  · obtain ⟨d, hd, -, rfl⟩ := mem_sweep.mp he
    exact hc.built d hd
  · rw [Cache.sweep, List.map_map]
    exact (List.filter_sublist.map Prod.fst).nodup hc.nodup

/-! ### Moves -/

/-- One thing that happens to a shared cache. -/
inductive Move where
  /-- A compilation of a text starts, and looks the text up. -/
  | call (text : Text)
  /-- The compilation with a number, which found nothing, compiles its text and stores the
  result. -/
  | finish (i : Nat)
  /-- The cache is swept. -/
  | sweep

/-- The text of the compilation that a move starts. -/
def Move.text? : Move → Option Text
  | call text => some text
  | _ => none

/-- A compilation. -/
structure Call (α ε : Type) where
  /-- Its text. -/
  text : Text
  /-- What it has given, if it is at its end. -/
  outcome : Option (Except ε α)

/-- What becomes of a move. -/
inductive Event where
  /-- A lookup found the text. -/
  | hit (text : Text)
  /-- A lookup did not find the text. -/
  | miss (text : Text)
  /-- The result for a text was stored. -/
  | stored (text : Text)
  /-- A sweep gave these counts. -/
  | swept (hits misses : Nat)

namespace Event

/-- Whether an event is a lookup. -/
def isLookup : Event → Bool
  | hit _ | miss _ => true
  | _ => false

/-- Whether an event makes use of the entry for a text. -/
def isUseOf (text : Text) : Event → Bool
  | hit t | stored t => t == text
  | _ => false

/-- Whether an event is a sweep. -/
def isSweep : Event → Bool
  | swept _ _ => true
  | _ => false

end Event

/-- A cache with the compilations that share it. -/
structure Shared (α ε : Type) where
  /-- The cache. -/
  cache : Cache α := {}
  /-- The compilations that have started, in their order. -/
  calls : List (Call α ε) := []
  /-- What has happened, the last first. -/
  log : List Event := []

namespace Shared

/-- What has happened since the last sweep. -/
def recent (s : Shared α ε) : List Event := s.log.takeWhile (! ·.isSweep)

/-- The state after a move. Only a compilation that is not at its end can be finished. -/
def step (hash : Text → UInt64) (build : Text → Except ε α) (s : Shared α ε) : Move → Shared α ε
  | .call text =>
    match s.cache.lookup (hash text) text with
    | (some a, cache) => ⟨cache, s.calls ++ [⟨text, some (.ok a)⟩], .hit text :: s.log⟩
    | (none, cache) => ⟨cache, s.calls ++ [⟨text, none⟩], .miss text :: s.log⟩
  | .finish i =>
    match s.calls[i]? with
    | some ⟨text, none⟩ =>
      match build text with
      | .ok a =>
        ⟨s.cache.store (hash text) text a, s.calls.set i ⟨text, some (.ok a)⟩,
          .stored text :: s.log⟩
      | .error e => { s with calls := s.calls.set i ⟨text, some (.error e)⟩ }
    | _ => s
  | .sweep =>
    let (counts, cache) := s.cache.sweep
    { s with cache, log := .swept counts.1 counts.2 :: s.log }

/-- The state after moves, from an empty cache on. -/
def run (hash : Text → UInt64) (build : Text → Except ε α) (moves : List Move) : Shared α ε :=
  moves.foldl (step hash build) {}

variable {s : Shared α ε}

theorem step_call_of_some {text : Text} {a : α} (h : s.cache.find? (hash text) text = some a) :
    s.step hash build (.call text) =
      ⟨{ s.cache with entries := markUsed (hash text) s.cache.entries, hits := s.cache.hits + 1 },
        s.calls ++ [⟨text, some (.ok a)⟩], .hit text :: s.log⟩ := by
  simp only [step, lookup_of_some h]

theorem step_call_of_none {text : Text} (h : s.cache.find? (hash text) text = none) :
    s.step hash build (.call text) =
      ⟨{ s.cache with misses := s.cache.misses + 1 }, s.calls ++ [⟨text, none⟩],
        .miss text :: s.log⟩ := by
  simp only [step, lookup_of_none h]

/-- What the end of a compilation can be: nothing new, a failure, or a result that is stored. -/
theorem step_finish_cases (hash : Text → UInt64) (build : Text → Except ε α) (s : Shared α ε)
    (i : Nat) :
    s.step hash build (.finish i) = s ∧ (∀ text, s.calls[i]? ≠ some ⟨text, none⟩) ∨
    ∃ text, s.calls[i]? = some ⟨text, none⟩ ∧
      ((∃ e, build text = .error e ∧ s.step hash build (.finish i) =
          { s with calls := s.calls.set i ⟨text, some (.error e)⟩ }) ∨
        ∃ a, build text = .ok a ∧ s.step hash build (.finish i) =
          ⟨s.cache.store (hash text) text a, s.calls.set i ⟨text, some (.ok a)⟩,
            .stored text :: s.log⟩) := by
  rcases hcall : s.calls[i]? with _ | ⟨text, _ | r⟩
  · exact .inl ⟨by simp only [step, hcall], by simp⟩
  · refine .inr ⟨text, rfl, ?_⟩
    cases hb : build text with
    | error e => exact .inl ⟨e, rfl, by simp only [step, hcall, hb]⟩
    | ok a => exact .inr ⟨a, rfl, by simp only [step, hcall, hb]⟩
  · exact .inl ⟨by simp only [step, hcall], by simp⟩

/-- A compilation that nothing comes between is `Cache.compile`. -/
theorem step_call_finish (hash : Text → UInt64) (build : Text → Except ε α) (s : Shared α ε)
    (text : Text) :
    let next := (s.step hash build (.call text)).step hash build (.finish s.calls.length)
    next.cache = (s.cache.compile hash build text).2 ∧
      next.calls = s.calls ++ [⟨text, some (s.cache.compile hash build text).1⟩] := by
  cases h : s.cache.find? (hash text) text with
  | some a =>
    rw [step_call_of_some h]
    simp [step, compile, lookup_of_some h]
  | none =>
    rw [step_call_of_none h]
    cases hb : build text with
    | error e => simp [step, compile, lookup_of_none h, hb]
    | ok a => simp [step, compile, lookup_of_none h, hb]

/-! ### What every run keeps -/

/-- What holds however a cache is shared: it is sound, compilations give what compiling alone gives,
and counts and marks tell what has happened since the last sweep. -/
structure Inv (hash : Text → UInt64) (build : Text → Except ε α) (s : Shared α ε) : Prop where
  sound : s.cache.IsSound hash build
  answered : ∀ c ∈ s.calls, ∀ r, c.outcome = some r → r = build c.text
  counted : s.cache.hits + s.cache.misses = s.recent.countP Event.isLookup
  used_iff : ∀ e ∈ s.cache.entries, e.2.used = true ↔ s.recent.any (·.isUseOf e.2.text) = true

theorem inv_empty : Inv hash build ({} : Shared α ε) :=
  ⟨isSound_empty, fun _ h => absurd h List.not_mem_nil, rfl, fun _ h => absurd h List.not_mem_nil⟩

theorem Inv.call (hs : Inv hash build s) (text : Text) :
    Inv hash build (s.step hash build (.call text)) := by
  have hsound := hs.sound.lookup (hash text) text
  cases h : s.cache.find? (hash text) text with
  | none =>
    rw [lookup_of_none h] at hsound
    rw [step_call_of_none h]
    refine ⟨hsound, fun d hd r hr => ?_, ?_, fun e he => ?_⟩
    · rcases List.mem_append.mp hd with hd | hd
      · exact hs.answered d hd r hr
      · rw [List.mem_singleton.mp hd] at hr
        cases hr
    · have hcount := hs.counted
      simp only [recent, List.takeWhile_cons, Event.isSweep, Bool.not_false, if_true,
        List.countP_cons, Event.isLookup] at hcount ⊢
      omega
    · simpa [recent, Event.isSweep, Event.isUseOf] using hs.used_iff e he
  | some a =>
    rw [lookup_of_some h] at hsound
    rw [step_call_of_some h]
    refine ⟨hsound, fun d hd r hr => ?_, ?_, fun e he => ?_⟩
    · rcases List.mem_append.mp hd with hd | hd
      · exact hs.answered d hd r hr
      · rw [List.mem_singleton.mp hd] at hr ⊢
        rw [← Option.some.inj hr]
        exact (hs.sound.build_of_find? h).symm
    · have hcount := hs.counted
      simp only [recent, List.takeWhile_cons, Event.isSweep, Bool.not_false, if_true,
        List.countP_cons, Event.isLookup] at hcount ⊢
      omega
    · rcases mem_markUsed.mp he with ⟨d, hd, hk, rfl⟩ | ⟨he, hk⟩
      · -- the entry with this hash is the one that was found
        obtain ⟨used, hfound⟩ := exists_of_find? h
        have htext : d.2.text = text := by
          rw [hs.sound.eq_of_key_eq hd hfound hk]
        simp [recent, Event.isSweep, Event.isUseOf, htext]
      · have htext : text ≠ e.2.text := fun heq =>
          hk ((hs.sound.key_eq e he).trans (congrArg hash heq.symm))
        simpa [recent, Event.isSweep, Event.isUseOf, htext] using hs.used_iff e he

theorem Inv.finish (hs : Inv hash build s) (i : Nat) :
    Inv hash build (s.step hash build (.finish i)) := by
  have hset : ∀ {text r}, r = build text → ∀ d ∈ s.calls.set i ⟨text, some r⟩, ∀ r',
      d.outcome = some r' → r' = build d.text := by
    intro text r hr d hd r' hr'
    rcases List.mem_or_eq_of_mem_set hd with hd | rfl
    · exact hs.answered d hd r' hr'
    · exact (Option.some.inj hr').symm.trans hr
  rcases step_finish_cases hash build s i with
    ⟨heq, -⟩ | ⟨text, -, ⟨e, he, heq⟩ | ⟨a, ha, heq⟩⟩
  · rw [heq]
    exact hs
  · rw [heq]
    exact ⟨hs.sound, hset he.symm, hs.counted, hs.used_iff⟩
  · rw [heq]
    refine ⟨hs.sound.store ha, hset ha.symm, ?_, fun e he => ?_⟩
    · simpa [recent, Event.isSweep, Event.isLookup, store] using hs.counted
    · rcases mem_store.mp he with rfl | ⟨he, hk⟩
      · simp [recent, Event.isSweep, Event.isUseOf]
      · have htext : text ≠ e.2.text := fun heq =>
          hk ((hs.sound.key_eq e he).trans (congrArg hash heq.symm))
        simpa [recent, Event.isSweep, Event.isUseOf, htext] using hs.used_iff e he

theorem Inv.sweep (hs : Inv hash build s) : Inv hash build (s.step hash build .sweep) := by
  refine ⟨hs.sound.sweep, hs.answered, ?_, fun e he => ?_⟩
  · simp [step, recent, Event.isSweep, Cache.sweep]
  · obtain ⟨d, -, -, rfl⟩ := mem_sweep.mp he
    simp [step, recent, Event.isSweep]

theorem Inv.step (hs : Inv hash build s) (m : Move) : Inv hash build (s.step hash build m) := by
  cases m with
  | call text => exact hs.call text
  | finish i => exact hs.finish i
  | sweep => exact hs.sweep

theorem inv_run (hash : Text → UInt64) (build : Text → Except ε α) (moves : List Move) :
    Inv hash build (run hash build moves) := by
  suffices h : ∀ s, Inv hash build s → Inv hash build (moves.foldl (step hash build) s) from
    h {} inv_empty
  induction moves with
  | nil => exact fun s hs => hs
  | cons m moves ih => exact fun s hs => ih _ (hs.step m)

/-! ### Compilations -/

theorem map_text_step (hash : Text → UInt64) (build : Text → Except ε α) (s : Shared α ε)
    (m : Move) :
    (s.step hash build m).calls.map Call.text = s.calls.map Call.text ++ m.text?.toList := by
  cases m with
  | call text =>
    cases h : s.cache.find? (hash text) text with
    | none => simp [step_call_of_none h, Move.text?]
    | some a => simp [step_call_of_some h, Move.text?]
  | finish i =>
    have hset : ∀ {text r}, s.calls[i]? = some ⟨text, none⟩ →
        (s.calls.set i ⟨text, some r⟩).map Call.text = s.calls.map Call.text := by
      intro text r hcall
      refine List.ext_getElem? fun j => ?_
      rw [List.map_set, List.getElem?_set, List.length_map]
      split
      · rename_i hij
        have hi : i < s.calls.length := (List.getElem?_eq_some_iff.mp hcall).1
        rw [if_pos hi, ← hij, List.getElem?_map, hcall]
        rfl
      · rfl
    rcases step_finish_cases hash build s i with
      ⟨heq, -⟩ | ⟨text, hcall, ⟨e, -, heq⟩ | ⟨a, -, heq⟩⟩
    · simp [heq, Move.text?]
    · simp [heq, hset hcall, Move.text?]
    · simp [heq, hset hcall, Move.text?]
  | sweep => simp [step, Move.text?]

/-- The compilations of a run are those that its moves start. -/
theorem map_text_run (hash : Text → UInt64) (build : Text → Except ε α) (moves : List Move) :
    (run hash build moves).calls.map Call.text = moves.filterMap Move.text? := by
  suffices h : ∀ s : Shared α ε, (moves.foldl (step hash build) s).calls.map Call.text =
      s.calls.map Call.text ++ moves.filterMap Move.text? by
    simpa [run] using h {}
  induction moves with
  | nil => simp
  | cons m moves ih =>
    intro s
    rw [List.foldl_cons, ih, map_text_step, List.append_assoc]
    cases m <;> rfl

/-- Once a compilation has been moved to its end, it has given what compiling alone gives. -/
theorem Inv.getElem?_finish (hs : Inv hash build s) {i : Nat} {d : Call α ε}
    (hd : s.calls[i]? = some d) :
    (s.step hash build (.finish i)).calls[i]? = some ⟨d.text, some (build d.text)⟩ := by
  have hi : i < s.calls.length := (List.getElem?_eq_some_iff.mp hd).1
  rcases step_finish_cases hash build s i with
    ⟨heq, hended⟩ | ⟨text, hcall, ⟨e, he, heq⟩ | ⟨a, ha, heq⟩⟩
  · obtain ⟨text, _ | r⟩ := d
    · exact absurd hd (hended text)
    · rw [heq, hd, ← hs.answered _ (List.mem_of_getElem? hd) r rfl]
  · rw [hcall] at hd
    cases hd
    simp [heq, hi, he]
  · rw [hcall] at hd
    cases hd
    simp [heq, hi, ha]

/-- The moves of a compilation that fails leave the entries as they are. -/
theorem Inv.entries_of_error (hs : Inv hash build s) {text : Text} {e : ε}
    (he : build text = .error e) :
    (s.step hash build (.call text)).cache.entries = s.cache.entries ∧
      ∀ i d, s.calls[i]? = some d → d.text = text →
        (s.step hash build (.finish i)).cache.entries = s.cache.entries := by
  constructor
  · cases h : s.cache.find? (hash text) text with
    | none => rw [step_call_of_none h]
    | some a =>
      -- nothing is there for a text that does not compile
      have hb := hs.sound.build_of_find? h
      rw [he] at hb
      cases hb
  · intro i d hd htext
    rcases step_finish_cases hash build s i with
      ⟨heq, -⟩ | ⟨t, hcall, ⟨_, -, heq⟩ | ⟨a, ha, -⟩⟩
    · rw [heq]
    · rw [heq]
    · rw [hcall] at hd
      cases hd
      replace htext : t = text := htext
      rw [htext, he] at ha
      cases ha

/-- A sweep keeps the entries that were found or stored since the last one, and no others. -/
theorem Inv.entries_sweep (hs : Inv hash build s) :
    s.cache.sweep.2.entries =
      (s.cache.entries.filter fun e => s.recent.any (·.isUseOf e.2.text)).map
        fun e => (e.1, { e.2 with used := false }) := by
  rw [Cache.sweep]
  refine congrArg _ (List.filter_congr fun e he => ?_)
  rw [Bool.eq_iff_iff]
  exact hs.used_iff e he

end Shared

/-- However compilations and sweeps share a cache, and whatever the hash is: the compilations are
those that were started; each one that is at its end has given what its text compiles to, with the
printed text, or the error, and each one that is moved on comes to its end; one that fails leaves
the entries alone; the counts of a sweep add up to the lookups since the last one; and it keeps
exactly the entries that were found or stored since then. -/
theorem run_transparent (hash : Text → UInt64) (build : Text → Except ε Stylesheet) (pretty : Bool)
    (moves : List Move) :
    let compile (t : Text) : Except ε Compiled :=
      (build t).map fun sheet => ⟨sheet, sheet.print pretty⟩
    let s := Shared.run hash compile moves
    s.calls.map Call.text = moves.filterMap Move.text? ∧
    (∀ i d, s.calls[i]? = some d → (∀ r, d.outcome = some r → r = compile d.text) ∧
      (s.step hash compile (.finish i)).calls[i]? = some ⟨d.text, some (compile d.text)⟩) ∧
    (∀ text e, build text = .error e →
      (s.step hash compile (.call text)).cache.entries = s.cache.entries ∧
      ∀ i d, s.calls[i]? = some d → d.text = text →
        (s.step hash compile (.finish i)).cache.entries = s.cache.entries) ∧
    s.cache.sweep.1.1 + s.cache.sweep.1.2 = s.recent.countP Event.isLookup ∧
    s.cache.sweep.2.entries =
      (s.cache.entries.filter fun e => s.recent.any (·.isUseOf e.2.text)).map
        fun e => (e.1, { e.2 with used := false }) := by
  intro compile s
  have hs : Shared.Inv hash compile s := Shared.inv_run hash compile moves
  refine ⟨Shared.map_text_run hash compile moves, fun i d hd => ⟨?_, hs.getElem?_finish hd⟩, ?_,
    hs.counted, hs.entries_sweep⟩
  · exact hs.answered d (List.mem_of_getElem? hd)
  · intro text e he
    have herror : compile text = .error e := by
      simp only [compile, he]
      rfl
    exact hs.entries_of_error herror

end Cache

end NestedCss
