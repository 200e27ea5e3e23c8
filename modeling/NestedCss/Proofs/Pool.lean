import NestedCss.Build
import NestedCss.Proofs.Cache
/-!
# Compiling under every schedule

The workers of a build may move in any order, and the build may be called off at any time. `Turn`
says once what a worker's move does. From it comes what all moves keep (`Pool.Inv`): whatever a
worker holds is what its source compiles to, and the first failure that was noted has a cause. A
worker that gives up because another one failed notes this after the failure, so that it is never
the first.

Every move that does something brings its worker nearer to its end, and some worker can always move
(`exists_turn`), so all workers come to their ends if none is left waiting for ever
(`eventually_isDone`). What the pool gives then is the same for every schedule, but for which of
several failures is told, unless the build is called off (`result_of_fair`).
-/
namespace NestedCss

open Cache (IsSound)

/-- How many moves a worker still makes at most. -/
def Stage.rank : Stage → Nat
  | waiting => 6
  | checking => 5
  | looking => 4
  | compiling => 3
  | storing _ | failing _ => 2
  | writing _ | stopping => 1
  | finished => 0

theorem Stage.rank_eq_zero_iff {s : Stage} : s.rank = 0 ↔ s = .finished := by
  cases s <;> simp [rank]

theorem Stage.isActive_iff {s : Stage} : s.isActive = true ↔ s ≠ .waiting ∧ s ≠ .finished := by
  cases s <;> simp [isActive]

namespace Pool

variable {hash : Text → UInt64} {build : Text → Except CompileError Compiled} {p q : Pool}

/-! ### Turns -/

/-- What a move of the worker `i` does whose source is `f`: the stage that it starts from, and the
pool after it. -/
inductive Turn (hash : Text → UInt64) (build : Text → Except CompileError Compiled) (p : Pool)
    (i : Nat) (f : SourceFile) : Stage → Pool → Prop where
  | start (h : p.mayStart i = true) : Turn hash build p i f .waiting (p.setStage i .checking)
  | giveUp (h : p.cancelled = true ∨ p.stopped = true) :
    Turn hash build p i f .checking (p.setStage i (.failing .cancelled))
  | goOn : Turn hash build p i f .checking (p.setStage i .looking)
  | hit {c : Compiled} (h : p.cache.find? (hash f.text) f.text = some c) :
    Turn hash build p i f .looking
      ({ p with cache := (p.cache.lookup (hash f.text) f.text).2 }.setStage i (.writing c))
  | miss : Turn hash build p i f .looking
      ({ p with cache := (p.cache.lookup (hash f.text) f.text).2 }.setStage i .compiling)
  | compile {c : Compiled} (h : build f.text = .ok c) :
    Turn hash build p i f .compiling (p.setStage i (.storing c))
  | refuse {e : CompileError} (h : build f.text = .error e) :
    Turn hash build p i f .compiling (p.setStage i (.failing (.source f.path e)))
  | store (c : Compiled) : Turn hash build p i f (.storing c)
      ({ p with cache := p.cache.store (hash f.text) f.text c }.setStage i (.writing c))
  | write (c : Compiled) : Turn hash build p i f (.writing c)
      ({ p with outputs := p.outputs.set i (some c), written := p.written ++ [i] }.setStage i
        .finished)
  | note (e : PoolError) : Turn hash build p i f (.failing e)
      ({ p with failures := p.failures ++ [e] }.setStage i .stopping)
  | stop : Turn hash build p i f .stopping ({ p with stopped := true }.setStage i .finished)

/-- A worker that is under way can move, and one that waits can if it may start. -/
theorem turn_step {i : Nat} {f : SourceFile} {s : Stage} (hs : p.stages[i]? = some s)
    (hf : p.sources[i]? = some f) (h : s.isActive = true ∨ s = .waiting ∧ p.mayStart i = true) :
    Turn hash build p i f s (p.step hash build i) := by
  cases s with
  | waiting =>
    have hmay : p.mayStart i = true := by simpa [Stage.isActive] using h
    simp only [step, hs, hf, hmay, if_true]
    exact .start hmay
  | checking =>
    simp only [step, hs, hf]
    split
    · rename_i hgive
      exact .giveUp (by simpa using hgive)
    · exact .goOn
  | looking =>
    cases hfind : p.cache.find? (hash f.text) f.text with
    | none =>
      have hturn : Turn hash build p i f .looking _ := .miss
      rw [Cache.lookup_of_none hfind] at hturn
      simpa only [step, hs, hf, Cache.lookup_of_none hfind] using hturn
    | some c =>
      have hturn : Turn hash build p i f .looking _ := .hit hfind
      rw [Cache.lookup_of_some hfind] at hturn
      simpa only [step, hs, hf, Cache.lookup_of_some hfind] using hturn
  | compiling =>
    cases hb : build f.text with
    | ok c =>
      simp only [step, hs, hf, hb]
      exact .compile hb
    | error e =>
      simp only [step, hs, hf, hb]
      exact .refuse hb
  | storing c =>
    simp only [step, hs, hf]
    exact .store c
  | writing c =>
    simp only [step, hs, hf]
    exact .write c
  | failing e =>
    simp only [step, hs, hf]
    exact .note e
  | stopping =>
    simp only [step, hs, hf]
    exact .stop
  | finished => simp [Stage.isActive] at h

/-- A move does nothing or is a turn of its worker. -/
theorem step_cases (hash : Text → UInt64) (build : Text → Except CompileError Compiled) (p : Pool)
    (i : Nat) : p.step hash build i = p ∨ ∃ f s, p.sources[i]? = some f ∧ p.stages[i]? = some s ∧
      Turn hash build p i f s (p.step hash build i) := by
  cases hs : p.stages[i]? with
  | none => exact .inl (by simp only [step, hs])
  | some s =>
    cases hf : p.sources[i]? with
    | none => exact .inl (by simp only [step, hs, hf])
    | some f =>
      by_cases h : s.isActive = true ∨ s = .waiting ∧ p.mayStart i = true
      · exact .inr ⟨f, s, rfl, rfl, turn_step hs hf h⟩
      · left
        cases s <;> simp_all [step, Stage.isActive]

section Turn

variable {i : Nat} {f : SourceFile} {s : Stage}

/-- A turn brings its worker nearer to its end and moves no other one. -/
theorem Turn.stages (h : Turn hash build p i f s q) :
    ∃ next : Stage, q.stages = p.stages.set i next ∧ next.rank < s.rank := by
  cases h <;> exact ⟨_, rfl, by simp [Stage.rank]⟩

theorem Turn.sources_eq (h : Turn hash build p i f s q) : q.sources = p.sources := by
  cases h <;> rfl

theorem Turn.jobs_eq (h : Turn hash build p i f s q) : q.jobs = p.jobs := by
  cases h <;> rfl

theorem Turn.cancelled_eq (h : Turn hash build p i f s q) : q.cancelled = p.cancelled := by
  cases h <;> rfl

end Turn

/-! ### What all moves keep -/

/-- Whether a failure has a cause: the build was called off, or a source does not compile. -/
def IsCause (build : Text → Except CompileError Compiled) (p : Pool) : PoolError → Prop
  | .cancelled => p.cancelled = true
  | .source path e => ∃ f ∈ p.sources, f.path = path ∧ build f.text = .error e

/-- Whether a worker can be at a stage: it holds what its source compiles to, has a cause to fail or
comes after another failure, and does not end without having written its output unless there is a
failure. -/
def Fits (build : Text → Except CompileError Compiled) (p : Pool) (i : Nat) (f : SourceFile) :
    Stage → Prop
  | .storing c | .writing c => build f.text = .ok c
  | .failing e => p.failures = [] → p.IsCause build e
  | .stopping => p.failures ≠ []
  | .finished => p.failures = [] → ∃ c, p.outputs[i]? = some (some c)
  | _ => True

/-- What holds whatever has happened so far. -/
structure Inv (hash : Text → UInt64) (build : Text → Except CompileError Compiled) (p : Pool) :
    Prop where
  length_stages : p.stages.length = p.sources.length
  length_outputs : p.outputs.length = p.sources.length
  sound : p.cache.IsSound hash build
  fits : ∀ i f s, p.sources[i]? = some f → p.stages[i]? = some s → p.Fits build i f s
  output : ∀ (i : Nat) (f : SourceFile) (c : Compiled), p.sources[i]? = some f →
    p.outputs[i]? = some (some c) → build f.text = .ok c
  first : ∀ e, p.failures.head? = some e → p.IsCause build e
  stopped : p.stopped = true → p.failures ≠ []

theorem IsCause.mono {e : PoolError} (h : p.IsCause build e) (hsources : q.sources = p.sources)
    (hcancelled : p.cancelled = true → q.cancelled = true) : q.IsCause build e := by
  cases e with
  | cancelled => exact hcancelled h
  | source path e =>
    obtain ⟨f, hf, h⟩ := h
    exact ⟨f, hsources ▸ hf, h⟩

/-- A worker that does not move stays where it may be. -/
theorem Fits.mono {i : Nat} {f : SourceFile} {s : Stage} (h : p.Fits build i f s)
    (hsources : q.sources = p.sources) (hcancelled : p.cancelled = true → q.cancelled = true)
    (hfailures : q.failures = [] → p.failures = []) (houtput : q.outputs[i]? = p.outputs[i]?) :
    q.Fits build i f s := by
  cases s with
  | failing e => exact fun hq => (h (hfailures hq)).mono hsources hcancelled
  | stopping => exact fun hq => h (hfailures hq)
  | finished => exact fun hq => houtput ▸ h (hfailures hq)
  | storing c => exact h
  | writing c => exact h
  | waiting => trivial
  | checking => trivial
  | looking => trivial
  | compiling => trivial

/-- All workers are where they may be if the one that has moved is. -/
theorem Inv.fits_set (hp : Inv hash build p) {i : Nat} {next : Stage}
    (hsources : q.sources = p.sources) (hstages : q.stages = p.stages.set i next)
    (hcancelled : p.cancelled = true → q.cancelled = true)
    (hfailures : q.failures = [] → p.failures = [])
    (houtputs : ∀ j, i ≠ j → q.outputs[j]? = p.outputs[j]?)
    (hnext : ∀ f, p.sources[i]? = some f → q.Fits build i f next) :
    ∀ j f s, q.sources[j]? = some f → q.stages[j]? = some s → q.Fits build j f s := by
  intro j f s hf hs
  rw [hsources] at hf
  rw [hstages, List.getElem?_set] at hs
  split at hs
  · rename_i hij
    split at hs
    · cases hs
      exact hij ▸ hnext f (hij ▸ hf)
    · cases hs
  · rename_i hij
    exact (hp.fits j f s hf hs).mono hsources hcancelled hfailures (houtputs j hij)

/-- A turn that changes nothing but the cache and the stage of its worker. -/
theorem Inv.setStage (hp : Inv hash build p) {cache : Cache Compiled}
    (hcache : cache.IsSound hash build) {i : Nat} {next : Stage}
    (hnext : ∀ f, p.sources[i]? = some f → p.Fits build i f next) :
    Inv hash build ({ p with cache }.setStage i next) where
  length_stages := (List.length_set ..).trans hp.length_stages
  length_outputs := hp.length_outputs
  sound := hcache
  fits := hp.fits_set rfl rfl id id (fun _ _ => rfl) hnext
  output := hp.output
  first := hp.first
  stopped := hp.stopped

theorem Inv.write (hp : Inv hash build p) {i : Nat} {f : SourceFile} {c : Compiled}
    (hf : p.sources[i]? = some f) (hc : build f.text = .ok c) :
    Inv hash build ({ p with outputs := p.outputs.set i (some c), written := p.written ++ [i]
      }.setStage i .finished) := by
  have hi : i < p.outputs.length := by
    rw [hp.length_outputs]
    exact (List.getElem?_eq_some_iff.mp hf).1
  refine ⟨(List.length_set ..).trans hp.length_stages, (List.length_set ..).trans hp.length_outputs,
    hp.sound, ?_, ?_, hp.first, hp.stopped⟩
  · refine hp.fits_set rfl rfl id id (fun j hij => List.getElem?_set_ne hij) fun g _ _ => ⟨c, ?_⟩
    exact List.getElem?_set_self hi
  · intro j g d hg hd
    replace hg : p.sources[j]? = some g := hg
    replace hd : (p.outputs.set i (some c))[j]? = some (some d) := hd
    by_cases hij : i = j
    · rw [← hij, List.getElem?_set_self hi] at hd
      rw [← hij, hf] at hg
      cases hg
      cases hd
      exact hc
    · rw [List.getElem?_set_ne hij] at hd
      exact hp.output j g d hg hd

/-- The first failure that is noted has a cause, since the others gave up after it. -/
theorem Inv.note (hp : Inv hash build p) {i : Nat} {e : PoolError}
    (he : p.failures = [] → p.IsCause build e) :
    Inv hash build ({ p with failures := p.failures ++ [e] }.setStage i .stopping) := by
  refine ⟨(List.length_set ..).trans hp.length_stages, hp.length_outputs, hp.sound, ?_, hp.output,
    fun d hd => ?_, fun _ => by simp [Pool.setStage]⟩
  · refine hp.fits_set rfl rfl id (fun h => ?_) (fun _ _ => rfl) fun _ _ => ?_
    · simp [Pool.setStage] at h
    · simp [Fits, Pool.setStage]
  · replace hd : (p.failures ++ [e]).head? = some d := hd
    cases hfailures : p.failures with
    | nil =>
      rw [hfailures] at hd
      cases hd
      exact he hfailures
    | cons a rest =>
      rw [hfailures] at hd
      cases hd
      exact hp.first _ (by rw [hfailures]; rfl)

theorem Inv.turn (hp : Inv hash build p) {i : Nat} {f : SourceFile} {s : Stage}
    (hf : p.sources[i]? = some f) (hs : p.stages[i]? = some s) (h : Turn hash build p i f s q) :
    Inv hash build q := by
  have hfits := hp.fits i f s hf hs
  have hsame : ∀ g, p.sources[i]? = some g → f = g := fun g hg => Option.some.inj (hf.symm.trans hg)
  cases h with
  | start | goOn => exact hp.setStage hp.sound fun _ _ => trivial
  | miss => exact hp.setStage (hp.sound.lookup _ _) fun _ _ => trivial
  | giveUp h =>
    refine hp.setStage hp.sound fun _ _ hnone => h.resolve_right fun hstopped => ?_
    exact hp.stopped hstopped hnone
  | hit h =>
    refine hp.setStage (hp.sound.lookup _ _) fun g hg => ?_
    exact hsame g hg ▸ hp.sound.build_of_find? h
  | compile h => exact hp.setStage hp.sound fun g hg => hsame g hg ▸ h
  | refuse h => exact hp.setStage hp.sound fun _ _ _ => ⟨f, List.mem_of_getElem? hf, rfl, h⟩
  | store c => exact hp.setStage (hp.sound.store hfits) fun g hg => hsame g hg ▸ hfits
  | write c => exact hp.write hf hfits
  | note e => exact hp.note hfits
  | stop =>
    refine ⟨(List.length_set ..).trans hp.length_stages, hp.length_outputs, hp.sound, ?_,
      hp.output, hp.first, fun _ => hfits⟩
    exact hp.fits_set rfl rfl id id (fun _ _ => rfl) fun _ _ hnone => absurd hnone hfits

theorem inv_start (jobs : Nat) (sources : List SourceFile) {cache : Cache Compiled}
    (hcache : cache.IsSound hash build) (cancelled : Bool) :
    Inv hash build (start jobs sources cache cancelled) where
  length_stages := by simp [start]
  length_outputs := by simp [start]
  sound := hcache
  fits i f s _ hs := by
    obtain ⟨_, _, rfl⟩ := List.mem_map.mp (List.mem_of_getElem? hs)
    trivial
  output i f c _ hc := by
    obtain ⟨_, _, h⟩ := List.mem_map.mp (List.mem_of_getElem? hc)
    cases h
  first e he := by cases he
  stopped h := by cases h

/-! ### Runs -/

/-- One thing that happens to a pool. -/
inductive Move where
  /-- A worker moves. -/
  | worker (i : Nat)
  /-- The build is called off. -/
  | callOff

/-- The pool after a move. -/
def move (hash : Text → UInt64) (build : Text → Except CompileError Compiled) (p : Pool) :
    Move → Pool
  | .worker i => p.step hash build i
  | .callOff => { p with cancelled := true }

/-- The pool after the first moves of an endless run. -/
def after (hash : Text → UInt64) (build : Text → Except CompileError Compiled) (p : Pool)
    (moves : Nat → Move) : Nat → Pool
  | 0 => p
  | k + 1 => (p.after hash build moves k).move hash build (moves k)

theorem Inv.move (hp : Inv hash build p) (m : Move) : Inv hash build (p.move hash build m) := by
  cases m with
  | worker i =>
    rcases step_cases hash build p i with h | ⟨f, s, hf, hs, h⟩
    · rw [Pool.move, h]
      exact hp
    · exact hp.turn hf hs h
  | callOff =>
    refine ⟨hp.length_stages, hp.length_outputs, hp.sound, fun i f s hf hs => ?_, hp.output,
      fun e he => ?_, hp.stopped⟩
    · exact (hp.fits i f s hf hs).mono rfl (fun _ => rfl) id rfl
    · exact (hp.first e he).mono rfl fun _ => rfl

theorem Inv.after (hp : Inv hash build p) (moves : Nat → Move) (k : Nat) :
    Inv hash build (p.after hash build moves k) := by
  induction k with
  | zero => exact hp
  | succ k ih => exact ih.move (moves k)

theorem sources_move (m : Move) : (p.move hash build m).sources = p.sources := by
  cases m with
  | worker i =>
    rcases step_cases hash build p i with h | ⟨f, s, -, -, h⟩
    · rw [move, h]
    · exact h.sources_eq
  | callOff => rfl

theorem jobs_move (m : Move) : (p.move hash build m).jobs = p.jobs := by
  cases m with
  | worker i =>
    rcases step_cases hash build p i with h | ⟨f, s, -, -, h⟩
    · rw [move, h]
    · exact h.jobs_eq
  | callOff => rfl

/-- A build stays called off. -/
theorem cancelled_after_iff (moves : Nat → Move) (k : Nat) :
    (p.after hash build moves k).cancelled = true ↔
      p.cancelled = true ∨ ∃ j < k, moves j = .callOff := by
  induction k with
  | zero => simp [after]
  | succ k ih =>
    rw [after, Nat.exists_lt_succ_right, ← or_assoc, ← ih]
    cases moves k with
    | worker i =>
      rcases step_cases hash build (p.after hash build moves k) i with h | ⟨f, s, -, -, h⟩
      · simp [move, h]
      · simp [move, h.cancelled_eq]
    | callOff => simp [move]

theorem sources_after (moves : Nat → Move) (k : Nat) :
    (p.after hash build moves k).sources = p.sources := by
  induction k with
  | zero => rfl
  | succ k ih => exact (sources_move (moves k)).trans ih

theorem jobs_after (moves : Nat → Move) (k : Nat) :
    (p.after hash build moves k).jobs = p.jobs := by
  induction k with
  | zero => rfl
  | succ k ih => exact (jobs_move (moves k)).trans ih

/-! ### The result -/

/-- Whether all workers are at their ends. -/
def IsDone (p : Pool) : Prop := ∀ s ∈ p.stages, s = .finished

theorem exists_outputs : ∀ {sources : List SourceFile} {outputs : List (Option Compiled)},
    outputs.length = sources.length →
    (∀ (i : Nat) (f : SourceFile), sources[i]? = some f →
      ∃ c, outputs[i]? = some (some c) ∧ build f.text = .ok c) →
      sources.map (fun f => build f.text) = (outputs.filterMap id).map .ok
  | [], [], _, _ => rfl
  | f :: sources, o :: outputs, hlength, h => by
    obtain ⟨c, hc, hb⟩ := h 0 f rfl
    cases hc
    have hrest : sources.map (fun f => build f.text) = (outputs.filterMap id).map .ok :=
      exists_outputs (Nat.succ.inj hlength) fun i f hf => h (i + 1) f hf
    simp [hb, hrest]

/-- What the pool gives once all workers are at their ends: what every source compiles to, or a
failure with its cause. -/
theorem Inv.result_cases (hp : Inv hash build p) (hdone : p.IsDone) :
    (∃ outs, p.result = .ok outs ∧ p.sources.map (fun f => build f.text) = outs.map .ok) ∨
      ∃ e, p.result = .error e ∧ p.IsCause build e := by
  cases hfailures : p.failures with
  | nil =>
    refine .inl ⟨_, by rw [result, hfailures], exists_outputs hp.length_outputs fun i f hf => ?_⟩
    have hi : i < p.stages.length := by
      rw [hp.length_stages]
      exact (List.getElem?_eq_some_iff.mp hf).1
    have hs : p.stages[i]? = some .finished := by
      rw [List.getElem?_eq_getElem hi, hdone _ (List.getElem_mem hi)]
    obtain ⟨c, hc⟩ := hp.fits i f _ hf hs hfailures
    exact ⟨c, hc, hp.output i f c hf hc⟩
  | cons e rest =>
    refine .inr ⟨e, by rw [result, hfailures], hp.first e ?_⟩
    rw [hfailures]
    rfl

/-! ### Coming to the end -/

/-- How many moves workers at these stages still make at most. -/
def movesLeft : List Stage → Nat
  | [] => 0
  | s :: more => s.rank + movesLeft more

theorem movesLeft_eq_zero_iff {stages : List Stage} :
    movesLeft stages = 0 ↔ ∀ s ∈ stages, s = .finished := by
  induction stages with
  | nil => simp [movesLeft]
  | cons s more ih =>
    rw [movesLeft, Nat.add_eq_zero_iff, ih, Stage.rank_eq_zero_iff, List.forall_mem_cons]

theorem movesLeft_set_lt {stages : List Stage} {i : Nat} {s next : Stage}
    (hs : stages[i]? = some s) (h : next.rank < s.rank) :
    movesLeft (stages.set i next) < movesLeft stages := by
  induction stages generalizing i with
  | nil => cases hs
  | cons d more ih =>
    cases i with
    | zero =>
      cases hs
      simp only [List.set_cons_zero, movesLeft]
      omega
    | succ i =>
      have hrest := ih (i := i) hs
      simp only [List.set_cons_succ, movesLeft]
      omega

/-- A move leaves all workers where they are or brings one nearer to its end. -/
theorem stages_move (m : Move) : (p.move hash build m).stages = p.stages ∨
    movesLeft (p.move hash build m).stages < movesLeft p.stages := by
  cases m with
  | worker i =>
    rcases step_cases hash build p i with h | ⟨f, s, -, hs, h⟩
    · exact .inl (by rw [move, h])
    · obtain ⟨next, hstages, hrank⟩ := h.stages
      right
      rw [move, hstages]
      exact movesLeft_set_lt hs hrank
  | callOff => exact .inl rfl

/-- As long as not all workers are at their ends, one of them can move: one that is under way, or
else the first that waits. -/
theorem exists_turn (hjobs : 0 < p.jobs) (hdone : ¬ p.IsDone) :
    ∃ i s, p.stages[i]? = some s ∧ (s.isActive = true ∨ s = .waiting ∧ p.mayStart i = true) := by
  by_cases hactive : ∃ s ∈ p.stages, s.isActive = true
  · obtain ⟨s, hs, h⟩ := hactive
    obtain ⟨i, hi⟩ := List.getElem?_of_mem hs
    exact ⟨i, s, hi, .inl h⟩
  · have hnone : ∀ s ∈ p.stages, s.isActive = false := fun s hs =>
      Bool.eq_false_iff.mpr fun h => hactive ⟨s, hs, h⟩
    cases hfind : p.stages.find? Stage.isWaiting with
    | none =>
      refine absurd (fun s hs => ?_) hdone
      have hwaiting := List.find?_eq_none.mp hfind s hs
      have hidle := hnone s hs
      cases s <;> simp_all [Stage.isActive, Stage.isWaiting]
    | some s =>
      obtain ⟨hs, l, r, hsplit, hl⟩ := List.find?_eq_some_iff_append.mp hfind
      have hstage : s = .waiting := by cases s <;> simp_all [Stage.isWaiting]
      refine ⟨l.length, s, by simp [hsplit], .inr ⟨hstage, ?_⟩⟩
      have hcount : p.stages.countP Stage.isActive = 0 :=
        List.countP_eq_zero.mpr fun s hs => by simp [hnone s hs]
      rw [mayStart, hcount, hsplit, List.take_left, Bool.and_eq_true, decide_eq_true_eq]
      exact ⟨List.all_eq_true.mpr hl, hjobs⟩

/-- Whether every worker moves again and again. -/
def IsFair (workers : Nat) (moves : Nat → Move) : Prop :=
  ∀ i < workers, ∀ m, ∃ k ≥ m, moves k = .worker i

/-- As time goes on, all workers stay where they are or some of them come nearer to their ends. -/
theorem stages_after_eq (hash : Text → UInt64) (build : Text → Except CompileError Compiled)
    (p : Pool) (moves : Nat → Move) (m : Nat) :
    ∀ k ≥ m, (p.after hash build moves k).stages = (p.after hash build moves m).stages ∨
      movesLeft (p.after hash build moves k).stages <
        movesLeft (p.after hash build moves m).stages := by
  intro k hk
  induction hk with
  | refl => exact .inl rfl
  | @step k hk ih =>
    rcases stages_move (p := p.after hash build moves k) (moves k) with h | h
    · rw [after, h]
      exact ih
    · right
      rcases ih with ih | ih
      · exact ih ▸ h
      · exact Nat.lt_trans h ih

/-- If every worker moves again and again, all of them come to their ends. -/
theorem Inv.eventually_isDone (hp : Inv hash build p) (hjobs : 0 < p.jobs) {moves : Nat → Move}
    (hfair : IsFair p.sources.length moves) :
    ∃ m, ∀ k ≥ m, (p.after hash build moves k).IsDone := by
  -- by the moves that are left at some time `m`
  suffices h : ∀ n m, movesLeft (p.after hash build moves m).stages ≤ n →
      ∃ k ≥ m, (p.after hash build moves k).IsDone by
    obtain ⟨m, -, hm⟩ := h _ 0 (Nat.le_refl _)
    refine ⟨m, fun k hk => ?_⟩
    have hzero : movesLeft (p.after hash build moves m).stages = 0 := movesLeft_eq_zero_iff.mpr hm
    rcases stages_after_eq hash build p moves m k hk with heq | hlt
    · rw [IsDone, heq]
      exact hm
    · omega
  intro n
  induction n with
  | zero => exact fun m hm => ⟨m, Nat.le_refl m, movesLeft_eq_zero_iff.mp (Nat.le_zero.mp hm)⟩
  | succ n ih =>
    intro m hm
    by_cases hdone : (p.after hash build moves m).IsDone
    · exact ⟨m, Nat.le_refl m, hdone⟩
    · -- some worker can move, and it can still do so when its turn comes
      obtain ⟨i, s, hs, hcan⟩ := exists_turn ((jobs_after moves m).symm ▸ hjobs) hdone
      have hi : i < p.sources.length := by
        rw [← sources_after moves m, ← (hp.after moves m).length_stages]
        exact (List.getElem?_eq_some_iff.mp hs).1
      obtain ⟨k, hk, hmove⟩ := hfair i hi m
      rcases stages_after_eq hash build p moves m k hk with heq | hlt
      · have hf : (p.after hash build moves k).sources[i]? = some p.sources[i] := by
          rw [sources_after, List.getElem?_eq_getElem hi]
        have hmay : (p.after hash build moves k).mayStart i =
            (p.after hash build moves m).mayStart i := by
          rw [mayStart, mayStart, heq, jobs_after, jobs_after]
        have hturn : Turn hash build (p.after hash build moves k) i p.sources[i] s _ :=
          turn_step (heq ▸ hs) hf (hmay ▸ hcan)
        obtain ⟨next, hstages, hrank⟩ := hturn.stages
        have hless : movesLeft (p.after hash build moves (k + 1)).stages <
            movesLeft (p.after hash build moves m).stages := by
          rw [Pool.after, hmove, Pool.move, hstages, ← heq]
          exact movesLeft_set_lt (heq ▸ hs) hrank
        obtain ⟨l, hl, hend⟩ := ih (k + 1) (by omega)
        exact ⟨l, by omega, hend⟩
      · obtain ⟨l, hl, hend⟩ := ih k (by omega)
        exact ⟨l, by omega, hend⟩

/-! ### One worker after the other -/

/-- The moves of one worker alone bring it to its end. -/
theorem run_replicate (hash : Text → UInt64) (build : Text → Except CompileError Compiled) {i : Nat}
    {f : SourceFile} :
    ∀ {m : Nat} {p : Pool} {s : Stage}, p.stages[i]? = some s → p.sources[i]? = some f →
      (s = .waiting → p.mayStart i = true) → s.rank ≤ m →
      (p.run hash build (List.replicate m i)).stages = p.stages.set i .finished ∧
        (p.run hash build (List.replicate m i)).sources = p.sources ∧
        (p.run hash build (List.replicate m i)).jobs = p.jobs := by
  intro m
  induction m with
  | zero =>
    intro p s hs _ _ hm
    obtain rfl := Stage.rank_eq_zero_iff.mp (Nat.le_zero.mp hm)
    obtain ⟨hi, hs⟩ := List.getElem?_eq_some_iff.mp hs
    exact ⟨by rw [← hs, List.set_getElem_self]; rfl, rfl, rfl⟩
  | succ m ih =>
    intro p s hs hf hmay hm
    have hrun : p.run hash build (List.replicate (m + 1) i) =
        (p.step hash build i).run hash build (List.replicate m i) := rfl
    by_cases hend : s = .finished
    · have hstep : p.step hash build i = p := by simp only [step, hs, hf, hend]
      rw [hrun, hstep]
      exact ih hs hf hmay (by rw [hend, Stage.rank]; omega)
    · have hturn : Turn hash build p i f s (p.step hash build i) := by
        refine turn_step hs hf ?_
        by_cases hwaiting : s = .waiting
        · exact .inr ⟨hwaiting, hmay hwaiting⟩
        · exact .inl (Stage.isActive_iff.mpr ⟨hwaiting, hend⟩)
      obtain ⟨next, hstages, hrank⟩ := hturn.stages
      -- a worker that has moved does not wait any more
      have hnext : next ≠ .waiting := by
        rintro rfl
        cases s <;> simp [Stage.rank] at hrank
      have hi : i < p.stages.length := (List.getElem?_eq_some_iff.mp hs).1
      have hrest := ih (p := p.step hash build i) (s := next)
        (by rw [hstages, List.getElem?_set_self hi]) (by rw [hturn.sources_eq, hf])
        (fun h => absurd h hnext) (by omega)
      rw [hstages, List.set_set, hturn.sources_eq, hturn.jobs_eq] at hrest
      rw [hrun]
      exact hrest

theorem inOrder_succ (k : Nat) : inOrder (k + 1) = inOrder k ++ List.replicate 6 k := by
  rw [inOrder, List.range_succ, List.flatMap_append, inOrder]
  simp

/-- The schedule in order brings the first workers to their ends and leaves the others waiting. -/
theorem stages_run_inOrder (hash : Text → UInt64) (build : Text → Except CompileError Compiled)
    {jobs : Nat} (hjobs : 0 < jobs) (sources : List SourceFile) (cache : Cache Compiled)
    (cancelled : Bool) : ∀ k ≤ sources.length,
    ((start jobs sources cache cancelled).run hash build (inOrder k)).stages =
        List.replicate k .finished ++ List.replicate (sources.length - k) .waiting ∧
      ((start jobs sources cache cancelled).run hash build (inOrder k)).sources = sources ∧
      ((start jobs sources cache cancelled).run hash build (inOrder k)).jobs = jobs := by
  intro k
  induction k with
  | zero =>
    intro _
    exact ⟨by simp [run, inOrder, start, List.map_const'], rfl, rfl⟩
  | succ k ih =>
    intro hk
    obtain ⟨hstages, hsources, hjobs'⟩ := ih (by omega)
    rw [inOrder_succ, run, List.foldl_append, ← run, ← run]
    generalize (start jobs sources cache cancelled).run hash build (inOrder k) = p at *
    have hsplit : p.stages = List.replicate k .finished ++
        .waiting :: List.replicate (sources.length - (k + 1)) .waiting := by
      rw [hstages, ← List.replicate_succ]
      congr 2
      omega
    have hmay : p.mayStart k = true := by
      rw [mayStart, hstages, List.take_left' List.length_replicate, List.countP_append,
        List.countP_replicate, List.countP_replicate, hjobs']
      simpa [Stage.isWaiting, Stage.isActive] using hjobs
    have hset : p.stages.set k .finished = List.replicate (k + 1) .finished ++
        List.replicate (sources.length - (k + 1)) .waiting := by
      rw [hsplit, List.set_append_right _ _ (by simp), List.length_replicate, Nat.sub_self,
        List.set_cons_zero, List.replicate_succ', List.append_assoc]
      rfl
    have hrest := run_replicate hash build (m := 6) (p := p) (i := k) (s := .waiting)
      (f := sources[k]) (by rw [hsplit]; simp) (by rw [hsources, List.getElem?_eq_getElem])
      (fun _ => hmay) (by simp [Stage.rank])
    rw [hset, hsources, hjobs'] at hrest
    exact hrest

/-- The moves of a schedule, and after them all workers in turn. -/
def endless (workers : Nat) (schedule : List Nat) (k : Nat) : Move :=
  .worker (schedule[k]?.getD (k % workers))

theorem isFair_endless (workers : Nat) (schedule : List Nat) :
    IsFair workers (endless workers schedule) := by
  intro i hi m
  have hlate : m + schedule.length ≤ workers * (m + schedule.length) :=
    Nat.le_mul_of_pos_left _ (by omega)
  refine ⟨workers * (m + schedule.length) + i, by omega, ?_⟩
  rw [endless, List.getElem?_eq_none (by omega), Option.getD_none, Nat.mul_add_mod,
    Nat.mod_eq_of_lt hi]

theorem after_endless (workers : Nat) (schedule : List Nat) : ∀ k ≤ schedule.length,
    p.after hash build (endless workers schedule) k = p.run hash build (schedule.take k) := by
  intro k
  induction k with
  | zero => exact fun _ => rfl
  | succ k ih =>
    intro hk
    rw [after, ih (by omega), endless, List.getElem?_eq_getElem hk, Option.getD_some,
      List.take_succ_eq_append_getElem hk, run, run, List.foldl_append]
    rfl

end Pool

/-! ### Builders -/

/-- The caches that a builder can have after builds with any schedules. -/
inductive Cache.IsKept (hash : Text → UInt64) (build : Text → Except CompileError Compiled) :
    Cache Compiled → Prop where
  | fresh : IsKept hash build {}
  | run {cache : Cache Compiled} (h : IsKept hash build cache) (jobs : Nat)
    (sources : List SourceFile) (cancelled : Bool) (moves : Nat → Pool.Move) (k : Nat) :
    IsKept hash build ((Pool.start jobs sources cache cancelled).after hash build moves k).cache
  | sweep {cache : Cache Compiled} (h : IsKept hash build cache) : IsKept hash build cache.sweep.2

theorem Cache.IsKept.isSound {hash : Text → UInt64} {build : Text → Except CompileError Compiled}
    {cache : Cache Compiled} (h : IsKept hash build cache) : cache.IsSound hash build := by
  induction h with
  | fresh => exact Cache.isSound_empty
  | run h jobs sources cancelled moves k ih =>
    exact ((Pool.inv_start jobs sources ih cancelled).after moves k).sound
  | sweep h ih => exact ih.sweep

/-- What a text compiles to is the printed tree. -/
theorem Compiled.map_css_ofText (opts : Options) (t : Text) :
    (Compiled.ofText opts t).map Compiled.css = Compiler.compile t opts := by
  rw [Compiled.ofText, Compiler.compile]
  cases Compiler.build t opts <;> rfl

namespace Builder

/-- The workers of a builder after the first moves of an endless run. -/
def poolAfter (b : Builder) (cancelled : Bool) (sources : List SourceFile) (moves : Nat → Pool.Move)
    (k : Nat) : Pool :=
  (Pool.start b.settings.jobs sources b.cache cancelled).after Digest.xxh64
    (Compiled.ofText b.settings.options) moves k

/-- Whether a build is called off before some move. -/
def IsCalledOff (cancelled : Bool) (moves : Nat → Pool.Move) (k : Nat) : Prop :=
  cancelled = true ∨ ∃ j < k, moves j = .callOff

/-- A builder that takes one worker after the other goes one of the ways that its workers can go,
and goes it to the end. -/
theorem compileAll_eq_poolAfter (b : Builder) (hjobs : 0 < b.settings.jobs) (cancelled : Bool)
    (sources : List SourceFile) : ∃ moves k, Pool.IsFair sources.length moves ∧
      (IsCalledOff cancelled moves k → cancelled = true) ∧
      b.compileAll cancelled sources = b.poolAfter cancelled sources moves k ∧
      (b.compileAll cancelled sources).IsDone := by
  have hend := (Pool.stages_run_inOrder Digest.xxh64 (Compiled.ofText b.settings.options) hjobs
    sources b.cache cancelled sources.length (Nat.le_refl _)).1
  refine ⟨Pool.endless sources.length (Pool.inOrder sources.length),
    (Pool.inOrder sources.length).length, Pool.isFair_endless _ _, ?_, ?_, fun s hs => ?_⟩
  · rintro (h | ⟨j, -, h⟩)
    · exact h
    · cases h
  · rw [poolAfter, Pool.after_endless _ _ _ (Nat.le_refl _), List.take_length, compileAll]
  · rw [compileAll, hend, Nat.sub_self, List.replicate_zero, List.append_nil] at hs
    exact List.eq_of_mem_replicate hs

/-- What a builder's workers give once all of them are at their ends. -/
theorem result_poolAfter_cases {b : Builder} {cancelled : Bool} {sources : List SourceFile}
    {moves : Nat → Pool.Move} {k : Nat}
    (hcache : b.cache.IsKept Digest.xxh64 (Compiled.ofText b.settings.options))
    (hdone : (b.poolAfter cancelled sources moves k).IsDone) :
    (∃ outs, (b.poolAfter cancelled sources moves k).result = .ok outs ∧
      sources.map (fun f => Compiler.compile f.text b.settings.options) =
        (outs.map Compiled.css).map .ok) ∨
      (∃ f ∈ sources, ∃ e, (b.poolAfter cancelled sources moves k).result =
        .error (.source f.path e) ∧ Compiler.compile f.text b.settings.options = .error e) ∨
      IsCalledOff cancelled moves k ∧
        (b.poolAfter cancelled sources moves k).result = .error .cancelled := by
  have hsources : (b.poolAfter cancelled sources moves k).sources = sources :=
    Pool.sources_after moves k
  rcases ((Pool.inv_start b.settings.jobs sources hcache.isSound cancelled).after
    moves k).result_cases hdone with ⟨outs, hresult, houts⟩ | ⟨e, hresult, hcause⟩
  · refine .inl ⟨outs, hresult, ?_⟩
    replace houts : (b.poolAfter cancelled sources moves k).sources.map _ = _ := houts
    rw [hsources] at houts
    calc sources.map (fun f => Compiler.compile f.text b.settings.options)
        = (sources.map fun f => Compiled.ofText b.settings.options f.text).map
            (Except.map Compiled.css) := by
          simp only [List.map_map, Function.comp_def, Compiled.map_css_ofText]
      _ = (outs.map .ok).map (Except.map Compiled.css) := by rw [houts]
      _ = (outs.map Compiled.css).map .ok := by
          rw [List.map_map, List.map_map]
          rfl
  · cases e with
    | cancelled => exact .inr (.inr ⟨(Pool.cancelled_after_iff moves k).mp hcause, hresult⟩)
    | source path e =>
      obtain ⟨f, hf, rfl, he⟩ := hcause
      refine .inr (.inl ⟨f, hsources ▸ hf, e, hresult, ?_⟩)
      rw [← Compiled.map_css_ofText, he]
      rfl

/-- A source that fails is not among sources that all compile. -/
theorem compile_ne_error {opts : Options} {sources : List SourceFile} {texts : List Text}
    (h : sources.map (fun f => Compiler.compile f.text opts) = texts.map .ok) {f : SourceFile}
    (hf : f ∈ sources) (e : CompileError) : Compiler.compile f.text opts ≠ .error e := by
  intro he
  have hmem := List.mem_map_of_mem (f := fun f => Compiler.compile f.text opts) hf
  rw [h, he] at hmem
  obtain ⟨_, -, heq⟩ := List.mem_map.mp hmem
  cases heq

/-- Whatever order the workers of a builder move in, they come to their ends if none is left waiting
for ever. Unless the build is called off, the result is what each source compiles to, in their
order, if all of them compile, and else the failure of one of those that do not, as it is when this
one is compiled alone. Outputs and failures of sources are right in a build that is called off
too. -/
theorem result_of_fair (b : Builder) (hjobs : 0 < b.settings.jobs)
    (hcache : b.cache.IsKept Digest.xxh64 (Compiled.ofText b.settings.options)) (cancelled : Bool)
    (sources : List SourceFile) :
    (∃ moves k, Pool.IsFair sources.length moves ∧
      (IsCalledOff cancelled moves k → cancelled = true) ∧
      b.compileAll cancelled sources = b.poolAfter cancelled sources moves k ∧
      (b.compileAll cancelled sources).IsDone) ∧
    ∀ moves, Pool.IsFair sources.length moves →
      (∃ m, ∀ k ≥ m, (b.poolAfter cancelled sources moves k).IsDone) ∧
      ∀ k, (b.poolAfter cancelled sources moves k).IsDone →
        (¬ IsCalledOff cancelled moves k →
          (∀ texts : List Text,
            sources.map (fun f => Compiler.compile f.text b.settings.options) = texts.map .ok →
              ∃ outs, (b.poolAfter cancelled sources moves k).result = .ok outs ∧
                outs.map Compiled.css = texts) ∧
          ((∃ f ∈ sources, ∃ e, Compiler.compile f.text b.settings.options = .error e) →
            ∃ f ∈ sources, ∃ e, (b.poolAfter cancelled sources moves k).result =
              .error (.source f.path e) ∧
                Compiler.compile f.text b.settings.options = .error e)) ∧
        (∀ outs, (b.poolAfter cancelled sources moves k).result = .ok outs →
          sources.map (fun f => Compiler.compile f.text b.settings.options) =
            (outs.map Compiled.css).map .ok) ∧
        ∀ path e, (b.poolAfter cancelled sources moves k).result = .error (.source path e) →
          ∃ f ∈ sources, f.path = path ∧
            Compiler.compile f.text b.settings.options = .error e := by
  refine ⟨b.compileAll_eq_poolAfter hjobs cancelled sources, fun moves hfair => ⟨?_, ?_⟩⟩
  · exact (Pool.inv_start b.settings.jobs sources hcache.isSound cancelled).eventually_isDone hjobs
      hfair
  intro k hdone
  rcases result_poolAfter_cases hcache hdone with ⟨outs, hresult, houts⟩ |
    ⟨f, hf, e, hresult, he⟩ | ⟨hoff, hresult⟩
  · rw [hresult]
    refine ⟨fun _ => ⟨fun texts htexts => ⟨outs, rfl, ?_⟩, fun ⟨f, hf, e, he⟩ => ?_⟩, ?_, ?_⟩
    · exact List.map_injective_iff.mpr (fun _ _ h => Except.ok.inj h) (houts.symm.trans htexts)
    · exact absurd he (compile_ne_error houts hf e)
    · rintro _ ⟨⟩
      exact houts
    · rintro _ _ ⟨⟩
  · rw [hresult]
    refine ⟨fun _ => ⟨fun texts htexts => ?_, fun _ => ⟨f, hf, e, rfl, he⟩⟩, ?_, ?_⟩
    · exact absurd he (compile_ne_error htexts hf e)
    · rintro _ ⟨⟩
    · rintro _ _ ⟨⟩
      exact ⟨f, hf, rfl, he⟩
  · -- the only way to tell nothing of the sources
    rw [hresult]
    refine ⟨fun hnot => absurd hoff hnot, ?_, ?_⟩
    · rintro _ ⟨⟩
    · rintro _ _ ⟨⟩

/-- Two workers that move in turn, one of which has a broken source. -/
theorem result_of_fair_broken : ∃ m, ∀ k ≥ m, ∃ e,
    (poolAfter { settings := { jobs := 2, options := {} } } false
      [⟨.file, Text.ofString "a", Text.ofString "a\x7bb:c\x7d"⟩,
        ⟨.file, Text.ofString "b", Text.ofString "a\x7b"⟩]
      (Pool.endless 2 []) k).result = .error (.source (Text.ofString "b") e) := by
  obtain ⟨css, hgood⟩ : ∃ css, Compiler.compile (Text.ofString "a\x7bb:c\x7d") {} = .ok css :=
    ⟨_, by rfl⟩
  obtain ⟨e, hbad⟩ : ∃ e, Compiler.compile (Text.ofString "a\x7b") {} = .error e := ⟨_, by rfl⟩
  obtain ⟨-, h⟩ := result_of_fair { settings := { jobs := 2, options := {} } } (by decide)
    Cache.IsKept.fresh false [⟨.file, Text.ofString "a", Text.ofString "a\x7bb:c\x7d"⟩,
      ⟨.file, Text.ofString "b", Text.ofString "a\x7b"⟩]
  obtain ⟨⟨m, hm⟩, hresult⟩ := h _ (Pool.isFair_endless 2 [])
  refine ⟨m, fun k hk => ?_⟩
  have hnot : ¬ IsCalledOff false (Pool.endless 2 []) k := by
    rintro (h | ⟨j, -, h⟩) <;> cases h
  obtain ⟨f, hf, e, herror, hcause⟩ := ((hresult k (hm k hk)).1 hnot).2
    ⟨_, List.mem_cons_of_mem _ (List.mem_cons_self ..), e, hbad⟩
  simp only [List.mem_cons, List.not_mem_nil, or_false] at hf
  rcases hf with rfl | rfl
  · rw [hgood] at hcause
    cases hcause
  · exact ⟨e, herror⟩

/-- A build that is called off before it starts fails although its source compiles. -/
theorem not_compileAll_of_compiles : ¬ ∀ (b : Builder) (cancelled : Bool)
    (sources : List SourceFile) (texts : List Text), 0 < b.settings.jobs →
      b.cache.IsKept Digest.xxh64 (Compiled.ofText b.settings.options) →
      sources.map (fun f => Compiler.compile f.text b.settings.options) = texts.map .ok →
        ∃ outs, (b.compileAll cancelled sources).result = .ok outs ∧
          outs.map Compiled.css = texts := by
  intro hall
  obtain ⟨css, hcss⟩ : ∃ css, Compiler.compile (Text.ofString "a\x7bb:c\x7d") {} = .ok css :=
    ⟨_, by rfl⟩
  obtain ⟨outs, hok, -⟩ := hall { settings := { jobs := 1, options := {} } } true
    [⟨.file, Text.ofString "a", Text.ofString "a\x7bb:c\x7d"⟩] [css] (by decide)
    Cache.IsKept.fresh (by rw [List.map_singleton, List.map_singleton, hcss])
  have hcancelled : (compileAll { settings := { jobs := 1, options := {} } } true
      [⟨.file, Text.ofString "a", Text.ofString "a\x7bb:c\x7d"⟩]).result = .error .cancelled := by
    rfl
  rw [hcancelled] at hok
  cases hok

end Builder

end NestedCss
