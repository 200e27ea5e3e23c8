import Mathlib.Data.List.Nodup
import NestedCss.Proofs.Fold
import NestedCss.Watch
/-!
# Changes are not lost

A watcher notes the path of a change and then triggers its debouncer; when a period ends, a call is
made on its own, which first sees whether the debouncer has been stopped and then takes the noted
paths. All of this may happen in any order: a period may end just before a trigger, its call may run
before or after the next period has ended, and the debouncer may be stopped at any time.
`WatchLoop` has the state of this, and a list of moves is one order in which things happen.

What a move can do is `WatchLoop.Turn`, and what holds after all moves is `WatchLoop.Inv`: as long
as nothing has been stopped and no trigger is due, noted paths have a running period or a call that
will take them. Every path that was noted is still there or in a batch that was taken since
(`WatchLoop.kept_run`), and a call that looks at a stopped debouncer never takes anything
(`WatchLoop.not_mem_foldl_of_stopped`).
-/
namespace NestedCss

/-! ### Sorted texts -/

namespace Text

theorem compareBytes_ne_gt_cons {a b : UInt8} {r s : Text} :
    compareBytes (a :: r) (b :: s) ≠ .gt ↔ a < b ∨ a = b ∧ compareBytes r s ≠ .gt := by
  rw [compareBytes]
  by_cases hab : a = b
  · simp [hab]
  rcases UInt8.lt_or_lt_of_ne hab with h | h
  · simp [h]
  · simp [h, UInt8.lt_asymm h, hab]

theorem le_trans {a b c : Text} (hab : le a b = true) (hbc : le b c = true) : le a c = true := by
  simp only [le, bne_iff_ne] at hab hbc ⊢
  induction a generalizing b c with
  | nil => cases c <;> simp [compareBytes]
  | cons x a ih =>
    cases b with
    | nil => exact absurd rfl hab
    | cons y b =>
      cases c with
      | nil => exact absurd rfl hbc
      | cons z c =>
        rw [compareBytes_ne_gt_cons] at hab hbc ⊢
        rcases hab with hxy | ⟨rfl, hab⟩
        · rcases hbc with hyz | ⟨rfl, -⟩
          · exact .inl (UInt8.lt_trans hxy hyz)
          · exact .inl hxy
        · exact hbc.imp_right fun h => ⟨h.1, ih hab h.2⟩

theorem le_total (a b : Text) : (le a b || le b a) = true := by
  rw [Bool.or_eq_true]
  simp only [le, bne_iff_ne]
  induction a generalizing b with
  | nil => cases b <;> simp [compareBytes]
  | cons x a ih =>
    cases b with
    | nil => simp [compareBytes]
    | cons y b =>
      rw [compareBytes_ne_gt_cons, compareBytes_ne_gt_cons]
      by_cases hxy : x = y
      · exact (ih b).imp (fun h => .inr ⟨hxy, h⟩) fun h => .inr ⟨hxy.symm, h⟩
      · exact (UInt8.lt_or_lt_of_ne hxy).imp .inl .inl

theorem pairwise_sort (ts : List Text) : (sort ts).Pairwise fun a b => le a b = true := by
  apply List.pairwise_mergeSort
  · exact fun a b c => le_trans
  · exact le_total

theorem sort_perm (ts : List Text) : (sort ts).Perm ts := List.mergeSort_perm ts le

end Text

/-! ### Watchers -/

namespace Watcher

variable {w w' : Watcher} {t : FileTree}

/-- Following new directories changes nothing but where changes are noticed. -/
theorem follow_eq (w : Watcher) (t : FileTree) (e : FileEvent) :
    ∃ watched, w.follow t e = { w with watched } := by
  unfold follow addDirectory
  split
  · cases t.walk e.path with
    | error _ => exact ⟨w.watched, rfl⟩
    | ok found => exact ⟨_, rfl⟩
  · exact ⟨w.watched, rfl⟩

@[simp] theorem pending_follow (w : Watcher) (t : FileTree) (e : FileEvent) :
    (w.follow t e).pending = w.pending := by
  obtain ⟨watched, h⟩ := w.follow_eq t e
  rw [h]

@[simp] theorem accepts_follow (w : Watcher) (t : FileTree) (e : FileEvent) :
    (w.follow t e).accepts = w.accepts := by
  obtain ⟨watched, h⟩ := w.follow_eq t e
  rw [h]
  rfl

@[simp] theorem accepts_pend (w : Watcher) (path : Text) : (w.pend path).accepts = w.accepts := rfl

theorem mem_pend {path p : Text} : p ∈ (w.pend path).pending ↔ p ∈ w.pending ∨ p = path := by
  by_cases h : path ∈ w.pending
  · simp only [pend, List.contains_iff_mem, h, if_true]
    exact ⟨.inl, fun hp => hp.elim id fun heq => heq ▸ h⟩
  · simp [pend, h]

theorem nodup_pend (h : w.pending.Nodup) (path : Text) : (w.pend path).pending.Nodup := by
  by_cases hp : path ∈ w.pending
  · simpa [pend, hp] using h
  · simp only [pend, List.contains_iff_mem, hp, if_false]
    rw [List.nodup_append]
    refine ⟨h, List.nodup_singleton path, fun a ha b hb => ?_⟩
    rw [List.mem_singleton.mp hb]
    rintro rfl
    exact hp ha

theorem pending_addRoot {root : Text} (h : addRoot t w root = .ok w') :
    w'.pending = w.pending := by
  unfold addRoot addDirectory at h
  split at h
  · cases h
  · cases hwalk : t.walk root with
    | error e => simp [hwalk, Except.map] at h
    | ok found =>
      rw [hwalk] at h
      cases h
      rfl
  · cases h
    rfl

/-- A watcher that starts has no changes to tell. -/
theorem pending_start {s : WatchSettings} (h : start s t = .ok w) : w.pending = [] :=
  foldlM_induct (P := fun w => w.pending = []) rfl
    (fun _ _ _ _ hv hnext => (pending_addRoot hnext).trans hv) h

end Watcher

/-! ### Debouncers -/

namespace Debouncer

variable {α : Type} {d : Debouncer α}

theorem trigger_of_stopped (h : d.stopped = true) (a : α) : d.trigger a = d := by
  rw [trigger, if_pos h]

theorem trigger_of_not_stopped (h : d.stopped = false) (a : α) :
    d.trigger a = { d with callback := some a, armed := true } := by
  rw [trigger, h]
  rfl

@[simp] theorem stopped_trigger (d : Debouncer α) (a : α) : (d.trigger a).stopped = d.stopped := by
  cases h : d.stopped with
  | true => rw [trigger_of_stopped h, h]
  | false => rw [trigger_of_not_stopped h, h]

theorem expire_of_armed (h : d.armed = true) :
    d.expire = { d with armed := false, expired := d.expired + 1 } := by
  rw [expire, if_pos h]

/-- The call of a period that has ended finds the callback, unless it comes too late. -/
theorem call_of_expired (h : d.expired ≠ 0) : d.call =
    (if d.stopped then none else d.callback, { d with expired := d.expired - 1 }) := by
  rw [call, if_neg (by simpa using h)]

@[simp] theorem stopped_call (d : Debouncer α) : d.call.2.stopped = d.stopped := by
  unfold call
  split <;> rfl

theorem call_fst_of_stopped (h : d.stopped = true) : d.call.1 = none := by
  by_cases hexpired : d.expired = 0
  · simp [call, hexpired]
  · rw [call_of_expired hexpired, if_pos h]

end Debouncer

/-! ### Moves -/

/-- A watcher that tells changes, with its debouncer and the calls that are made when periods end.
The call of a period has its number, counted from zero. -/
structure WatchLoop where
  /-- The watcher. -/
  watcher : Watcher
  /-- The debouncer, whose callback is always the same. -/
  debouncer : Debouncer Unit := {}
  /-- How many events have had their paths noted and have not triggered the debouncer yet. -/
  due : Nat := 0
  /-- How many periods have ended. -/
  ended : Nat := 0
  /-- The calls that have not seen yet whether the debouncer has been stopped. -/
  waiting : List Nat := []
  /-- The calls that went on and have not taken the noted paths yet. -/
  passed : List Nat := []
  /-- The calls that have taken the noted paths, with what they took, the last one at the end. -/
  batches : List (Nat × List Text) := []

namespace WatchLoop

/-- One thing that happens. -/
inductive Move where
  /-- An event is heard. Its path is noted if it matters. -/
  | hear (t : FileTree) (e : FileEvent)
  /-- An event whose path has been noted triggers the debouncer. -/
  | trigger
  /-- The running period ends. -/
  | expire
  /-- A call sees whether the debouncer has been stopped. -/
  | check (k : Nat)
  /-- A call takes the noted paths. -/
  | take (k : Nat)
  /-- The debouncer is stopped. -/
  | stop

/-- The state after a move. Nothing happens where a move has nothing to move. -/
def step (s : WatchLoop) : Move → WatchLoop
  | .hear t e =>
    let w := s.watcher.follow t e
    if w.accepts e then { s with watcher := w.pend e.path, due := s.due + 1 }
    else { s with watcher := w }
  | .trigger =>
    if s.due = 0 then s
    else { s with debouncer := s.debouncer.trigger (), due := s.due - 1 }
  | .expire =>
    if s.debouncer.armed then
      { s with
        debouncer := s.debouncer.expire
        ended := s.ended + 1
        waiting := s.waiting ++ [s.ended] }
    else s
  | .check k =>
    if k ∈ s.waiting then
      let (callback, d) := s.debouncer.call
      { s with
        debouncer := d
        waiting := s.waiting.erase k
        passed := if callback.isSome then s.passed ++ [k] else s.passed }
    else s
  | .take k =>
    if k ∈ s.passed then
      let (paths, w) := s.watcher.takePending
      { s with
        watcher := w
        passed := s.passed.erase k
        batches := s.batches ++ [(k, paths)] }
    else s
  | .stop => { s with debouncer := s.debouncer.stop }

/-- The state after moves, from a watcher that has just started on. -/
def run (w : Watcher) (moves : List Move) : WatchLoop := moves.foldl step { watcher := w }

/-- The calls that have taken the noted paths. -/
def ran (s : WatchLoop) : List Nat := s.batches.map Prod.fst

variable {s : WatchLoop} {w : Watcher}

theorem run_append (w : Watcher) (before after : List Move) :
    run w (before ++ after) = after.foldl step (run w before) := List.foldl_append

/-- What every move keeps holds after moves. -/
theorem foldl_step_induct {P : WatchLoop → Prop} (hstep : ∀ s m, P s → P (s.step m)) (hs : P s)
    (moves : List Move) : P (moves.foldl step s) := by
  induction moves generalizing s with
  | nil => exact hs
  | cons m moves ih => exact ih (hstep s m hs)

/-- What a move does. -/
inductive Turn (s : WatchLoop) : WatchLoop → Prop where
  | idle : Turn s s
  | overhear (t : FileTree) (e : FileEvent) : Turn s { s with watcher := s.watcher.follow t e }
  | note (t : FileTree) (e : FileEvent) :
      Turn s { s with watcher := (s.watcher.follow t e).pend e.path, due := s.due + 1 }
  | trigger : Turn s { s with debouncer := s.debouncer.trigger (), due := s.due - 1 }
  | expire (h : s.debouncer.armed = true) : Turn s { s with
      debouncer := s.debouncer.expire, ended := s.ended + 1, waiting := s.waiting ++ [s.ended] }
  | giveUp {k : Nat} (hk : k ∈ s.waiting) (h : s.debouncer.call.1 = none) : Turn s { s with
      debouncer := s.debouncer.call.2, waiting := s.waiting.erase k }
  | goOn {k : Nat} (hk : k ∈ s.waiting) (h : s.debouncer.call.1 = some ()) : Turn s { s with
      debouncer := s.debouncer.call.2, waiting := s.waiting.erase k, passed := s.passed ++ [k] }
  | take {k : Nat} (hk : k ∈ s.passed) : Turn s { s with
      watcher := s.watcher.takePending.2, passed := s.passed.erase k,
      batches := s.batches ++ [(k, s.watcher.takePending.1)] }
  | stop : Turn s { s with debouncer := s.debouncer.stop }

theorem turn_step (s : WatchLoop) (m : Move) : Turn s (s.step m) := by
  cases m with
  | hear t e =>
    simp only [step]
    split
    · exact .note t e
    · exact .overhear t e
  | trigger =>
    simp only [step]
    split
    · exact .idle
    · exact .trigger
  | expire =>
    simp only [step]
    split
    · exact .expire ‹_›
    · exact .idle
  | check k =>
    simp only [step]
    split
    · rename_i hk
      cases hcall : s.debouncer.call.1 with
      | none => exact .giveUp hk hcall
      | some u => exact .goOn hk hcall
    · exact .idle
  | take k =>
    simp only [step]
    split
    · exact .take ‹_›
    · exact .idle
  | stop => exact .stop

/-! ### What all moves keep -/

/-- What holds whatever has happened so far. -/
structure Inv (s : WatchLoop) : Prop where
  nodup_pending : s.watcher.pending.Nodup
  expired_eq : s.debouncer.expired = s.waiting.length
  callback : s.debouncer.stopped = false → s.debouncer.armed = true ∨ s.waiting ≠ [] →
    s.debouncer.callback.isSome = true
  covered : s.debouncer.stopped = false → s.due = 0 → s.watcher.pending ≠ [] →
    s.debouncer.armed = true ∨ s.waiting ≠ [] ∨ s.passed ≠ []
  lt_ended : ∀ k ∈ s.waiting ++ (s.passed ++ s.ran), k < s.ended
  nodup_calls : (s.waiting ++ (s.passed ++ s.ran)).Nodup
  batches : ∀ b ∈ s.batches, b.2.Pairwise (fun p q => Text.le p q = true) ∧ b.2.Nodup

theorem inv_start (h : w.pending = []) : Inv { watcher := w } where
  nodup_pending := by rw [h]; exact List.nodup_nil
  expired_eq := rfl
  callback _ h := by simp at h
  covered _ _ hne := absurd h hne
  lt_ended _ hk := by simp [ran] at hk
  nodup_calls := List.nodup_nil
  batches _ hb := by simp at hb

theorem Inv.trigger (hs : Inv s) :
    Inv { s with debouncer := s.debouncer.trigger (), due := s.due - 1 } := by
  cases hstopped : s.debouncer.stopped with
  | true =>
    rw [Debouncer.trigger_of_stopped hstopped]
    exact { hs with covered := fun h => by simp [hstopped] at h }
  | false =>
    rw [Debouncer.trigger_of_not_stopped hstopped]
    exact { hs with callback := fun _ _ => rfl, covered := fun _ _ _ => .inl rfl }

theorem Inv.expire (hs : Inv s) (harmed : s.debouncer.armed = true) : Inv { s with
    debouncer := s.debouncer.expire, ended := s.ended + 1, waiting := s.waiting ++ [s.ended] } := by
  rw [Debouncer.expire_of_armed harmed]
  have hcalls : (s.waiting ++ [s.ended] ++ (s.passed ++ s.ran)).Perm
      (s.ended :: (s.waiting ++ (s.passed ++ s.ran))) := by
    rw [List.append_assoc]
    exact List.perm_middle
  refine { hs with
    expired_eq := ?_, callback := ?_, covered := ?_, lt_ended := ?_, nodup_calls := ?_ }
  · simp [hs.expired_eq]
  · exact fun hstopped _ => hs.callback hstopped (.inl harmed)
  · exact fun _ _ _ => .inr (.inl (by simp))
  · intro k hk
    rcases List.mem_cons.mp (hcalls.mem_iff.mp hk) with rfl | hk
    · exact Nat.lt_succ_self s.ended
    · exact Nat.lt_succ_of_lt (hs.lt_ended k hk)
  · -- the number is new
    refine hcalls.nodup_iff.mpr (List.nodup_cons.mpr ⟨fun hmem => ?_, hs.nodup_calls⟩)
    exact Nat.lt_irrefl _ (hs.lt_ended _ hmem)

theorem Inv.expired_ne_zero (hs : Inv s) {k : Nat} (hk : k ∈ s.waiting) :
    s.debouncer.expired ≠ 0 := by
  rw [hs.expired_eq]
  exact fun h => List.ne_nil_of_mem hk (List.eq_nil_of_length_eq_zero h)

/-- A call that finds no callback comes after the debouncer has been stopped. -/
theorem Inv.giveUp (hs : Inv s) {k : Nat} (hk : k ∈ s.waiting) (h : s.debouncer.call.1 = none) :
    Inv { s with debouncer := s.debouncer.call.2, waiting := s.waiting.erase k } := by
  rw [Debouncer.call_of_expired (hs.expired_ne_zero hk)] at h ⊢
  have hstopped : s.debouncer.stopped = true := by
    by_contra hnot
    have hsome := hs.callback (by simpa using hnot) (.inr (List.ne_nil_of_mem hk))
    rw [show s.debouncer.callback = none by simpa [hnot] using h] at hsome
    cases hsome
  have hsub := (List.erase_sublist (a := k) (l := s.waiting)).append_right (s.passed ++ s.ran)
  refine { hs with
    expired_eq := ?_, callback := ?_, covered := ?_, lt_ended := ?_, nodup_calls := ?_ }
  · rw [hs.expired_eq, List.length_erase_of_mem hk]
  · exact fun hnot => by simp [hstopped] at hnot
  · exact fun hnot => by simp [hstopped] at hnot
  · exact fun j hj => hs.lt_ended j (hsub.subset hj)
  · exact hs.nodup_calls.sublist hsub

theorem Inv.goOn (hs : Inv s) {k : Nat} (hk : k ∈ s.waiting) : Inv { s with
    debouncer := s.debouncer.call.2, waiting := s.waiting.erase k, passed := s.passed ++ [k] } := by
  rw [Debouncer.call_of_expired (hs.expired_ne_zero hk)]
  have hcalls : (s.waiting.erase k ++ (s.passed ++ [k] ++ s.ran)).Perm
      (s.waiting ++ (s.passed ++ s.ran)) := by
    refine List.Perm.trans ?_ ((List.perm_cons_erase hk).append_right _).symm
    rw [List.append_assoc, List.singleton_append]
    exact (List.perm_middle.append_left _).trans List.perm_middle
  refine { hs with
    expired_eq := ?_, callback := ?_, covered := ?_, lt_ended := ?_, nodup_calls := ?_ }
  · rw [hs.expired_eq, List.length_erase_of_mem hk]
  · exact fun hstopped _ => hs.callback hstopped (.inr (List.ne_nil_of_mem hk))
  · exact fun _ _ _ => .inr (.inr (by simp))
  · exact fun j hj => hs.lt_ended j (hcalls.mem_iff.mp hj)
  · exact hcalls.nodup_iff.mpr hs.nodup_calls

theorem Inv.take (hs : Inv s) {k : Nat} (hk : k ∈ s.passed) : Inv { s with
    watcher := s.watcher.takePending.2, passed := s.passed.erase k,
    batches := s.batches ++ [(k, s.watcher.takePending.1)] } := by
  have hran : (s.batches ++ [(k, s.watcher.takePending.1)]).map Prod.fst = s.ran ++ [k] :=
    List.map_append
  have hcalls : (s.waiting ++ (s.passed.erase k ++ (s.ran ++ [k]))).Perm
      (s.waiting ++ (s.passed ++ s.ran)) := by
    have hpassed := ((List.perm_cons_erase hk).append_right s.ran).symm
    refine List.Perm.append_left _ (List.Perm.trans ?_ hpassed)
    rw [← List.append_assoc]
    exact List.perm_append_singleton k _
  refine { hs with
    nodup_pending := List.nodup_nil, covered := ?_, lt_ended := ?_, nodup_calls := ?_,
    batches := ?_ }
  · exact fun _ _ hne => absurd rfl hne
  · intro j hj
    simp only [ran, hran] at hj
    exact hs.lt_ended j (hcalls.mem_iff.mp hj)
  · simp only [ran, hran]
    exact hcalls.nodup_iff.mpr hs.nodup_calls
  · intro b hb
    rcases List.mem_append.mp hb with hb | hb
    · exact hs.batches b hb
    · rw [List.mem_singleton.mp hb]
      exact ⟨Text.pairwise_sort _, (Text.sort_perm _).nodup_iff.mpr hs.nodup_pending⟩

theorem Inv.turn (hs : Inv s) {s' : WatchLoop} (h : Turn s s') : Inv s' := by
  cases h with
  | idle => exact hs
  | overhear t e =>
    have hpending := s.watcher.pending_follow t e
    exact { hs with
      nodup_pending := hpending ▸ hs.nodup_pending
      covered := fun hstopped hdue hne => hs.covered hstopped hdue (hpending ▸ hne) }
  | note t e =>
    have hpending := s.watcher.pending_follow t e
    exact { hs with
      nodup_pending := Watcher.nodup_pend (hpending ▸ hs.nodup_pending) e.path
      covered := fun _ hdue => absurd hdue (Nat.succ_ne_zero s.due) }
  | trigger => exact hs.trigger
  | expire harmed => exact hs.expire harmed
  | giveUp hk hnone => exact hs.giveUp hk hnone
  | goOn hk _ => exact hs.goOn hk
  | take hk => exact hs.take hk
  | stop =>
    exact { hs with
      callback := fun h => absurd h (by simp [Debouncer.stop])
      covered := fun h => absurd h (by simp [Debouncer.stop]) }

theorem inv_run (h : w.pending = []) (moves : List Move) : Inv (run w moves) :=
  foldl_step_induct (fun s m hs => hs.turn (turn_step s m)) (inv_start h) moves

/-! ### Noted paths -/

theorem Turn.accepts_eq {s' : WatchLoop} (h : Turn s s') :
    s'.watcher.accepts = s.watcher.accepts := by
  cases h with
  | overhear t e => exact s.watcher.accepts_follow t e
  | note t e => rw [Watcher.accepts_pend, Watcher.accepts_follow]
  | _ => rfl

/-- Which events matter does not change. -/
theorem accepts_run (w : Watcher) (moves : List Move) :
    (run w moves).watcher.accepts = w.accepts :=
  foldl_step_induct (P := fun s => s.watcher.accepts = w.accepts)
    (fun s m hs => (turn_step s m).accepts_eq.trans hs) rfl moves

/-- A path is noted, or it is in a batch that was taken after the first `n` ones. -/
def Kept (p : Text) (n : Nat) (s : WatchLoop) : Prop :=
  n ≤ s.batches.length ∧ (p ∈ s.watcher.pending ∨ ∃ b ∈ s.batches.drop n, p ∈ b.2)

theorem Kept.turn {p : Text} {n : Nat} (hs : Kept p n s) {s' : WatchLoop} (h : Turn s s') :
    Kept p n s' := by
  cases h with
  | overhear t e =>
    exact ⟨hs.1, hs.2.imp_left fun hp => (s.watcher.pending_follow t e).symm ▸ hp⟩
  | note t e =>
    refine ⟨hs.1, hs.2.imp_left fun hp => Watcher.mem_pend.mpr (.inl ?_)⟩
    rw [Watcher.pending_follow]
    exact hp
  | @take k hk =>
    -- what was noted is in the batch that is taken
    refine ⟨by simpa using Nat.le_succ_of_le hs.1, .inr ?_⟩
    rw [List.drop_append_of_le_length hs.1]
    rcases hs.2 with hp | ⟨b, hb, hp⟩
    · refine ⟨_, List.mem_append_right _ (List.mem_singleton_self _), ?_⟩
      exact (Text.sort_perm _).mem_iff.mpr hp
    · exact ⟨b, List.mem_append_left _ hb, hp⟩
  | _ => exact hs

/-- A path that was noted is kept from then on. -/
theorem kept_run {e : FileEvent} (h : w.accepts e = true) (before after : List Move)
    (t : FileTree) : Kept e.path (run w (before ++ [.hear t e])).batches.length
      (run w (before ++ .hear t e :: after)) := by
  have hnoted : e.path ∈ (run w (before ++ [.hear t e])).watcher.pending := by
    rw [run_append, List.foldl_cons, List.foldl_nil, step]
    simp only [Watcher.accepts_follow, accepts_run, h, if_true]
    exact Watcher.mem_pend.mpr (.inr rfl)
  have hsplit : run w (before ++ .hear t e :: after) =
      after.foldl step (run w (before ++ [.hear t e])) := by
    rw [← run_append, List.append_assoc, List.singleton_append]
  rw [hsplit]
  exact foldl_step_induct (fun s m hs => hs.turn (turn_step s m))
    ⟨Nat.le_refl _, .inl hnoted⟩ after

/-! ### Late calls -/

theorem Turn.stopped {s' : WatchLoop} (h : Turn s s') (hs : s.debouncer.stopped = true) :
    s'.debouncer.stopped = true := by
  cases h with
  | trigger => exact (Debouncer.stopped_trigger ..).trans hs
  | expire harmed =>
    rw [Debouncer.expire_of_armed harmed]
    exact hs
  | giveUp => exact (Debouncer.stopped_call _).trans hs
  | goOn => exact (Debouncer.stopped_call _).trans hs
  | stop => rfl
  | _ => exact hs

/-- Once the debouncer has been stopped, no further call goes on. -/
theorem Turn.mem_of_stopped {s' : WatchLoop} (h : Turn s s') (hs : s.debouncer.stopped = true)
    {k : Nat} (hk : k ∈ s'.passed ++ s'.ran) : k ∈ s.passed ++ s.ran := by
  cases h with
  | goOn _ hsome =>
    rw [Debouncer.call_fst_of_stopped hs] at hsome
    cases hsome
  | @take j hj =>
    simp only [ran, List.map_append, List.map_cons, List.map_nil, List.mem_append,
      List.mem_singleton] at hk ⊢
    rcases hk with hk | hk | rfl
    · exact .inl (List.mem_of_mem_erase hk)
    · exact .inr hk
    · exact .inl hj
  | _ => exact hk

theorem stopped_run {moves : List Move} (h : .stop ∈ moves) :
    (run w moves).debouncer.stopped = true := by
  obtain ⟨before, after, rfl⟩ := List.append_of_mem h
  rw [run_append, List.foldl_cons]
  exact foldl_step_induct (P := fun s => s.debouncer.stopped = true)
    (fun s m hs => (turn_step s m).stopped hs) rfl after

/-- A call that has not gone on when the debouncer is stopped never takes anything. -/
theorem not_mem_foldl_of_stopped {k : Nat} (hs : s.debouncer.stopped = true)
    (hk : k ∉ s.passed ++ s.ran) (moves : List Move) :
    k ∉ (moves.foldl step s).passed ++ (moves.foldl step s).ran := by
  refine (foldl_step_induct (P := fun s => s.debouncer.stopped = true ∧ k ∉ s.passed ++ s.ran)
    (fun s m hs => ⟨(turn_step s m).stopped hs.1, fun hmem => hs.2 ?_⟩) ⟨hs, hk⟩ moves).2
  exact (turn_step s m).mem_of_stopped hs.1 hmem

/-- No change that matters is lost, in whatever order things happen after the start of a watcher.
As long as the debouncer has not been stopped and no event is between the note of its path and its
trigger, noted paths have a running period or a call that has yet to take them. Every path of an
event that matters is noted or in a batch that was taken since. Every batch is sorted and has no
path twice. A call that looks at the debouncer after it has been stopped neither goes on nor takes
anything. -/
theorem run_loses_nothing {settings : WatchSettings} {t : FileTree} {w : Watcher}
    (hw : Watcher.start settings t = .ok w) (moves : List Move) :
    let s := run w moves
    (s.debouncer.stopped = false → s.due = 0 → s.watcher.pending ≠ [] →
      s.debouncer.armed = true ∨ s.waiting ≠ [] ∨ s.passed ≠ []) ∧
    (∀ before t e after, moves = before ++ .hear t e :: after → w.accepts e = true →
      e.path ∈ s.watcher.pending ∨
        ∃ b ∈ s.batches.drop (run w (before ++ [.hear t e])).batches.length, e.path ∈ b.2) ∧
    (∀ b ∈ s.batches, b.2.Pairwise (fun p q => Text.le p q = true) ∧ b.2.Nodup) ∧
    (∀ before k after, moves = before ++ .check k :: after → .stop ∈ before →
      k ∈ (run w before).waiting → k ∉ s.passed ∧ ∀ b ∈ s.batches, b.1 ≠ k) := by
  intro s
  have hpending : w.pending = [] := Watcher.pending_start hw
  have hs : Inv s := inv_run hpending moves
  refine ⟨hs.covered, ?_, hs.batches, ?_⟩
  · rintro before t e after rfl haccepts
    exact (kept_run haccepts before after t).2
  · rintro before k after rfl hstop hwaiting
    -- a call that waits has not gone on before
    have hnot : k ∉ (run w before).passed ++ (run w before).ran := fun hk =>
      (List.nodup_append.mp (inv_run hpending before).nodup_calls).2.2 k hwaiting k hk rfl
    have hlate := not_mem_foldl_of_stopped (stopped_run hstop) hnot (.check k :: after)
    rw [← run_append, List.mem_append, not_or] at hlate
    exact ⟨hlate.1, fun b hb hk => hlate.2 (List.mem_map.mpr ⟨b, hb, hk⟩)⟩

/-- The settings of a watcher of one directory. -/
def oneRoot : WatchSettings where
  roots := [Text.ofString "/d"]
  extensions := [Text.ofString ".xcss"]

/-- The tree of that directory. -/
def oneRootTree : FileTree where
  nodes := [(Text.ofString "/d", .directory)]

/-- A file of that name is written to. -/
def written (name : String) : Move :=
  .hear oneRootTree { path := Text.ofString name, write := true }

/-- The first period ends between two changes, and its call takes the second one before that has
triggered the debouncer. The second period has nothing to tell until a third change comes. -/
def overtaken : List Move :=
  [written "/d/b.xcss", .trigger, .expire, written "/d/a.xcss", .check 0, .take 0, .trigger,
    .expire, written "/d/b.xcss", .trigger]

theorem run_loses_nothing_overtaken : ∃ w, Watcher.start oneRoot oneRootTree = .ok w ∧
    (let s := run w overtaken
    s.watcher.pending = [Text.ofString "/d/b.xcss"] ∧
      (s.debouncer.armed = true ∨ s.waiting ≠ [] ∨ s.passed ≠ []) ∧
      ∃ b ∈ s.batches, Text.ofString "/d/a.xcss" ∈ b.2) ∧
    (let s := run w (overtaken ++ [.stop, .check 1])
    1 ∉ s.passed ∧ ∀ b ∈ s.batches, b.1 ≠ 1) := by
  obtain ⟨w, hw, hstate⟩ : ∃ w, Watcher.start oneRoot oneRootTree = .ok w ∧
      decide (w.accepts { path := Text.ofString "/d/a.xcss", write := true } = true ∧
        (run w overtaken).debouncer.stopped = false ∧ (run w overtaken).due = 0 ∧
        (run w overtaken).watcher.pending = [Text.ofString "/d/b.xcss"] ∧
        (run w (overtaken ++ [.stop])).waiting = [1]) = true := by
    apply exists_of_map_toOption
    decide +kernel
  rw [decide_eq_true_eq] at hstate
  obtain ⟨haccepts, hstopped, hdue, hpending, hwaiting⟩ := hstate
  obtain ⟨hcovered, hkept, -, -⟩ := run_loses_nothing hw overtaken
  obtain ⟨-, -, -, hlate⟩ := run_loses_nothing hw (overtaken ++ [.stop, .check 1])
  refine ⟨w, hw, ⟨hpending, hcovered hstopped hdue (by simp [hpending]), ?_⟩, ?_⟩
  · rcases hkept (overtaken.take 3) oneRootTree _ (overtaken.drop 4) rfl haccepts with hmem | hmem
    · rw [hpending] at hmem
      exact absurd hmem (by decide +kernel)
    · obtain ⟨b, hb, hp⟩ := hmem
      exact ⟨b, List.mem_of_mem_drop hb, hp⟩
  · have hlast : overtaken ++ [.stop, .check 1] = (overtaken ++ [.stop]) ++ [.check 1] := rfl
    exact hlate (overtaken ++ [.stop]) 1 [] hlast (by simp) (by simp [hwaiting])

end WatchLoop

end NestedCss
