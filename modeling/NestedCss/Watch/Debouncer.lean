import NestedCss.Text
/-!
# Quiet periods

A debouncer waits until nothing has happened for a while and then calls back once. Each trigger
gives the callback and starts the period anew. The end of a period and the call are two steps: a
period may end just before a trigger, and its call then finds the newer callback.
-/
namespace NestedCss

/-- A debouncer with callbacks of a type. -/
structure Debouncer (α : Type) where
  /-- The callback that was given last. -/
  callback : Option α := none
  /-- Whether a period is running. -/
  armed : Bool := false
  /-- How many periods have ended whose calls are still to be made. -/
  expired : Nat := 0
  /-- Whether it has been stopped. -/
  stopped : Bool := false

namespace Debouncer

variable {α : Type}

/-- Starts the period anew with a callback, unless it has been stopped. -/
def trigger (d : Debouncer α) (a : α) : Debouncer α :=
  if d.stopped then d else { d with callback := some a, armed := true }

/-- Lets a running period end. -/
def expire (d : Debouncer α) : Debouncer α :=
  if d.armed then { d with armed := false, expired := d.expired + 1 } else d

/-- Makes the call of a period that has ended: what is called back, if anything. -/
def call (d : Debouncer α) : Option α × Debouncer α :=
  if d.expired == 0 then (none, d)
  else (if d.stopped then none else d.callback, { d with expired := d.expired - 1 })

/-- Ends a running period without a call, and all calls from then on. -/
def stop (d : Debouncer α) : Debouncer α :=
  { d with callback := none, armed := false, stopped := true }

/-- Makes the calls of the periods that have ended, at most `n` of them. -/
def callAll : Nat → Debouncer α → List α × Debouncer α
  | 0, d => ([], d)
  | n + 1, d =>
    let (a, d) := d.call
    let (more, d) := callAll n d
    (a.toList ++ more, d)

/-- Waits for longer than a period: what is called back, and the debouncer after that. -/
def settle (d : Debouncer α) : List α × Debouncer α :=
  let d := d.expire
  callAll d.expired d

end Debouncer

end NestedCss
