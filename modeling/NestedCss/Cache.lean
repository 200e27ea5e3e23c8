import NestedCss.Text
/-!
# Compile cache

A cache keeps the results of compilations by a hash of the compiled text, so that a text that has
not changed is not compiled again. A result is used only if the whole text agrees with the one it
came from, so that two texts with one hash never mix. Failures are not kept.

A compilation is one lookup and, if nothing is found and the compiler succeeds, one store. They are
steps of their own, since several compilations may share a cache.
-/
namespace NestedCss

/-- A result in a cache. -/
structure CacheEntry (α : Type) where
  /-- The text that was compiled. -/
  text : Text
  /-- What it gave. -/
  result : α
  /-- Whether it was stored or found since the last sweep. -/
  used : Bool

/-- A cache with results of a type. -/
structure Cache (α : Type) where
  /-- The results by the hashes of their texts; a hash occurs once. -/
  entries : List (UInt64 × CacheEntry α) := []
  /-- How many lookups found a result since the last sweep. -/
  hits : Nat := 0
  /-- How many lookups found nothing since the last sweep. -/
  misses : Nat := 0

namespace Cache

variable {α ε : Type}

/-- The number of results in a cache. -/
def size (c : Cache α) : Nat := c.entries.length

/-- The result for a text with a hash. -/
def find? (c : Cache α) (key : UInt64) (text : Text) : Option α :=
  match c.entries.lookup key with
  | some e => if e.text == text then some e.result else none
  | none => none

/-- The entries with the one of a hash marked as used. -/
def markUsed (key : UInt64) (entries : List (UInt64 × CacheEntry α)) :
    List (UInt64 × CacheEntry α) :=
  entries.map fun e => if e.1 == key then (key, { e.2 with used := true }) else e

/-- Looks a text up, and counts whether it is there. -/
def lookup (c : Cache α) (key : UInt64) (text : Text) : Option α × Cache α :=
  match c.find? key text with
  | some a => (some a, { c with entries := markUsed key c.entries, hits := c.hits + 1 })
  | none => (none, { c with misses := c.misses + 1 })

/-- Keeps a result, in place of another one with the same hash. -/
def store (c : Cache α) (key : UInt64) (text : Text) (result : α) : Cache α :=
  { c with entries := (key, ⟨text, result, true⟩) :: c.entries.filter fun e => e.1 != key }

/-- Drops the results that were neither stored nor found since the last sweep, and starts counting
anew. Gives the hits and the misses that were counted. -/
def sweep (c : Cache α) : (Nat × Nat) × Cache α :=
  ((c.hits, c.misses),
    ⟨(c.entries.filter fun e => e.2.used).map fun e => (e.1, { e.2 with used := false }), 0, 0⟩)

/-- The result of compiling a text, from the cache if it is there. -/
def compile (c : Cache α) (hash : Text → UInt64) (build : Text → Except ε α) (text : Text) :
    Except ε α × Cache α :=
  match c.lookup (hash text) text with
  | (some a, c) => (.ok a, c)
  | (none, c) =>
    match build text with
    | .ok a => (.ok a, c.store (hash text) text a)
    | .error e => (.error e, c)

end Cache

end NestedCss
