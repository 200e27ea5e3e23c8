import NestedCss.Text.Digest
/-!
# Declarations

The declarations of a rule: an ordered list of properties and values in which every property
occurs once. Setting a property that is there replaces its value in place; a new one goes to the
end.
-/
namespace NestedCss

/-- One `property: value` pair. -/
structure Declaration where
  /-- The property. -/
  property : Text
  /-- The value. -/
  value : Text
  deriving DecidableEq, Repr

/-- An ordered list of declarations with distinct properties. -/
structure Declarations where
  /-- The declarations in order. -/
  toList : List Declaration
  /-- No property occurs twice. -/
  nodup : (toList.map Declaration.property).Nodup
  deriving DecidableEq

namespace Declarations

@[ext] theorem ext {d e : Declarations} (h : d.toList = e.toList) : d = e := by
  cases d; cases e; cases h; rfl

/-- No declarations. -/
def empty : Declarations := ⟨[], List.nodup_nil⟩

instance : Inhabited Declarations := ⟨empty⟩

/-- The properties in order. -/
def properties (d : Declarations) : List Text := d.toList.map Declaration.property

/-- The number of declarations. -/
def size (d : Declarations) : Nat := d.toList.length

/-- Whether there is no declaration. -/
def isEmpty (d : Declarations) : Bool := d.toList.isEmpty

/-! ### Setting a property -/

/-- A list of declarations with the value of `p` replaced where `p` is there, and `p` added at the
end where it is not. -/
def setIn (p v : Text) : List Declaration → List Declaration
  | [] => [⟨p, v⟩]
  | d :: more => if d.property = p then ⟨p, v⟩ :: more else d :: setIn p v more

theorem map_property_setIn (p v : Text) (l : List Declaration) :
    (setIn p v l).map Declaration.property
      = if p ∈ l.map Declaration.property then l.map Declaration.property
        else l.map Declaration.property ++ [p] := by
  induction l with
  | nil => simp [setIn]
  | cons d more ih =>
    by_cases h : d.property = p
    · simp [setIn, h]
    · have h' : p ≠ d.property := fun e => h e.symm
      simp only [setIn, if_neg h, List.map_cons, ih, List.mem_cons, h', false_or]
      split <;> simp

theorem nodup_setIn (p v : Text) {l : List Declaration}
    (h : (l.map Declaration.property).Nodup) :
    ((setIn p v l).map Declaration.property).Nodup := by
  rw [map_property_setIn]
  split
  · exact h
  · next hp => exact List.nodup_append.2 ⟨h, by simp, by grind⟩

/-- Sets a property. -/
def set (d : Declarations) (p v : Text) : Declarations :=
  ⟨setIn p v d.toList, nodup_setIn p v d.nodup⟩

/-- The value of a property. -/
def get? (d : Declarations) (p : Text) : Option Text :=
  (d.toList.find? (·.property == p)).map (·.value)

/-- The declarations without a property. -/
def erase (d : Declarations) (p : Text) : Declarations :=
  ⟨d.toList.filter (·.property != p), d.nodup.sublist (List.filter_sublist.map _)⟩

/-- Sets each declaration of a list in turn. -/
def setAll (d : Declarations) (l : List Declaration) : Declarations :=
  l.foldl (fun d e => d.set e.property e.value) d

/-- The declarations that arise from setting each of a list in turn. -/
def ofList (l : List Declaration) : Declarations := empty.setAll l

/-- Sets all declarations of `e` on top of those of `d`. -/
def merge (d e : Declarations) : Declarations := d.setAll e.toList

/-- The declarations with new values at their old places. -/
def mapValues (f : Text → Text) (d : Declarations) : Declarations :=
  ⟨d.toList.map fun e => ⟨e.property, f e.value⟩, by
    rw [List.map_map]; exact d.nodup⟩

/-! ### Digests -/

/-- The bytes that stand for a list of declarations in its digest. -/
def digestInput (l : List Declaration) : Text :=
  l.flatMap fun d => d.property ++ 0x00 :: d.value ++ [0xFF]

/-- A digest that depends on the declarations and on their order. -/
def digest (d : Declarations) : UInt64 := Digest.xxh64 (digestInput d.toList)

end Declarations

end NestedCss
