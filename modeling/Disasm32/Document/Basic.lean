import Disasm32.Document.Value

/-! A document whose collections may be shared or lie inside themselves: values refer to collections
by number. -/
namespace Disasm32

namespace Value

mutual

def substitute (f : Nat → Option Value) : Value → Value
  | sequence items => sequence (substituteItems f items)
  | pair a b => pair (substitute f a) (substitute f b)
  | mapping entries => mapping (substituteEntries f entries)
  | shared n isMapping => (f n).getD (shared n isMapping)
  | v => v

def substituteItems (f : Nat → Option Value) : List Value → List Value
  | [] => []
  | item :: items => substitute f item :: substituteItems f items

def substituteEntries (f : Nat → Option Value) : List (Value × Value) → List (Value × Value)
  | [] => []
  | (key, value) :: entries => (key, substitute f value) :: substituteEntries f entries

end

end Value

structure Document where
  root : Value
  collections : Array Value := #[]

namespace Document

/-- The collection that a reference stands for; any other value is itself. -/
def resolve (d : Document) : Value → Value
  | .shared n isMapping => d.collections[n]?.getD (.shared n isMapping)
  | v => v

def entries? (d : Document) (v : Value) : Option (List (Value × Value)) :=
  (d.resolve v).entries?

/-- A value with the collections that it refers to in place, except those of `outer`, which it lies
in. Each has a number of its own, so as many levels are enough as there are collections. -/
def expandIn (d : Document) : Nat → List Nat → Value → Value
  | 0, _, v => v
  | levels + 1, outer, v => v.substitute fun n =>
      if outer.contains n then none
      else d.collections[n]?.map (d.expandIn levels (n :: outer))

/-- A value with the collections that it refers to in place; inside itself a collection remains a
reference. -/
def expand (d : Document) (v : Value) : Value :=
  d.expandIn d.collections.size [] v

def ofValue (v : Value) : Document := { root := v }

@[simp] theorem resolve_ofValue (v w : Value) : (ofValue v).resolve w = w := by
  cases w <;> rfl

end Document

end Disasm32
