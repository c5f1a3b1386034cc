import Disasm32.Number.Index
import Disasm32.Text.Digits

/-! The 32 integer registers, named by number or by their role in the calling convention. The list
of all names is given, and the names by role are drawn from it. -/

namespace Disasm32

inductive RegisterNames where
  | numeric
  | abi
  deriving DecidableEq, Repr

namespace Register

def numericName (n : Int) : String :=
  "x" ++ String.ofList (Digits.decimal n)

def numbers : List (String × Nat) :=
  [("x0", 0), ("zero", 0), ("x1", 1), ("ra", 1), ("x2", 2), ("sp", 2), ("x3", 3), ("gp", 3),
   ("x4", 4), ("tp", 4), ("x5", 5), ("t0", 5), ("x6", 6), ("t1", 6), ("x7", 7), ("t2", 7),
   ("x8", 8), ("s0", 8), ("fp", 8), ("x9", 9), ("s1", 9), ("x10", 10), ("a0", 10),
   ("x11", 11), ("a1", 11), ("x12", 12), ("a2", 12), ("x13", 13), ("a3", 13),
   ("x14", 14), ("a4", 14), ("x15", 15), ("a5", 15), ("x16", 16), ("a6", 16),
   ("x17", 17), ("a7", 17), ("x18", 18), ("s2", 18), ("x19", 19), ("s3", 19),
   ("x20", 20), ("s4", 20), ("x21", 21), ("s5", 21), ("x22", 22), ("s6", 22),
   ("x23", 23), ("s7", 23), ("x24", 24), ("s8", 24), ("x25", 25), ("s9", 25),
   ("x26", 26), ("s10", 26), ("x27", 27), ("s11", 27), ("x28", 28), ("t3", 28),
   ("x29", 29), ("t4", 29), ("x30", 30), ("t5", 30), ("x31", 31), ("t6", 31)]

/-- A slot takes the first name that does not begin like a numbered one; `s0` comes before `fp`. -/
def nameSlot (slots : List (Option String)) (entry : String × Nat) : List (Option String) :=
  if entry.1.toList.head? ≠ some 'x' ∧ slots[entry.2]? = some none then
    slots.set entry.2 (some entry.1)
  else slots

/-- The names by role, in a slot for each of the 32 registers. -/
def abiSlots : List (Option String) := numbers.foldl nameSlot (List.replicate 32 none)

/-- The role of each register, by number; no slot stays empty. -/
def abiNames : List String := abiSlots.map (·.getD "")

theorem length_abiNames : abiNames.length = 32 := by decide +kernel

/-- The role of register `n`; a negative number counts from the last register. -/
def abiName (n : Int) : Except Index.Error String := Index.get abiNames n

end Register

end Disasm32
