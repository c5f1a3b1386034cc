import Disasm32.Template.Error
import Disasm32.Text.DecimalDigit

/-! The format of a placeholder: fill and alignment, sign, width, separator of digit groups,
precision and the code of the presentation, in this order and each of them optional. `Spec.place`
lays a text out in the width. -/
namespace Disasm32.Template

inductive Align where
  | left
  | right
  | center
  /-- Between the sign and the digits. -/
  | inner
  deriving DecidableEq, Repr

def Align.ofChar? : Char → Option Align
  | '<' => some .left
  | '>' => some .right
  | '^' => some .center
  | '=' => some .inner
  | _ => none

structure Spec where
  fill : Char
  align : Align
  sign : Option Char
  noNegativeZero : Bool
  alternate : Bool
  width : Option Nat
  separator : Option Char
  precision : Option Nat
  code : Char
  deriving DecidableEq, Repr

namespace Spec

def takeCount (cs : List Char) : Except TemplateError (Option Nat × List Char) :=
  match cs.takeWhile (Text.decimalDigit? · |>.isSome) with
  | [] => .ok (none, cs)
  | ds =>
    let n := Digits.value 10 (ds.filterMap Text.decimalDigit?)
    if Index.greatest < n then .error .tooManyDigits else .ok (some n, cs.drop ds.length)

def takeChar (p : Char → Bool) : List Char → Option Char × List Char
  | c :: cs => if p c then (some c, cs) else (none, c :: cs)
  | [] => (none, [])

/-- Fill and alignment: an alignment character, or any character before one. -/
def takeAlign : List Char → Option Char × Option Align × List Char
  | c :: d :: cs => match Align.ofChar? d, Align.ofChar? c with
    | some align, _ => (some c, some align, cs)
    | none, some align => (none, some align, d :: cs)
    | none, none => (none, none, c :: d :: cs)
  | [c] => match Align.ofChar? c with
    | some align => (none, some align, [])
    | none => (none, none, [c])
  | [] => (none, none, [])

def takeSeparator : List Char → Except TemplateError (Option Char × List Char)
  | ',' :: '_' :: _ => .error .bothSeparators
  | '_' :: ',' :: _ => .error .bothSeparators
  | ',' :: cs => .ok (some ',', cs)
  | '_' :: cs => .ok (some '_', cs)
  | cs => .ok (none, cs)

def takePrecision : List Char → Except TemplateError (Option Nat × List Char)
  | '.' :: cs => do
    let (precision, rest) ← takeCount cs
    if precision.isNone then throw .noPrecision
    return (precision, rest)
  | cs => .ok (none, cs)

/-- Commas may separate decimal digits only, underscores also those of other bases; the code that
stands for none is no fault of the separator. -/
def allowsSeparator (separator code : Char) : Bool :=
  ['d', 'e', 'f', 'g', 'E', 'G', '%', 'F', '\x00'].contains code ||
    (separator == '_' && ['b', 'o', 'x', 'X'].contains code)

def parse (kind : Kind) (cs : List Char) : Except TemplateError Spec := do
  let (fill, align, rest) := takeAlign cs
  let (sign, rest) := takeChar (fun c => c == ' ' || c == '+' || c == '-') rest
  let (noNegativeZero, rest) := takeChar (· == 'z') rest
  let (alternate, rest) := takeChar (· == '#') rest
  let (padding, rest) := if fill.isSome then (none, rest) else takeChar (· == '0') rest
  let (width, rest) ← takeCount rest
  let (separator, rest) ← takeSeparator rest
  let (precision, rest) ← takePrecision rest
  let code ← match rest with
    | [] => pure (if kind = .int then 'd' else 's')
    | [c] => pure c
    | _ => throw (.invalidSpec (String.ofList cs) kind)
  if let some s := separator then
    if !allowsSeparator s code then throw (.separatorWith s code)
  let usual := match kind with
    | .int => if padding.isSome then Align.inner else .right
    | _ => .left
  return {
    fill := fill.getD (padding.getD ' ')
    align := align.getD usual
    sign
    noNegativeZero := noNegativeZero.isSome
    alternate := alternate.isSome
    width
    separator
    precision
    code }

/-- Digits from the right in groups of `size`, as many zeros before them as fill `width`
characters, separators included; all in reverse order. -/
def groups (size : Nat) (separator : Char) (reversed : List Char) (width : Nat) : List Char :=
  let length := max 1 (min size (max reversed.length width))
  let group := Digits.padRight '0' length (reversed.take length)
  let rest := reversed.drop length
  let left := width - length
  if rest.isEmpty && left == 0 then group
  else group ++ separator :: groups size separator rest (left - 1)
termination_by reversed.length + width
decreasing_by
  rename_i h
  simp only [rest, left, length, List.isEmpty_iff_length_eq_zero, List.length_drop,
    Bool.and_eq_true, beq_iff_eq, not_and] at h ⊢
  omega

/-- The digits, with separators between groups and zeros before them up to `width`. -/
def group (s : Spec) (digits : List Char) (width : Nat) : List Char :=
  match s.separator with
  | none => Digits.padLeft '0' width digits
  | some separator =>
    let size := if ['b', 'o', 'x', 'X'].contains s.code then 4 else 3
    (groups size separator digits.reverse width).reverse

def signText (s : Spec) (negative : Bool) : List Char :=
  if negative then ['-']
  else match s.sign with
    | some '+' => ['+']
    | some ' ' => [' ']
    | _ => []

/-- A number laid out in the width: its sign, a marker of the base, digits and what follows
them. Zeros that fill a number belong to its digits. -/
def place (s : Spec) (negative : Bool) (marker digits rest : List Char) : List Char :=
  let sign := s.signText negative
  let width := s.width.getD 0
  let others := sign.length + marker.length + rest.length
  let zeros := if s.fill = '0' ∧ s.align = .inner then width - others else 0
  let digits := if digits.isEmpty then [] else s.group digits zeros
  let padding := width - (others + digits.length)
  let body := marker ++ digits ++ rest
  match s.align with
  | .left => sign ++ body ++ List.replicate padding s.fill
  | .right => List.replicate padding s.fill ++ sign ++ body
  | .center => List.replicate (padding / 2) s.fill ++ sign ++ body ++
      List.replicate (padding - padding / 2) s.fill
  | .inner => sign ++ marker ++ List.replicate padding s.fill ++ digits ++ rest

end Spec

end Disasm32.Template
