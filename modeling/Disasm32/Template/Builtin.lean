import Disasm32.Template.Render

/-! The attributes and indices that the program follows when it runs: the parts of the number, its
class, a few operations, and the names of these. Others are refused as if they did not exist. -/
namespace Disasm32.Template

inductive Builtin where
  | number (n : Int)
  | text (cs : List Char)
  | sort (name : String)
  /-- An operation of a number. -/
  | operation (name : String) (self : Int)
  deriving DecidableEq, Repr

namespace Builtin

def className : Builtin → String
  | number _ => "int"
  | text _ => "str"
  | sort _ => "type"
  | operation .. => "builtin_function_or_method"

def operations : List String :=
  ["conjugate", "bit_length", "bit_count", "to_bytes", "as_integer_ratio"]

def ofText (s : String) : Builtin := text s.toList

def noAttribute (x : Builtin) (name : String) : TemplateError :=
  let subject := match x with
    | sort name => "type object '" ++ name ++ "'"
    | _ => "'" ++ x.className ++ "' object"
  .foreign .attribute (subject ++ " has no attribute '" ++ name ++ "'")

/-- The sizes and the features of the class of numbers, as far as a number tells them. -/
def classNumbers : List (String × Nat) :=
  [("__flags__", 21501184), ("__basicsize__", 24), ("__itemsize__", 4), ("__dictoffset__", 0),
   ("__weakrefoffset__", 0)]

def named (x : Builtin) (name : String) : Except TemplateError Builtin :=
  if name = "__class__" then .ok (sort x.className)
  else match x with
    | number n =>
      if ["real", "numerator"].contains name then .ok (number n)
      else if name = "imag" then .ok (number 0)
      else if name = "denominator" then .ok (number 1)
      else if operations.contains name then .ok (operation name n)
      else .error (x.noAttribute name)
    | sort owner =>
      if ["__name__", "__qualname__"].contains name then .ok (ofText owner)
      else if name = "__module__" then .ok (ofText "builtins")
      else match if owner = "int" then classNumbers.lookup name else none with
        | some n => .ok (number n)
        | none => .error (x.noAttribute name)
    | operation own self =>
      if name = "__name__" then .ok (ofText own)
      else if name = "__qualname__" then .ok (ofText ("int." ++ own))
      else if name = "__self__" then .ok (number self)
      else .error (x.noAttribute name)
    | text _ => .error (x.noAttribute name)

def item (x : Builtin) (position? : Option Nat) : Except TemplateError Builtin :=
  match x, position? with
  | text cs, some n => match cs[n]? with
    | some c => .ok (text [c])
    | none => .error (.foreign .index "string index out of range")
  | text _, none => .error (.foreign .type "string indices must be integers, not 'str'")
  | sort name, _ => .error (.foreign .type ("type '" ++ name ++ "' is not subscriptable"))
  | x, _ => .error (.foreign .type ("'" ++ x.className ++ "' object is not subscriptable"))

def step (x : Builtin) : Access → Except TemplateError Builtin
  | .attribute name => x.named (String.ofList name)
  | .index _ position? => x.item position?

/-- An object with one text, which takes the empty format only. -/
def plain (x : Builtin) (text : String) : Object :=
  { text := fun _ => .ok text.toList
    format := fun spec =>
      if spec.isEmpty then .ok text.toList
      else .error (.foreign .type
        ("unsupported format string passed to " ++ x.className ++ ".__format__")) }

/-- What a template makes of it. The place of the number in memory is left out of the text of an
operation. -/
def entity (x : Builtin) : Entity :=
  match x with
  | number n => .number n
  | text cs => .text cs
  | sort name => .object (x.plain ("<class '" ++ name ++ "'>"))
  | operation name _ => .object (x.plain ("<built-in method " ++ name ++ " of int object>"))

end Builtin

def Members.usual : Members := fun word path =>
  (path.foldlM Builtin.step (.number word)).map Builtin.entity

end Disasm32.Template
