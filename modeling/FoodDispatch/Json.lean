import FoodDispatch.Python
import Mathlib.Data.List.Basic

/-! Values that Python's json module builds, and what subscripts, `.get` and
`int()` do with each of them. -/
namespace FoodDispatch

inductive Json where
  | null
  | bool (value : Bool)
  | int (value : ℤ)
  | float (value : Double)
  | str (value : String)
  | list (items : List Json)
  | dict (entries : List (String × Json))

abbrev Dict := List (String × Json)

/-- `dict.get(key, default)`. -/
def Dict.get (entries : Dict) (key : String) (default : Json) : Json :=
  (entries.lookup key).getD default

/-- `dict[key]`. -/
def Dict.item (entries : Dict) (key : String) : Except PyException Json :=
  match entries.lookup key with
  | some value => .ok value
  | none => .error .keyError

namespace Json

/-- `.get` exists on a dict only. -/
def asDict : Json → Except PyException Dict
  | .dict entries => .ok entries
  | _ => .error .attributeError

/-- `value[key]` for a string key. -/
def item (key : String) : Json → Except PyException Json
  | .dict entries => Dict.item entries key
  | _ => .error .typeError

/-- `value[0]`. A dict that came out of JSON has string keys only. -/
def first : Json → Except PyException Json
  | .list [] => .error .indexError
  | .list (head::_) => .ok head
  | .str text => match text.toList with
    | [] => .error .indexError
    | head::_ => .ok (.str (String.ofList [head]))
  | .dict _ => .error .keyError
  | _ => .error .typeError

/-- `value == text`, also for a member of a string enum. -/
def equals (text : String) : Json → Bool
  | .str value => value == text
  | _ => false

end Json

namespace PyInt

/-- The zeros of the decimal digits of Unicode 15.1. -/
def zeroDigits : List ℕ :=
  [0x30,0x660,0x6f0,0x7c0,0x966,0x9e6,0xa66,0xae6,0xb66,0xbe6,0xc66,0xce6,0xd66,0xde6,0xe50,0xed0,
    0xf20,0x1040,0x1090,0x17e0,0x1810,0x1946,0x19d0,0x1a80,0x1a90,0x1b50,0x1bb0,0x1c40,0x1c50,
    0xa620,0xa8d0,0xa900,0xa9d0,0xa9f0,0xaa50,0xabf0,0xff10,0x104a0,0x10d30,0x11066,0x110f0,
    0x11136,0x111d0,0x112f0,0x11450,0x114d0,0x11650,0x116c0,0x11730,0x118e0,0x11950,0x11c50,
    0x11d50,0x11da0,0x11f50,0x16a60,0x16ac0,0x16b50,0x1d7ce,0x1d7d8,0x1d7e2,0x1d7ec,0x1d7f6,
    0x1e140,0x1e2f0,0x1e4f0,0x1e950,0x1fbf0]

def digit (char : Char) : Option ℕ :=
  (zeroDigits.find? (fun start => start ≤ char.toNat ∧ char.toNat < start + 10)).map
    (fun start => char.toNat - start)

def blanks : List ℕ :=
  [0x9,0xa,0xb,0xc,0xd,0x20,0x85,0xa0,0x1680,0x2000,0x2001,0x2002,0x2003,0x2004,0x2005,0x2006,
    0x2007,0x2008,0x2009,0x200a,0x2028,0x2029,0x202f,0x205f,0x3000]

def strip (chars : List Char) : List Char :=
  let blank := fun (char : Char) => blanks.contains char.toNat
  ((chars.dropWhile blank).reverse.dropWhile blank).reverse

def digits : List Char → Option (List ℕ)
  | [] => none
  | [char] => (digit char).map ([·])
  | char :: '_' :: rest => match digit char, digits rest with
    | some value, some values => some (value::values)
    | _, _ => none
  | char::rest => match digit char, digits rest with
    | some value, some values => some (value::values)
    | _, _ => none

/-- The default limit on the digits of a string that is converted. -/
def maxStrDigits : ℕ := 4300

def magnitude (chars : List Char) : Option ℤ :=
  match digits chars with
  | none => none
  | some values => if maxStrDigits < values.length then none
    else some (values.foldl (fun total value => total * 10 + value) 0)

/-- `int(text)`, `none` for a `ValueError`. -/
def ofString (text : String) : Option ℤ :=
  match strip text.toList with
  | '-' :: rest => (magnitude rest).map (fun value => -value)
  | '+' :: rest => magnitude rest
  | chars => magnitude chars

/-- `int(value)`: numbers are truncated, infinities overflow. -/
def ofJson : Json → Except PyException ℤ
  | .bool value => .ok (if value then 1 else 0)
  | .int value => .ok value
  | .float (.finite value) => .ok (value.num.tdiv value.den)
  | .float .nan => .error (.valueError "cannot convert float NaN to integer")
  | .float _ => .error .overflowError
  | .str text => match ofString text with
    | some value => .ok value
    | none => .error (.valueError "invalid literal for int() with base 10")
  | _ => .error .typeError

end PyInt
end FoodDispatch
