import Airspace.Store.Value
import Airspace.Elementary.Hyperbolic
import Airspace.Elementary.Circular
import Airspace.Elementary.Arctangent

/-!
# The engine's mathematical functions

Each function takes its arguments as numbers the way the engine's numeric
conversion sees them: integers and reals as they are, a text only when the
whole of it reads as a number, and anything else (a blob, null, other text)
makes the result null. The result is a real, and a result that is not a number
(`sqrt(-1)`, `acos(2)`) is null too.

* `ceil`, `ceiling`, `floor` and `trunc` give an integer argument back as it is.
* `ln`, `log10`, `log2` and `log` of one argument are null for arguments that
  are not positive; `log(b, x)` is `ln x / ln b`, null unless `ln b` and `x`
  are positive.
* `degrees` and `radians` multiply by `180/π` and `π/180`; `pi()` is π.
-/

namespace Airspace.Store

open Airspace.Elementary

/-- A value as a number for the mathematical functions, if it is one. -/
def Cell.asNumber : Cell → Option Cell
  | .integer n => some (.integer n)
  | .real x => some (.real x)
  | .text bs => numericOfText bs
  | _ => none

/-- A real result; not-a-number is null. -/
def realResult (x : Float) : Cell := if x.isNaN then .null else .real x

/-- A function of one number. -/
def unaryMath (f : Float → Float) (c : Cell) : Cell :=
  match c.asNumber with
  | some n => realResult (f n.realValue)
  | none => .null

/-- A function of two numbers. -/
def binaryMath (f : Float → Float → Float) (a b : Cell) : Cell :=
  match a.asNumber, b.asNumber with
  | some x, some y => realResult (f x.realValue y.realValue)
  | _, _ => .null

/-- A rounding to a whole number: an integer stays as it is. -/
def wholeMath (f : Float → Float) (c : Cell) : Cell :=
  match c.asNumber with
  | some (.integer n) => .integer n
  | some n => realResult (f n.realValue)
  | none => .null

/-- Truncation toward zero of a real. -/
def truncate (x : Float) : Float := if x < 0 then x.ceil else x.floor

/-- A logarithm of one positive number. -/
def logarithmOf (f : Float → Float) (c : Cell) : Cell :=
  match c.asNumber with
  | some n => let x := n.realValue; if x ≤ 0 then .null else realResult (f x)
  | none => .null

/-- `log(b, x)`: only the base is checked as a number; `x` is read as a real. -/
def logarithmIn (b x : Cell) : Cell :=
  match b.asNumber with
  | some n =>
    let base := n.realValue
    if base ≤ 0 then .null
    else
      let lb := log base
      if lb ≤ 0 then .null
      else
        let y := x.realValue
        if y ≤ 0 then .null else realResult (log y / lb)
  | none => .null

/-- The number of arguments of each mathematical function. -/
def mathArities (lower : String) : Option (List Nat) :=
  match lower with
  | "ceil" | "ceiling" | "floor" | "trunc" | "ln" | "log10" | "log2" | "exp" | "acos" | "asin"
  | "atan" | "cos" | "sin" | "tan" | "cosh" | "sinh" | "tanh" | "acosh" | "asinh" | "atanh"
  | "sqrt" | "radians" | "degrees" => some [1]
  | "log" => some [1, 2]
  | "pow" | "power" | "mod" | "atan2" => some [2]
  | "pi" => some [0]
  | _ => none

/-- The value of a mathematical function, by its lower-case name. -/
def mathFunction (lower : String) (args : List Cell) : Option Cell :=
  let a := args.getD 0 .null
  let b := args.getD 1 .null
  match lower with
  | "ceil" | "ceiling" => some (wholeMath Float.ceil a)
  | "floor" => some (wholeMath Float.floor a)
  | "trunc" => some (wholeMath truncate a)
  | "ln" => some (logarithmOf log a)
  | "log10" => some (logarithmOf log10 a)
  | "log2" => some (logarithmOf log2 a)
  | "log" => some (if args.length = 2 then logarithmIn a b else logarithmOf log10 a)
  | "exp" => some (unaryMath exp a)
  | "pow" | "power" => some (binaryMath pow a b)
  | "mod" => some (binaryMath Binary64.rem a b)
  | "acos" => some (unaryMath acos a)
  | "asin" => some (unaryMath asin a)
  | "atan" => some (unaryMath atan a)
  | "atan2" => some (binaryMath atan2 a b)
  | "cos" => some (unaryMath cos a)
  | "sin" => some (unaryMath sin a)
  | "tan" => some (unaryMath tan a)
  | "cosh" => some (unaryMath cosh a)
  | "sinh" => some (unaryMath sinh a)
  | "tanh" => some (unaryMath tanh a)
  | "acosh" => some (unaryMath acosh a)
  | "asinh" => some (unaryMath asinh a)
  | "atanh" => some (unaryMath atanh a)
  | "sqrt" => some (unaryMath Float.sqrt a)
  | "radians" => some (unaryMath (· * (pi / 180.0)) a)
  | "degrees" => some (unaryMath (· * (180.0 / pi)) a)
  | "pi" => some (.real pi)
  | _ => none

end Airspace.Store
