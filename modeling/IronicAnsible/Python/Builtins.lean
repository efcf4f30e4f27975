import IronicAnsible.Python.Value

/-!
# The small library functions the driver leans on

`str.startswith`, slicing, `os.path.join`, `int()` on a string, `str.join`, `str.strip` and oslo's
`strutils.bool_from_string`, each as the library defines it. Python's `strip` and `lower`
know all of Unicode; here they know ASCII, which is what paths, flags and numerals are made
of.
-/

namespace IronicAnsible

/-- `s.startswith(prefix)`. -/
def startswith (s pre : String) : Bool := pre.toList.isPrefixOf s.toList

/-- `s[n:]`. -/
def sliceFrom (s : String) (n : Nat) : String := String.mk (s.toList.drop n)

theorem startswith_iff {s pre : String} : startswith s pre = true ↔ ∃ t, s = pre ++ t := by
  simp only [startswith, String.toList, List.isPrefixOf_iff_prefix]
  constructor
  · rintro ⟨t, ht⟩
    exact ⟨String.mk t, String.ext (by simp [ht])⟩
  · rintro ⟨t, rfl⟩
    exact List.prefix_append _ _

theorem append_left_cancel {pre s t : String} (h : pre ++ s = pre ++ t) : s = t :=
  String.ext (List.append_cancel_left (congrArg String.data h))

@[simp] theorem sliceFrom_append (pre t : String) : sliceFrom (pre ++ t) pre.length = t :=
  String.ext (List.drop_left pre.data t.data)

/-- `s.endswith(suffix)`. -/
def endswith (s suf : String) : Bool := suf.toList.isSuffixOf s.toList

/-- `os.path.join(a, b)` on POSIX. -/
def pathJoin (a b : String) : String :=
  if startswith b "/" then b
  else if a.isEmpty || endswith a "/" then a ++ b
  else a ++ "/" ++ b

/-- `os.path.join(a, b)` when `b` comes from the node record and may be anything. -/
def pathJoinValue (a : String) : Value → Except Exc String
  | .str b => .ok (pathJoin a b)
  | v => .error (.typeError ("expected str, bytes or os.PathLike object, not " ++ v.typeName))

/-- ASCII whitespace. -/
def isPySpace (c : Char) : Bool :=
  c == ' ' || c == '\t' || c == '\n' || c == '\r' || c == '\x0b' || c == '\x0c'

/-- `str.strip()`. -/
def pyStrip (cs : List Char) : List Char :=
  ((cs.dropWhile isPySpace).reverse.dropWhile isPySpace).reverse

/-- The digits of a decimal literal, `_` allowed between two digits, and their value. -/
def digitsValue (cs : List Char) : Option Nat :=
  if cs.head?.all Char.isDigit && cs.getLast?.all Char.isDigit && !cs.isEmpty &&
      cs.all (fun c => c.isDigit || c == '_') && !decide (['_', '_'] <:+: cs) then
    some ((cs.filter Char.isDigit).foldl (fun n c => 10 * n + (c.toNat - '0'.toNat)) 0)
  else none

/-- `int(s)` on a string: surrounding whitespace, a sign, then a decimal literal. -/
def pyInt (s : String) : Option Int :=
  match pyStrip s.toList with
  | '-' :: ds => (digitsValue ds).map fun n => -(n : Int)
  | '+' :: ds => (digitsValue ds).map Int.ofNat
  | ds => (digitsValue ds).map Int.ofNat

/-- `int(s)`, raising Python's `ValueError`. -/
def pyIntOrRaise (s : String) : Except Exc Int :=
  match pyInt s with
  | some n => .ok n
  | none => .error (.valueError ("invalid literal for int() with base 10: " ++ (Value.str s).pyRepr))

/-- The strings of `str.join`, each item required to be a string. -/
def joinItems : Nat → List Value → Except Exc (List String)
  | _, [] => .ok []
  | i, .str s :: vs => (joinItems (i + 1) vs).map (s :: ·)
  | i, v :: _ => .error (.typeError
      ("sequence item " ++ toString i ++ ": expected str instance, " ++ v.typeName ++ " found"))

/-- `sep.join(v)`. -/
def strJoin (sep : String) (v : Value) : Except Exc String := do
  let items ← v.iter
  let strs ← joinItems 0 items
  pure (sep.intercalate strs)

/-- `strutils.TRUE_STRINGS`. -/
def trueStrings : List String := ["1", "t", "true", "on", "y", "yes"]

/-- `strutils.bool_from_string(subject)`, not strict, default `False`. -/
def boolFromString : Value → Bool
  | .bool b => b
  | v => (String.mk (pyStrip v.pyStr.toList)).toLower ∈ trueStrings

end IronicAnsible
