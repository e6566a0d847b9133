import DuckMachine.Text.Basic

/-
  Conditions: sets of the four outcomes minus, zero, positive and overflow.

  The machine holds the outcome of the last operation as a condition, and an instruction carries
  one as its predicate: it executes if the two share an outcome. In text a condition is a row of
  distinct letters, or a word for the full and for the empty set.
-/

namespace DuckMachine

/-- A set of outcomes, one bit each: minus, zero, positive and overflow from bit 0 up. -/
structure Cond where
  bits : BitVec 4
  deriving DecidableEq, Repr, Inhabited

namespace Cond

def never : Cond := ⟨0⟩
def minus : Cond := ⟨1⟩
def zero : Cond := ⟨2⟩
def positive : Cond := ⟨4⟩
def overflow : Cond := ⟨8⟩
def always : Cond := ⟨15⟩

/-- The outcomes in both conditions. -/
def inter (a b : Cond) : Cond := ⟨a.bits &&& b.bits⟩

/-- The outcomes in either condition. -/
def union (a b : Cond) : Cond := ⟨a.bits ||| b.bits⟩

/-- Whether no outcome is in a condition. -/
def isEmpty (a : Cond) : Bool := a.bits == 0

/-- Whether two conditions share an outcome. -/
def intersects (a b : Cond) : Bool := !(a.inter b).isEmpty

/-- The condition whose bits are the low four of a number. -/
def ofNat (n : Nat) : Cond := ⟨BitVec.ofNat 4 n⟩

/-- The letters of the four outcomes, in the order in which they are written. -/
def letters : List (Char × Cond) :=
  [('M', minus), ('Z', zero), ('P', positive), ('V', overflow)]

/-- The outcome with this letter. -/
def ofLetter? : Char → Option Cond
  | 'M' => some minus
  | 'Z' => some zero
  | 'P' => some positive
  | 'V' => some overflow
  | _ => none

/-- `seen` together with the outcomes named by a row of letters, none of which may be in `seen`
    or occur twice. -/
def addLetters (seen : Cond) : Text → Option Cond
  | [] => some seen
  | c :: rest =>
    match ofLetter? c with
    | none => none
    | some outcome => if seen.intersects outcome then none else addLetters (seen.union outcome) rest

/-- The condition written as `ALWAYS`, `NEVER` or a row of distinct letters, at least one. -/
def ofText? (text : Text) : Option Cond :=
  if text = ['A', 'L', 'W', 'A', 'Y', 'S'] then some always
  else if text = ['N', 'E', 'V', 'E', 'R'] then some never
  else if text = [] then none
  else addLetters never text

/-- The text of a condition. -/
def render (a : Cond) : Text :=
  if a = always then ['A', 'L', 'W', 'A', 'Y', 'S']
  else if a = never then ['N', 'E', 'V', 'E', 'R']
  else (letters.filter fun entry => a.intersects entry.2).map Prod.fst

theorem ofText?_render (a : Cond) : ofText? a.render = some a := by
  obtain ⟨bits⟩ := a
  revert bits
  decide

end Cond

end DuckMachine
