import Mathlib.Data.List.Basic
import CoreOps.Lib.Json

/-! Places in a document: the keys and the positions that lead to a value. -/

namespace Json

inductive Step
  | key (k : String)
  | item (i : ℕ)
  deriving DecidableEq, Repr

def child? : Json → Step → Option Json
  | .obj members, .key k => members.lookup k
  | .arr items, .item i => items[i]?
  | _, _ => none

def at? : Json → List Step → Option Json
  | j, [] => some j
  | j, step :: path => (j.child? step).bind (at? · path)

@[simp] theorem at?_nil (j : Json) : j.at? [] = some j := rfl

@[simp] theorem at?_cons (j : Json) (step : Step) (path : List Step) :
    j.at? (step :: path) = (j.child? step).bind (·.at? path) := rfl

theorem at?_append (j : Json) (path path' : List Step) :
    j.at? (path ++ path') = (j.at? path).bind (·.at? path') := by
  induction path generalizing j with
  | nil => rfl
  | cons step path ih =>
    rw [List.cons_append, at?_cons, at?_cons, Option.bind_assoc]
    exact congrArg _ (funext ih)

/-- The path goes through a list. -/
def Step.isItem : Step → Bool
  | .item _ => true
  | .key _ => false

def isScalar : Json → Bool
  | .arr _ | .obj _ => false
  | _ => true

end Json
