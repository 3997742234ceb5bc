import CoreOps.Lib.Checked
import CoreOps.Lib.Text

/-! Python as the publishers use it: the exceptions their handlers tell apart, the values
that YAML and JSON load as, and what they ask of the libraries. -/

namespace CoreOps.Publishers

open Checked Text

inductive ErrorKind
  | fileNotFoundError
  | osError
  | unicodeError
  | valueError
  | yamlError
  | recursionError
  | runtimeError
  | attributeError
  | indexError
  | other (name : String)
  deriving DecidableEq, Repr

/-- An exception, with its `str`. -/
structure PyError where
  kind : ErrorKind
  message : String
  deriving DecidableEq, Repr

namespace PyError

variable (e : PyError)

def isOSError : Bool := e.kind = .fileNotFoundError || e.kind = .osError

def isValueError : Bool := e.kind = .unicodeError || e.kind = .valueError

def isYamlError : Bool := e.kind = .yamlError

def isRuntimeError : Bool := e.kind = .recursionError || e.kind = .runtimeError

/-- `except (OSError, ValueError, UnicodeError)`. -/
def isTextError : Bool := e.isOSError || e.isValueError

/-- `except (OSError, ValueError, yaml.YAMLError)`. -/
def isReadError : Bool := e.isTextError || e.isYamlError

/-- `except (OSError, ValueError, RuntimeError, yaml.YAMLError)`. -/
def isPublishError : Bool := e.isReadError || e.isRuntimeError

variable {e}

theorem isPublishError_of_isReadError (h : e.isReadError = true) : e.isPublishError = true := by
  rw [isPublishError, h, Bool.true_or]

end PyError

def valueError (message : String) : PyError := ⟨.valueError, message⟩

def runtimeError (message : String) : PyError := ⟨.runtimeError, message⟩

/-- A value of YAML or JSON. A text with lone surrogates, which no stream can write, is
kept with these escaped; a float, a date or the like by its `str`. -/
inductive PyValue
  | none
  | bool (b : Bool)
  | int (n : ℤ)
  | str (s : String)
  | lone (escaped : String)
  | list (items : List PyValue)
  | dict (entries : List (PyValue × PyValue))
  | object (truthy : Bool) (text : String)

/-- A dictionary in its order. -/
abbrev Dict := List (PyValue × PyValue)

namespace PyValue

def isNone : PyValue → Bool
  | none => true
  | _ => false

def truthy : PyValue → Bool
  | none => false
  | bool b => b
  | int n => n ≠ 0
  | str s => s ≠ ""
  | lone _ => true
  | list items => !items.isEmpty
  | dict entries => !entries.isEmpty
  | object truthy _ => truthy

/-- `a or b`. -/
def orElse (a b : PyValue) : PyValue := if a.truthy then a else b

/-- The text of an `isinstance(v, str)`. -/
def str? : PyValue → Option String
  | str s => some s
  | lone escaped => some escaped
  | _ => Option.none

/-- `isinstance(v, int)`. -/
def isInt : PyValue → Bool
  | bool _ => true
  | int _ => true
  | _ => false

def isTrue : PyValue → Bool
  | bool b => b
  | _ => false

def dict? : PyValue → Option Dict
  | dict entries => some entries
  | _ => Option.none

def list? : PyValue → Option (List PyValue)
  | list items => some items
  | _ => Option.none

def isLone : PyValue → Bool
  | lone _ => true
  | _ => false

/-- `v == text`, for a text without surrogates. -/
def isText (v : PyValue) (text : String) : Bool :=
  match v with
  | str s => s = text
  | _ => false

theorem isLone_of_isInt {v : PyValue} (h : v.isInt = true) : v.isLone = false := by
  cases v <;> simp_all [isInt, isLone]

theorem dict?_eq_some {v : PyValue} {d : Dict} : v.dict? = some d ↔ v = .dict d := by
  cases v <;> simp [dict?]

end PyValue

namespace Dict

/-- `d.get(key, default)`. -/
def getD (d : Dict) (key : String) (default : PyValue) : PyValue :=
  match d.find? fun entry => entry.1.isText key with
  | some entry => entry.2
  | none => default

def get (d : Dict) (key : String) : PyValue := getD d key .none

/-- `d[key] = v`, at the place of the key, or at the end. -/
def set : Dict → String → PyValue → Dict
  | [], key, v => [(.str key, v)]
  | entry :: d, key, v => if entry.1.isText key then (entry.1, v) :: d else entry :: set d key v

theorem getD_set (d : Dict) (key other : String) (v default : PyValue) :
    getD (set d key v) other default = if other = key then v else getD d other default := by
  have htext : ∀ {k : PyValue} {a b : String}, k.isText a = true → k.isText b = decide (b = a) := by
    intro k a b hk
    cases k with
    | str s =>
      obtain rfl := of_decide_eq_true hk
      exact decide_eq_decide.2 eq_comm
    | _ => cases hk
  induction d with
  | nil =>
    by_cases heq : other = key
    · simp [set, getD, PyValue.isText, heq]
    · simp [set, getD, PyValue.isText, heq, Ne.symm heq]
  | cons entry d ih =>
    unfold set
    by_cases hkey : entry.1.isText key = true
    · rw [if_pos hkey]
      by_cases heq : other = key
      · simp [getD, htext hkey, heq]
      · simp [getD, htext hkey, heq]
    · rw [if_neg hkey]
      by_cases hother : entry.1.isText other = true
      · have hne : other ≠ key := fun heq => hkey (heq ▸ hother)
        simp [getD, hother, hne]
      · simpa [getD, hother] using ih

@[simp] theorem get_set_self (d : Dict) (key : String) (v : PyValue) : get (set d key v) key = v := by
  rw [get, getD_set, if_pos rfl]

theorem get_set_of_ne (d : Dict) {key other : String} (h : other ≠ key) (v : PyValue) :
    get (set d key v) other = get d other := by
  rw [get, getD_set, if_neg h, get]

end Dict

/-- A point in time, with a zone or without. -/
structure DateTime where
  instant : ℤ
  aware : Bool
  deriving DecidableEq, Repr

/-- The libraries, over file contents of type `F`. -/
structure Runtime (F : Type) where
  /-- `yaml.safe_load` of an opened file. -/
  safeLoad : F → Except PyError PyValue
  /-- `yaml.safe_dump` into a new file. -/
  safeDump : PyValue → Except PyError F
  /-- `Path.read_text(encoding="utf-8")`. -/
  readText : F → Except PyError String
  /-- `str` of what is no text. -/
  repr : PyValue → String
  /-- `dateutil.parser.isoparse`, where it does not raise. -/
  isoparse : String → Option DateTime
  /-- `datetime.fromisoformat`, where it does not raise. -/
  fromisoformat : String → Option DateTime
  /-- `(pack_dir / source).resolve()`, by its path in the pack when it is inside. -/
  resolve : String → Except PyError (Option String)

/-- `str(v)`. -/
def Runtime.str {F : Type} (rt : Runtime F) (v : PyValue) : String := v.str?.getD (rt.repr v)

end CoreOps.Publishers
