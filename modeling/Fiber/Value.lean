import Mathlib.Data.List.Basic

/-! Go values behind `interface{}` parameters, and the type-switch loop that reads them. -/
namespace Fiber

/-- A Go value passed as `interface{}`, by its dynamic type. Function values are
only ever stored, called or compared with nil, so they are elements of an abstract `F`;
a `predicate` is `none` when it is a nil `func(*fiber.Ctx) bool`, which still has that
dynamic type. `other` stands for a value of any type no switch of the package names. -/
inductive Value (F : Type) where
  | string (s : String)
  | int (n : Int)
  | handler (f : F)
  | predicate (f : Option F)
  | nil
  | other (type : String)
  deriving DecidableEq

variable {F σ : Type}

/-- `reflect.TypeOf(v)`, as `%v` prints it. -/
def Value.typeOf : Value F → String
  | .string _ => "string"
  | .int _ => "int"
  | .handler _ => "func(*fiber.Ctx)"
  | .predicate _ => "func(*fiber.Ctx) bool"
  | .nil => "<nil>"
  | .other type => type

-- The type assertions `v.(string)`, `v.(int)`, `v.(func(*Ctx))`, `v.(func(*fiber.Ctx) bool)`.
def Value.asString : Value F → Option String
  | .string s => some s
  | _ => none

def Value.asInt : Value F → Option Int
  | .int n => some n
  | _ => none

def Value.asHandler : Value F → Option F
  | .handler f => some f
  | _ => none

def Value.asPredicate : Value F → Option (Option F)
  | .predicate f => some f
  | _ => none

/-- `for i := range args { switch arg := args[i].(type) { ... } }`. The case that the
dynamic type of `arg` selects updates the loop variables; a value no case names reaches
`default`, whose `log.Fatal` ends the process with the message `fatal arg`. -/
def typeSwitch (cases : Value F → Option (σ → σ)) (fatal : Value F → String) :
    σ → List (Value F) → Except String σ
  | st, [] => .ok st
  | st, arg :: args =>
    match cases arg with
    | some update => typeSwitch cases fatal (update st) args
    | none => .error (fatal arg)

/-- The loop aborts at the first value no case accepts; otherwise it applies every
case body in argument order. -/
theorem typeSwitch_eq (cases : Value F → Option (σ → σ)) (fatal : Value F → String)
    (st : σ) (args : List (Value F)) :
    typeSwitch cases fatal st args =
      match args.find? (fun a => (cases a).isNone) with
      | some a => .error (fatal a)
      | none => .ok (args.foldl (fun st a => (cases a).getD id st) st) := by
  induction args generalizing st with
  | nil => rfl
  | cons a args ih =>
    cases h : cases a with
    | none => simp [typeSwitch, h]
    | some update => simp [typeSwitch, h, ih]

section Rejected

variable {β γ : Type} {p : Value F → Option β} {q : Value F → Option γ}
  {args : List (Value F)}

theorem find?_rejected_none (h : args.find? (fun a => (p a).isNone && (q a).isNone) = none) :
    ∀ a ∈ args, (p a).isSome ∨ (q a).isSome := by
  intro a ha
  simpa [Option.isNone_iff_eq_none, Option.isSome_iff_ne_none, or_iff_not_and_not] using
    List.find?_eq_none.mp h a ha

theorem find?_rejected_some {a : Value F}
    (h : args.find? (fun a => (p a).isNone && (q a).isNone) = some a) :
    a ∈ args ∧ p a = none ∧ q a = none :=
  ⟨List.mem_of_find?_eq_some h, by simpa using List.find?_some h⟩

end Rejected

end Fiber
