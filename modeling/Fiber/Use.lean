import Fiber.Group

/-! `Use` on the app and on a group: one `USE` registration, or `log.Fatalf` with the app
left as it was. -/
namespace Fiber

variable {F ρ : Type}

theorem useCase_isNone (a : Value F) :
    (useCase a).isNone = (a.asString.isNone && a.asHandler.isNone) := by
  cases a <;> rfl

/-- Over any arguments the loop keeps the last path and appends every handler in order. -/
theorem useCase_foldl (args : List (Value F)) (st : UseState F) :
    args.foldl (fun st a => (useCase a).getD id st) st =
      ⟨(args.filterMap Value.asString).getLast?.getD st.path,
        st.handlers ++ args.filterMap Value.asHandler⟩ := by
  induction args generalizing st with
  | nil => simp
  | cons a args ih =>
    rw [List.foldl_cons, ih]
    cases a <;> simp [useCase, Value.asString, Value.asHandler, List.getLast?_cons]

theorem useArgs_eq (args : List (Value F)) :
    useArgs args =
      match args.find? (fun a => a.asString.isNone && a.asHandler.isNone) with
      | some a => .error ("Invalid handler: " ++ a.typeOf)
      | none => .ok ⟨(args.filterMap Value.asString).getLast?.getD "",
          args.filterMap Value.asHandler⟩ := by
  rw [useArgs, typeSwitch_eq, useCase_foldl]
  simp only [useCase_isNone]
  cases args.find? (fun a => a.asString.isNone && a.asHandler.isNone) <;> rfl

section
variable (r : Router F ρ)

theorem App.use_run (args : List (Value F)) (app : App F ρ) :
    (App.use r args).run app =
      match args.find? (fun a => a.asString.isNone && a.asHandler.isNone) with
      | some a => .error ("Invalid handler: " ++ a.typeOf) app
      | none => (r.registerMethod "USE" ((args.filterMap Value.asString).getLast?.getD "")
          (args.filterMap Value.asHandler)).run app := by
  unfold App.use
  rw [useArgs_eq]
  cases args.find? (fun a => a.asString.isNone && a.asHandler.isNone) <;> rfl

theorem Group.use_run (grp : Group) (args : List (Value F)) (app : App F ρ) :
    (Group.use r grp args).run app =
      match args.find? (fun a => a.asString.isNone && a.asHandler.isNone) with
      | some a => .error ("Invalid handler: " ++ a.typeOf) app
      | none => (r.registerMethod "USE"
          (r.groupPaths grp.pfx ((args.filterMap Value.asString).getLast?.getD ""))
          (args.filterMap Value.asHandler)).run app := by
  unfold Group.use
  rw [useArgs_eq]
  cases args.find? (fun a => a.asString.isNone && a.asHandler.isNone) <;> rfl

/-- `Use` is one registration, with the last path and every handler in order, wherever the
strings stand among the handlers; the group's `Use` differs only by `groupPaths`. Any
other argument ends the process before the registration. -/
theorem use_registers_once (grp : Group) (args : List (Value F)) (app : App F ρ) :
    let path := (args.filterMap Value.asString).getLast?.getD ""
    let handlers := args.filterMap Value.asHandler
    ((∀ a ∈ args, a.asString.isSome ∨ a.asHandler.isSome) →
      (App.use r args).run app = (r.registerMethod "USE" path handlers).run app ∧
      (Group.use r grp args).run app =
        (r.registerMethod "USE" (r.groupPaths grp.pfx path) handlers).run app) ∧
    ((∃ a ∈ args, a.asString = none ∧ a.asHandler = none) →
      ∃ a ∈ args, a.asString = none ∧ a.asHandler = none ∧
        (App.use r args).run app = .error ("Invalid handler: " ++ a.typeOf) app ∧
        (Group.use r grp args).run app = .error ("Invalid handler: " ++ a.typeOf) app) := by
  intro path handlers
  rw [App.use_run, Group.use_run]
  cases hf : args.find? (fun a => a.asString.isNone && a.asHandler.isNone) with
  | none =>
    refine ⟨fun _ => ⟨rfl, rfl⟩, ?_⟩
    rintro ⟨a, ha, hs, hh⟩
    simpa [hs, hh] using find?_rejected_none hf a ha
  | some a =>
    obtain ⟨ha, hs, hh⟩ := find?_rejected_some hf
    refine ⟨fun hvalid => ?_, fun _ => ⟨a, ha, hs, hh, rfl, rfl⟩⟩
    simpa [hs, hh] using hvalid a ha

example (r : Router Nat Unit) (app : App Nat Unit) :
    (App.use r [.handler 1, .string "/a", .handler 2, .string "/b"]).run app =
      (r.registerMethod "USE" "/b" [1, 2]).run app := rfl

end

end Fiber
