import Fiber.App

/-! `New`: the command-line flags, the settings defaults, and the conversions that one
app's settings switch for every app after it. -/
namespace Fiber

variable {F ρ : Type}

theorem parseFlags_eq (args : List String) (prefork child : Bool) :
    parseFlags args (prefork, child) =
      (prefork || args.contains "-prefork", child || args.contains "-child") := by
  induction args generalizing prefork child with
  | nil => simp only [parseFlags, List.contains_nil, Bool.or_false]
  | cons v vs ih =>
    simp only [parseFlags]
    split_ifs with hp hc
    · subst hp; simp [ih]
    · subst hc; simp [ih]
    · simp [ih, List.contains_cons, Ne.symm hp, Ne.symm hc]

theorem parseFlags_init (args : List String) :
    parseFlags args (false, false) = (args.contains "-prefork", args.contains "-child") := by
  rw [parseFlags_eq, Bool.false_or, Bool.false_or]

/-- Given settings keep every field but two: `Prefork` also follows the flag, and a zero
`BodyLimit` becomes 4 MiB. -/
theorem settingsDefaults_eq (prefork : Bool) (s : Settings) :
    settingsDefaults prefork s =
      { s with prefork := s.prefork || prefork,
               bodyLimit := if s.bodyLimit = 0 then 4 * 1024 * 1024 else s.bodyLimit } := by
  obtain ⟨p, strict, caseSensitive, header, immutable, limit⟩ := s
  by_cases h : limit = 0
  · subst h
    cases p <;> rfl
  · cases p <;> simp only [settingsDefaults, h, Bool.not_false, Bool.not_true, Bool.false_eq_true,
      ↓reduceIte, Bool.false_or, Bool.true_or]

theorem new_run_nil (osArgs : OsArgs) (conv : Conversions) :
    (new osArgs [] : EStateM String Conversions (App F ρ)).run conv =
      .ok { server := none, routes := [], child := osArgs.rest.contains "-child",
            recover := none,
            settings := { prefork := osArgs.rest.contains "-prefork", strictRouting := false,
                          caseSensitive := false, serverHeader := "",
                          immutable := false, bodyLimit := 4 * 1024 * 1024 } } conv := by
  unfold new
  rw [parseFlags_init]
  rfl

/-- A nil `*Settings` panics before anything is changed. -/
theorem new_run_none (osArgs : OsArgs) (settings : List (Option Settings)) (conv : Conversions) :
    (new osArgs (none :: settings) : EStateM String Conversions (App F ρ)).run conv =
      .error "runtime error: invalid memory address or nil pointer dereference" conv := rfl

theorem new_run_some (osArgs : OsArgs) (s : Settings) (settings : List (Option Settings))
    (conv : Conversions) :
    (new osArgs (some s :: settings) : EStateM String Conversions (App F ρ)).run conv =
      .ok { server := none, routes := [], child := osArgs.rest.contains "-child",
            recover := none, settings := settingsDefaults (osArgs.rest.contains "-prefork") s }
        (if s.immutable then .copying else conv) := by
  have hi : (settingsDefaults (osArgs.rest.contains "-prefork") s).immutable = s.immutable := by
    rw [settingsDefaults_eq]
  unfold new
  rw [parseFlags_init]
  dsimp only
  rw [← hi]
  cases (settingsDefaults (osArgs.rest.contains "-prefork") s).immutable <;> rfl

/-- The app `New` builds is a prefork child exactly when `-child` is on the command line,
and preforks whenever `-prefork` is. -/
theorem new_flags {osArgs : OsArgs} {settings : List (Option Settings)}
    {conv conv' : Conversions} {app : App F ρ}
    (h : (new osArgs settings).run conv = .ok app conv') :
    app.child = osArgs.rest.contains "-child" ∧
      (osArgs.rest.contains "-prefork" = true → app.settings.prefork = true) := by
  match settings, h with
  | [], h => rw [new_run_nil] at h; cases h; simp
  | none :: _, h => rw [new_run_none] at h; cases h
  | some s :: _, h =>
    rw [new_run_some] at h
    cases h
    simp only [settingsDefaults_eq, true_and]
    exact fun hp => by rw [hp, Bool.or_true]

/-- `New` builds an app with no server yet and a body limit that is never 0. -/
theorem new_fresh {osArgs : OsArgs} {settings : List (Option Settings)}
    {conv conv' : Conversions} {app : App F ρ}
    (h : (new osArgs settings).run conv = .ok app conv') :
    app.server = none ∧ app.settings.bodyLimit ≠ 0 := by
  match settings, h with
  | [], h => rw [new_run_nil] at h; cases h; simp
  | none :: _, h => rw [new_run_none] at h; cases h
  | some s :: _, h =>
    rw [new_run_some] at h
    cases h
    simp only [settingsDefaults_eq, true_and]
    split <;> omega

theorem settingsDefaults_idem (prefork : Bool) (s : Settings) :
    settingsDefaults prefork (settingsDefaults prefork s) = settingsDefaults prefork s := by
  simp only [settingsDefaults_eq, Bool.or_assoc, Bool.or_self]
  split_ifs <;> simp_all

/-- `New` writes its defaults into the caller's `*Settings`: `Prefork` also follows the
`-prefork` flag, and a zero `BodyLimit` becomes 4 MiB. The app keeps the pointer, so apps
made from one struct share it, and a second `New` on that struct in the same process builds
the app the first one built and switches the conversions as the first did. -/
theorem new_shared_settings {osArgs : OsArgs} {s : Settings} {settings : List (Option Settings)}
    {conv conv' : Conversions} {app : App F ρ}
    (h : (new osArgs (some s :: settings)).run conv = .ok app conv')
    (settings' : List (Option Settings)) (conv'' : Conversions) :
    app.settings =
        { s with prefork := s.prefork || osArgs.rest.contains "-prefork",
                 bodyLimit := if s.bodyLimit = 0 then 4 * 1024 * 1024 else s.bodyLimit } ∧
      (new osArgs (some app.settings :: settings')).run conv'' =
        .ok app (if s.immutable then .copying else conv'') := by
  rw [new_run_some] at h
  cases h
  exact ⟨settingsDefaults_eq _ _, by rw [new_run_some, settingsDefaults_idem, settingsDefaults_eq]⟩

theorem new_shared_settings_twice :
    ∃ (app : App Nat Unit) (conv' : Conversions),
      (new ⟨"fiber", ["-prefork"]⟩ [some ⟨false, false, false, "", true, 0⟩]).run .zeroCopy =
        .ok app conv' ∧
      app.settings = ⟨true, false, false, "", true, 4 * 1024 * 1024⟩ ∧
      (new ⟨"fiber", ["-prefork"]⟩ [some app.settings]).run .zeroCopy = .ok app .copying := by
  refine ⟨?app, ?conv', ?h, new_shared_settings ?h [] .zeroCopy⟩
  case h => exact new_run_some _ _ _ _

def immutableRequested : List (Option Settings) → Bool
  | some s :: _ => s.immutable
  | _ => false

theorem new_conversions {osArgs : OsArgs} {settings : List (Option Settings)}
    {conv conv' : Conversions} {app : App F ρ}
    (h : (new osArgs settings).run conv = .ok app conv') :
    conv' = if immutableRequested settings then .copying else conv := by
  match settings, h with
  | [], h => rw [new_run_nil] at h; cases h; rfl
  | none :: _, h => rw [new_run_none] at h; cases h
  | some s :: _, h => rw [new_run_some] at h; cases h; rfl

/-- The conversions belong to the package, not to an app: after any sequence of `New`
calls they copy exactly when they copied before or some call asked for `Immutable`,
whatever the calls after it asked. -/
theorem new_conversions_run (calls : List (OsArgs × List (Option Settings)))
    (conv conv' : Conversions) (apps : List (App F ρ))
    (h : (calls.mapM fun c => new c.1 c.2).run conv = .ok apps conv') :
    conv' = .copying ↔ conv = .copying ∨ ∃ c ∈ calls, immutableRequested c.2 = true := by
  induction calls generalizing conv apps with
  | nil => cases h; simp
  | cons c cs ih =>
    rw [List.mapM_cons] at h
    obtain ⟨app, conv₁, hnew, h⟩ := run_bind_ok h
    obtain ⟨apps', conv₂, hrest, h⟩ := run_bind_ok h
    cases h
    rw [ih conv₁ apps' hrest, new_conversions hnew]
    cases hreq : immutableRequested c.2 <;> simp [hreq]

def immutableThenNot : List (OsArgs × List (Option Settings)) :=
  [(⟨"fiber", []⟩, [some ⟨false, false, false, "", true, 0⟩]),
    (⟨"fiber", []⟩, [some ⟨false, false, false, "", false, 0⟩])]

theorem new_conversions_run_second_app :
    (∃ apps : List (App Nat Unit),
      (immutableThenNot.mapM fun c => new c.1 c.2).run .zeroCopy = .ok apps .copying) ∧
    (Conversions.copying = .copying ↔ Conversions.zeroCopy = .copying ∨
      ∃ c ∈ immutableThenNot, immutableRequested c.2 = true) := by
  refine ⟨⟨?apps, ?run⟩, new_conversions_run immutableThenNot _ _ ?apps ?run⟩
  case run => exact rfl

end Fiber
