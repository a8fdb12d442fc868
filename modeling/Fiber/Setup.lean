import Fiber.Use

/-! Setup scripts. A script of registration calls, on the app and on its groups, does
what the explicit registrations it stands for do, in order, until a `Use` whose
arguments `log.Fatalf` rejects. -/
namespace Fiber

/-- The methods that register one route under a fixed method name. -/
inductive Method where
  | connect | put | post | delete | head | patch | options | trace | get | all
  deriving DecidableEq

def Method.name : Method → String
  | .connect => "CONNECT"
  | .put => "PUT"
  | .post => "POST"
  | .delete => "DELETE"
  | .head => "HEAD"
  | .patch => "PATCH"
  | .options => "OPTIONS"
  | .trace => "TRACE"
  | .get => "GET"
  | .all => "ALL"

inductive Receiver where
  | app
  | group (grp : Group)
  deriving DecidableEq

/-- A call of the registration surface of `app.go` and `group.go`. -/
inductive Call (F : Type) where
  | route (recv : Receiver) (method : Method) (path : String) (handlers : List F)
  | use (recv : Receiver) (args : List (Value F))
  | group (recv : Receiver) (pfx : String) (handlers : List F)
  | static (recv : Receiver) (pfx root : String) (config : List Static)
  | webSocket (recv : Receiver) (path : String) (handle : F)

/-- A registration as the explicit design states it: a path and an ordered list of
handlers, with no argument inspected at run time. -/
inductive Registration (F : Type) where
  | method (method path : String) (handlers : List F)
  | static (pfx root : String) (config : List Static)
  | webSocket (method path : String) (handle : F)
  deriving DecidableEq

variable {F ρ : Type}

def Receiver.path (groupPaths : String → String → String) : Receiver → String → String
  | .app, path => path
  | .group grp, path => groupPaths grp.pfx path

/-- The registrations a call stands for, or the first `Use` argument that is neither a
path nor a handler. -/
def Call.registrations (groupPaths : String → String → String) :
    Call F → Except (Value F) (List (Registration F))
  | .route recv m path handlers => .ok [.method m.name (recv.path groupPaths path) handlers]
  | .use recv args =>
    match args.find? (fun a => a.asString.isNone && a.asHandler.isNone) with
    | some a => .error a
    | none => .ok [.method "USE"
        (recv.path groupPaths ((args.filterMap Value.asString).getLast?.getD ""))
        (args.filterMap Value.asHandler)]
  | .group recv pfx handlers =>
    .ok (if handlers.isEmpty then [] else [.method "USE" (recv.path groupPaths pfx) handlers])
  | .static recv pfx root config => .ok [.static (recv.path groupPaths pfx) root config]
  | .webSocket recv path handle => .ok [.webSocket "GET" (recv.path groupPaths path) handle]

section
variable (r : Router F ρ)

def Registration.apply : Registration F → EStateM String (App F ρ) Unit
  | .method m path handlers => r.registerMethod m path handlers
  | .static pfx root config => r.registerStatic pfx root config
  | .webSocket m path handle => r.registerWebSocket m path handle

def App.route : Method → String → List F → EStateM String (App F ρ) Unit
  | .connect => App.connect r
  | .put => App.put r
  | .post => App.post r
  | .delete => App.delete r
  | .head => App.head r
  | .patch => App.patch r
  | .options => App.options r
  | .trace => App.trace r
  | .get => App.get r
  | .all => App.all r

def Group.route (grp : Group) : Method → String → List F → EStateM String (App F ρ) Unit
  | .connect => grp.connect r
  | .put => grp.put r
  | .post => grp.post r
  | .delete => grp.delete r
  | .head => grp.head r
  | .patch => grp.patch r
  | .options => grp.options r
  | .trace => grp.trace r
  | .get => grp.get r
  | .all => grp.all r

/-- One call, on the app it registers on; the group a `Group` call returns is dropped. -/
def Call.run : Call F → EStateM String (App F ρ) Unit
  | .route .app m path handlers => App.route r m path handlers
  | .route (.group grp) m path handlers => grp.route r m path handlers
  | .use .app args => App.use r args
  | .use (.group grp) args => grp.use r args
  | .group .app pfx handlers => do let _ ← App.group r pfx handlers; pure ()
  | .group (.group grp) pfx handlers => do let _ ← grp.group r pfx handlers; pure ()
  | .static .app pfx root config => App.static r pfx root config
  | .static (.group grp) pfx root config => grp.static r pfx root config
  | .webSocket .app path handle => App.webSocket r path handle
  | .webSocket (.group grp) path handle => grp.webSocket r path handle

/-- The explicit design run over a script: every call's registrations in order, until a
registration or a call with a rejected argument ends the process. -/
def explicitRun : List (Call F) → App F ρ → EStateM.Result String (App F ρ) Unit
  | [], app => .ok () app
  | c :: cs, app =>
    match c.registrations r.groupPaths with
    | .ok regs =>
      match (regs.forM (Registration.apply r)).run app with
      | .ok () app => explicitRun cs app
      | .error msg app => .error msg app
    | .error a => .error ("Invalid handler: " ++ a.typeOf) app

theorem App.route_eq (m : Method) (path : String) (handlers : List F) :
    App.route r m path handlers = r.registerMethod m.name path handlers := by
  cases m <;> rfl

theorem Group.route_eq (grp : Group) (m : Method) (path : String) (handlers : List F) :
    grp.route r m path handlers = r.registerMethod m.name (r.groupPaths grp.pfx path) handlers := by
  cases m <;> rfl

/-- Each call does what its explicit registrations do, or ends the process where they
say it does. -/
theorem Call.run_eq (c : Call F) (app : App F ρ) :
    (c.run r).run app =
      match c.registrations r.groupPaths with
      | .ok regs => (regs.forM (Registration.apply r)).run app
      | .error a => .error ("Invalid handler: " ++ a.typeOf) app := by
  cases c with
  | route recv m path handlers =>
    cases recv <;> simp only [Call.run, App.route_eq, Group.route_eq, Call.registrations,
      run_forM_singleton] <;> rfl
  | use recv args =>
    cases recv <;> simp only [Call.run, App.use_run, Group.use_run, Call.registrations] <;>
      cases args.find? (fun a => a.asString.isNone && a.asHandler.isNone) <;>
      simp only [run_forM_singleton] <;> rfl
  | group recv pfx handlers =>
    cases handlers with
    | nil => cases recv <;> rfl
    | cons h hs =>
      cases recv <;> simp only [Call.run, App.group, Group.group, Call.registrations,
        Receiver.path, List.isEmpty_cons, List.length_cons, Bool.false_eq_true, ↓reduceIte,
        gt_iff_lt, Nat.zero_lt_succ, run_discard_pure, run_forM_singleton, Registration.apply]
  | static recv pfx root config =>
    cases recv <;> simp only [Call.run, Call.registrations, run_forM_singleton] <;> rfl
  | webSocket recv path handle =>
    cases recv <;> simp only [Call.run, Call.registrations, run_forM_singleton] <;> rfl

theorem forM_run_eq_explicitRun (calls : List (Call F)) (app : App F ρ) :
    (calls.forM (Call.run r)).run app = explicitRun r calls app := by
  induction calls generalizing app with
  | nil => rfl
  | cons c cs ih =>
    simp only [List.forM, run_bind, Call.run_eq, explicitRun]
    cases c.registrations r.groupPaths with
    | ok regs =>
      dsimp only
      cases (regs.forM (Registration.apply r)).run app with
      | ok _ app => exact ih app
      | error msg app => rfl
    | error a => rfl

/-- The code refines the explicit design: running a script call by call is the explicit
run of the registrations it stands for. -/
theorem script_refines_explicit (calls : List (Call F)) (app : App F ρ) :
    (calls.forM (Call.run r)).run app = explicitRun r calls app :=
  forM_run_eq_explicitRun r calls app

/-- The explicit run of a script whose first calls stand for `regs` runs `regs`, then the
rest of the script. -/
theorem explicitRun_append (pre post : List (Call F)) (regs : List (List (Registration F)))
    (h : pre.map (Call.registrations r.groupPaths) = regs.map .ok) (app : App F ρ) :
    explicitRun r (pre ++ post) app =
      match (regs.flatten.forM (Registration.apply r)).run app with
      | .ok () app => explicitRun r post app
      | .error msg app => .error msg app := by
  induction pre generalizing regs app with
  | nil =>
    cases regs with
    | nil => rfl
    | cons rs regs => simp at h
  | cons c cs ih =>
    cases regs with
    | nil => simp at h
    | cons rs regs =>
      simp only [List.map_cons, List.cons.injEq] at h
      rw [List.flatten_cons, run_forM_append]
      simp only [List.cons_append, explicitRun, h.1]
      cases (rs.forM (Registration.apply r)).run app with
      | ok _ app => exact ih regs h.2 app
      | error msg app => rfl

theorem explicitRun_ok (calls : List (Call F)) (regs : List (List (Registration F)))
    (h : calls.map (Call.registrations r.groupPaths) = regs.map .ok) (app : App F ρ) :
    explicitRun r calls app = (regs.flatten.forM (Registration.apply r)).run app := by
  rw [← List.append_nil calls, explicitRun_append r calls [] regs h]
  cases (regs.flatten.forM (Registration.apply r)).run app <;> rfl

theorem explicitRun_error (pre : List (Call F)) (c : Call F) (post : List (Call F))
    (regs : List (List (Registration F))) (a : Value F)
    (hpre : pre.map (Call.registrations r.groupPaths) = regs.map .ok)
    (hc : c.registrations r.groupPaths = .error a) (app : App F ρ) :
    explicitRun r (pre ++ c :: post) app =
      match (regs.flatten.forM (Registration.apply r)).run app with
      | .ok () app => .error ("Invalid handler: " ++ a.typeOf) app
      | .error msg app => .error msg app := by
  rw [explicitRun_append r pre (c :: post) regs hpre]
  cases (regs.flatten.forM (Registration.apply r)).run app <;> simp only [explicitRun, hc]

/-- A script whose `Use` arguments are all paths and handlers runs as its calls'
registrations, in script order and each call's in its own: one router call each, until
one of them ends the process. -/
theorem script_registers_in_order (calls : List (Call F)) (regs : List (List (Registration F)))
    (h : calls.map (Call.registrations r.groupPaths) = regs.map .ok) (app : App F ρ) :
    (calls.forM (Call.run r)).run app = (regs.flatten.forM (Registration.apply r)).run app := by
  rw [forM_run_eq_explicitRun]
  exact explicitRun_ok r calls regs h app

/-- A script runs the registrations of the calls before its first call with a `Use`
argument of another type and, unless one of them ends the process first, ends there with
the app as they left it; nothing of that call or a later one is registered. -/
theorem script_aborts_at_first_rejected (pre : List (Call F)) (c : Call F)
    (post : List (Call F)) (regs : List (List (Registration F))) (a : Value F)
    (hpre : pre.map (Call.registrations r.groupPaths) = regs.map .ok)
    (hc : c.registrations r.groupPaths = .error a) (app : App F ρ) :
    ((pre ++ c :: post).forM (Call.run r)).run app =
      match (regs.flatten.forM (Registration.apply r)).run app with
      | .ok () app => .error ("Invalid handler: " ++ a.typeOf) app
      | .error msg app => .error msg app := by
  rw [forM_run_eq_explicitRun]
  exact explicitRun_error r pre c post regs a hpre hc app

end

structure App.RoutesOnly (app app' : App F ρ) : Prop where
  server : app'.server = app.server
  child : app'.child = app.child
  recover : app'.recover = app.recover
  settings : app'.settings = app.settings

theorem App.RoutesOnly.refl (app : App F ρ) : app.RoutesOnly app := ⟨rfl, rfl, rfl, rfl⟩

theorem App.RoutesOnly.trans {app₁ app₂ app₃ : App F ρ} (h₁ : app₁.RoutesOnly app₂)
    (h₂ : app₂.RoutesOnly app₃) : app₁.RoutesOnly app₃ :=
  ⟨h₂.server.trans h₁.server, h₂.child.trans h₁.child, h₂.recover.trans h₁.recover,
    h₂.settings.trans h₁.settings⟩

/-- The router's functions, whose bodies are outside these sources, add routes and change
nothing else of the app when they return. -/
structure Router.Frame (r : Router F ρ) : Prop where
  registerMethod : ∀ (m path : String) (handlers : List F) (app app' : App F ρ),
    (r.registerMethod m path handlers).run app = .ok () app' → app.RoutesOnly app'
  registerStatic : ∀ (pfx root : String) (config : List Static) (app app' : App F ρ),
    (r.registerStatic pfx root config).run app = .ok () app' → app.RoutesOnly app'
  registerWebSocket : ∀ (m path : String) (handle : F) (app app' : App F ρ),
    (r.registerWebSocket m path handle).run app = .ok () app' → app.RoutesOnly app'

section Frame
variable {r : Router F ρ}

theorem Registration.apply_routesOnly (hr : r.Frame) {reg : Registration F}
    {app app' : App F ρ} (h : (reg.apply r).run app = .ok () app') : app.RoutesOnly app' := by
  cases reg with
  | method m path handlers => exact hr.registerMethod m path handlers app app' h
  | static pfx root config => exact hr.registerStatic pfx root config app app' h
  | webSocket m path handle => exact hr.registerWebSocket m path handle app app' h

theorem forM_apply_routesOnly (hr : r.Frame) {regs : List (Registration F)}
    {app app' : App F ρ} (h : (regs.forM (Registration.apply r)).run app = .ok () app') :
    app.RoutesOnly app' := by
  induction regs generalizing app with
  | nil => cases h; exact .refl _
  | cons reg regs ih =>
    simp only [List.forM] at h
    obtain ⟨_, app₁, h₁, h₂⟩ := run_bind_ok h
    exact (Registration.apply_routesOnly hr h₁).trans (ih h₂)

theorem Call.run_routesOnly (hr : r.Frame) {c : Call F} {app app' : App F ρ}
    (h : (c.run r).run app = .ok () app') : app.RoutesOnly app' := by
  rw [Call.run_eq] at h
  split at h
  · exact forM_apply_routesOnly hr h
  · cases h

/-- A setup script that runs to its end changes the app's routes and nothing else. -/
theorem script_routesOnly (hr : r.Frame) {calls : List (Call F)} {app app' : App F ρ}
    (h : (calls.forM (Call.run r)).run app = .ok () app') : app.RoutesOnly app' := by
  induction calls generalizing app with
  | nil => cases h; exact .refl _
  | cons c cs ih =>
    simp only [List.forM] at h
    obtain ⟨_, app₁, h₁, h₂⟩ := run_bind_ok h
    exact (Call.run_routesOnly hr h₁).trans (ih h₂)

end Frame

/-- A router that keeps each registration as its route, and ends the process on a route
without handlers. -/
def Router.recording : Router Nat (Registration Nat) where
  registerMethod m path handlers :=
    if handlers.isEmpty then throw "Missing handler in route"
    else modify fun app => { app with routes := app.routes ++ [.method m path handlers] }
  registerStatic pfx root config :=
    modify fun app => { app with routes := app.routes ++ [.static pfx root config] }
  registerWebSocket m path handle :=
    modify fun app => { app with routes := app.routes ++ [.webSocket m path handle] }
  groupPaths base path := base ++ path

theorem Router.recording_frame : Router.recording.Frame where
  registerMethod _ _ handlers _ _ h := by
    cases handlers with
    | nil => cases h
    | cons => cases h; exact ⟨rfl, rfl, rfl, rfl⟩
  registerStatic _ _ _ _ _ h := by cases h; exact ⟨rfl, rfl, rfl, rfl⟩
  registerWebSocket _ _ _ _ _ h := by cases h; exact ⟨rfl, rfl, rfl, rfl⟩

def emptyApp : App Nat (Registration Nat) :=
  { server := none, routes := [], child := false, recover := none,
    settings := { prefork := false, strictRouting := false, caseSensitive := false,
                  serverHeader := "", immutable := false, bodyLimit := 4 * 1024 * 1024 } }

/-- A `Use` with its path between two handlers, a group with middleware, a route on it. -/
def groupScript : List (Call Nat) :=
  [.use .app [.handler 1, .string "/a", .handler 2], .group .app "/v1" [3],
    .route (.group ⟨"/v1"⟩) .get "/x" [4]]

theorem script_registers_in_order_recording :
    groupScript.map (Call.registrations Router.recording.groupPaths) =
      [[.method "USE" "/a" [1, 2]], [.method "USE" "/v1" [3]], [.method "GET" "/v1/x" [4]]].map
        .ok ∧
    (groupScript.forM (Call.run Router.recording)).run emptyApp =
      .ok () { emptyApp with routes :=
        [.method "USE" "/a" [1, 2], .method "USE" "/v1" [3], .method "GET" "/v1/x" [4]] } := by
  refine ⟨?h, (script_registers_in_order Router.recording groupScript _ ?h emptyApp).trans rfl⟩
  rfl

example : (List.forM ([.route .app .get "/" [1], .route .app .get "/x" []] : List (Call Nat))
      (Call.run Router.recording)).run emptyApp =
    .error "Missing handler in route" { emptyApp with routes := [.method "GET" "/" [1]] } := rfl

/-- A route, then a `Use` with an int among its arguments, then a route it never reaches. -/
def fatalScript : List (Call Nat) :=
  [.route .app .get "/" [1]] ++
    .use .app [.string "/a", .int 3, .nil] :: [.route .app .post "/b" [2]]

theorem script_aborts_at_first_rejected_recording :
    ([.route .app .get "/" [1]] : List (Call Nat)).map
        (Call.registrations Router.recording.groupPaths) =
      [[.method "GET" "/" [1]]].map .ok ∧
    (Call.use .app [.string "/a", .int 3, .nil] : Call Nat).registrations
        Router.recording.groupPaths = .error (.int 3) ∧
    (fatalScript.forM (Call.run Router.recording)).run emptyApp =
      .error "Invalid handler: int" { emptyApp with routes := [.method "GET" "/" [1]] } := by
  refine ⟨?hpre, ?hc, (script_aborts_at_first_rejected Router.recording _ _
    [.route .app .post "/b" [2]] _ _ ?hpre ?hc emptyApp).trans rfl⟩ <;> rfl

end Fiber
