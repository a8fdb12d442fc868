import Fiber.Value

/-! The application of `app.go`: its settings, `New`, `newServer` and the registration methods. -/
namespace Fiber

/-- Settings for serving static files; `Static` hands them to `registerStatic` unread. -/
structure Static where
  compress : Bool
  byteRange : Bool
  browse : Bool
  index : String
  deriving DecidableEq

/-- The fields of `Settings` that `New`, `Listen`, `newServer` and the router read. -/
structure Settings where
  prefork : Bool
  strictRouting : Bool
  caseSensitive : Bool
  serverHeader : String
  immutable : Bool
  bodyLimit : Int
  deriving DecidableEq

/-- The package's `getString` and `getBytes`: zero-copy, until `New` replaces them by
copying conversions for an app created with `Immutable`. -/
inductive Conversions where
  | zeroCopy
  | copying
  deriving DecidableEq

structure OsArgs where
  program : String
  rest : List String
  deriving DecidableEq

/-- The fields of `fasthttp.Server` that `newServer` sets, but its handler. The error
handler gives the status and body for a request fasthttp could not read. -/
structure Server where
  name : String
  maxRequestBodySize : Int
  noDefaultServerHeader : Bool
  logAllErrors : Bool
  errorHandler : String → Nat × String

/-- The application. Routes are of a type `ρ` that the router declares outside these sources. -/
structure App (F ρ : Type) where
  server : Option Server
  routes : List ρ
  child : Bool
  recover : Option F
  settings : Settings

/-- A `Group`: its `prefix` (the word is reserved here) and the app it registers on. -/
structure Group where
  pfx : String
  deriving DecidableEq

/-- The functions of the package that `app.go` and `group.go` call and whose bodies are
in the router and its utilities, outside these sources. A registration reads the app's
settings and may end the process with `log.Fatal`, so it is an action that can fail. -/
structure Router (F ρ : Type) where
  registerMethod : String → String → List F → EStateM String (App F ρ) Unit
  registerStatic : String → String → List Static → EStateM String (App F ρ) Unit
  registerWebSocket : String → String → F → EStateM String (App F ρ) Unit
  groupPaths : String → String → String

variable {F ρ : Type}

theorem run_bind {ε σ α β : Type} (x : EStateM ε σ α) (f : α → EStateM ε σ β)
    (s : σ) :
    (x >>= f).run s =
      match x.run s with
      | .ok a s => (f a).run s
      | .error e s => .error e s := rfl

theorem run_bind_ok {ε σ α β : Type} {x : EStateM ε σ α} {f : α → EStateM ε σ β}
    {s s' : σ} {b : β} (h : (x >>= f).run s = .ok b s') :
    ∃ a s₁, x.run s = .ok a s₁ ∧ (f a).run s₁ = .ok b s' := by
  rw [run_bind] at h
  split at h
  · exact ⟨_, _, ‹_›, h⟩
  · cases h

theorem run_forM_append {ε σ α : Type} (xs ys : List α) (f : α → EStateM ε σ Unit) (s : σ) :
    ((xs ++ ys).forM f).run s =
      match (xs.forM f).run s with
      | .ok () s => (ys.forM f).run s
      | .error e s => .error e s := by
  induction xs generalizing s with
  | nil => rfl
  | cons x xs ih =>
    simp only [List.cons_append, List.forM, run_bind]
    cases (f x).run s with
    | ok _ s => exact ih s
    | error e s => rfl

theorem run_forM_singleton {ε σ α : Type} (a : α) (f : α → EStateM ε σ Unit) (s : σ) :
    ([a].forM f).run s = (f a).run s := by
  simp only [List.forM, run_bind]
  cases (f a).run s <;> rfl

theorem run_discard_pure {ε σ β : Type} (x : EStateM ε σ Unit) (b : β) (s : σ) :
    ((x >>= fun _ => pure b) >>= fun _ => pure ()).run s = x.run s := by
  rw [run_bind, run_bind]
  cases x.run s <;> rfl

@[simp]
theorem run_modify {ε σ : Type} (f : σ → σ) (s : σ) :
    (modify f : EStateM ε σ Unit).run s = .ok () (f s) := rfl

/-- The loop of `New` over `os.Args[1:]`, setting `prefork` and `child`. -/
def parseFlags : List String → Bool × Bool → Bool × Bool
  | [], flags => flags
  | v :: vs, (prefork, child) =>
    parseFlags vs
      (if v = "-prefork" then (true, child) else if v = "-child" then (prefork, true)
        else (prefork, child))

/-- The defaults `New` sets on given settings: the `-prefork` flag when `Prefork` is
false, and 4 MiB when `BodyLimit` is zero. -/
def settingsDefaults (prefork : Bool) (s : Settings) : Settings :=
  let s := if !s.prefork then { s with prefork := prefork } else s
  if s.bodyLimit = 0 then { s with bodyLimit := 4 * 1024 * 1024 } else s

/-- `New(settings...)`. Only the first settings pointer is read; a nil one panics at
`app.Settings.Prefork`. -/
def new (osArgs : OsArgs) (settings : List (Option Settings)) :
    EStateM String Conversions (App F ρ) := do
  let (prefork, child) := parseFlags osArgs.rest (false, false)
  let app : App F ρ :=
    { server := none, routes := [], child := child, recover := none,
      settings := { prefork := prefork, strictRouting := false, caseSensitive := false,
                    serverHeader := "", immutable := false, bodyLimit := 4 * 1024 * 1024 } }
  match settings with
  | [] => pure app
  | none :: _ => throw "runtime error: invalid memory address or nil pointer dereference"
  | some s :: _ =>
    let s := settingsDefaults prefork s
    if s.immutable then set Conversions.copying
    pure { app with settings := s }

def errorHandler (err : String) : Nat × String :=
  if err = "body size exceeds the given limit" then (413, "Request Entity Too Large")
  else (400, "Bad Request")

def App.newServer (app : App F ρ) : Server :=
  { name := app.settings.serverHeader, maxRequestBodySize := app.settings.bodyLimit,
    noDefaultServerHeader := app.settings.serverHeader == "", logAllErrors := false,
    errorHandler := errorHandler }

/-- `Test(request)`, as far as the app goes. `dump` is `httputil.DumpRequest(request, true)`;
`exchange` is the rest, done by the HTTP stack with the server `Test` has just set: the
fake connection, `ServeConn` with its 200 ms timeout, and the parsing of the response. -/
def App.test {R : Type} (app : App F ρ) (dump : Except String String)
    (exchange : Server → String → Except String R) : Except String R × App F ρ :=
  match dump with
  | .error err => (.error err, app)
  | .ok raw => (exchange app.newServer raw, { app with server := some app.newServer })

def App.shutdown (app : App F ρ) : Except String Server :=
  match app.server with
  | none => .error "Server is not running"
  | some server => .ok server

/-- The two variables of the loop in `Use`. -/
structure UseState (F : Type) where
  path : String
  handlers : List F

def useCase : Value F → Option (UseState F → UseState F)
  | .string arg => some fun st => { st with path := arg }
  | .handler arg => some fun st => { st with handlers := st.handlers ++ [arg] }
  | _ => none

def useArgs (args : List (Value F)) : Except String (UseState F) :=
  typeSwitch useCase (fun arg => "Invalid handler: " ++ arg.typeOf) ⟨"", []⟩ args

section Methods
variable (r : Router F ρ)

def App.connect (path : String) (handlers : List F) : EStateM String (App F ρ) Unit :=
  r.registerMethod "CONNECT" path handlers

def App.put (path : String) (handlers : List F) : EStateM String (App F ρ) Unit :=
  r.registerMethod "PUT" path handlers

def App.post (path : String) (handlers : List F) : EStateM String (App F ρ) Unit :=
  r.registerMethod "POST" path handlers

def App.delete (path : String) (handlers : List F) : EStateM String (App F ρ) Unit :=
  r.registerMethod "DELETE" path handlers

def App.head (path : String) (handlers : List F) : EStateM String (App F ρ) Unit :=
  r.registerMethod "HEAD" path handlers

def App.patch (path : String) (handlers : List F) : EStateM String (App F ρ) Unit :=
  r.registerMethod "PATCH" path handlers

def App.options (path : String) (handlers : List F) : EStateM String (App F ρ) Unit :=
  r.registerMethod "OPTIONS" path handlers

def App.trace (path : String) (handlers : List F) : EStateM String (App F ρ) Unit :=
  r.registerMethod "TRACE" path handlers

def App.get (path : String) (handlers : List F) : EStateM String (App F ρ) Unit :=
  r.registerMethod "GET" path handlers

def App.all (path : String) (handlers : List F) : EStateM String (App F ρ) Unit :=
  r.registerMethod "ALL" path handlers

/-- `Use(args...)`: strings and handlers in any order; `log.Fatalf` on anything else. -/
def App.use (args : List (Value F)) : EStateM String (App F ρ) Unit :=
  match useArgs args with
  | .ok st => r.registerMethod "USE" st.path st.handlers
  | .error msg => throw msg

/-- `Group(prefix, handlers...)`: the handlers, if any, become `USE` middleware on the prefix. -/
def App.group (pfx : String) (handlers : List F) : EStateM String (App F ρ) Group := do
  if handlers.length > 0 then r.registerMethod "USE" pfx handlers
  pure ⟨pfx⟩

def App.static (pfx root : String) (config : List Static) : EStateM String (App F ρ) Unit :=
  r.registerStatic pfx root config

/-- The deprecated `WebSocket`, registered under `GET`. -/
def App.webSocket (path : String) (handle : F) : EStateM String (App F ρ) Unit :=
  r.registerWebSocket "GET" path handle

end Methods

def App.setRecover (handler : F) (app : App F ρ) : App F ρ :=
  { app with recover := some handler }

end Fiber
