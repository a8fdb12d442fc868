import Fiber.New
import Mathlib.Data.String.Basic

/-! `Listen` and `prefork`. The address always has a port separator, and prefork is one
level deep: the processes the master starts never start processes of their own. -/
namespace Fiber

def version : String := "1.8.33"

/-- The listener `Listen` serves on. The errors of the network and process calls are the
operating system's and are not modelled. -/
inductive Listener where
  | tcp4 (addr : String)
  /-- The prefork master: it listens on `addr`, starts `children` with the socket as their
  file 3, waits for them and exits with status 0 without serving. -/
  | master (addr : String) (children : List OsArgs)
  /-- A prefork child: `GOMAXPROCS(1)`, then `net.FileListener(os.NewFile(3, ""))`. -/
  | child
  deriving DecidableEq

def Listener.children : Listener → List OsArgs
  | .master _ children => children
  | _ => []

/-- What `Listen` does: the line it prints, its listener, and the TLS config it wraps
the listener in. -/
structure Listening (C : Type) where
  banner : Option String
  listener : Listener
  tls : Option C

variable {F ρ C : Type}

/-- The address `Listen` takes from its argument: a string, or an int port. -/
def listenAddr (address : Value F) : Except String String := do
  let addr ← match address.asString with
    | some addr => pure addr
    | none =>
      match address.asInt with
      | some port => pure (toString port)
      | none => throw "Listen: Host must be an INT port or STRING address"
  pure (if !addr.contains ':' then ":" ++ addr else addr)

/-- `prefork(address)`; `numCPU` is `runtime.NumCPU()`. -/
def App.prefork (app : App F ρ) (osArgs : OsArgs) (numCPU : Nat) (address : String) :
    Listener :=
  if !app.child then
    .master address
      (List.replicate (numCPU / 2) ⟨osArgs.program, osArgs.rest ++ ["-prefork", "-child"]⟩)
  else .child

/-- The rest of `Listen` once the address is known: the banner, the listener, TLS. -/
def App.listening (app : App F ρ) (osArgs : OsArgs) (numCPU : Nat) (addr : String)
    (tlsconfig : List C) : Listening C :=
  { banner :=
      if !app.child then some ("Fiber v" ++ version ++ " listening on " ++ addr ++ "\n") else none,
    listener :=
      if app.settings.prefork && numCPU > 1 then app.prefork osArgs numCPU addr else .tcp4 addr,
    tls := tlsconfig.head? }

def App.listen (app : App F ρ) (osArgs : OsArgs) (numCPU : Nat) (address : Value F)
    (tlsconfig : List C) : Except String (App F ρ × Listening C) := do
  let addr ← listenAddr address
  let app := { app with server := some app.newServer }
  pure (app, app.listening osArgs numCPU addr tlsconfig)

theorem listenAddr_string (s : String) :
    listenAddr (.string s : Value F) = .ok (if !s.contains ':' then ":" ++ s else s) := rfl

theorem listen_ok {address : Value F} {addr : String} (h : listenAddr address = .ok addr)
    (app : App F ρ) (osArgs : OsArgs) (numCPU : Nat) (tlsconfig : List C) :
    app.listen osArgs numCPU address tlsconfig =
      .ok ({ app with server := some app.newServer },
        app.listening osArgs numCPU addr tlsconfig) := by
  unfold App.listen
  rw [h]
  rfl

theorem listen_eq {app app₁ : App F ρ} {osArgs : OsArgs} {numCPU : Nat} {address : Value F}
    {tlsconfig : List C} {l : Listening C}
    (h : app.listen osArgs numCPU address tlsconfig = .ok (app₁, l)) :
    ∃ addr, listenAddr address = .ok addr ∧
      app₁ = { app with server := some app.newServer } ∧
      l = app.listening osArgs numCPU addr tlsconfig := by
  cases ha : listenAddr address with
  | error msg =>
    unfold App.listen at h
    simp [ha] at h
  | ok addr =>
    rw [listen_ok ha] at h
    cases h
    exact ⟨addr, rfl, rfl, rfl⟩

/-- The processes `Listen` starts: `NumCPU / 2` of them, each with its own arguments and
the two prefork flags, when `Prefork` is set, the machine has more than one CPU and the app
is not itself a prefork child; none otherwise. -/
theorem listening_children (app : App F ρ) (osArgs : OsArgs) (numCPU : Nat) (addr : String)
    (tlsconfig : List C) :
    (app.listening osArgs numCPU addr tlsconfig).listener.children =
      if app.settings.prefork && numCPU > 1 && !app.child then
        List.replicate (numCPU / 2) ⟨osArgs.program, osArgs.rest ++ ["-prefork", "-child"]⟩
      else [] := by
  simp only [App.listening, App.prefork]
  cases app.settings.prefork <;> cases app.child <;> by_cases h : numCPU > 1 <;>
    simp [h, Listener.children]

theorem listen_children {app app₁ : App F ρ} {osArgs : OsArgs} {numCPU : Nat}
    {address : Value F} {tlsconfig : List C} {l : Listening C}
    (h : app.listen osArgs numCPU address tlsconfig = .ok (app₁, l)) {child : OsArgs}
    (hc : child ∈ l.listener.children) :
    1 < numCPU ∧ child = ⟨osArgs.program, osArgs.rest ++ ["-prefork", "-child"]⟩ := by
  obtain ⟨addr, -, -, rfl⟩ := listen_eq h
  rw [listening_children] at hc
  split_ifs at hc with hp
  · exact ⟨by simp_all, List.eq_of_mem_replicate hc⟩
  · cases hc

theorem listenAddr_port : listenAddr (.string ":3000" : Value Nat) = .ok ":3000" := by
  rw [listenAddr_string,
    show ":3000".contains ':' = true from (String.contains_iff _ _).mpr (by decide)]
  rfl

/-- The app a master builds: `New` with `Prefork` set and no flags. -/
def preforkApp : App Nat Unit :=
  { server := none, routes := [], child := false, recover := none,
    settings := { prefork := true, strictRouting := false, caseSensitive := false,
                  serverHeader := "", immutable := false,
                  bodyLimit := 4 * 1024 * 1024 } }

end Fiber
