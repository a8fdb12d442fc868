import Fiber.Setup
import Fiber.Listen

/-! The app's life after `New`: setup calls, `Recover`, `Listen`, `Test` and `Shutdown`, in
any order the program's goroutines make them. `Shutdown` succeeds exactly when a `Listen` or
a `Test` has set the server, which then is the one the app's settings describe. -/
namespace Fiber

variable {F ρ C R : Type}

/-- A call a program makes on its app once `New` has built it. -/
inductive AppCall (F C R : Type) where
  | setup (c : Call F)
  | recover (handler : F)
  | listen (address : Value F) (tlsconfig : List C)
  | test (dump : Except String String) (exchange : Server → String → Except String R)
  | shutdown

/-- A call on the app. A setup call may end the process; `Listen`, `Test` and `Shutdown`
return their errors to the program, and the app keeps no trace of them. -/
def AppCall.run (r : Router F ρ) (osArgs : OsArgs) (numCPU : Nat) :
    AppCall F C R → EStateM String (App F ρ) Unit
  | .setup c => c.run r
  | .recover handler => modify (App.setRecover handler)
  | .listen address tlsconfig => modify fun app =>
    match app.listen osArgs numCPU address tlsconfig with
    | .ok (app, _) => app
    | .error _ => app
  | .test dump exchange => modify fun app => (app.test dump exchange).2
  | .shutdown => pure ()

/-- Whether the call sets the app's server: a `Listen` with a valid address, or a `Test`
whose request could be dumped. -/
def AppCall.setsServer : AppCall F C R → Bool
  | .listen address _ => (listenAddr address).toBool
  | .test dump _ => dump.toBool
  | _ => false

theorem App.newServer_congr {app app' : App F ρ} (h : app'.settings = app.settings) :
    app'.newServer = app.newServer := by
  simp only [App.newServer, h]

section
variable {r : Router F ρ} {osArgs : OsArgs} {numCPU : Nat}

/-- One call keeps the settings, and sets the server built from them or leaves it. -/
theorem AppCall.run_server (hr : r.Frame) {call : AppCall F C R} {app app' : App F ρ}
    (h : (call.run r osArgs numCPU).run app = .ok () app') :
    app'.settings = app.settings ∧
      app'.server = if call.setsServer then some app.newServer else app.server := by
  cases call with
  | setup c =>
    have hframe := Call.run_routesOnly hr h
    exact ⟨hframe.settings, hframe.server⟩
  | recover handler => cases h; exact ⟨rfl, rfl⟩
  | listen address tlsconfig =>
    cases h
    cases ha : listenAddr address with
    | error msg =>
      have hl : app.listen osArgs numCPU address tlsconfig = .error msg := by
        unfold App.listen; rw [ha]; rfl
      simp [AppCall.run, hl, AppCall.setsServer, ha, Except.toBool]
    | ok addr => simp [AppCall.run, listen_ok ha, AppCall.setsServer, ha, Except.toBool]
  | test dump exchange =>
    cases h
    cases dump <;> exact ⟨rfl, rfl⟩
  | shutdown => cases h; exact ⟨rfl, rfl⟩

/-- Over a run of calls the settings stay, and the server is the one built from them once a
call has set it. -/
theorem AppCall.forM_server (hr : r.Frame) {calls : List (AppCall F C R)} {app app' : App F ρ}
    (h : (calls.forM (AppCall.run r osArgs numCPU)).run app = .ok () app') :
    app'.settings = app.settings ∧
      app'.server = if calls.any AppCall.setsServer then some app.newServer else app.server := by
  induction calls generalizing app with
  | nil => cases h; exact ⟨rfl, rfl⟩
  | cons call calls ih =>
    simp only [List.forM] at h
    obtain ⟨_, app₁, h₁, h₂⟩ := run_bind_ok h
    obtain ⟨hs₁, hv₁⟩ := AppCall.run_server hr h₁
    obtain ⟨hs, hv⟩ := ih h₂
    refine ⟨hs.trans hs₁, ?_⟩
    rw [hv, hv₁, App.newServer_congr hs₁, List.any_cons]
    cases call.setsServer <;> cases calls.any AppCall.setsServer <;> rfl

/-- `Shutdown` on an app `New` built, after any calls that ran: it fails with "Server is not
running" unless a `Listen` with a valid address or a `Test` whose request could be dumped came
first, and then it stops the server `newServer` built from the settings `New` chose, which
no call changes: its `Name` is the `ServerHeader`, its `MaxRequestBodySize` the `BodyLimit`,
never 0. -/
theorem new_listen_shutdown (hr : r.Frame) {settings : List (Option Settings)}
    {conv conv' : Conversions} {app₀ app : App F ρ} {calls : List (AppCall F C R)}
    (hnew : (new osArgs settings).run conv = .ok app₀ conv')
    (hrun : (calls.forM (AppCall.run r osArgs numCPU)).run app₀ = .ok () app) :
    app.settings = app₀.settings ∧
      app.shutdown =
        (if calls.any AppCall.setsServer then
          .ok { name := app₀.settings.serverHeader,
                maxRequestBodySize := app₀.settings.bodyLimit,
                noDefaultServerHeader := app₀.settings.serverHeader == "",
                logAllErrors := false, errorHandler := errorHandler }
        else .error "Server is not running") ∧
      app₀.settings.bodyLimit ≠ 0 := by
  obtain ⟨hserver, hlimit⟩ := new_fresh hnew
  obtain ⟨hs, hv⟩ := AppCall.forM_server hr hrun
  refine ⟨hs, ?_, hlimit⟩
  rw [App.shutdown, hv, hserver]
  cases calls.any AppCall.setsServer <;> rfl

end

/-- A route, a `Shutdown` before any server, a `Test`, and a `Shutdown` after it. -/
def testCalls : List (AppCall Nat Unit Unit) :=
  [.setup (.route .app .get "/" [1]), .shutdown,
    .test (.ok "GET / HTTP/1.1\r\nHost: example.com\r\n\r\n") (fun _ _ => .ok ()), .shutdown]

theorem new_listen_shutdown_test :
    Router.recording.Frame ∧
      ∃ (app₀ app : App Nat (Registration Nat)) (conv' : Conversions),
        (new ⟨"server", []⟩ []).run .zeroCopy = .ok app₀ conv' ∧
        (testCalls.forM (AppCall.run Router.recording ⟨"server", []⟩ 4)).run app₀ =
          .ok () app ∧
        (app.settings = app₀.settings ∧
          app.shutdown =
            (if testCalls.any AppCall.setsServer then
              .ok { name := app₀.settings.serverHeader,
                    maxRequestBodySize := app₀.settings.bodyLimit,
                    noDefaultServerHeader := app₀.settings.serverHeader == "",
                    logAllErrors := false, errorHandler := errorHandler }
            else .error "Server is not running") ∧
          app₀.settings.bodyLimit ≠ 0) := by
  refine ⟨Router.recording_frame, ?app₀, ?app, ?conv', ?hnew, ?hrun,
    new_listen_shutdown Router.recording_frame ?hnew ?hrun⟩
  case hnew => exact new_run_nil _ _
  case hrun => exact rfl

end Fiber
