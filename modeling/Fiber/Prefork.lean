import Fiber.Setup
import Fiber.Listen

/-! The processes of a program that listens with prefork. A master starts `NumCPU / 2`
processes of the same program and none of them starts another: whatever the program does
with its command line, the process tree is one level deep. -/
namespace Fiber

variable {F ρ C : Type}

/-- A program built on the package, as one process runs it from its command line: the
settings it passes to `New`, its setup calls, and the address and TLS configs it passes to
`Listen`. -/
structure Program (F C : Type) where
  settings : OsArgs → List (Option Settings)
  setup : OsArgs → List (Call F)
  address : OsArgs → Value F
  tlsconfig : OsArgs → List C

/-- A process of the program and the processes it starts. -/
inductive Process (C : Type) where
  /-- It ended before serving: the panic of a nil `*Settings`, the `log.Fatalf` of a setup
  call, or the error `Listen` returned. -/
  | exited (msg : String)
  | serving (banner : Option String) (listener : Listener) (tls : Option C)
  /-- A prefork master: it printed `banner` and started `children`. It then waits for them,
  and how it ends depends on how they do. -/
  | master (banner : Option String) (children : List (Process C))
  /-- A process beyond the fuel. -/
  | unexplored

/-- The app of one process once `New` and the setup calls have run. Every process starts
with the package's zero-copy conversions. -/
def Program.ready (r : Router F ρ) (prog : Program F C) (args : OsArgs) :
    Except String (App F ρ) :=
  match (new args (prog.settings args)).run .zeroCopy with
  | .error msg _ => .error msg
  | .ok app _ =>
    match ((prog.setup args).forM (Call.run r)).run app with
    | .error msg _ => .error msg
    | .ok () app => .ok app

def Program.start (r : Router F ρ) (prog : Program F C) (numCPU : Nat) (args : OsArgs) :
    Except String (Listening C) :=
  match prog.ready r args with
  | .error msg => .error msg
  | .ok app => Prod.snd <$> app.listen args numCPU (prog.address args) (prog.tlsconfig args)

/-- The process tree of the program started with `args`, followed `fuel` processes deep.
`numCPU` is the machine's, the same in every process. -/
def Program.run (r : Router F ρ) (prog : Program F C) (numCPU : Nat) :
    Nat → OsArgs → Process C
  | 0, _ => .unexplored
  | fuel + 1, args =>
    match prog.start r numCPU args with
    | .error msg => .exited msg
    | .ok l =>
      match l.listener with
      | .master _ children => .master l.banner (children.map (prog.run r numCPU fuel))
      | listener => .serving l.banner listener l.tls

def Process.children : Process C → List (Process C)
  | .master _ children => children
  | _ => []

def Process.banner : Process C → Option String
  | .serving banner .. | .master banner _ => banner
  | _ => none

def Process.serves : Process C → Bool
  | .serving .. => true
  | _ => false

mutual
def Process.sum (w : Process C → Nat) : Process C → Nat
  | .master banner children => w (.master banner children) + Process.sumList w children
  | p => w p

def Process.sumList (w : Process C → Nat) : List (Process C) → Nat
  | [] => 0
  | p :: ps => p.sum w + Process.sumList w ps
end

def Process.servers (p : Process C) : Nat := p.sum fun q => q.serves.toNat

def Process.banners (p : Process C) : Nat := p.sum fun q => q.banner.isSome.toNat

/-- What a process that a prefork master starts does: it ends, or it serves on the socket
it inherits without printing the banner, and it starts nothing. -/
def Process.IsPreforkChild : Process C → Prop
  | .exited _ => True
  | .serving banner listener _ => banner = none ∧ listener = .child
  | _ => False

instance : DecidablePred (@Process.IsPreforkChild C) := fun p =>
  match p with
  | .exited _ => inferInstanceAs (Decidable True)
  | .serving banner listener _ => inferInstanceAs (Decidable (banner = none ∧ listener = .child))
  | .master .. => inferInstanceAs (Decidable False)
  | .unexplored => inferInstanceAs (Decidable False)

theorem Process.sumList_replicate (w : Process C → Nat) (k : Nat) (p : Process C) :
    Process.sumList w (List.replicate k p) = k * p.sum w := by
  induction k with
  | zero => simp [Process.sumList]
  | succ k ih => rw [List.replicate_succ, Process.sumList, ih, Nat.succ_mul, Nat.add_comm]

theorem Process.IsPreforkChild.servers_le {p : Process C} (h : p.IsPreforkChild) :
    p.servers ≤ 1 := by
  cases p <;> simp_all [Process.IsPreforkChild, Process.servers, Process.sum, Process.serves]

theorem Process.IsPreforkChild.banners_eq {p : Process C} (h : p.IsPreforkChild) :
    p.banners = 0 := by
  cases p <;> simp_all [Process.IsPreforkChild, Process.banners, Process.sum, Process.banner]

section
variable {r : Router F ρ} {prog : Program F C} {numCPU : Nat} {args : OsArgs}

theorem Program.ready_ok {app : App F ρ} (h : prog.ready r args = .ok app) :
    ∃ app₀ conv, (new args (prog.settings args)).run .zeroCopy = .ok app₀ conv ∧
      ((prog.setup args).forM (Call.run r)).run app₀ = .ok () app := by
  unfold Program.ready at h
  split at h
  · cases h
  rename_i app₀ conv hnew
  split at h
  · cases h
  cases h
  exact ⟨app₀, conv, hnew, ‹_›⟩

theorem Program.start_ok {l : Listening C} (h : prog.start r numCPU args = .ok l) :
    ∃ app app₁, prog.ready r args = .ok app ∧
      app.listen args numCPU (prog.address args) (prog.tlsconfig args) = .ok (app₁, l) := by
  unfold Program.start at h
  split at h
  · cases h
  rename_i app happ
  cases hl : app.listen args numCPU (prog.address args) (prog.tlsconfig args) with
  | error msg => rw [hl] at h; cases h
  | ok res => rw [hl] at h; cases h; exact ⟨app, res.1, happ, hl⟩

/-- A prefork master starts `NumCPU / 2` processes, each with its own command line and the
two prefork flags, on a machine with more than one CPU. -/
theorem Program.start_master {l : Listening C} {addr : String} {children : List OsArgs}
    (h : prog.start r numCPU args = .ok l) (hm : l.listener = .master addr children) :
    1 < numCPU ∧
      children =
        List.replicate (numCPU / 2) ⟨args.program, args.rest ++ ["-prefork", "-child"]⟩ := by
  obtain ⟨app₁, _, -, hl⟩ := Program.start_ok h
  obtain ⟨addr', -, -, rfl⟩ := listen_eq hl
  simp only [App.listening, App.prefork] at hm
  split_ifs at hm with hp hc
  · cases hm
    exact ⟨by simp_all, rfl⟩

theorem Program.run_error {msg : String} (h : prog.start r numCPU args = .error msg)
    (fuel : Nat) : prog.run r numCPU (fuel + 1) args = .exited msg := by
  rw [Program.run, h]

theorem Program.run_ok {l : Listening C} (h : prog.start r numCPU args = .ok l) (fuel : Nat) :
    prog.run r numCPU (fuel + 1) args =
      match l.listener with
      | .master _ children => .master l.banner (children.map (prog.run r numCPU fuel))
      | listener => .serving l.banner listener l.tls := by
  rw [Program.run, h]

/-- A process started with both prefork flags serves on the inherited socket without the
banner, or ends: the router keeps the flags `New` read from its command line. -/
theorem Program.start_prefork_child (hr : r.Frame) (hcpu : 1 < numCPU)
    (hp : args.rest.contains "-prefork") (hc : args.rest.contains "-child") {l : Listening C}
    (h : prog.start r numCPU args = .ok l) : l.banner = none ∧ l.listener = .child := by
  obtain ⟨app₁, _, happ, hl⟩ := Program.start_ok h
  obtain ⟨app, _, hnew, hsetup⟩ := Program.ready_ok happ
  obtain ⟨hchild, hprefork⟩ := new_flags hnew
  have hframe := script_routesOnly hr hsetup
  have hchild₁ : app₁.child = true := hframe.child.trans (hchild.trans hc)
  have hprefork₁ : app₁.settings.prefork = true := hframe.settings ▸ hprefork hp
  obtain ⟨addr, -, -, rfl⟩ := listen_eq hl
  simp [App.listening, App.prefork, hchild₁, hprefork₁, hcpu]

theorem Program.run_prefork_child (hr : r.Frame) (hcpu : 1 < numCPU)
    (hp : args.rest.contains "-prefork") (hc : args.rest.contains "-child") (fuel : Nat) :
    prog.run r numCPU (fuel + 1) args = prog.run r numCPU 1 args ∧
      (prog.run r numCPU 1 args).IsPreforkChild := by
  cases hs : prog.start r numCPU args with
  | error msg =>
    rw [Program.run_error hs, Program.run_error hs]
    exact ⟨rfl, trivial⟩
  | ok l =>
    obtain ⟨hb, hl⟩ := Program.start_prefork_child hr hcpu hp hc hs
    rw [Program.run_ok hs, Program.run_ok hs, hl]
    exact ⟨rfl, hb, rfl⟩

/-- Whatever the fuel, a process started with both prefork flags prints no banner and is at
most one server. -/
theorem Program.run_prefork_child_counts (hr : r.Frame) (hcpu : 1 < numCPU)
    (hp : args.rest.contains "-prefork") (hc : args.rest.contains "-child") (fuel : Nat) :
    (prog.run r numCPU fuel args).banners = 0 ∧ (prog.run r numCPU fuel args).servers ≤ 1 := by
  cases fuel with
  | zero => exact ⟨rfl, Nat.zero_le _⟩
  | succ fuel =>
    obtain ⟨hrun, hchild⟩ := Program.run_prefork_child hr hcpu hp hc fuel
    rw [hrun]
    exact ⟨hchild.banners_eq, hchild.servers_le⟩

theorem childArgs_flags (args : OsArgs) :
    (⟨args.program, args.rest ++ ["-prefork", "-child"]⟩ : OsArgs).rest.contains "-prefork" ∧
      (⟨args.program, args.rest ++ ["-prefork", "-child"]⟩ : OsArgs).rest.contains
        "-child" := by
  simp

/-- Prefork is one level deep over the whole process tree. Fuel 2 already reaches every
process: more fuel finds nothing new. The processes a master starts all run the program on
the same command line and serve on the inherited socket without the banner, or end. -/
theorem prefork_process_tree (hr : r.Frame) (prog : Program F C) (numCPU fuel : Nat)
    (args : OsArgs) :
    prog.run r numCPU (fuel + 2) args = prog.run r numCPU 2 args ∧
      ∀ q ∈ (prog.run r numCPU 2 args).children,
        q = prog.run r numCPU 1 ⟨args.program, args.rest ++ ["-prefork", "-child"]⟩ ∧
          q.IsPreforkChild := by
  cases hs : prog.start r numCPU args with
  | error msg =>
    rw [Program.run_error hs, Program.run_error hs]
    exact ⟨rfl, fun q hq => nomatch hq⟩
  | ok l =>
    rw [Program.run_ok hs, Program.run_ok hs]
    cases hm : l.listener
    case master addr children =>
      obtain ⟨hcpu, rfl⟩ := Program.start_master hs hm
      obtain ⟨hp, hc⟩ := childArgs_flags args
      obtain ⟨hrun, hchild⟩ : prog.run r numCPU (fuel + 1) _ = prog.run r numCPU 1 _ ∧ _ :=
        Program.run_prefork_child hr hcpu hp hc fuel
      refine ⟨by simp only [List.map_replicate, hrun], fun q hq => ?_⟩
      simp only [List.map_replicate, Process.children] at hq
      rw [List.eq_of_mem_replicate hq]
      exact ⟨rfl, hchild⟩
    all_goals exact ⟨rfl, fun q hq => nomatch hq⟩

/-- A program that asks for prefork, registers one route and listens on `:3000`. -/
def preforkProgram : Program Nat Unit where
  settings _ := [some ⟨true, false, false, "", false, 0⟩]
  setup _ := [.route .app .get "/" [1]]
  address _ := .string ":3000"
  tlsconfig _ := []

theorem prefork_process_tree_four_cpus :
    Router.recording.Frame ∧
      (preforkProgram.run Router.recording 4 5 ⟨"server", []⟩ =
          preforkProgram.run Router.recording 4 2 ⟨"server", []⟩ ∧
        ∀ q ∈ (preforkProgram.run Router.recording 4 2 ⟨"server", []⟩).children,
          q = preforkProgram.run Router.recording 4 1 ⟨"server", ["-prefork", "-child"]⟩ ∧
            q.IsPreforkChild) :=
  ⟨Router.recording_frame,
    prefork_process_tree Router.recording_frame preforkProgram 4 3 ⟨"server", []⟩⟩

example : preforkProgram.run Router.recording 4 2 ⟨"server", []⟩ =
    .master (some "Fiber v1.8.33 listening on :3000\n")
      [.serving none .child none, .serving none .child none] := by
  simp only [Program.run, Program.start, preforkProgram, new_run_some, listen_ok listenAddr_port]
  rfl

/-- A process started with the child's flags serves at most once: it is never a master. -/
theorem Program.run_child_servers_le (hr : r.Frame) (prog : Program F C) (numCPU : Nat)
    (args : OsArgs) :
    (prog.run r numCPU 1 ⟨args.program, args.rest ++ ["-prefork", "-child"]⟩).servers ≤ 1 := by
  obtain ⟨hp, hc⟩ := childArgs_flags args
  by_cases hcpu : 1 < numCPU
  · exact (Program.run_prefork_child_counts hr hcpu hp hc 1).2
  cases hs : prog.start r numCPU ⟨args.program, args.rest ++ ["-prefork", "-child"]⟩ with
  | error msg => rw [Program.run_error hs]; exact Nat.zero_le _
  | ok l =>
    rw [Program.run_ok hs]
    cases hm : l.listener with
    | master addr children => exact absurd (Program.start_master hs hm).1 hcpu
    | tcp4 addr => exact Nat.le_refl _
    | child => exact Nat.le_refl _

/-- The tree of a process that reaches `Listen` with a valid address: a master over
`NumCPU / 2` runs of the program on the child's command line, or one server. -/
theorem Program.run_listening {app : App F ρ} {addr : String}
    (happ : prog.ready r args = .ok app) (haddr : listenAddr (prog.address args) = .ok addr)
    (fuel : Nat) :
    prog.run r numCPU (fuel + 1) args =
      if app.settings.prefork && numCPU > 1 && !app.child then
        .master (app.listening args numCPU addr (prog.tlsconfig args)).banner
          (List.replicate (numCPU / 2)
            (prog.run r numCPU fuel ⟨args.program, args.rest ++ ["-prefork", "-child"]⟩))
      else
        .serving (app.listening args numCPU addr (prog.tlsconfig args)).banner
          (app.listening args numCPU addr (prog.tlsconfig args)).listener
          (prog.tlsconfig args).head? := by
  have hs : prog.start r numCPU args =
      .ok (app.listening args numCPU addr (prog.tlsconfig args)) := by
    rw [Program.start, happ]
    dsimp only
    rw [listen_ok haddr]
    rfl
  rw [Program.run_ok hs]
  cases hp : app.settings.prefork <;> cases hc : app.child <;> by_cases hcpu : numCPU > 1 <;>
    simp [App.listening, App.prefork, hp, hc, hcpu, List.map_replicate]

end

end Fiber
