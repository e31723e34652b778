import Yan85.CommandLine.Session
import Yan85.Host.Simulated
import Yan85.Proofs.CommandLine.Arguments
import Yan85.Proofs.Machine.Observations

/-! # A session does what a run of its machine does

* `Answers H w args host a`: given enough rounds, the answer to a command line is `a`.
* `Loads w o b program`: the files that the options name hold the encoding `b` and the program.
* `Reports H o m₀ r m t`: what the transcript of a session says about a run that starts as `m₀`, ends
  with `r` and leaves `m`.
* `session_follows_run`: the transcript of a session reports the run of its machine. The options for
  printing instructions and for telling everything change its output and its errors, and nothing else.
-/

namespace Yan85.CommandLine
set_option autoImplicit false

variable {σ : Type} {H : Host σ} {w : Surroundings} {args : List String} {o : Options} {b : Bindings}
variable {program : List Instruction} {host : σ} {limit : Option Int} {r : Except Fault Int}
variable {m₀ m : Machine b σ}

/-! ## From the command line to the run -/

/-- Given enough rounds, the answer to the command line is `a`. -/
def Answers (H : Host σ) (w : Surroundings) (args : List String) (host : σ) (a : Answer σ) : Prop :=
  ∃ rounds, respond H w args rounds host = some a

/-- The files that the options name hold an encoding and a program in it. -/
structure Loads (w : Surroundings) (o : Options) (b : Bindings) (program : List Instruction) :
    Prop where
  bindings : loadBindings w o.constants = .ok b
  program : ∃ data, content w.files o.program = .ok data ∧ decodeProgram b data = .ok program

theorem Loads.setup (h : Loads w o b program) : Setup.load w o = .ok ⟨b, program⟩ := by
  obtain ⟨data, hc, hd⟩ := h.program
  simp only [Setup.load, h.bindings, hc, hd, Except.mapError, bind, Except.bind]
  rfl

/-- The answers to a command line whose files load are what the ends of its run give. -/
theorem answers_iff_ends {s : Setup} {a : Answer σ}
    (ho : Options.ofArguments w.convention args = .ok o) (hs : Loads w o s.bindings s.program) :
    Answers H w args host a ↔ ∃ r m, Machine.Ends H o.limit (machine o s host) r m ∧
      a = conclude H o r m := by
  have hresp : ∀ rounds, respond H w args rounds host =
      (Machine.run H o.limit rounds (machine o s host)).map fun x => conclude H o x.1 x.2 := by
    intro rounds
    unfold respond run
    simp only [ho, hs.setup]
  constructor
  · rintro ⟨rounds, h⟩
    rw [hresp] at h
    obtain ⟨⟨r, m⟩, hrun, rfl⟩ := Option.map_eq_some_iff.1 h
    exact ⟨r, m, ⟨rounds, hrun⟩, rfl⟩
  · rintro ⟨r, m, ⟨rounds, h⟩, rfl⟩
    refine ⟨rounds, ?_⟩
    rw [hresp, h]
    rfl

/-- The answer to a command line is what its run gives, if that ends. -/
theorem answers_iff (ho : Options.ofArguments w.convention args = .ok o)
    (hs : Loads w o b program)
    (hr : Machine.Ends H o.limit
      (.fresh b program (.ofSize .main addressSpaceSize) o.wraps host) r m) {a : Answer σ} :
    Answers H w args host a ↔ a = conclude H o r m := by
  rw [answers_iff_ends (s := ⟨b, program⟩) ho hs]
  constructor
  · rintro ⟨r', m', hr', rfl⟩
    obtain ⟨rfl, rfl⟩ := hr.unique hr'
    rfl
  · intro ha
    exact ⟨r, m, hr, ha⟩

/-! ## From the run to the transcript -/

/-- The exit status for the result of a run. -/
def status : Except Fault Int → Int
  | .ok code => code
  | .error _ => 1

/-- The lines for a run that fails and leaves `m`. -/
def failure (r : Except Fault Int) (m : Machine b σ) : List String :=
  match r with
  | .ok _ => []
  | .error f =>
    ["Error: " ++ (f.kind.name ++ ": " ++ f.message), "Registers: " ++ m.registers.text]

theorem conclude_eq (hf : ∀ f, r = .error f → f.kind.isMachineFailure = true) :
    conclude H o r m = .ended (transcript o (status r) (failure r m) m (Machine.close H m)) := by
  cases r with
  | ok code => rfl
  | error f =>
    unfold conclude
    simp only [hf f rfl, if_true]
    rfl

/-- What a transcript says about a run that starts as `m₀`, ends with `r` and leaves `m`. -/
structure Reports (H : Host σ) (o : Options) (m₀ : Machine b σ) (r : Except Fault Int)
    (m : Machine b σ) (t : Transcript σ) : Prop where
  status : t.status = status r
  /-- The status is one that a process can have. -/
  isByte : 0 ≤ t.status ∧ t.status ≤ 0xFF
  /-- The host is left as closing the machine leaves it. -/
  host : t.host = (Machine.close H m).host
  /-- If asked for, there is a line for each instruction that the steps of the run have fetched. -/
  output : ∃ n, m = Machine.after H n m₀ ∧ (∀ i < n, Machine.Proceeds H m₀ i) ∧
    t.output = if o.traced then (Machine.fetches H n m₀).map fun i => i.text b else []
  /-- The failure comes before the warnings of closing. Before it there is something only if everything
  is told. -/
  errors : ∃ told, (o.verbose = false → told = []) ∧
    t.errors = told ++ failure r m ++
      (Machine.refusals H m.descriptors.entries.reverse m.host).map Diagnostic.line
  silent : o.verbose = false → Machine.refusals H m.descriptors.entries.reverse m.host = [] →
    (t.errors = [] ↔ ∃ code, r = .ok code)

theorem isByte_status (hx : m₀.exitCode = none) (hr : Machine.Ends H limit m₀ r m) :
    0 ≤ status r ∧ status r ≤ 0xFF := by
  cases r with
  | error f => simp [status]
  | ok code =>
    cases (Machine.ends_iff_finishes hx).1 hr with
    | @exited j _ _ _ he =>
      obtain ⟨-, -, rfl⟩ := he
      have hlt := ((Machine.after H j m₀).registers.get .A).toNat_lt
      have hv : byteValue ((Machine.after H j m₀).registers.get .A) =
        (((Machine.after H j m₀).registers.get .A).toNat : Int) := rfl
      simp only [status]
      omega

theorem lines_of_quiet {ds : List Diagnostic} (h : ds.filter (·.isWarning) = []) :
    Diagnostic.lines false ds = [] := by
  unfold Diagnostic.lines
  simp only [Bool.false_or]
  rw [h]
  rfl

theorem lines_refusals (verbose : Bool) (es : List (Nat × List UInt8)) (s : σ) :
    Diagnostic.lines verbose (Machine.refusals H es s) =
      (Machine.refusals H es s).map Diagnostic.line := by
  unfold Diagnostic.lines
  rw [List.filter_eq_self.2]
  intro d hd
  rw [Machine.isWarning_of_mem_refusals hd, Bool.or_true]

theorem reports_transcript (hx : m₀.exitCode = none) (ho : m₀.observed = .empty)
    (hd : m₀.diagnostics = .empty) (hr : Machine.Ends H limit m₀ r m) :
    Reports H o m₀ r m (transcript o (status r) (failure r m) m (Machine.close H m)) := by
  obtain ⟨n, hn, hp, -⟩ := hr.exists_after
  have hobs : m.observed.toList = Machine.fetches H n m₀ := by
    rw [hn, Machine.observed_after, ho]
    rfl
  have hwarn : m.diagnostics.toList.filter (·.isWarning) = [] := by
    have hw := Machine.warnings_after H n m₀
    rw [← hn] at hw
    change m.warnings = []
    rw [hw]
    unfold Machine.warnings
    rw [hd]
    rfl
  have hquiet : o.verbose = false → Diagnostic.lines o.verbose m.diagnostics.toList = [] := by
    intro hv
    rw [hv]
    exact lines_of_quiet hwarn
  have hclose : Diagnostic.lines o.verbose
      ((Machine.close H m).diagnostics.toList.drop m.diagnostics.size) =
        (Machine.refusals H m.descriptors.entries.reverse m.host).map Diagnostic.line := by
    rw [Machine.diagnostics_close, ← Array.length_toList, List.drop_left, lines_refusals]
  have herr : (transcript o (status r) (failure r m) m (Machine.close H m)).errors =
      Diagnostic.lines o.verbose m.diagnostics.toList ++ failure r m ++
        (Machine.refusals H m.descriptors.entries.reverse m.host).map Diagnostic.line :=
    congrArg (Diagnostic.lines o.verbose m.diagnostics.toList ++ failure r m ++ ·) hclose
  refine ⟨rfl, isByte_status hx hr, rfl, ⟨n, hn, hp, ?_⟩, ⟨_, hquiet, herr⟩, fun hv hno => ?_⟩
  · unfold transcript traceLines
    rw [hobs]
  · rw [herr, hquiet hv, hno]
    cases r with
    | ok code => exact ⟨fun _ => ⟨code, rfl⟩, fun _ => rfl⟩
    | error f =>
      constructor
      · intro he
        cases he
      · rintro ⟨code, hcode⟩
        cases hcode

/-- **A session does what a run of its machine does.** Take a command line whose files load, and a run
of the machine built from them, under the limit that it names, that ends with a code or with a failure
of the machine. Then there is one answer to the command line, a transcript that reports this run:
* its status is the code, or 1 after a failure, and the host is left as closing the machine leaves it;
* its errors name the failure and the registers after it, and are empty without one, unless everything
  is told or the host refuses a close.

A command line whose options differ only in that instructions are printed is answered alike but for
the output; one that differs only in that everything is told, alike but for the errors. Such command
lines are those with `-d` and with `-v` before all other arguments. -/
theorem session_follows_run (ho : Options.ofArguments w.convention args = .ok o)
    (hs : Loads w o b program)
    (hr : Machine.Ends H o.limit
      (.fresh b program (.ofSize .main addressSpaceSize) o.wraps host) r m)
    (hf : ∀ f, r = .error f → f.kind.isMachineFailure = true) :
    ∃ t, (∀ a, Answers H w args host a ↔ a = .ended t) ∧
      Reports H o (.fresh b program (.ofSize .main addressSpaceSize) o.wraps host) r m t ∧
      (∀ args', Options.ofArguments w.convention args' = .ok { o with traced := true } → ∃ output,
        (∀ a, Answers H w args' host a ↔ a = .ended { t with output := output }) ∧
        Reports H { o with traced := true }
          (.fresh b program (.ofSize .main addressSpaceSize) o.wraps host) r m
          { t with output := output }) ∧
      (∀ args', Options.ofArguments w.convention args' = .ok { o with verbose := true } → ∃ errors,
        (∀ a, Answers H w args' host a ↔ a = .ended { t with errors := errors }) ∧
        Reports H { o with verbose := true }
          (.fresh b program (.ofSize .main addressSpaceSize) o.wraps host) r m
          { t with errors := errors }) ∧
      Options.ofArguments w.convention ("-d" :: args) = .ok { o with traced := true } ∧
      Options.ofArguments w.convention ("-v" :: args) = .ok { o with verbose := true } := by
  have hanswer : ∀ args' o', Options.ofArguments w.convention args' = .ok o' → o'.limit = o.limit →
      o'.wraps = o.wraps → o'.constants = o.constants → o'.program = o.program →
      ∀ a, Answers H w args' host a ↔
        a = .ended (transcript o' (status r) (failure r m) m (Machine.close H m)) := by
    intro args' o' ho' h1 h2 h3 h4 a
    have hs' : Loads w o' b program := ⟨h3 ▸ hs.bindings, h4 ▸ hs.program⟩
    rw [answers_iff ho' hs' (h1 ▸ h2 ▸ hr), conclude_eq hf]
  have hreports : ∀ o', Reports H o' (.fresh b program (.ofSize .main addressSpaceSize) o.wraps host)
      r m (transcript o' (status r) (failure r m) m (Machine.close H m)) := fun o' =>
    reports_transcript rfl rfl rfl hr
  refine ⟨transcript o (status r) (failure r m) m (Machine.close H m), ?_, hreports o, ?_, ?_, ?_, ?_⟩
  · exact hanswer args o ho rfl rfl rfl rfl
  · intro args' ho'
    have ha := hanswer args' { o with traced := true } ho' rfl rfl rfl rfl
    exact ⟨traceLines m, ha, hreports { o with traced := true }⟩
  · intro args' ho'
    have ha := hanswer args' { o with verbose := true } ho' rfl rfl rfl rfl
    exact ⟨_, ha, hreports { o with verbose := true }⟩
  · exact ofArguments_trace ho
  · exact ofArguments_verbose ho

/-- Every file holds a program that puts 3 into `A` and exits. -/
def exitingFile : Surroundings where
  convention := .strict
  read := Document.Content.ofBytes
  files _ := .ok [0x80, 0x20, 3, 0x02, 0x20, 0x20]

def exitingProgram : List Instruction := [.imm (some .A) 3, .sys 0x20 (some .A)]

def exitingMachine : Machine .standard Simulated :=
  .fresh .standard exitingProgram (.ofSize .main addressSpaceSize) false .empty

theorem exitingMachine_ends :
    Machine.Ends Simulated.host (some 9) exitingMachine (.ok 3)
      (Machine.after Simulated.host 2 exitingMachine) := by
  have hI : exitingMachine.registers.get .I = 0 := RegisterFile.get_zero .I
  have hf : exitingMachine.fetch = .ok (.imm (some .A) 3) :=
    Machine.fetch_eq_ok_iff.2 (by rw [hI]; rfl)
  have hs := (Machine.Steps.done (H := Simulated.host) rfl hf (Machine.execute_imm .A 3)).step_eq
  have hp : Machine.Proceeds Simulated.host exitingMachine 1 := Machine.proceeds_succ_iff.2
    ⟨⟨_, congrArg Prod.fst hs⟩, Machine.proceeds_zero_iff.2 (by decide +kernel)⟩
  have he : (Machine.after Simulated.host 1 exitingMachine).AtExit 3 :=
    ⟨some .A, Machine.fetch_eq_ok_iff.2 (by decide +kernel), by decide +kernel⟩
  have hl : Machine.Allows (some 9) (exitingMachine.steps + 1 + 1) := by
    rintro l ⟨⟩
    decide
  exact (Machine.Finishes.exited hp hl he).ends

/-- The session of this program has the status 3 and writes no errors. -/
theorem exitingFile_answers :
    ∃ t, (∀ a, Answers Simulated.host exitingFile ["program", "--max-steps", "9"] .empty a ↔
      a = .ended t) ∧ t.status = 3 ∧ t.errors = [] := by
  have ho : Options.ofArguments exitingFile.convention ["program", "--max-steps", "9"] =
      .ok ⟨"program", none, false, false, some 9, false⟩ := rfl
  have hc : content exitingFile.files "program" = .ok [0x80, 0x20, 3, 0x02, 0x20, 0x20] :=
    if_neg (by decide +kernel)
  have hd : (Machine.after Simulated.host 2 exitingMachine).descriptors.entries = [] := by
    decide +kernel
  obtain ⟨t, ha, ht, -⟩ := session_follows_run ho ⟨rfl, _, hc, rfl⟩
    exitingMachine_ends fun f hf => by cases hf
  refine ⟨t, ha, ht.status, (ht.silent rfl ?_).2 ⟨3, rfl⟩⟩
  rw [hd]
  rfl

end Yan85.CommandLine
