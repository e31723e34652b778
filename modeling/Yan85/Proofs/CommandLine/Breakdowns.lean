import Yan85.Proofs.Bindings.Documents
import Yan85.Proofs.Bindings.Loading
import Yan85.Proofs.CommandLine.Sessions
import Yan85.Proofs.Machine.Refusals

/-! # Which sessions break

* `Rejects w o message`: the files that the options name give no program, and a message says why.
* `Escapes w o f`: they give none, with a failure that no session reports.
* `RunsOn H w o host`: the files give a program, and its run has no end.
* `Breaks H w o host f`: a session comes to a failure that it does not report, before its run or
  in it.
* `Outcome H w o host a`: the ways in which a session can go. `answers_iff_outcome` says that
  the answers to a command line come in these ways and no others.
* `lineCount_printed`: how many lines a printed piece fills.
* `ended_iff_not_breaks`: a session ends with a status unless it breaks or runs on.
-/

namespace Yan85
set_option autoImplicit false

/-! ## Encodings in documents -/

namespace Bindings

open Document

variable {c : Content} {b : Bindings} {f : BindingFault} {read : Reader}

theorem isWhole_ofContent (h : ofContent c = .ok b) : b.layout.isWhole = true := by
  unfold ofContent at h
  split at h
  · exact Tables.isWhole_of_load (w := Value.view) h
  · exact Tables.isWhole_of_load h

theorem ofContent_eq_error_iff :
    ofContent c = .error f ↔
      c.isBlank = false ∧ (Tables.ofView c.view c.root >>= Tables.validate) = .error f := by
  unfold ofContent
  cases c.isBlank with
  | true =>
    -- Nothing can be wrong with a blank document.
    rw [if_pos rfl, ofValue_nil]
    constructor
    · rintro ⟨⟩
    · rintro ⟨⟨⟩, -⟩
  | false =>
    rw [if_neg (by decide)]
    exact ⟨fun h => ⟨rfl, h⟩, fun h => h.2⟩

theorem isWhole_ofBytes {data : List UInt8} (h : ofBytes read data = .ok b) :
    b.layout.isWhole = true := by
  unfold ofBytes at h
  cases hc : read data with
  | error d =>
    rw [hc] at h
    cases h
  | ok c =>
    rw [hc] at h
    exact isWhole_ofContent (mapError_eq_ok_iff.1 h)

theorem ofBytes_eq_error_iff {data : List UInt8} {l : LoadFault} :
    ofBytes read data = .error l ↔
      (∃ d, read data = .error d ∧ l = .document d) ∨
      ∃ c f, read data = .ok c ∧ ofContent c = .error f ∧ l = .bindings f := by
  unfold ofBytes
  cases read data with
  | error d =>
    constructor
    · rintro ⟨⟩
      exact .inl ⟨d, rfl, rfl⟩
    · rintro (⟨_, ⟨⟩, rfl⟩ | ⟨c, f, ⟨⟩, -⟩)
      rfl
  | ok c =>
    refine mapError_eq_error_iff.trans ?_
    constructor
    · rintro ⟨f, hf, rfl⟩
      exact .inr ⟨c, f, rfl, hf, rfl⟩
    · rintro (⟨d, ⟨⟩, -⟩ | ⟨_, f, ⟨⟩, hf, rfl⟩)
      exact ⟨f, hf, rfl⟩

end Bindings

namespace CommandLine

variable {σ : Type} {H : Host σ} {w : Surroundings} {args : List String} {o : Options} {host : σ}

/-! ## Files that give no program -/

/-- The options name the file at `path` for the encoding. -/
def Options.Names (o : Options) (path : String) : Prop := o.constants = some path ∧ path ≠ ""

/-- The files that the options name give no program, and a message says why: a file cannot be read,
the document describes no encoding, or the bytes of the program are no program. -/
inductive Rejects (w : Surroundings) (o : Options) : String → Prop
  | constantsUnread {path : String} {e : HostFailure} (hn : o.Names path)
      (hp : '\x00' ∉ path.toList) (hr : w.files path = .error e) :
      Rejects w o (fileMessage path e)
  | constants {path : String} {data : List UInt8} {c : Document.Content} {f : BindingFault}
      (hn : o.Names path) (hr : content w.files path = .ok data)
      (hd : w.read data = .ok c) (hf : Bindings.ofContent c = .error f)
      (hk : f.kind = .constants) : Rejects w o f.message
  | programUnread {b : Bindings} {e : HostFailure} (hb : loadBindings w o.constants = .ok b)
      (hp : '\x00' ∉ o.program.toList) (hr : w.files o.program = .error e) :
      Rejects w o (fileMessage o.program e)
  | program {b : Bindings} {data : List UInt8} {f : Fault}
      (hb : loadBindings w o.constants = .ok b) (hr : content w.files o.program = .ok data)
      (hd : decodeProgram b data = .error f) : Rejects w o f.message

/-- The files that the options name give no program, with a failure that no session reports: a path
holds a null character, the bytes of the document are no document, or a number in it is too long to
be written. A value may nest as deep as it likes here: the stack that its nesting takes when it is
written is outside of the model. -/
inductive Escapes (w : Surroundings) (o : Options) : Breakdown → Prop
  | constantsPath {path : String} (hn : o.Names path) (hp : '\x00' ∈ path.toList) :
      Escapes w o .nullInPath
  | document {path : String} {data : List UInt8} {d : DocumentFault} (hn : o.Names path)
      (hr : content w.files path = .ok data) (hd : w.read data = .error d) :
      Escapes w o (.document d)
  | overlong {path : String} {data : List UInt8} {c : Document.Content} {v : Value}
      (hn : o.Names path) (hr : content w.files path = .ok data)
      (hd : w.read data = .ok c) (hc : c.isBlank = false)
      (hs : Tables.Shows c.view c.root v) (hv : v.writable = false) :
      Escapes w o (.fault (.binding .unwritable))
  | programPath {b : Bindings} (hb : loadBindings w o.constants = .ok b)
      (hp : '\x00' ∈ o.program.toList) : Escapes w o .nullInPath

theorem content_eq_error_iff {path : String} {f : SetupFault} :
    content w.files path = .error f ↔
      ('\x00' ∈ path.toList ∧ f = .nullInPath) ∨
      ('\x00' ∉ path.toList ∧ ∃ e, w.files path = .error e ∧ f = .file path e) := by
  unfold content
  by_cases hp : '\x00' ∈ path.toList
  · rw [if_pos (List.contains_iff_mem.2 hp)]
    constructor
    · rintro ⟨⟩
      exact .inl ⟨hp, rfl⟩
    · rintro (⟨-, rfl⟩ | ⟨hn, -⟩)
      · rfl
      · exact absurd hp hn
  · rw [if_neg fun hc => hp (List.contains_iff_mem.1 hc), mapError_eq_error_iff]
    constructor
    · rintro ⟨e, he, rfl⟩
      exact .inr ⟨hp, e, he, rfl⟩
    · rintro (⟨hn, -⟩ | ⟨-, e, he, rfl⟩)
      · exact absurd hn hp
      · exact ⟨e, he, rfl⟩

theorem loadBindings_some {path : String} (hn : path ≠ "") :
    loadBindings w (some path) =
      content w.files path >>= fun data => (Bindings.ofBytes w.read data).mapError .ofLoad :=
  if_neg fun h => hn (String.isEmpty_iff.1 h)

theorem isWhole_loadBindings {b : Bindings} {c : Option String}
    (h : loadBindings w c = .ok b) : b.layout.isWhole = true := by
  have hstd : Bindings.standard.layout.isWhole = true := rfl
  cases c with
  | none =>
    cases h
    exact hstd
  | some path =>
    by_cases hn : path = ""
    · subst hn
      cases h
      exact hstd
    · rw [loadBindings_some hn] at h
      obtain ⟨data, -, hb⟩ := bind_eq_ok h
      exact Bindings.isWhole_ofBytes (mapError_eq_ok_iff.1 hb)

theorem loadBindings_eq_error_iff {f : SetupFault} :
    loadBindings w o.constants = .error f ↔
      ∃ path, o.Names path ∧ (content w.files path = .error f ∨
        ∃ data, content w.files path = .ok data ∧
          ∃ l, Bindings.ofBytes w.read data = .error l ∧ .ofLoad l = f) := by
  unfold Options.Names
  cases o.constants with
  | none =>
    constructor
    · rintro ⟨⟩
    · rintro ⟨path, ⟨⟨⟩, -⟩, -⟩
  | some path =>
    by_cases hn : path = ""
    · subst hn
      constructor
      · rintro ⟨⟩
      · rintro ⟨_, ⟨⟨⟩, hn⟩, -⟩
        exact absurd rfl hn
    · rw [loadBindings_some hn, bind_eq_error_iff]
      simp only [mapError_eq_error_iff]
      constructor
      · intro h
        exact ⟨path, ⟨rfl, hn⟩, h⟩
      · rintro ⟨_, ⟨⟨⟩, -⟩, h⟩
        exact h

theorem setup_load_eq_ok_iff {s : Setup} :
    Setup.load w o = .ok s ↔ Loads w o s.bindings s.program := by
  constructor
  · intro h
    obtain ⟨b, hb, h⟩ := bind_eq_ok h
    obtain ⟨data, hc, h⟩ := bind_eq_ok h
    obtain ⟨program, hp, h⟩ := bind_eq_ok h
    cases h
    exact ⟨hb, data, hc, mapError_eq_ok_iff.1 hp⟩
  · exact Loads.setup

theorem Loads.unique {s s' : Setup} (h : Loads w o s.bindings s.program)
    (h' : Loads w o s'.bindings s'.program) : s = s' :=
  Except.ok.inj (h.setup.symm.trans h'.setup)

theorem setup_load_eq_error_iff {f : SetupFault} :
    Setup.load w o = .error f ↔
      loadBindings w o.constants = .error f ∨
      ∃ b, loadBindings w o.constants = .ok b ∧ (content w.files o.program = .error f ∨
        ∃ data, content w.files o.program = .ok data ∧
          ∃ g, decodeProgram b data = .error g ∧ .code g = f) := by
  unfold Setup.load
  have hmap : ∀ b (x : Except SetupFault (List Instruction)),
      (x >>= fun program => (pure ⟨b, program⟩ : Except SetupFault Setup)) = .error f ↔
        x = .error f := by
    intro b x
    rw [bind_pure_comp, map_eq_error_iff]
  simp only [bind_eq_error_iff, hmap, mapError_eq_error_iff]

theorem load_of_document {path : String} {data : List UInt8} {l : LoadFault} (hn : o.Names path)
    (hr : content w.files path = .ok data) (hl : Bindings.ofBytes w.read data = .error l) :
    Setup.load w o = .error (.ofLoad l) :=
  setup_load_eq_error_iff.2
    (.inl (loadBindings_eq_error_iff.2 ⟨path, hn, .inr ⟨data, hr, l, hl, rfl⟩⟩))

/-- The transcript of a session whose files give no program. -/
def rejection (message : String) (host : σ) : Transcript σ := ⟨1, [], [startLine message], host⟩

theorem refuse_of_kind {f : Fault} (hf : f.kind.isMachineFailure = true) :
    refuse host (.code f) = .ended (rejection f.message host) :=
  if_pos hf

theorem Rejects.load {message : String} (h : Rejects w o message) (host : σ) :
    ∃ f, Setup.load w o = .error f ∧ refuse host f = .ended (rejection message host) := by
  cases h with
  | @constantsUnread path e hn hp hr =>
    have hc := content_eq_error_iff.2 (.inr ⟨hp, e, hr, rfl⟩)
    have hb := loadBindings_eq_error_iff.2 ⟨path, hn, .inl hc⟩
    exact ⟨_, setup_load_eq_error_iff.2 (.inl hb), rfl⟩
  | @constants path data c f hn hr hd hf hk =>
    have hl := Bindings.ofBytes_eq_error_iff.2 (.inr ⟨c, f, hd, hf, rfl⟩)
    have hm : (Fault.binding f).kind.isMachineFailure = true := congrArg (·.isMachineFailure) hk
    exact ⟨_, load_of_document hn hr hl, refuse_of_kind hm⟩
  | @programUnread b e hb hp hr =>
    have hc := content_eq_error_iff.2 (.inr ⟨hp, e, hr, rfl⟩)
    exact ⟨_, setup_load_eq_error_iff.2 (.inr ⟨b, hb, .inl hc⟩), rfl⟩
  | @program b data f hb hr hd =>
    have hk := kind_of_decodeProgram_of_isWhole (isWhole_loadBindings hb) hd
    have hm : f.kind.isMachineFailure = true := congrArg (·.isMachineFailure) hk
    exact ⟨_, setup_load_eq_error_iff.2 (.inr ⟨b, hb, .inr ⟨data, hr, f, hd, rfl⟩⟩),
      refuse_of_kind hm⟩

theorem Escapes.load {g : Breakdown} (h : Escapes w o g) (host : σ) :
    ∃ f, Setup.load w o = .error f ∧ refuse host f = .broken g := by
  cases h with
  | @constantsPath path hn hp =>
    have hc : content w.files path = .error .nullInPath := content_eq_error_iff.2 (.inl ⟨hp, rfl⟩)
    have hb := loadBindings_eq_error_iff.2 ⟨path, hn, .inl hc⟩
    exact ⟨_, setup_load_eq_error_iff.2 (.inl hb), rfl⟩
  | @document path data d hn hr hd =>
    have hl := Bindings.ofBytes_eq_error_iff.2 (.inl ⟨d, hd, rfl⟩)
    exact ⟨_, load_of_document hn hr hl, rfl⟩
  | @overlong path data c v hn hr hd hc hs hv =>
    have hf := Bindings.ofContent_eq_error_iff.2 ⟨hc, Tables.load_unwritable_iff.2 ⟨v, hs, hv⟩⟩
    have hl := Bindings.ofBytes_eq_error_iff.2 (.inr ⟨c, _, hd, hf, rfl⟩)
    exact ⟨_, load_of_document hn hr hl, rfl⟩
  | @programPath b hb hp =>
    have hc : content w.files o.program = .error .nullInPath :=
      content_eq_error_iff.2 (.inl ⟨hp, rfl⟩)
    exact ⟨_, setup_load_eq_error_iff.2 (.inr ⟨b, hb, .inl hc⟩), rfl⟩

theorem rejects_or_escapes {f : SetupFault} (h : Setup.load w o = .error f) :
    (∃ message, Rejects w o message) ∨ ∃ g, Escapes w o g := by
  obtain hb | ⟨b, hb, hc | ⟨data, hr, g, hd, -⟩⟩ := setup_load_eq_error_iff.1 h
  · obtain ⟨path, hn, hc | ⟨data, hr, l, hl, -⟩⟩ := loadBindings_eq_error_iff.1 hb
    · obtain ⟨hp, -⟩ | ⟨hp, e, he, -⟩ := content_eq_error_iff.1 hc
      · exact .inr ⟨_, .constantsPath hn hp⟩
      · exact .inl ⟨_, .constantsUnread hn hp he⟩
    · obtain ⟨d, hd, -⟩ | ⟨c, f, hd, hf, -⟩ := Bindings.ofBytes_eq_error_iff.1 hl
      · exact .inr ⟨_, .document hn hr hd⟩
      · obtain ⟨hc, hv⟩ := Bindings.ofContent_eq_error_iff.1 hf
        obtain hk | rfl := Tables.isLoadFault_of_load hv
        · exact .inl ⟨_, .constants hn hr hd hf hk⟩
        · obtain ⟨v, hs, hw⟩ := Tables.load_unwritable_iff.1 hv
          exact .inr ⟨_, .overlong hn hr hd hc hs hw⟩
  · obtain ⟨hp, -⟩ | ⟨hp, e, he, -⟩ := content_eq_error_iff.1 hc
    · exact .inr ⟨_, .programPath hb hp⟩
    · exact .inl ⟨_, .programUnread hb hp he⟩
  · exact .inl ⟨_, .program hb hr hd⟩

/-! ## Runs that fail otherwise than machines do -/

/-- The faults of a run are failures of its machine, unless it strands a descriptor. -/
theorem ends_unexpected_iff {b : Bindings} {m : Machine b σ} {limit : Option Int} {f : Fault}
    (hx : m.exitCode = none) (hw : b.layout.isWhole = true)
    (hs : m.stack.memory.size = addressSpaceSize) (hp : ∀ i ∈ m.program, i.IsProper) :
    (∃ m', Machine.Ends H limit m (.error f) m') ∧ f.kind.isMachineFailure = false ↔
      ∃ n e, Machine.Proceeds H m n ∧ Machine.Allows limit (m.steps + n + 1) ∧
        Machine.Strands H (Machine.after H n m) e ∧ f = .closeFailed e := by
  constructor
  · rintro ⟨⟨m', h⟩, hk⟩
    cases (Machine.ends_iff_finishes hx).1 h with
    | stopped => cases hk
    | @failed j _ _ hj hl he =>
      have hkeep := Machine.keeps_after H j m
      have hstep := Machine.step_error_cases hw (hkeep.stackSize.trans hs) (hkeep.proper hp)
        (congrArg Prod.fst he)
      obtain ⟨hE | hhalt, -⟩ | ⟨e, rfl, hst⟩ := hstep
      · cases hk.symm.trans hE
      · -- A step fails with a halt only after an exit, and the run is not past one.
        exact absurd hhalt (Machine.step_kind_ne_halt hj.running he)
      · exact ⟨j, e, hj, hl, hst, rfl⟩
  · rintro ⟨n, e, hn, hl, hst, rfl⟩
    exact ⟨⟨_, (Machine.Finishes.failed hn hl (Prod.ext hst.step_eq rfl)).ends⟩, rfl⟩

theorem conclude_cases {b : Bindings} (H : Host σ) (o : Options) (r : Except Fault Int)
    (m : Machine b σ) :
    (∃ t, conclude H o r m = .ended t) ∨
    ∃ f, r = .error f ∧ f.kind.isMachineFailure = false ∧
      conclude H o r m = .broken (.fault f) := by
  cases r with
  | ok code => exact .inl ⟨_, rfl⟩
  | error f =>
    cases hk : f.kind.isMachineFailure with
    | true => exact .inl ⟨_, if_pos hk⟩
    | false => exact .inr ⟨f, rfl, hk, if_neg (by rw [hk]; decide)⟩

/-! ## Sessions -/

/-- The files give a program, and all steps of its run succeed without an exit. -/
def RunsOn (H : Host σ) (w : Surroundings) (o : Options) (host : σ) : Prop :=
  ∃ s : Setup, Loads w o s.bindings s.program ∧ o.limit = none ∧
    ∀ n, Machine.Proceeds H (machine o s host) n

/-- A session comes to a failure that it does not report: files that give no program, or a descriptor
that the host does not take back. -/
inductive Breaks (H : Host σ) (w : Surroundings) (o : Options) (host : σ) : Breakdown → Prop
  | loading {f : Breakdown} (h : Escapes w o f) : Breaks H w o host f
  | run {s : Setup} {n : Nat} {e : HostFailure} (hs : Loads w o s.bindings s.program)
      (hp : Machine.Proceeds H (machine o s host) n)
      (ha : Machine.Allows o.limit (n + 1))
      (he : Machine.Strands H (Machine.after H n (machine o s host)) e) :
      Breaks H w o host (.fault (.closeFailed e))

/-- The ways in which a session can go. -/
inductive Outcome (H : Host σ) (w : Surroundings) (o : Options) (host : σ) : Answer σ → Prop
  | refused {f : SetupFault} (h : Setup.load w o = .error f) :
      Outcome H w o host (refuse host f)
  | ran {s : Setup} {r : Except Fault Int} {m : Machine s.bindings σ}
      (hs : Loads w o s.bindings s.program)
      (hr : Machine.Ends H o.limit (machine o s host) r m) :
      Outcome H w o host (conclude H o r m)

theorem answers_iff_outcome {a : Answer σ} (ho : Options.ofArguments w.convention args = .ok o) :
    Answers H w args host a ↔ Outcome H w o host a := by
  have hrun : ∀ rounds, respond H w args rounds host = run H w o rounds host := by
    intro rounds
    unfold respond
    rw [ho]
  cases hload : Setup.load w o with
  | error f =>
    have hresp : ∀ rounds, respond H w args rounds host = some (refuse host f) := by
      intro rounds
      rw [hrun]
      unfold run
      rw [hload]
    constructor
    · rintro ⟨rounds, h⟩
      cases (hresp rounds).symm.trans h
      exact .refused hload
    · intro h
      cases h with
      | refused h =>
        cases hload.symm.trans h
        exact ⟨0, hresp 0⟩
      | ran hs => cases hload.symm.trans hs.setup
  | ok s =>
    have hs := setup_load_eq_ok_iff.1 hload
    rw [answers_iff_ends ho hs]
    constructor
    · rintro ⟨r, m, hr, rfl⟩
      exact .ran hs hr
    · intro h
      cases h with
      | refused h => cases hload.symm.trans h
      | ran hs' hr =>
        cases hload.symm.trans hs'.setup
        exact ⟨_, _, hr, rfl⟩

theorem Outcome.unique {a a' : Answer σ} (h : Outcome H w o host a)
    (h' : Outcome H w o host a') : a = a' := by
  cases h with
  | refused hf =>
    cases h' with
    | refused hf' =>
      cases hf.symm.trans hf'
      rfl
    | ran hs => cases hf.symm.trans hs.setup
  | ran hs hr =>
    cases h' with
    | refused hf => cases hf.symm.trans hs.setup
    | ran hs' hr' =>
      obtain rfl := hs.unique hs'
      obtain ⟨rfl, rfl⟩ := hr.unique hr'
      rfl

theorem allows_machine_iff {limit : Option Int} {s : Setup} {n : Nat} :
    Machine.Allows limit ((machine o s host).steps + n + 1) ↔ Machine.Allows limit (n + 1) := by
  have hz : (machine o s host).steps + n = n := Nat.zero_add n
  rw [hz]

theorem Outcome.cases_broken {a : Answer σ} (h : Outcome H w o host a) :
    (∃ t, a = .ended t) ∨ ∃ f, a = .broken f ∧ Breaks H w o host f := by
  cases h with
  | @refused f hf =>
    obtain ⟨message, hr⟩ | ⟨g, hg⟩ := rejects_or_escapes hf
    · obtain ⟨f', hf', he⟩ := hr.load host
      cases hf.symm.trans hf'
      exact .inl ⟨_, he⟩
    · obtain ⟨f', hf', he⟩ := hg.load host
      cases hf.symm.trans hf'
      exact .inr ⟨g, he, .loading hg⟩
  | @ran s r m hs hr =>
    -- The steps of a program that was decoded fail as those of proper instructions do.
    obtain ht | ⟨f, rfl, hk, hb⟩ := conclude_cases H o r m
    · exact .inl ht
    · have hw := isWhole_loadBindings hs.bindings
      obtain ⟨data, -, hd⟩ := hs.program
      obtain ⟨n, e, hn, ha, he, rfl⟩ := (ends_unexpected_iff (m := machine o s host) rfl hw
        (Memory.size_ofSize .stack _) (proper_of_decodeProgram hd)).1 ⟨⟨m, hr⟩, hk⟩
      exact .inr ⟨_, hb, .run hs hn (allows_machine_iff.1 ha) he⟩

theorem Breaks.outcome {f : Breakdown} (h : Breaks H w o host f) :
    Outcome H w o host (.broken f) := by
  cases h with
  | loading h =>
    obtain ⟨g, hg, hb⟩ := h.load host
    rw [← hb]
    exact .refused hg
  | @run s n e hs hp ha he =>
    have ha' : Machine.Allows o.limit ((machine o s host).steps + n + 1) :=
      allows_machine_iff.2 ha
    exact .ran hs (Machine.Finishes.failed hp ha' (Prod.ext he.step_eq rfl)).ends

theorem exists_outcome_iff :
    (∃ a, Outcome H w o host a) ↔ ¬ RunsOn H w o host := by
  constructor
  · rintro ⟨a, h⟩ ⟨s, hs, hl, hp⟩
    cases h with
    | refused hf => cases hf.symm.trans hs.setup
    | ran hs' hr =>
      obtain rfl := hs.unique hs'
      exact (Machine.exists_ends_iff rfl).1 ⟨_, _, hr⟩ ⟨hl, hp⟩
  · intro h
    cases hload : Setup.load w o with
    | error f => exact ⟨_, .refused hload⟩
    | ok s =>
      have hs := setup_load_eq_ok_iff.1 hload
      have hn : ¬ (o.limit = none ∧ ∀ n, Machine.Proceeds H (machine o s host) n) := by
        rintro ⟨hnone, hp⟩
        exact h ⟨s, hs, hnone, hp⟩
      obtain ⟨r, m, hr⟩ := (Machine.exists_ends_iff rfl).2 hn
      exact ⟨_, .ran hs hr⟩

/-- The line breaks inside of a printed piece and the one behind it. -/
theorem lineCount_printed (s : String) : lineCount (printed [s]) = s.toList.count '\n' + 1 := by
  have hone : ("\n" : String).toList.count '\n' = 1 := by decide +kernel
  have hprinted : printed [s] = s ++ "\n" := by simp [printed]
  unfold lineCount
  rw [hprinted, String.toList_append, List.count_append, hone]

theorem lineCount_startLine (message : String) :
    lineCount (printed [startLine message]) = 1 ↔ '\n' ∉ message.toList := by
  have hmark : ("Error: " : String).toList.count '\n' = 0 := by decide +kernel
  rw [lineCount_printed, startLine, String.toList_append, List.count_append, hmark,
    ← List.count_eq_zero]
  omega

/-- **A session ends with a status unless it breaks or runs on.** Take a command line that gives
options under its convention, any reader of documents, any files and any host.
* There is a status for it unless the session breaks, or its run has no limit and no end.
* It breaks in the ways of `Breaks`, and in no others.
* The files that the options name give a program, or a message says why not, or the failure escapes.
* Where there is a message, the one answer is the status 1 with this message for its errors, and the
  host is left as it was. The message fills one line unless there is a line break in it: the names and
  the texts in a document stand in messages as they are. -/
theorem ended_iff_not_breaks (H : Host σ) (w : Surroundings) (host : σ)
    (ho : Options.ofArguments w.convention args = .ok o) :
    ((∃ t, Answers H w args host (.ended t)) ↔
      (∀ f, ¬ Breaks H w o host f) ∧ ¬ RunsOn H w o host) ∧
    (∀ f, Answers H w args host (.broken f) ↔ Breaks H w o host f) ∧
    ((∃ s : Setup, Loads w o s.bindings s.program) ∨ (∃ message, Rejects w o message) ∨
      ∃ f, Escapes w o f) ∧
    ∀ message, Rejects w o message →
      (∀ a, Answers H w args host a ↔ a = .ended ⟨1, [], [startLine message], host⟩) ∧
        (lineCount (printed [startLine message]) = 1 ↔ '\n' ∉ message.toList) := by
  simp only [answers_iff_outcome ho]
  refine ⟨⟨?_, ?_⟩, fun f => ⟨fun h => ?_, Breaks.outcome⟩, ?_,
    fun message hm => ⟨fun a => ?_, lineCount_startLine message⟩⟩
  · rintro ⟨t, h⟩
    refine ⟨fun f hf => ?_, exists_outcome_iff.1 ⟨_, h⟩⟩
    cases h.unique hf.outcome
  · rintro ⟨hb, hr⟩
    obtain ⟨a, h⟩ := exists_outcome_iff.2 hr
    obtain ⟨t, rfl⟩ | ⟨f, -, hf⟩ := h.cases_broken
    · exact ⟨t, h⟩
    · exact absurd hf (hb f)
  · obtain ⟨t, ht⟩ | ⟨f', hf', hb⟩ := h.cases_broken
    · cases ht
    · cases hf'
      exact hb
  · cases hload : Setup.load w o with
    | error f => exact .inr (rejects_or_escapes hload)
    | ok s => exact .inl ⟨s, setup_load_eq_ok_iff.1 hload⟩
  · obtain ⟨f, hf, he⟩ := hm.load host
    have h : Outcome H w o host (.ended (rejection message host)) := he ▸ .refused hf
    constructor
    · intro h'
      exact h'.unique h
    · rintro rfl
      exact h

/-- No files at all. -/
def noFiles : Surroundings where
  convention := .strict
  read := Document.Content.ofBytes
  files _ := .error Simulated.noSuchFile

/-- Without the file of the program, its absence is the one line of the errors. -/
theorem noFiles_rejected :
    Options.ofArguments .strict ["p"] = .ok ⟨"p", none, false, false, none, false⟩ ∧
      (∀ a, Answers Simulated.host noFiles ["p"] .empty a ↔
        a = .ended ⟨1, [], [startLine (fileMessage "p" Simulated.noSuchFile)], .empty⟩) ∧
      lineCount (printed [startLine (fileMessage "p" Simulated.noSuchFile)]) = 1 := by
  have ho : Options.ofArguments noFiles.convention ["p"] =
      .ok ⟨"p", none, false, false, none, false⟩ := rfl
  have hr : Rejects noFiles ⟨"p", none, false, false, none, false⟩
      (fileMessage "p" Simulated.noSuchFile) := .programUnread rfl (by decide) rfl
  obtain ⟨-, -, -, h⟩ := ended_iff_not_breaks Simulated.host noFiles Simulated.empty ho
  obtain ⟨ha, hline⟩ := h _ hr
  exact ⟨ho, ha, hline.2 (by decide +kernel)⟩

/-- A document of one byte that starts no character, and a program that exits. -/
def garbledFiles : Surroundings where
  convention := .strict
  read := Document.Content.ofBytes
  files path := if path = "c.yaml" then .ok [0xFF] else .ok [0x02, 0x20, 0x20]

/-- This document breaks the session. -/
theorem garbledFiles_broken :
    Answers Simulated.host garbledFiles ["-c", "c.yaml", "p"] .empty
        (.broken (.document .notText)) ∧
      ∀ t, ¬ Answers Simulated.host garbledFiles ["-c", "c.yaml", "p"] .empty (.ended t) := by
  have ho : Options.ofArguments garbledFiles.convention ["-c", "c.yaml", "p"] =
      .ok ⟨"p", some "c.yaml", false, false, none, false⟩ := rfl
  have hd : fails (fun d => decide (d = .notText)) (Document.Content.ofBytes [0xFF]) = true := by
    decide +kernel
  obtain ⟨d, hn, hdn⟩ := exists_error_of_fails hd
  obtain rfl := of_decide_eq_true hdn
  have hc : content garbledFiles.files "c.yaml" = .ok [0xFF] := rfl
  have hb : Breaks Simulated.host garbledFiles
      ⟨"p", some "c.yaml", false, false, none, false⟩ .empty (.document .notText) :=
    .loading (.document ⟨rfl, by decide⟩ hc hn)
  simp only [answers_iff_outcome ho]
  refine ⟨hb.outcome, fun t ht => ?_⟩
  cases ht.unique hb.outcome

end CommandLine

end Yan85
