import Yan85.CommandLine.Options
import Yan85.Proofs.Results

/-! # What arguments give

* `Switch.Raises w g`: the switch `w` makes the change `g` to the options, whatever other settings
  come before or after it.
* `ofArguments_cons`: an argument with such a switch, put before all others, makes this change and no
  other. `-d` and `-v` are such arguments.
* `ofArguments_strict_ne_unsaid`: under the strict convention no limit lacks its number.
-/

namespace Yan85.CommandLine
set_option autoImplicit false

variable {conv : Convention} {g : Options → Options} {w : Switch}

/-- The progress with a change made to its options. -/
def Progress.raised (g : Options → Options) (p : Progress) : Progress :=
  { p with options := g p.options }

/-- The switch makes the change `g`, which is about a part of the options of its own: nothing else
that is done to the options undoes it or depends on it. -/
structure Switch.Raises (w : Switch) (g : Options → Options) : Prop where
  bare : w.takesValue = false
  set : ∀ p : Progress, p.set ⟨w, none⟩ = .ok (p.raised g)
  program : ∀ (o : Options) (s : String), g { o with program := s } = { g o with program := s }
  constants : ∀ (o : Options) (c : Option String),
    g { o with constants := c } = { g o with constants := c }
  traced : ∀ o : Options, g { o with traced := true } = { g o with traced := true }
  wraps : ∀ o : Options, g { o with wraps := true } = { g o with wraps := true }
  limit : ∀ (o : Options) (l : Option Int), g { o with limit := l } = { g o with limit := l }
  verbose : ∀ o : Options, g { o with verbose := true } = { g o with verbose := true }

theorem raises_trace : Switch.trace.Raises fun o => { o with traced := true } where
  bare := rfl
  set := fun _ => rfl
  program := fun _ _ => rfl
  constants := fun _ _ => rfl
  traced := fun _ => rfl
  wraps := fun _ => rfl
  limit := fun _ _ => rfl
  verbose := fun _ => rfl

theorem raises_verbose : Switch.verbose.Raises fun o => { o with verbose := true } where
  bare := rfl
  set := fun _ => rfl
  program := fun _ _ => rfl
  constants := fun _ _ => rfl
  traced := fun _ => rfl
  wraps := fun _ => rfl
  limit := fun _ _ => rfl
  verbose := fun _ => rfl

/-! ## One argument after the other -/

theorem set_raised (h : w.Raises g) (p : Progress) (s : Setting) :
    (p.raised g).set s = (p.set s).map (·.raised g) := by
  have hput : ∀ {o o' : Options} {u : Bool}, o' = g o →
      (Except.ok { p with options := o', unsaid := u } : Except Refusal Progress) =
        .ok (Progress.raised g { p with options := o, unsaid := u }) := by
    rintro o _ u rfl
    rfl
  obtain ⟨v, value⟩ := s
  cases v with
  | help => rfl
  | constants => exact hput (h.constants p.options value).symm
  | trace => exact hput (h.traced p.options).symm
  | wrap => exact hput (h.wraps p.options).symm
  | limit =>
    unfold Progress.set
    simp only
    cases value.map fun t => Text.IntegerLiteral.read 10 t.toList with
    | none => rfl
    | some n =>
      cases n with
      | error e => rfl
      | ok n => exact hput (h.limit p.options (some n)).symm
  | verbose => exact hput (h.verbose p.options).symm

theorem take_raised (p : Progress) (s : String) : (p.raised g).take s = (p.take s).raised g := by
  unfold Progress.take
  cases hp : p.program with
  | none => simp only [Progress.raised, hp]
  | some t => simp only [Progress.raised, hp]

theorem foldl_take_raised (args : List String) (p : Progress) :
    args.foldl Progress.take (p.raised g) = (args.foldl Progress.take p).raised g := by
  induction args generalizing p with
  | nil => rfl
  | cons s args ih => rw [List.foldl_cons, List.foldl_cons, take_raised, ih]

theorem foldlM_set_raised (h : w.Raises g) (ss : List Setting) (p : Progress) :
    ss.foldlM Progress.set (p.raised g) = (ss.foldlM Progress.set p).map (·.raised g) := by
  induction ss generalizing p with
  | nil => rfl
  | cons s ss ih =>
    rw [List.foldlM_cons, List.foldlM_cons, set_raised h]
    cases p.set s with
    | error e => rfl
    | ok p' => exact ih p'

theorem apply_raised (h : w.Raises g) (p : Progress) (c : Cluster) :
    (p.raised g).apply c = (p.apply c).map (·.raised g) := by
  unfold Progress.apply
  rw [foldlM_set_raised h]
  cases c.settings.foldlM Progress.set p with
  | error e => rfl
  | ok q => rfl

/-- What one argument gives comes before a walk through the others. -/
theorem bind_raised {r r' : Except Refusal Progress} {walk : Progress → Except Refusal Progress}
    (hr : r' = r.map (·.raised g)) (hw : ∀ p, walk (p.raised g) = (walk p).map (·.raised g)) :
    (r' >>= walk) = (r >>= walk).map (·.raised g) := by
  rw [hr]
  cases r with
  | error e => rfl
  | ok p => exact hw p

theorem walk_raised (h : w.Raises g) (args : List String) (waiting : Option (List Setting × Switch))
    (p : Progress) :
    Progress.walk conv args waiting (p.raised g) =
      (Progress.walk conv args waiting p).map (·.raised g) := by
  induction args generalizing waiting p with
  | nil =>
    cases waiting with
    | none => rfl
    | some x => rfl
  | cons s rest ih =>
    cases waiting with
    | some x =>
      obtain ⟨settings, v⟩ := x
      simp only [Progress.walk]
      split
      · exact bind_raised (foldlM_set_raised h _ p) (ih none)
      · rfl
    | none =>
      simp only [Progress.walk]
      split
      · have hp : (p.raised g).program = p.program := rfl
        rw [hp]
        cases p.program with
        | none =>
          simp only [foldl_take_raised]
          rfl
        | some t => rfl
      · cases Word.ofArgument s with
        | value =>
          have hp : (p.raised g).program = p.program := rfl
          simp only [hp, take_raised]
          split
          · rfl
          · exact ih none (p.take s)
        | option v isShort attached =>
          simp only
          cases Cluster.ofOption conv v isShort attached with
          | error e => rfl
          | ok c =>
            obtain ⟨settings, pending, more⟩ := c
            cases pending with
            | none => exact bind_raised (apply_raised h p _) (ih none)
            | some v' => exact ih (some (settings, v')) p
        | unknown => exact ih none { p with surplus := true }
        | ambiguous => rfl

theorem finish_raised (h : w.Raises g) {p : Progress} {o : Options} (hp : p.finish = .ok o) :
    (p.raised g).finish = .ok (g o) := by
  obtain ⟨program, o', surplus, unsaid⟩ := p
  cases program with
  | none => cases hp
  | some program =>
    cases surplus with
    | true => cases hp
    | false =>
      cases unsaid with
      | true => cases hp
      | false =>
        cases hp
        exact congrArg Except.ok (h.program o' program).symm

/-- An argument with a switch that stands alone, put before all others, makes the change of the
switch. -/
theorem ofArguments_cons (h : w.Raises g) {s : String} {isShort : Bool} (hs : s ≠ "--")
    (hw : Word.ofArgument s = .option w isShort none) {args : List String} {o : Options}
    (ho : Options.ofArguments conv args = .ok o) :
    Options.ofArguments conv (s :: args) = .ok (g o) := by
  have hwalk : Progress.walk conv (s :: args) none .start =
      (Progress.walk conv args none .start).map (·.raised g) := by
    have hc : Cluster.ofOption conv w isShort none = .ok ⟨[⟨w, none⟩], none, false⟩ := by
      simp [Cluster.ofOption, Cluster.single, h.bare]
    have happly : Progress.start.apply ⟨[⟨w, none⟩], none, false⟩ =
        .ok (Progress.start.raised g) := by
      unfold Progress.apply
      rw [List.foldlM_cons, h.set]
      rfl
    rw [← walk_raised h]
    simp only [Progress.walk, if_neg hs, hw]
    rw [hc]
    change (Progress.start.apply ⟨[⟨w, none⟩], none, false⟩ >>= Progress.walk conv args none) = _
    rw [happly]
    rfl
  have hany : ((s :: args).takeWhile (· != "--")).any (fun s => Word.ofArgument s == .ambiguous) =
      (args.takeWhile (· != "--")).any fun s => Word.ofArgument s == .ambiguous := by
    rw [List.takeWhile_cons_of_pos (by simpa using hs), List.any_cons, hw]
    rfl
  unfold Options.ofArguments at ho ⊢
  rw [hany, hwalk]
  split at ho
  · cases ho
  · rename_i hclear
    rw [if_neg hclear]
    cases hp : Progress.walk conv args none .start with
    | error e =>
      rw [hp] at ho
      cases ho
    | ok p =>
      rw [hp] at ho
      exact finish_raised h ho

theorem ofArguments_trace {args : List String} {o : Options}
    (ho : Options.ofArguments conv args = .ok o) :
    Options.ofArguments conv ("-d" :: args) = .ok { o with traced := true } := by
  have hw : Word.ofArgument "-d" = .option .trace true none := by decide +kernel
  exact ofArguments_cons raises_trace (by decide) hw ho

theorem ofArguments_verbose {args : List String} {o : Options}
    (ho : Options.ofArguments conv args = .ok o) :
    Options.ofArguments conv ("-v" :: args) = .ok { o with verbose := true } := by
  have hw : Word.ofArgument "-v" = .option .verbose true none := by decide +kernel
  exact ofArguments_cons raises_verbose (by decide) hw ho

/-! ## The strict convention -/

/-- The result has the property `P`. A refusal in its place is not about a limit without a number. -/
def Settles {α : Type} (P : α → Prop) : Except Refusal α → Prop
  | .ok a => P a
  | .error e => ∀ o, e ≠ .unsaid o

theorem Settles.bind {α β : Type} {P : α → Prop} {Q : β → Prop} {r : Except Refusal α}
    {f : α → Except Refusal β} (hr : Settles P r) (hf : ∀ a, P a → Settles Q (f a)) :
    Settles Q (r >>= f) := by
  cases r with
  | error e => exact hr
  | ok a => exact hf a hr

theorem settles_misuse {α : Type} {P : α → Prop} : Settles P (.error .misuse) := nofun

/-- A limit of steps has its number. -/
def Setting.Said (s : Setting) : Prop := s.switch = .limit → s.value ≠ none

def Cluster.Said (c : Cluster) : Prop := ∀ s ∈ c.settings, s.Said

theorem said_of_bare (hw : w.takesValue = false) : (Setting.mk w none).Said := by
  rintro rfl
  cases hw

theorem said_single : (Cluster.single w).Said := by
  unfold Cluster.single
  cases hw : w.takesValue with
  | true => exact nofun
  | false => exact List.forall_mem_singleton.2 (said_of_bare hw)

theorem said_valued {cs : List Char} : (Cluster.valued .strict w cs).Said :=
  List.forall_mem_singleton.2 fun _ h => by cases h

theorem settles_joined (cs : List Char) (w : Switch) :
    Settles Cluster.Said (Cluster.joined .strict cs w) := by
  induction cs generalizing w with
  | nil => exact said_single
  | cons a cs ih =>
    unfold Cluster.joined
    cases hw : w.takesValue with
    | true => exact said_valued
    | false =>
      rw [if_neg Bool.false_ne_true]
      split
      · exact settles_misuse
      · cases names.lookup ['-', a] with
        | none => exact List.forall_mem_singleton.2 (said_of_bare hw)
        | some v =>
          exact (ih v).bind fun r hr => List.forall_mem_cons.2 ⟨said_of_bare hw, hr⟩

theorem settles_ofOption (w : Switch) (isShort : Bool) (attached : Option Attached) :
    Settles Cluster.Said (Cluster.ofOption .strict w isShort attached) := by
  unfold Cluster.ofOption
  cases attached with
  | none => exact said_single
  | some a =>
    simp only
    split
    · exact said_valued
    · split
      · exact settles_misuse
      · exact settles_joined a.text w

section Progress

variable {p : Progress}

theorem settles_set {s : Setting} (hs : s.Said) (hp : p.unsaid = false) :
    Settles (·.unsaid = false) (p.set s) := by
  obtain ⟨v, value⟩ := s
  cases v with
  | help => exact nofun
  | limit =>
    obtain ⟨t, rfl⟩ := Option.ne_none_iff_exists'.1 (hs rfl)
    unfold Progress.set
    simp only [Option.map_some]
    cases Text.IntegerLiteral.read 10 t.toList with
    | error e => exact settles_misuse
    | ok n => exact rfl
  | constants | trace | wrap | verbose => exact hp

theorem settles_foldlM_set {ss : List Setting} (hs : ∀ s ∈ ss, s.Said) (hp : p.unsaid = false) :
    Settles (·.unsaid = false) (ss.foldlM Progress.set p) := by
  induction ss generalizing p with
  | nil => exact hp
  | cons s ss ih =>
    obtain ⟨hhead, htail⟩ := List.forall_mem_cons.1 hs
    rw [List.foldlM_cons]
    exact (settles_set hhead hp).bind fun q hq => ih htail hq

theorem settles_apply {c : Cluster} (hc : c.Said) (hp : p.unsaid = false) :
    Settles (·.unsaid = false) (p.apply c) :=
  (settles_foldlM_set hc hp).bind fun _ hq => hq

theorem unsaid_foldl_take (args : List String) (p : Progress) :
    (args.foldl Progress.take p).unsaid = p.unsaid := by
  induction args generalizing p with
  | nil => rfl
  | cons s args ih =>
    rw [List.foldl_cons, ih]
    unfold Progress.take
    cases p.program <;> rfl

/-- Every argument either leaves the limit alone or brings its number with it. -/
theorem settles_walk (args : List String) {waiting : Option (List Setting × Switch)}
    (hw : ∀ x, waiting = some x → ∀ s ∈ x.1, s.Said) (hp : p.unsaid = false) :
    Settles (·.unsaid = false) (Progress.walk .strict args waiting p) := by
  induction args generalizing waiting p with
  | nil =>
    cases waiting with
    | none => exact hp
    | some x => exact settles_misuse
  | cons s rest ih =>
    cases waiting with
    | some x =>
      obtain ⟨settings, v⟩ := x
      simp only [Progress.walk]
      split
      · have hlast : (Setting.mk v (some s)).Said := fun _ h => by cases h
        have hall : ∀ q ∈ settings ++ [Setting.mk v (some s)], q.Said :=
          List.forall_mem_append.2 ⟨hw _ rfl, List.forall_mem_singleton.2 hlast⟩
        exact (settles_foldlM_set hall hp).bind fun q hq => ih nofun hq
      · exact settles_misuse
    | none =>
      simp only [Progress.walk]
      split
      · cases p.program with
        | none => exact (unsaid_foldl_take rest p).trans hp
        | some t => exact hp
      · cases Word.ofArgument s with
        | value =>
          have ht : (p.take s).unsaid = false := (unsaid_foldl_take [s] p).trans hp
          simp only
          split
          · exact ht
          · exact ih nofun ht
        | option v isShort attached =>
          refine (settles_ofOption v isShort attached).bind fun c hc => ?_
          cases hpend : c.pending with
          | none => exact (settles_apply hc hp).bind fun q hq => ih nofun hq
          | some v' => exact ih (fun x hx => by cases hx; exact hc) hp
        | unknown => exact ih nofun hp
        | ambiguous => exact settles_misuse

end Progress

/-- Under the strict convention every limit of steps has its number. -/
theorem ofArguments_strict_ne_unsaid (args : List String) (o : Options) :
    Options.ofArguments .strict args ≠ .error (.unsaid o) := by
  unfold Options.ofArguments
  split
  · exact nofun
  · intro h
    have hwalk : Settles (·.unsaid = false) (Progress.walk .strict args none .start) :=
      settles_walk args nofun rfl
    obtain he | ⟨p, hp, hf⟩ := bind_eq_error h
    · rw [he] at hwalk
      exact hwalk o rfl
    · rw [hp] at hwalk
      have hsaid : p.unsaid = false := hwalk
      unfold Progress.finish at hf
      rw [hsaid] at hf
      split at hf
      · cases hf
      · split at hf <;> cases hf

end Yan85.CommandLine
