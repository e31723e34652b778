import Yan85.Proofs.Host.Descriptors
import Yan85.Proofs.Host.Simulated
import Yan85.Proofs.Machine.Runs
import Yan85.Proofs.Machine.Twins

/-! # The descriptors that a machine owns

* `Reaches H m m'`: something that can be done with the machine `m` leaves `m'`: any sequence of
  steps, runs, system calls made from outside, and closing, of which each may fail.
* `logged m`: the machine `m` on a host that keeps a log of its descriptors. `Reaches.logged` says that
  the log makes no difference.
* `Owns inUse s₀ keys t`: the invariant of a host and its log, for descriptors `keys` that were opened
  and not closed. Opening adds a descriptor, closing takes the last one away, and all other requests
  leave it alone.
* `descriptors_owned`: a machine has opened and not closed the descriptors of its table, and no
  others.
-/

namespace Yan85.Machine
set_option autoImplicit false

variable {b : Bindings} {σ : Type} {H : Host σ}

/-! ## All uses of a machine -/

/-- What can be done with a machine. A step, a run or a call may have failed. -/
inductive Reaches (H : Host σ) (m : Machine b σ) : Machine b σ → Prop
  | start : Reaches H m m
  | stepped {m' : Machine b σ} (h : Reaches H m m') : Reaches H m (next H m')
  | ran {limit : Option Int} {r : Except Fault Int} {m' m'' : Machine b σ} (h : Reaches H m m')
      (hr : Ends H limit m' r m'') : Reaches H m m''
  | dispatched {m' : Machine b σ} (code x y z : Int) (h : Reaches H m m') :
      Reaches H m (dispatch H code x y z m').2
  | closed {m' : Machine b σ} (h : Reaches H m m') : Reaches H m (close H m')

/-- A run is nothing but steps, so an invariant of the other uses is one of runs too. -/
theorem Reaches.invariant {P : Machine b σ → Prop} {m m' : Machine b σ}
    (hn : ∀ m, P m → P (next H m)) (hd : ∀ m code x y z, P m → P (dispatch H code x y z m).2)
    (hc : ∀ m, P m → P (close H m)) (h : Reaches H m m') (h0 : P m) : P m' := by
  induction h with
  | start => exact h0
  | stepped _ ih => exact hn _ ih
  | ran _ hr ih =>
    obtain ⟨j, rfl, -⟩ := hr.exists_after
    exact after_invariant hn j ih
  | dispatched code x y z _ ih => exact hd _ code x y z ih
  | closed _ ih => exact hc _ ih

/-! ## Machines whose host keeps a log -/

/-- The machine on a host whose log is empty. -/
def logged (m : Machine b σ) : Machine b (σ × List DescriptorEvent) where
  program := m.program
  registers := m.registers
  memory := m.memory
  stack := m.stack
  descriptors := m.descriptors
  host := (m.host, [])
  steps := m.steps
  exitCode := m.exitCode
  observed := m.observed
  diagnostics := m.diagnostics

theorem twins_logged (m : Machine b σ) : Twins (fun s t => t.1 = s) False m m.logged where
  program := rfl
  registers := fun _ => rfl
  memory := rfl
  stack := rfl
  wraps := .inl rfl
  descriptors := rfl
  host := rfl
  steps := rfl
  exitCode := rfl
  observed := rfl
  diagnostics := rfl

/-- Whatever is done with a machine, the same can be done where the host keeps a log. -/
theorem Reaches.logged {m m₁ : Machine b σ} (h : Reaches H m m₁) :
    ∃ m', Reaches H.recorded m.logged m' ∧ Twins (fun s t => t.1 = s) False m₁ m' := by
  have hH := mirrors_recorded H
  induction h with
  | start => exact ⟨m.logged, .start, twins_logged m⟩
  | stepped _ ih =>
    obtain ⟨m', hm, ht⟩ := ih
    exact ⟨_, hm.stepped, (ht.step (.refl b) hH fun _ => rfl).twins.2⟩
  | ran _ hr ih =>
    obtain ⟨m', hm, ht⟩ := ih
    obtain ⟨rounds, hr⟩ := hr
    obtain ⟨m'', hr', ht'⟩ := ht.run (.refl b) hH rfl hr
    exact ⟨m'', hm.ran ⟨rounds, hr'⟩, ht'⟩
  | @dispatched m₂ code x y z _ ih =>
    obtain ⟨m', hm, ht⟩ := ih
    have hp : Parallel (fun s t => t.1 = s) False (dispatch H code x y z m₂)
        (dispatch H.recorded code x y z m') :=
      InStep.dispatch (.refl b) hH (fun _ => rfl) x y z _ _ ht
    exact ⟨_, hm.dispatched code x y z, hp.twins.2⟩
  | closed _ ih =>
    obtain ⟨m', hm, ht⟩ := ih
    exact ⟨_, hm.closed, ht.close hH⟩

/-! ## Closing -/

theorem host_closeOne (m : Machine b σ) (e : Nat × List UInt8) :
    (closeOne H m e).host = (H.close e.1 m.host).2 := by
  unfold closeOne
  simp only
  cases (H.close e.1 m.host).1 with
  | ok u => rfl
  | error f => rfl

theorem host_close (m : Machine b σ) :
    (close H m).host = (m.descriptors.entries.reverse.foldl (closeOne H) m).host := rfl

theorem log_foldl_closeOne (es : List (Nat × List UInt8))
    (m : Machine b (σ × List DescriptorEvent)) :
    (es.foldl (closeOne H.recorded) m).host.2 = m.host.2 ++ es.map fun e => .closed e.1 := by
  induction es generalizing m with
  | nil => exact (List.append_nil _).symm
  | cons e es ih =>
    have he : (closeOne H.recorded m e).host.2 = m.host.2 ++ [.closed e.1] := by
      rw [host_closeOne]
      rfl
    rw [List.foldl_cons, ih, he, List.map_cons, List.append_assoc]
    rfl

/-- All descriptors are closed, the last one first, whether the host refuses or not. -/
theorem log_close (m : Machine b (σ × List DescriptorEvent)) :
    (close H.recorded m).host.2 = m.host.2 ++ m.descriptors.keys.reverse.map .closed := by
  have hk : m.descriptors.keys.reverse.map DescriptorEvent.closed =
      m.descriptors.entries.reverse.map fun e => .closed e.1 := by
    unfold Ordered.keys
    rw [← List.map_reverse, List.map_map]
    rfl
  rw [host_close, log_foldl_closeOne, hk]

/-- After closing there is nothing to close. -/
theorem close_close (H : Host σ) (m : Machine b σ) : close H (close H m) = close H m := rfl

/-! ## The invariant -/

variable {inUse : σ → Nat → Prop} {s₀ : σ} {keys : List Nat} {t t' : σ × List DescriptorEvent}

/-- The descriptors `keys` are those that are open after the log, and are in use. What was in use from
the start is so still, and was never opened. -/
structure Owns (inUse : σ → Nat → Prop) (s₀ : σ) (keys : List Nat)
    (t : σ × List DescriptorEvent) : Prop where
  held : held? t.2 = some keys
  used : ∀ fd ∈ keys, inUse t.1 fd
  provided : ∀ fd, inUse s₀ fd → inUse t.1 fd ∧ .opened fd ∉ t.2

theorem Owns.kept (h : Owns inUse s₀ keys t) {s : σ} (hs : ∀ fd, inUse t.1 fd → inUse s fd) :
    Owns inUse s₀ keys (s, t.2) where
  held := h.held
  used := fun fd hfd => hs fd (h.used fd hfd)
  provided := fun fd hfd => ⟨hs fd (h.provided fd hfd).1, (h.provided fd hfd).2⟩

theorem Owns.refused (hH : H.Allocates inUse) (h : Owns inUse s₀ keys t) {path : List UInt8}
    {e : HostFailure} (ho : H.recorded.openFile path t = (.error e, t')) :
    Owns inUse s₀ keys t' := by
  rw [recorded_openFile_error ho]
  exact h.kept (hH.openFile path t.1)

theorem Owns.opened (hH : H.Allocates inUse) (h : Owns inUse s₀ keys t) {path : List UInt8}
    {fd : Nat} (ho : H.recorded.openFile path t = (.ok fd, t')) :
    fd ∉ keys ∧ Owns inUse s₀ (keys ++ [fd]) t' := by
  obtain ⟨hr, hl⟩ := recorded_openFile_ok ho
  obtain ⟨hfree, hused⟩ := hH.unused path t.1 fd t'.1 hr
  have hkept : ∀ d, inUse t.1 d → inUse t'.1 d := by
    intro d hd
    have hd' := hH.openFile path t.1 d hd
    rw [hr] at hd'
    exact hd'
  have hn : fd ∉ keys := fun hk => hfree (h.used fd hk)
  refine ⟨hn, ?_, ?_, ?_⟩
  · rw [hl, held?_snoc]
    exact ⟨keys, h.held, heldAfter_opened_iff.2 ⟨hn, rfl⟩⟩
  · intro d hd
    obtain hd | hd := List.mem_append.1 hd
    · exact hkept d (h.used d hd)
    · rw [List.mem_singleton.1 hd]
      exact hused
  · intro d hd
    obtain ⟨hu, hno⟩ := h.provided d hd
    refine ⟨hkept d hu, ?_⟩
    rw [hl, List.mem_append, List.mem_singleton]
    rintro (he | he)
    · exact hno he
    · cases he
      exact hfree hu

theorem Owns.closed (hH : H.Allocates inUse) {fd : Nat} (h : Owns inUse s₀ (keys ++ [fd]) t) :
    Owns inUse s₀ keys (H.recorded.close fd t).2 := by
  have hfd : fd ∈ keys ++ [fd] := List.mem_append_right keys (List.mem_singleton_self fd)
  have hn : fd ∉ keys := by
    intro hk
    obtain ⟨-, -, hd⟩ := List.nodup_append.1 (nodup_held h.held)
    exact hd fd hk fd (List.mem_singleton_self fd) rfl
  have he : (keys ++ [fd]).erase fd = keys := by
    rw [List.erase_append_right _ hn, List.erase_cons_head, List.append_nil]
  refine ⟨?_, ?_, ?_⟩
  · change held? (t.2 ++ [.closed fd]) = some keys
    rw [held?_snoc]
    exact ⟨keys ++ [fd], h.held, heldAfter_closed_iff.2 ⟨hfd, he.symm⟩⟩
  · intro d hd
    refine hH.close fd t.1 d ?_ (h.used d (List.mem_append_left [fd] hd))
    rintro rfl
    exact hn hd
  · intro d hd
    obtain ⟨hu, hno⟩ := h.provided d hd
    refine ⟨hH.close fd t.1 d ?_ hu, ?_⟩
    · rintro rfl
      exact hno (mem_of_held h.held hfd)
    · change .opened d ∉ t.2 ++ [.closed fd]
      rw [List.mem_append, List.mem_singleton]
      rintro (he | he)
      · exact hno he
      · cases he

/-- Closing takes away one descriptor after the other, the last one first. -/
theorem Owns.closedAll (hH : H.Allocates inUse) (es : List (Nat × List UInt8))
    {m : Machine b (σ × List DescriptorEvent)} (h : Owns inUse s₀ (es.map Prod.fst) m.host) :
    Owns inUse s₀ [] (es.reverse.foldl (closeOne H.recorded) m).host := by
  -- The last entry is closed first, so the induction takes the entries from the end.
  induction es using List.reverseRecOn generalizing m with
  | nil => exact h
  | append_singleton es e ih =>
    rw [List.map_append] at h
    rw [List.reverse_append]
    change Owns inUse s₀ [] (es.reverse.foldl _ (closeOne H.recorded m e)).host
    apply ih
    rw [host_closeOne]
    exact h.closed hH

/-! ## Machines -/

/-- The invariant of a machine and its host. -/
structure Owned (inUse : σ → Nat → Prop) (s₀ : σ) (m : Machine b (σ × List DescriptorEvent)) :
    Prop where
  owns : Owns inUse s₀ m.descriptors.keys m.host
  bytes : ∀ fd ∈ m.descriptors.keys, fd ≤ 0xFF

theorem tolerant_owned : Tolerant fun m m' : Machine b (σ × List DescriptorEvent) =>
    Owned inUse s₀ m → Owned inUse s₀ m' where
  refl := fun _ => id
  trans := fun h h' hm => h' (h hm)
  registers := fun _ _ hm => ⟨hm.owns, hm.bytes⟩
  memory := fun _ _ _ hm => ⟨hm.owns, hm.bytes⟩
  stack := fun _ _ _ _ hm => ⟨hm.owns, hm.bytes⟩
  called := fun _ _ _ _ _ hm => ⟨hm.owns, hm.bytes⟩

theorem Calls.owned (hH : H.Allocates inUse) {m m' : Machine b (σ × List DescriptorEvent)}
    {x y z : Int} {s : Syscall} {r : Except Fault Int} (hc : Calls H.recorded m x y z s r m')
    (h : Owned inUse s₀ m) : Owned inUse s₀ m' := by
  have hread : ∀ {d count : Int} {a : Except HostFailure (List UInt8)}
      {t : σ × List DescriptorEvent}, H.recorded.read d count m.host = (a, t) →
      Owns inUse s₀ m.descriptors.keys t := by
    intro d count a t hr
    obtain ⟨-, rfl⟩ := Prod.mk.inj hr
    exact h.owns.kept (hH.read d count m.host.1)
  have hwrite : ∀ {d : Int} {data : List UInt8} {a : Except HostFailure Nat}
      {t : σ × List DescriptorEvent}, H.recorded.write d data m.host = (a, t) →
      Owns inUse s₀ m.descriptors.keys t := by
    intro d data a t hw
    obtain ⟨-, rfl⟩ := Prod.mk.inj hw
    exact h.owns.kept (hH.write d data m.host.1)
  cases hc with
  | pathOutside | codeMisplaced | transferOutside | writeOutside | sleepless | exited => exact h
  | openRefused _ ho => exact ⟨h.owns.refused hH ho, h.bytes⟩
  | openedTooHigh _ ho _ hc | openedStuck _ ho _ hc =>
    have hx := (h.owns.opened hH ho).2.closed hH
    rw [hc] at hx
    exact ⟨hx, h.bytes⟩
  | @opened path _ fd _ _ ho hfd =>
    obtain ⟨hn, hx⟩ := h.owns.opened hH ho
    have hk : (m.descriptors.insert fd path).keys = m.descriptors.keys ++ [fd] := by
      unfold Ordered.keys
      rw [Ordered.entries_insert path hn, List.map_append]
      rfl
    refine ⟨hk ▸ hx, ?_⟩
    intro d hd
    obtain hd | hd := List.mem_append.1 (hk ▸ hd)
    · exact h.bytes d hd
    · rw [List.mem_singleton.1 hd]
      exact hfd
  | codeRefused _ hr | codeUndecoded _ hr | codeTooLong _ hr | codeRead _ hr | readRefused _ hr
  | readOutside _ hr | read _ hr => exact ⟨hread hr, h.bytes⟩
  | writeRefused _ hw | written _ hw => exact ⟨hwrite hw, h.bytes⟩
  | slept => exact ⟨h.owns.kept (hH.sleep x m.host.1), h.bytes⟩

theorem Owned.dispatch (hH : H.Allocates inUse) {m : Machine b (σ × List DescriptorEvent)}
    (code x y z : Int) (h : Owned inUse s₀ m) :
    Owned inUse s₀ (Machine.dispatch H.recorded code x y z m).2 := by
  cases hd : Machine.dispatch H.recorded code x y z m with
  | mk r m' =>
    obtain ⟨-, -, rfl⟩ | ⟨s, -, hc⟩ := dispatch_cases hd
    · exact h
    · exact hc.owned hH ⟨h.owns, h.bytes⟩

theorem Owned.next (hH : H.Allocates inUse) {m : Machine b (σ × List DescriptorEvent)}
    (h : Owned inUse s₀ m) : Owned inUse s₀ (Machine.next H.recorded m) := by
  have hexec : ∀ {i r m'}, execute H.recorded i (m.begun i) = (r, m') → Owned inUse s₀ m' :=
    fun he => tolerant_owned.execute (fun _ _ _ _ _ _ _ hc => hc.owned hH) he ⟨h.owns, h.bytes⟩
  refine next_of_steps fun r m' hs => ?_
  cases hs with
  | halted => exact h
  | unfetched => exact ⟨h.owns, h.bytes⟩
  | done _ _ he | exited _ _ he => exact ⟨(hexec he).owns, (hexec he).bytes⟩
  | failed _ _ he => exact hexec he

theorem Owned.close (hH : H.Allocates inUse) {m : Machine b (σ × List DescriptorEvent)}
    (h : Owned inUse s₀ m) : Owned inUse s₀ (Machine.close H.recorded m) where
  owns := h.owns.closedAll hH m.descriptors.entries
  bytes := fun _ hfd => absurd hfd List.not_mem_nil

/-- The descriptors of a machine as the log of its host tells them. The descriptors `provided` are
those that the host had in use before. -/
structure Accounts (provided : Nat → Prop) (m : Machine b (σ × List DescriptorEvent)) : Prop where
  /-- Each was opened as often as it was closed, and once more if it is in the table. -/
  balance : ∀ fd, m.host.2.count (.opened fd) =
    m.host.2.count (.closed fd) + if fd ∈ m.descriptors.keys then 1 else 0
  bytes : ∀ fd ∈ m.descriptors.keys, fd ≤ 0xFF
  /-- The table has the open ones in the order in which they were opened. -/
  order : held? m.host.2 = some m.descriptors.keys
  /-- What is closed was opened, and was not closed since. -/
  owned : ∀ before fd rest, m.host.2 = before ++ .closed fd :: rest →
    before.count (.opened fd) = before.count (.closed fd) + 1
  provided : ∀ fd, provided fd → .closed fd ∉ m.host.2

theorem Owned.accounts {m : Machine b (σ × List DescriptorEvent)} (h : Owned inUse s₀ m) :
    m.Accounts (inUse s₀) where
  balance := by
    intro fd
    have hn := nodup_held h.owns.held
    rw [count_opened h.owns.held]
    by_cases hfd : fd ∈ m.descriptors.keys
    · rw [if_pos hfd, List.count_eq_one_of_mem hn hfd]
    · rw [if_neg hfd, List.count_eq_zero.2 hfd]
  bytes := h.bytes
  order := h.owns.held
  owned := by
    intro before fd rest hl
    have hh := h.owns.held
    rw [hl] at hh
    exact open_before_closed hh
  provided := fun fd hfd => not_mem_closed h.owns.held (h.owns.provided fd hfd).2

/-- **A machine gives back the descriptors that it has opened, and no others.** On a host that opens
no descriptor that is in use, whatever is done with a machine that has opened none yet,
* each descriptor was opened as often as it was closed, and once more if the machine has it in its
  table, where there are only bytes;
* what was closed had been opened, so that descriptors of others are never closed.

Closing the machine then empties the table: what it opened is closed as often as it was opened, the
latest first, whether the host refuses or not. Closing it again does nothing. -/
theorem descriptors_owned (hH : H.Allocates inUse) {m : Machine b σ} (hd : m.descriptors = .empty)
    {m' : Machine b (σ × List DescriptorEvent)} (h : Reaches H.recorded m.logged m') :
    m'.Accounts (inUse m.host) ∧
    (close H.recorded m').Accounts (inUse m.host) ∧
    (close H.recorded m').descriptors = .empty ∧
    (∀ fd, (close H.recorded m').host.2.count (.opened fd) =
      (close H.recorded m').host.2.count (.closed fd)) ∧
    (close H.recorded m').host.2 = m'.host.2 ++ m'.descriptors.keys.reverse.map .closed ∧
    close H.recorded (close H.recorded m') = close H.recorded m' := by
  have hk : m.logged.descriptors.keys = [] := congrArg Ordered.keys hd
  have h0 : Owned inUse m.host m.logged := by
    refine ⟨⟨?_, ?_, fun fd hfd => ⟨hfd, List.not_mem_nil⟩⟩, ?_⟩
    · rw [hk]
      rfl
    · rw [hk]
      exact fun fd hfd => absurd hfd List.not_mem_nil
    · rw [hk]
      exact fun fd hfd => absurd hfd List.not_mem_nil
  have hm : Owned inUse m.host m' := h.invariant (fun _ => Owned.next hH)
    (fun _ code x y z => Owned.dispatch hH code x y z) (fun _ => Owned.close hH) h0
  have hc := (hm.close hH).accounts
  refine ⟨hm.accounts, hc, rfl, fun fd => ?_, log_close m', close_close H.recorded m'⟩
  have hn : fd ∉ (close H.recorded m').descriptors.keys := List.not_mem_nil
  have hb := hc.balance fd
  rw [if_neg hn] at hb
  exact hb

/-- A machine that opens the file with the empty path twice. -/
def openingTwice : Machine .standard Simulated :=
  .fresh .standard [.sys 0x08 (some .B), .sys 0x08 (some .C)] (.ofSize .main addressSpaceSize) false
    { Simulated.empty with files := .ofList [([], default)] }

/-- It closes the two descriptors in the reverse order. -/
theorem openingTwice_closes :
    (after Simulated.host.recorded 2 openingTwice.logged).descriptors.keys = [3, 4] ∧
    (close Simulated.host.recorded (after Simulated.host.recorded 2 openingTwice.logged)).host.2 =
      [.opened 3, .opened 4, .closed 4, .closed 3] := by
  have hr : Reaches Simulated.host.recorded openingTwice.logged
      (after Simulated.host.recorded 2 openingTwice.logged) := .stepped (.stepped .start)
  have hk : (after Simulated.host.recorded 2 openingTwice.logged).descriptors.keys = [3, 4] := by
    decide +kernel
  have hl : (after Simulated.host.recorded 2 openingTwice.logged).host.2 =
      [.opened 3, .opened 4] := by
    decide +kernel
  obtain ⟨-, -, -, -, hc, -⟩ := descriptors_owned Simulated.allocates rfl hr
  refine ⟨hk, ?_⟩
  rw [hc, hk, hl]
  rfl

end Yan85.Machine
