import Mathlib.Data.List.Induction
import Mathlib.Data.List.Infix
import Yan85.Bindings.Standard
import Yan85.Proofs.Stack.Bounded

/-! # A wrapping stack keeps the last 256 bytes

* `pushes`, `pops`, `outstanding`: the numbers of the calls of both kinds, and the bytes that were
  pushed and not popped since.
* `NeverShort`, `Fits room`, `Settled`: calls of which no first part has more pops than pushes; of
  which, besides, no first part has more than `room` bytes outstanding; and of which nothing is
  outstanding at the end.
* `exists_push`: the call that pushed a byte, and what came between it and now.
* `Carries base lost s l`: `S` points `l.length` cells behind `base`, and the bytes of `l` stand
  there one after the other modulo 256, but for the first `lost`.
* `carries_inTurn`: what any number of calls leave.
* `wrapping_stack_is_lifo`: what they answer, and what is lost when there is one byte too many.
-/

namespace Yan85.Stack
set_option autoImplicit false

variable {b : Bindings}

/-! ## Calls one after the other -/

section InTurn

variable {S R : Type} (f : Call → S → R × S)

theorem inTurn_append (calls more : List Call) (s : S) :
    inTurn f (calls ++ more) s =
      ((inTurn f calls s).1 ++ (inTurn f more (inTurn f calls s).2).1,
        (inTurn f more (inTurn f calls s).2).2) := by
  induction calls generalizing s with
  | nil => rfl
  | cons c calls ih =>
    simp only [List.cons_append, inTurn]
    rw [ih]

@[simp] theorem length_inTurn (calls : List Call) (s : S) :
    (inTurn f calls s).1.length = calls.length := by
  induction calls generalizing s with
  | nil => rfl
  | cons c calls ih =>
    simp only [inTurn, List.length_cons]
    rw [ih]

/-- The answer to a call is the one that it gives in the state that the calls before it leave. -/
theorem getElem?_inTurn (before : List Call) (c : Call) (after : List Call) (s : S) :
    (inTurn f (before ++ c :: after) s).1[before.length]? =
      some (f c (inTurn f before s).2).1 := by
  rw [inTurn_append]
  simp only
  rw [List.getElem?_append_right (by rw [length_inTurn]), length_inTurn, Nat.sub_self]
  rfl

theorem exists_call_of_mem {calls : List Call} {s : S} {r : R} (h : r ∈ (inTurn f calls s).1) :
    ∃ before c after, calls = before ++ c :: after ∧ r = (f c (inTurn f before s).2).1 := by
  obtain ⟨k, hk, hr⟩ := List.mem_iff_getElem.1 h
  rw [length_inTurn] at hk
  have hc : calls = calls.take k ++ calls[k] :: calls.drop (k + 1) := by
    rw [List.getElem_cons_drop, List.take_append_drop]
  have hlen : (calls.take k).length = k := List.length_take_of_le (Nat.le_of_lt hk)
  have hg := getElem?_inTurn f (calls.take k) calls[k] (calls.drop (k + 1)) s
  rw [← hc, hlen, List.getElem?_eq_getElem (by rwa [length_inTurn]), hr] at hg
  exact ⟨_, _, _, hc, Option.some.inj hg⟩

end InTurn

/-! ## What is outstanding -/

/-- The number of pushes. -/
def pushes (calls : List Call) : Nat := calls.countP (· ≠ .pop)

/-- The number of pops. -/
def pops (calls : List Call) : Nat := calls.count .pop

/-- The bytes outstanding after one more call. -/
def outstandingAfter (l : List UInt8) : Call → List UInt8
  | .push x => l ++ [x]
  | .pop => l.dropLast

/-- The bytes that were pushed and not popped since, the earliest first. -/
def outstanding (calls : List Call) : List UInt8 := calls.foldl outstandingAfter []

/-- No first part of the calls has more pops than pushes. -/
def NeverShort (calls : List Call) : Prop := ∀ p, p <+: calls → pops p ≤ pushes p

/-- No first part of the calls has more pops than pushes, or more than `room` bytes outstanding. -/
structure Fits (room : Nat) (calls : List Call) : Prop where
  neverShort : NeverShort calls
  within : ∀ p, p <+: calls → pushes p ≤ pops p + room

/-- Calls that pop what they push and nothing else. -/
structure Settled (calls : List Call) : Prop where
  neverShort : NeverShort calls
  even : pushes calls = pops calls

instance (calls : List Call) : Decidable (NeverShort calls) :=
  decidable_of_iff (∀ p ∈ calls.inits, pops p ≤ pushes p) (by simp [NeverShort, List.mem_inits])

instance (room : Nat) (calls : List Call) : Decidable (Fits room calls) :=
  decidable_of_iff (NeverShort calls ∧ ∀ p ∈ calls.inits, pushes p ≤ pops p + room) (by
    simp only [List.mem_inits]
    exact ⟨fun h => ⟨h.1, h.2⟩, fun h => ⟨h.1, h.2⟩⟩)

@[simp] theorem pushes_push (calls : List Call) (x : UInt8) :
    pushes (calls ++ [.push x]) = pushes calls + 1 := by
  simp [pushes]

@[simp] theorem pushes_pop (calls : List Call) : pushes (calls ++ [.pop]) = pushes calls := by
  simp [pushes]

@[simp] theorem pops_push (calls : List Call) (x : UInt8) :
    pops (calls ++ [.push x]) = pops calls := by
  simp [pops]

@[simp] theorem pops_pop (calls : List Call) : pops (calls ++ [.pop]) = pops calls + 1 := by
  simp [pops]

theorem outstanding_concat (calls : List Call) (c : Call) :
    outstanding (calls ++ [c]) = outstandingAfter (outstanding calls) c := by
  unfold outstanding
  rw [List.foldl_append]
  rfl

theorem neverShort_nil : NeverShort [] := by
  intro p hp
  rw [List.prefix_nil.1 hp]
  exact Nat.le_refl 0

theorem NeverShort.of_prefix {calls p : List Call} (h : NeverShort calls) (hp : p <+: calls) :
    NeverShort p :=
  fun q hq => h q (hq.trans hp)

theorem NeverShort.concat {calls : List Call} {c : Call} (h : NeverShort calls)
    (hc : pops (calls ++ [c]) ≤ pushes (calls ++ [c])) : NeverShort (calls ++ [c]) := by
  intro p hp
  obtain rfl | hp := List.prefix_concat_iff.1 hp
  · exact hc
  · exact h p hp

theorem Fits.of_prefix {room : Nat} {calls p : List Call} (h : Fits room calls) (hp : p <+: calls) :
    Fits room p :=
  ⟨h.neverShort.of_prefix hp, fun q hq => h.within q (hq.trans hp)⟩

theorem fits_of_pops_eq_zero {room : Nat} {calls : List Call} (h : pops calls = 0)
    (hl : calls.length ≤ room) : Fits room calls where
  neverShort p hp := by
    have hc : pops p ≤ pops calls := hp.sublist.count_le Call.pop
    omega
  within p hp := by
    have hc : pushes p ≤ p.length := List.countP_le_length
    have hle := hp.length_le
    omega

theorem length_outstanding {calls : List Call} (h : NeverShort calls) :
    pushes calls = pops calls + (outstanding calls).length := by
  induction calls using List.reverseRecOn with
  | nil => rfl
  | append_singleton calls c ih =>
    have hl := ih (h.of_prefix (List.prefix_append calls [c]))
    have hc := h _ (List.prefix_refl _)
    rw [outstanding_concat]
    cases c with
    | push x =>
      simp only [outstandingAfter, pushes_push, pops_push, List.length_append,
        List.length_singleton]
      omega
    | pop =>
      simp only [pushes_pop, pops_pop] at hc
      simp only [outstandingAfter, pushes_pop, pops_pop, List.length_dropLast]
      omega

/-- A byte that is outstanding was pushed by some call. Since then the bytes above it were pushed,
and nothing at it or below it was popped. -/
theorem exists_push {calls : List Call} (h : NeverShort calls) {below above : List UInt8} {x : UInt8}
    (ho : outstanding calls = below ++ x :: above) :
    ∃ earlier between, calls = earlier ++ .push x :: between ∧ NeverShort between ∧
      pushes between = pops between + above.length := by
  induction calls using List.reverseRecOn generalizing above with
  | nil => exact absurd ho.symm (List.append_ne_nil_of_right_ne_nil _ (List.cons_ne_nil _ _))
  | append_singleton calls c ih =>
    have hcalls := h.of_prefix (List.prefix_append calls [c])
    rw [outstanding_concat] at ho
    cases c with
    | push y =>
      rw [outstandingAfter] at ho
      cases above using List.reverseRecOn with
      | nil =>
        obtain ⟨-, hxy⟩ := List.append_inj' ho rfl
        cases hxy
        exact ⟨calls, [], rfl, neverShort_nil, rfl⟩
      | append_singleton above z =>
        rw [← List.cons_append, ← List.append_assoc] at ho
        obtain ⟨ho, -⟩ := List.append_inj' ho rfl
        obtain ⟨earlier, between, rfl, hn, he⟩ := ih hcalls ho
        refine ⟨earlier, between ++ [.push y], by simp, hn.concat ?_, ?_⟩
        · rw [pops_push, pushes_push]
          omega
        · rw [pushes_push, pops_push, he, List.length_append, List.length_singleton]
          omega
    | pop =>
      have hl := length_outstanding hcalls
      have hc := h _ (List.prefix_refl _)
      rw [pops_pop, pushes_pop] at hc
      obtain ⟨l, z, hz⟩ : ∃ l z, outstanding calls = l ++ [z] := by
        have hne : outstanding calls ≠ [] := by
          intro h0
          rw [h0, List.length_nil] at hl
          omega
        exact ⟨_, _, (List.dropLast_concat_getLast hne).symm⟩
      rw [hz, outstandingAfter, List.dropLast_concat] at ho
      subst ho
      -- The byte that is popped now was above `x` until now.
      rw [List.append_assoc, List.cons_append] at hz
      obtain ⟨earlier, between, rfl, hn, he⟩ := ih hcalls hz
      rw [List.length_append, List.length_singleton] at he
      refine ⟨earlier, between ++ [.pop], by simp, hn.concat ?_, ?_⟩
      · rw [pops_pop, pushes_pop]
        omega
      · rw [pushes_pop, pops_pop]
        omega

/-! ## Where the bytes stand -/

/-- The cell that is `i` places behind `base`, modulo 256. -/
def place (base : UInt8) (i : Nat) : Nat := (base.toNat + i) % addressSpaceSize

theorem place_lt (base : UInt8) (i : Nat) : place base i < addressSpaceSize :=
  Nat.mod_lt _ (by decide)

@[simp] theorem place_zero (base : UInt8) : place base 0 = base.toNat :=
  Nat.mod_eq_of_lt base.toNat_lt

/-- Two places are different unless they are a whole round apart. -/
theorem place_ne {base : UInt8} {i j : Nat} (h : i < j) (hr : j < i + addressSpaceSize) :
    place base i ≠ place base j := by
  unfold place
  unfold addressSpaceSize at hr ⊢
  omega

/-- A wrapping stack onto which the bytes of `l` were pushed from `base` on. They stand where they
were pushed, but for the first `lost` of them. -/
structure Carries (base : UInt8) (lost : Nat) (s : Stack × RegisterFile b) (l : List UInt8) :
    Prop where
  wraps : s.1.wraps = true
  size : s.1.memory.size = addressSpaceSize
  pointer : (s.2.get .S).toNat = place base l.length
  cells : ∀ i x, lost ≤ i → l[i]? = some x → s.1.memory.cell (place base i) = x

variable {s : Stack × RegisterFile b} {l : List UInt8} {base : UInt8} {lost : Nat}

theorem carries_nil (hw : s.1.wraps = true) (hs : s.1.memory.size = addressSpaceSize) :
    Carries (s.2.get .S) lost s [] where
  wraps := hw
  size := hs
  pointer := (place_zero _).symm
  cells := fun i x _ hx => by cases hx

theorem Carries.perform_push (h : Carries base lost s l) (x : UInt8) :
    (Call.push x).perform s =
      (.ok none, { s.1 with memory := s.1.memory.store (s.2.get .S).toNat x },
        s.2.set .S (s.2.get .S + 1)) := by
  have hf : ¬ s.1.Full s.2 := fun hf => Bool.noConfusion (h.wraps.symm.trans hf.2)
  have hp := Stack.perform_push h.size s.2 x
  rw [if_neg hf] at hp
  exact hp

theorem Carries.perform_pop (h : Carries base lost s l) :
    Call.pop.perform s =
      (.ok (some (s.1.memory.cell (s.2.get .S - 1).toNat)),
        { s.1 with memory := s.1.memory.seen (s.2.get .S - 1).toNat },
        s.2.set .S (s.2.get .S - 1)) := by
  have he : ¬ s.1.Empty s.2 := fun he => Bool.noConfusion (h.wraps.symm.trans he.2)
  have hp := Stack.perform_pop h.size s.2
  rw [if_neg he] at hp
  exact hp

theorem Carries.perform_ok (h : Carries base lost s l) (c : Call) :
    ∃ v, (c.perform s).1 = .ok v := by
  cases c with
  | push x => exact ⟨_, congrArg Prod.fst (h.perform_push x)⟩
  | pop => exact ⟨_, congrArg Prod.fst h.perform_pop⟩

/-- One more byte stands behind the others. If there are at most 256 that still have to stand, it
falls on none of them. -/
theorem Carries.pushed (h : Carries base lost s l) (hl : l.length < lost + addressSpaceSize)
    (x : UInt8) : Carries base lost ((Call.push x).perform s).2 (l ++ [x]) := by
  rw [h.perform_push]
  have hin : (s.2.get .S).toNat < s.1.memory.size := by
    rw [h.size, h.pointer]
    exact place_lt ..
  refine ⟨h.wraps, (Memory.size_store ..).trans h.size, ?_, fun i y hi hy => ?_⟩
  · rw [RegisterFile.get_set_self, UInt8.toNat_add, h.pointer, List.length_append]
    unfold place addressSpaceSize
    simp only [UInt8.toNat_one, List.length_singleton]
    omega
  · simp only
    rw [Memory.cell_store _ hin, h.pointer]
    by_cases hil : i < l.length
    · rw [List.getElem?_append_left hil] at hy
      rw [if_neg (place_ne hil (by omega))]
      exact h.cells i y hi hy
    · have hlt := (List.getElem?_eq_some_iff.1 hy).1
      rw [List.length_append, List.length_singleton] at hlt
      obtain rfl : i = l.length := by omega
      rw [List.getElem?_concat_length] at hy
      rw [if_pos rfl, Option.some.inj hy]

theorem Carries.popped {x : UInt8} (h : Carries base lost s (l ++ [x])) :
    (lost ≤ l.length → (Call.pop.perform s).1 = .ok (some x)) ∧
      Carries base lost (Call.pop.perform s).2 l := by
  rw [h.perform_pop]
  have htop : (s.2.get .S - 1).toNat = place base l.length := by
    have hp := h.pointer
    rw [List.length_append, List.length_singleton] at hp
    rw [UInt8.toNat_sub, hp]
    unfold place addressSpaceSize
    simp only [UInt8.toNat_one]
    omega
  refine ⟨fun hl => ?_, h.wraps, h.size, ?_, fun i y hi hy => ?_⟩
  · rw [htop, h.cells _ x hl List.getElem?_concat_length]
  · rw [RegisterFile.get_set_self, htop]
  · have hil := (List.getElem?_eq_some_iff.1 hy).1
    exact h.cells i y hi ((List.getElem?_append_left hil).trans hy)

/-- What is left by calls that never have more than 256 bytes outstanding besides the lost ones. -/
theorem carries_inTurn {calls : List Call} (h : Carries base lost s [])
    (hf : Fits (lost + addressSpaceSize) calls) :
    Carries base lost (inTurn Call.perform calls s).2 (outstanding calls) := by
  induction calls using List.reverseRecOn with
  | nil => exact h
  | append_singleton calls c ih =>
    have hc := ih (hf.of_prefix (List.prefix_append calls [c]))
    have hl := length_outstanding (hf.neverShort.of_prefix (List.prefix_append calls [c]))
    have ha : (inTurn Call.perform (calls ++ [c]) s).2 =
        (c.perform (inTurn Call.perform calls s).2).2 :=
      congrArg Prod.snd (inTurn_append _ calls [c] s)
    rw [ha, outstanding_concat]
    cases c with
    | push x =>
      have hw := hf.within _ (List.prefix_refl _)
      rw [pushes_push, pops_push] at hw
      exact hc.pushed (by omega) x
    | pop =>
      have hn := hf.neverShort _ (List.prefix_refl _)
      rw [pops_pop, pushes_pop] at hn
      have hne : outstanding calls ≠ [] := by
        intro h0
        rw [h0, List.length_nil] at hl
        omega
      rw [← List.dropLast_concat_getLast hne] at hc
      exact hc.popped.2

/-! ## What the calls answer -/

/-- A pop in a sequence that fits answers with the byte of the push that it undoes, unless that byte
is one of the lost ones. -/
theorem answer_of_pop {before after : List Call} (h : Carries base lost s [])
    (hf : Fits (lost + addressSpaceSize) (before ++ .pop :: after))
    (hl : lost < (outstanding before).length) :
    ∃ earlier x between, before = earlier ++ .push x :: between ∧ Settled between ∧
      (inTurn Call.perform (before ++ .pop :: after) s).1[before.length]? =
        some (.ok (some x)) := by
  have hp : before <+: before ++ .pop :: after := List.prefix_append ..
  have hc := carries_inTurn h (hf.of_prefix hp)
  obtain ⟨l, x, ho⟩ : ∃ l x, outstanding before = l ++ [x] := by
    have hne : outstanding before ≠ [] := List.ne_nil_of_length_pos (by omega)
    exact ⟨_, _, (List.dropLast_concat_getLast hne).symm⟩
  obtain ⟨earlier, between, hb, hn, he⟩ := exists_push (hf.neverShort.of_prefix hp) ho
  refine ⟨earlier, x, between, hb, ⟨hn, he⟩, ?_⟩
  have hg := getElem?_inTurn Call.perform before .pop after s
  rw [ho, List.length_append, List.length_singleton] at hl
  rw [ho] at hc
  exact hg.trans (congrArg some (hc.popped.1 (by omega)))

theorem outstanding_pos_of_pop {before after : List Call}
    (h : NeverShort (before ++ .pop :: after)) : 0 < (outstanding before).length := by
  have hp : before ++ [.pop] <+: before ++ .pop :: after := by
    rw [List.prefix_append_right_inj]
    exact ⟨after, rfl⟩
  have hn := h _ hp
  rw [pops_pop, pushes_pop] at hn
  have hl := length_outstanding (h.of_prefix ((List.prefix_append ..).trans hp))
  omega

/-- With one byte more than there are cells, the newest stands where the oldest stood. -/
theorem Carries.comes_round (h : Carries base 1 s l) (hl : l.length = 257) :
    ∃ oldest others newest, l = oldest :: (others ++ [newest]) ∧
      s.1.memory.cell base.toNat = newest ∧
      ∀ i x, (others ++ [newest])[i]? = some x → s.1.memory.cell (place base (i + 1)) = x := by
  match l, h, hl with
  | oldest :: rest, h, hl =>
    have hrest : rest.length = 256 := Nat.succ.inj hl
    obtain ⟨others, newest, rfl⟩ : ∃ others newest, rest = others ++ [newest] := by
      have hne : rest ≠ [] := List.ne_nil_of_length_pos (by omega)
      exact ⟨_, _, (List.dropLast_concat_getLast hne).symm⟩
    have hcells : ∀ i x, (others ++ [newest])[i]? = some x →
        s.1.memory.cell (place base (i + 1)) = x := fun i x hx => h.cells (i + 1) x (by omega) hx
    have hround : place base (others.length + 1) = base.toNat := by
      rw [List.length_append, List.length_singleton] at hrest
      rw [hrest]
      exact (Nat.add_mod_right ..).trans (Nat.mod_eq_of_lt base.toNat_lt)
    refine ⟨oldest, others, newest, rfl, ?_, hcells⟩
    rw [← hround]
    exact hcells _ _ List.getElem?_concat_length

/-- **A wrapping stack is a last-in, first-out stack of depth 256, wherever `S` points.** Let there
never be more pops than pushes. If at most 256 bytes are ever outstanding, no call fails, each pop
answers with the byte of the push that it undoes, and `S` is at all times as far from where it was as
there are bytes outstanding, modulo 256. If one more byte is outstanding in the end, it stands where
the oldest one stood, and all the others stand where they were pushed. -/
theorem wrapping_stack_is_lifo (s : Stack × RegisterFile b) (hw : s.1.wraps = true)
    (hs : s.1.memory.size = addressSpaceSize) (calls : List Call) :
    (Fits 256 calls →
      (∀ r ∈ (inTurn Call.perform calls s).1, ∃ v, r = .ok v) ∧
      (∀ before after, calls = before ++ .pop :: after →
        ∃ earlier x between, before = earlier ++ .push x :: between ∧ Settled between ∧
          (inTurn Call.perform calls s).1[before.length]? = some (.ok (some x))) ∧
      ∀ p, p <+: calls →
        ((inTurn Call.perform p s).2.2.get .S).toNat =
          ((s.2.get .S).toNat + (pushes p - pops p)) % 256 ∧
        (pushes p = pops p → (inTurn Call.perform p s).2.2.get .S = s.2.get .S)) ∧
    (Fits 257 calls → pushes calls = pops calls + 257 →
      ∃ oldest others newest, outstanding calls = oldest :: (others ++ [newest]) ∧
        (inTurn Call.perform calls s).2.1.memory.cell (s.2.get .S).toNat = newest ∧
        ∀ i x, (others ++ [newest])[i]? = some x →
          (inTurn Call.perform calls s).2.1.memory.cell
            (((s.2.get .S).toNat + (i + 1)) % 256) = x) := by
  refine ⟨fun hf => ?_, fun hf hout => ?_⟩
  · have h0 : Carries (s.2.get .S) 0 s [] := carries_nil hw hs
    refine ⟨fun r hr => ?_, ?_, fun p hp => ?_⟩
    · obtain ⟨before, c, after, rfl, rfl⟩ := exists_call_of_mem _ hr
      exact (carries_inTurn h0 (hf.of_prefix (List.prefix_append ..))).perform_ok c
    · rintro before after rfl
      exact answer_of_pop h0 hf (outstanding_pos_of_pop hf.neverShort)
    · have hS := (carries_inTurn h0 (hf.of_prefix hp)).pointer
      have hl := length_outstanding (hf.of_prefix hp).neverShort
      have hdiff : (outstanding p).length = pushes p - pops p := by omega
      rw [hdiff] at hS
      refine ⟨hS, fun he => UInt8.toNat_inj.1 ?_⟩
      rw [hS, he, Nat.sub_self, place_zero]
  · have h1 : Carries (s.2.get .S) 1 s [] := carries_nil hw hs
    have hc := carries_inTurn h1 hf
    have hl := length_outstanding hf.neverShort
    exact hc.comes_round (by omega)

/-- A stack whose `S` points two cells before the end. -/
def nearEnd : Stack × RegisterFile .standard :=
  (fresh true, (RegisterFile.zero .standard).set .S 0xFE)

/-- Three bytes go round the end, and the last of them is the first to come back. Of 257 bytes the
first one is lost to the last. -/
theorem nearEnd_goes_round :
    Fits 256 [.push 1, .push 2, .push 3, .pop] ∧
      (inTurn Call.perform [.push 1, .push 2, .push 3, .pop] nearEnd).1[3]? =
        some (.ok (some 3)) ∧
      ((inTurn Call.perform [.push 1, .push 2, .push 3, .pop] nearEnd).2.2.get .S).toNat = 0 ∧
      Fits 257 (List.replicate 256 (.push 7) ++ [.push 9]) ∧
      (inTurn Call.perform (List.replicate 256 (.push 7) ++ [.push 9]) nearEnd).2.1.memory.cell
        0xFE = 9 := by
  have hf : Fits 256 [.push 1, .push 2, .push 3, .pop] := by decide
  have hf' : Fits 257 (List.replicate 256 (.push 7) ++ [.push 9]) :=
    fits_of_pops_eq_zero (by decide +kernel) (by
      rw [List.length_append, List.length_replicate]
      exact Nat.le_refl _)
  obtain ⟨-, hpop, hS⟩ := (wrapping_stack_is_lifo nearEnd rfl (by decide +kernel) _).1 hf
  obtain ⟨oldest, others, newest, ho, hcell, -⟩ :=
    (wrapping_stack_is_lifo nearEnd rfl (by decide +kernel) _).2 hf' (by decide +kernel)
  refine ⟨hf, ?_, (hS _ (List.prefix_refl _)).1.trans (by decide +kernel), hf', ?_⟩
  · obtain ⟨earlier, x, between, hb, hset, hx⟩ := hpop [.push 1, .push 2, .push 3] [] rfl
    -- Only the push just before leaves nothing unsettled in between.
    match earlier, hb with
    | [_, _], hb =>
      cases hb
      exact hx
    | [_], hb =>
      cases hb
      exact absurd hset.even (by decide)
    | [], hb =>
      cases hb
      exact absurd hset.even (by decide)
    | _ :: _ :: _ :: _, hb => simp at hb
  · have hS0 : (nearEnd.2.get .S).toNat = 0xFE := by decide +kernel
    have hl : (outstanding (List.replicate 256 (.push 7) ++ [.push 9])).getLast? = some 9 := by
      decide +kernel
    rw [ho, ← List.cons_append, List.getLast?_concat] at hl
    rw [hS0] at hcell
    exact hcell.trans (Option.some.inj hl)

end Yan85.Stack
