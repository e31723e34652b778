import Mathlib.Data.List.Perm.Subperm
import Yan85.Host.Simulated
import Yan85.Proofs.Host.Descriptors

/-! # The simulated host behaves as hosts do

* `read_eq_ok_iff`, `write_eq_ok_iff`: when a transfer succeeds, and what it leaves.
* `honest`: a stream gives at most the bytes that were asked for, and takes at most those that were
  offered.
* `allocates`: opening gives a descriptor that has no stream.
-/

namespace Yan85.Simulated
set_option autoImplicit false

variable {s s' : Simulated} {fd : Int} {data : List UInt8}

theorem capped_le (limit : Option Nat) (n : Nat) : capped limit n ≤ n := by
  cases limit with
  | none => exact Nat.le_refl n
  | some k => exact Nat.min_le_left n k

/-! ## Transfers -/

theorem read_eq_ok_iff {count : Int} :
    host.read fd count s = (.ok data, s') ↔
      ∃ stream, s.streams.find? fd = some stream ∧ stream.readRefusal = none ∧
        data = stream.rest.take (capped stream.readMost count.toNat) ∧
        s' = { s.note (.read fd count) with
          streams := s.streams.insert fd
            { stream with rest := stream.rest.drop (capped stream.readMost count.toNat) } } := by
  change read fd count s = _ ↔ _
  unfold read
  cases hs : s.streams.find? fd with
  | none =>
    constructor
    · rintro ⟨⟩
    · rintro ⟨stream, ⟨⟩, -⟩
  | some stream =>
    simp only
    split
    case h_1 f hr =>
      constructor
      · rintro ⟨⟩
      · rintro ⟨_, ⟨⟩, hn, -⟩
        cases hr.symm.trans hn
    case h_2 hr =>
      constructor
      · rintro ⟨⟩
        exact ⟨stream, rfl, hr, rfl, rfl⟩
      · rintro ⟨_, ⟨⟩, -, rfl, rfl⟩
        rfl

theorem write_eq_ok_iff {n : Nat} :
    host.write fd data s = (.ok n, s') ↔
      ∃ stream, s.streams.find? fd = some stream ∧ stream.writeRefusal = none ∧
        n = capped stream.writeMost data.length ∧
        s' = { s.note (.wrote fd data.length) with
          output := s.output.insert fd ((s.output.find? fd).getD [] ++ data.take n) } := by
  change write fd data s = _ ↔ _
  unfold write
  cases hs : s.streams.find? fd with
  | none =>
    constructor
    · rintro ⟨⟩
    · rintro ⟨stream, ⟨⟩, -⟩
  | some stream =>
    have hlen : (data.take (capped stream.writeMost data.length)).length =
        capped stream.writeMost data.length :=
      List.length_take_of_le (capped_le _ _)
    simp only [hlen]
    split
    case h_1 f hr =>
      constructor
      · rintro ⟨⟩
      · rintro ⟨_, ⟨⟩, hn, -⟩
        cases hr.symm.trans hn
    case h_2 hr =>
      constructor
      · rintro ⟨⟩
        exact ⟨stream, rfl, hr, rfl, rfl⟩
      · rintro ⟨_, ⟨⟩, -, rfl, rfl⟩
        rfl

theorem honest : host.Honest where
  read_length := by
    intro fd count s data s' h
    obtain ⟨stream, -, -, rfl, -⟩ := read_eq_ok_iff.1 h
    have hc := capped_le stream.readMost count.toNat
    rw [List.length_take]
    omega
  write_count := by
    intro fd data s n s' h
    obtain ⟨stream, -, -, rfl, -⟩ := write_eq_ok_iff.1 h
    exact capped_le stream.writeMost data.length

/-! ## Descriptors -/

/-- The descriptor has a stream. -/
def InUse (s : Simulated) (fd : Nat) : Prop := (fd : Int) ∈ s.streams.keys

/-- There are more candidates than streams, so one of them has none. -/
theorem not_inUse_freeDescriptor (s : Simulated) : ¬ s.InUse s.freeDescriptor := by
  unfold freeDescriptor
  simp only
  generalize hc : (List.range (s.streams.entries.length + 1)).map (s.firstDescriptor + ·) = fds
  cases hf : fds.find? fun fd : Nat => !s.streams.keys.contains (fd : Int) with
  | some fd =>
    have hn := List.find?_some hf
    simp only [Bool.not_eq_true', List.contains_eq_mem, decide_eq_false_iff_not] at hn
    exact hn
  | none =>
    have hmem : fds.map (fun fd : Nat => (fd : Int)) ⊆ s.streams.keys := by
      intro k hk
      obtain ⟨fd, hfd, rfl⟩ := List.mem_map.1 hk
      have hn := List.find?_eq_none.1 hf fd hfd
      simpa using hn
    have hnodup : (fds.map fun fd : Nat => (fd : Int)).Nodup := by
      rw [← hc, List.map_map]
      refine List.nodup_range.map ?_
      intro i j hij
      have hij : ((s.firstDescriptor + i : Nat) : Int) = (s.firstDescriptor + j : Nat) := hij
      omega
    have hle := (List.Nodup.subperm hnodup hmem).length_le
    rw [← hc, List.length_map, List.length_map, List.length_range] at hle
    unfold Ordered.keys at hle
    rw [List.length_map] at hle
    omega

theorem inUse_openFile (path : List UInt8) {s : Simulated} {fd : Nat} (h : s.InUse fd) :
    (openFile path s).2.InUse fd := by
  unfold openFile
  cases s.files.find? path with
  | none => exact h
  | some file =>
    cases hr : file.openRefusal with
    | some f =>
      simp only [hr]
      exact h
    | none =>
      simp only [hr]
      exact Ordered.mem_keys_insert.2 (.inr h)

theorem allocates : host.Allocates InUse where
  unused := by
    intro path s fd s' h
    change openFile path s = _ at h
    unfold openFile at h
    cases hf : s.files.find? path with
    | none =>
      simp only [hf] at h
      cases h
    | some file =>
      cases hr : file.openRefusal with
      | some f =>
        simp only [hf, hr] at h
        cases h
      | none =>
        simp only [hf, hr] at h
        cases h
        exact ⟨s.not_inUse_freeDescriptor, Ordered.mem_keys_insert.2 (.inl rfl)⟩
  openFile := fun path s fd => inUse_openFile path
  read := by
    intro d count s fd h
    change (read d count s).2.InUse fd
    unfold read
    cases hs : s.streams.find? d with
    | none => exact h
    | some stream =>
      cases hr : stream.readRefusal with
      | some f =>
        simp only [hr]
        exact h
      | none =>
        simp only [hr]
        exact Ordered.mem_keys_insert.2 (.inr h)
  write := by
    intro d data s fd h
    change (write d data s).2.InUse fd
    unfold write
    cases hs : s.streams.find? d with
    | none => exact h
    | some stream =>
      cases hr : stream.writeRefusal with
      | some f =>
        simp only [hr]
        exact h
      | none =>
        simp only [hr]
        exact h
  close := by
    intro d s fd hd h
    change (close d s).2.InUse fd
    have he : (fd : Int) ∈ (s.streams.erase d).keys := by
      obtain ⟨e, he, hk⟩ := List.mem_map.1 h
      refine List.mem_map.2 ⟨e, List.mem_filter.2 ⟨he, ?_⟩, hk⟩
      rw [decide_eq_true_iff, hk]
      omega
    unfold close
    simp only
    split
    · exact he
    · exact he
  sleep := fun _ _ _ h => h

end Yan85.Simulated
