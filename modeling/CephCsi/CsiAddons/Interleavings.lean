import CephCsi.CsiAddons.Server

namespace CephCsi.CsiAddons

open scoped List

/-- The steps the calls have left, at most. -/
def workLeft : List (Call × Phase) → Nat
  | [] => 0
  | c :: calls => c.2.rank + workLeft calls

def Server.work (s : Server) : Nat := workLeft s.calls

@[simp] theorem workLeft_append (calls calls' : List (Call × Phase)) :
    workLeft (calls ++ calls') = workLeft calls + workLeft calls' := by
  induction calls <;> simp_all [workLeft, Nat.add_assoc]

/-- A call in flight that has not returned takes its next step. -/
inductive Server.Busy : Server → Server → Prop
  | advance (s : Server) (pre post : List (Call × Phase)) (call : Call) (phase : Phase)
      (current : s.calls = pre ++ (call, phase) :: post) (running : 0 < phase.rank) :
      Server.Busy s ⟨(call.step phase s.world).2, pre ++ (call, (call.step phase s.world).1) :: post⟩

/-- `n` busy steps, and no call arriving. -/
inductive Server.Drains : Server → Nat → Server → Prop
  | refl (s : Server) : Server.Drains s 0 s
  | step {s s' t : Server} {n : Nat} : Server.Busy s s' → Server.Drains s' n t → Server.Drains s (n + 1) t

theorem Phase.rank_le_four (phase : Phase) : phase.rank ≤ 4 := by
  cases phase <;> simp [Phase.rank]

theorem Phase.rank_eq_zero {phase : Phase} : phase.rank = 0 ↔ ∃ result, phase = .done result := by
  cases phase <;> simp [Phase.rank]

theorem held_of_returned (calls : List (Call × Phase)) (returned : ∀ c ∈ calls, c.2.rank = 0) :
    held calls = [] := by
  induction calls with
  | nil => rfl
  | cons c calls ih =>
    obtain ⟨result, done⟩ := Phase.rank_eq_zero.mp (returned c (List.mem_cons_self _ _))
    rw [← Prod.mk.eta (p := c), held_cons, done, ih fun c' mem => returned c' (List.mem_cons_of_mem _ mem)]
    rfl

section Drain
variable {s s' t : Server} {w₀ : World} {n : Nat}

theorem Server.Busy.step (busy : Server.Busy s s') : Server.Step s s' := by
  cases busy with
  | advance pre post call phase current => exact .advance s pre post call phase current

theorem Server.Busy.work_lt (busy : Server.Busy s s') : s'.work < s.work := by
  cases busy with
  | advance pre post call phase current running =>
    have fewer := @Call.step_rank call phase s.world running
    simp only [Server.work, current, workLeft_append, workLeft]
    omega

theorem Server.work_le (s : Server) : s.work ≤ 4 * s.calls.length := by
  unfold Server.work
  induction s.calls with
  | nil => simp [workLeft]
  | cons c calls ih =>
    simp only [workLeft, List.length_cons]
    have := Phase.rank_le_four c.2
    omega

theorem Server.Drains.steps_add_work (run : Server.Drains s n t) : n + t.work ≤ s.work := by
  induction run with
  | refl => simp
  | step busy _ ih =>
    have := busy.work_lt
    omega

theorem Server.Drains.reachable (run : Server.Drains s n t) (reach : Server.Reachable w₀ s) :
    Server.Reachable w₀ t := by
  induction run with
  | refl => exact reach
  | step busy _ ih => exact ih (.step reach busy.step)

theorem Server.returned_of_stuck (stuck : ∀ t', ¬ Server.Busy t t') : ∀ c ∈ t.calls, c.2.rank = 0 := by
  intro c mem
  obtain ⟨pre, post, split⟩ := List.append_of_mem mem
  exact Nat.eq_zero_of_not_pos fun running => stuck _ (.advance t pre post c.1 c.2 split running)

/-- With no call arriving, the calls in flight take at most four steps each, and once none can step
they have all returned and the lock table holds exactly what other code held at the start. -/
theorem interleavings_drain (reach : Server.Reachable w₀ s) (run : Server.Drains s n t) :
    n ≤ 4 * s.calls.length ∧
      ((∀ t', ¬ Server.Busy t t') →
        (∀ c ∈ t.calls, ∃ result, c.2 = .done result) ∧
          t.world.state.volumeLocks.locks.keys ~ w₀.state.volumeLocks.locks.keys) := by
  refine ⟨by have := run.steps_add_work; have := Server.work_le s; omega, fun stuck => ?_⟩
  have returned := Server.returned_of_stuck stuck
  refine ⟨fun c mem => Phase.rank_eq_zero.mp (returned c mem), ?_⟩
  simpa [held_of_returned _ returned] using Server.reachable_locks (run.reachable reach)

/-- The node call of `contended` trims and releases its lock in two steps. -/
theorem contended_drains :
    ∃ t, Server.Drains contended 2 t ∧ 2 ≤ 4 * contended.calls.length ∧
      ((∀ t', ¬ Server.Busy t t') →
        (∀ c ∈ t.calls, ∃ result, c.2 = .done result) ∧
          t.world.state.volumeLocks.locks.keys ~ idle.state.volumeLocks.locks.keys) :=
  have run : Server.Drains contended 2 _ :=
    .step (.advance contended [] _ trimCall .locked rfl (by decide))
      (.step (.advance _ [] _ trimCall _ rfl (by decide)) (.refl _))
  ⟨_, run, interleavings_drain contended_reachable run⟩

end Drain

/-! ## Refusals -/

section Refusal
variable {s : Server} {w₀ : World}

theorem Server.locked_iff_held (reach : Server.Reachable w₀ s) {pre post : List (Call × Phase)}
    {call : Call} (current : s.calls = pre ++ (call, .start) :: post) :
    call.volumeId ∈ s.world.state.volumeLocks.locks.keys ↔
      call.volumeId ∈ held (pre ++ post) ∨ call.volumeId ∈ w₀.state.volumeLocks.locks.keys := by
  rw [(Server.reachable_locks reach).mem_iff, current]
  simp [Phase.holds, or_comm]

/-- Over every interleaving, `TryAcquire` refuses a call exactly when another call in flight holds
its volume's lock or other code held it at the start, and otherwise the call takes the lock. -/
theorem refused_iff_conflict (reach : Server.Reachable w₀ s) {pre post : List (Call × Phase)}
    {call : Call} (current : s.calls = pre ++ (call, .start) :: post) (named : call.volumeId ≠ "") :
    ((call.step .start s.world).1 =
        .done (.error ⟨.aborted, volumeOperationAlreadyExistsFmt, [.text call.volumeId]⟩) ↔
      call.volumeId ∈ held (pre ++ post) ∨ call.volumeId ∈ w₀.state.volumeLocks.locks.keys) ∧
    ((call.step .start s.world).1 = .locked ↔
      call.volumeId ∉ held (pre ++ post) ∧ call.volumeId ∉ w₀.state.volumeLocks.locks.keys) := by
  rw [← Server.locked_iff_held reach current, ← not_or, ← Server.locked_iff_held reach current]
  simp only [Call.step, lockVolume_eq, named, if_false]
  split_ifs with taken <;> simp [taken]

/-- The server of `contended` before the controller call asked for its lock. -/
def trimming : Server :=
  ⟨(trimCall.step .start idle).2, [(trimCall, .locked), (sparsifyCall, .start)]⟩

theorem trimming_reachable : Server.Reachable idle trimming :=
  .step (.step (.step .start (.arrive _ trimCall)) (.arrive _ sparsifyCall))
    (.advance _ [] [(sparsifyCall, .start)] trimCall .start rfl)

/-- The controller call for the volume the node call holds is refused. -/
theorem sparsify_refused_while_trimming :
    ((sparsifyCall.step .start trimming.world).1 =
        .done (.error ⟨.aborted, volumeOperationAlreadyExistsFmt, [.text sparsifyCall.volumeId]⟩) ↔
      sparsifyCall.volumeId ∈ held ([(trimCall, .locked)] ++ []) ∨
        sparsifyCall.volumeId ∈ idle.state.volumeLocks.locks.keys) ∧
    ((sparsifyCall.step .start trimming.world).1 = .locked ↔
      sparsifyCall.volumeId ∉ held ([(trimCall, .locked)] ++ []) ∧
        sparsifyCall.volumeId ∉ idle.state.volumeLocks.locks.keys) :=
  refused_iff_conflict trimming_reachable rfl (by decide)

end Refusal

end CephCsi.CsiAddons
