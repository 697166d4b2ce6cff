import CephCsi.CsiAddons.ReclaimSpace
import Mathlib.Data.List.Perm.Basic

/-! The driver serves reclaim-space calls concurrently over one `VolumeLocks` table. A call is a
sequence of atomic steps on the shared world, and `Server.Step` lets calls arrive at any time
and runs the steps of the calls in flight in any interleaving. -/

namespace CephCsi.CsiAddons

open scoped List

inductive Call where
  | controller (req : ControllerReclaimSpaceRequest)
  | node (req : NodeReclaimSpaceRequest)
  deriving DecidableEq, Repr

def Call.volumeId : Call → String
  | .controller req => req.volumeId
  | .node req => req.volumeId

/-- The handler a call runs. -/
def Call.handle : Call → World → Except Status Unit × World
  | .controller req => controllerReclaimSpace req
  | .node req => nodeReclaimSpace req

/-- Where a call is in its handler. -/
inductive Phase where
  | start
  /-- After `TryAcquire`. -/
  | locked
  /-- `GetVolumeByID` found the volume. -/
  | found
  /-- The handler has its result; the deferred calls are left. -/
  | exiting (result : Except Status Unit)
  | done (result : Except Status Unit)
  deriving Repr

/-- The call holds its volume's lock. -/
def Phase.holds : Phase → Bool
  | .locked | .found | .exiting _ => true
  | .start | .done _ => false

/-- How many steps are left at most. -/
def Phase.rank : Phase → Nat
  | .start => 4
  | .locked => 3
  | .found => 2
  | .exiting _ => 1
  | .done _ => 0

/-- One atomic step of a call: the handler's code between two calls that reach outside it.
A node call is never at `found`, and steps from there as from `locked`. -/
def Call.step : Call → Phase → World → Phase × World
  | call, .start, w =>
    match lockVolume call.volumeId w with
    | (some st, w) => (.done (.error st), w)
    | (none, w) => (.locked, w)
  | .controller req, .locked, w =>
    match getVolume req.volumeId w with
    | (some st, w) => (.exiting (.error st), w)
    | (none, w) => (.found, w)
  | .controller req, .found, w => (.exiting (sparsify req.volumeId w).1, (sparsify req.volumeId w).2)
  | .controller req, .exiting result, w =>
    (.done result, (w.note .managerDestroy).release req.volumeId)
  | .node req, .locked, w | .node req, .found, w =>
    (.exiting (trimVolume req w).1, (trimVolume req w).2)
  | .node req, .exiting result, w => (.done result, w.release req.volumeId)
  | _, .done result, w => (.done result, w)

/-- `n` steps of a call with nothing run between them. -/
def Call.run (call : Call) : Nat → Phase → World → Phase × World
  | 0, phase, w => (phase, w)
  | n + 1, phase, w => call.run n (call.step phase w).1 (call.step phase w).2

/-- The phase a call reaches by its own steps, taken in the worlds `ws` that the other calls
leave it. -/
def Call.phaseAfter (call : Call) : List World → Phase → Phase
  | [], phase => phase
  | w :: ws, phase => call.phaseAfter ws (call.step phase w).1

/-! ## One call -/

section Call
variable {call : Call} {phase : Phase} {w : World}

@[simp] theorem Call.step_done (result : Except Status Unit) :
    call.step (.done result) w = (.done result, w) := by
  cases call <;> rfl

theorem Call.run_done (n : Nat) (result : Except Status Unit) :
    call.run n (.done result) w = (.done result, w) := by
  induction n <;> simp_all [Call.run]

theorem Call.step_rank (running : 0 < phase.rank) : (call.step phase w).1.rank < phase.rank := by
  cases phase with
  | start => simp only [Call.step]; split <;> simp [Phase.rank]
  | locked =>
    cases call with
    | controller req => simp only [Call.step]; split <;> simp [Phase.rank]
    | node req => simp [Call.step, Phase.rank]
  | found | exiting => cases call <;> simp [Call.step, Phase.rank]
  | done => cases running

/-- A call run alone, from its start, computes what its handler computes. -/
theorem run_alone_handles (call : Call) (w : World) :
    call.run 4 .start w = (.done (call.handle w).1, (call.handle w).2) := by
  cases call with
  | controller req =>
    simp only [Call.handle, controllerReclaimSpace, withVolumeLock, sparsifyVolume]
    rcases locked : lockVolume req.volumeId w with ⟨_ | st, w'⟩
    · rcases found : getVolume req.volumeId w' with ⟨_ | st', w''⟩ <;>
        simp [Call.run, Call.step, Call.volumeId, locked, found]
    · simp [Call.run, Call.step, Call.volumeId, locked, Call.run_done]
  | node req =>
    simp only [Call.handle, nodeReclaimSpace, withVolumeLock]
    rcases locked : lockVolume req.volumeId w with ⟨_ | st, w'⟩
    · simp [Call.run, Call.step, Call.volumeId, locked]
    · simp [Call.run, Call.step, Call.volumeId, locked, Call.run_done]

/-- What one step does to the lock table: nothing, or `TryAcquire` adds the call's free volume, or
`Release` removes it. -/
theorem Call.step_locks (call : Call) (phase : Phase) (w : World) :
    ((call.step phase w).1.holds = phase.holds ∧ (call.step phase w).2.state = w.state) ∨
    (phase.holds = false ∧ (call.step phase w).1.holds = true ∧ call.volumeId ∉ w.state.volumeLocks.locks.keys ∧
      (call.step phase w).2.state.volumeLocks.locks.keys = w.state.volumeLocks.locks.keys ++ [call.volumeId]) ∨
    (phase.holds = true ∧ (call.step phase w).1.holds = false ∧
      (call.step phase w).2.state.volumeLocks.locks.keys = w.state.volumeLocks.locks.keys.filter (· ≠ call.volumeId)) := by
  cases phase with
  | start =>
    simp only [Call.step, lockVolume_eq]
    split_ifs with empty held
    · exact .inl ⟨rfl, rfl⟩
    · exact .inl ⟨rfl, rfl⟩
    · exact .inr (.inl ⟨rfl, rfl, held, KeySet.keys_insert held⟩)
  | locked =>
    cases call with
    | controller req =>
      refine .inl ?_
      simp only [Call.step, getVolume_eq]
      cases w.fault w.sent.length <;> simp [Phase.holds]
    | node req => exact .inl ⟨rfl, trimVolume_state req⟩
  | found =>
    cases call with
    | controller req => exact .inl ⟨rfl, sparsify_state⟩
    | node req => exact .inl ⟨rfl, trimVolume_state req⟩
  | exiting result => cases call <;> exact .inr (.inr ⟨rfl, rfl, rfl⟩)
  | done result => exact .inl ⟨by simp, by simp⟩

theorem Call.step_sent_of_free (free : phase.holds = false) : (call.step phase w).2.sent = w.sent := by
  cases phase with
  | start => simp only [Call.step, lockVolume_eq]; split_ifs <;> rfl
  | done => simp
  | locked | found | exiting => cases free

end Call

/-! ## The server -/

/-- The shared world, and the calls that have arrived, each with its phase. -/
structure Server where
  world : World
  calls : List (Call × Phase)

/-- The volumes whose lock some call holds. -/
def held (calls : List (Call × Phase)) : List String :=
  calls.filterMap fun c => if c.2.holds then some c.1.volumeId else none

@[simp] theorem held_nil : held [] = [] := rfl

@[simp] theorem held_append (calls calls' : List (Call × Phase)) :
    held (calls ++ calls') = held calls ++ held calls' :=
  List.filterMap_append _ _ _

@[simp] theorem held_cons (call : Call) (phase : Phase) (calls : List (Call × Phase)) :
    held ((call, phase) :: calls) = (if phase.holds then [call.volumeId] else []) ++ held calls := by
  unfold held; split <;> simp_all

/-- A call arrives, or a call in flight takes its next step. -/
inductive Server.Step : Server → Server → Prop
  | arrive (s : Server) (call : Call) : Server.Step s ⟨s.world, s.calls ++ [(call, .start)]⟩
  | advance (s : Server) (pre post : List (Call × Phase)) (call : Call) (phase : Phase)
      (current : s.calls = pre ++ (call, phase) :: post) :
      Server.Step s ⟨(call.step phase s.world).2, pre ++ (call, (call.step phase s.world).1) :: post⟩

/-- The states a server reaches from the world `w₀`, in which other code may hold locks. -/
inductive Server.Reachable (w₀ : World) : Server → Prop
  | start : Server.Reachable w₀ ⟨w₀, []⟩
  | step {s s' : Server} : Server.Reachable w₀ s → Server.Step s s' → Server.Reachable w₀ s'

section Server
variable {outside : List String} {s s' : Server} {w₀ : World}

theorem Server.step_locks (step : Server.Step s s')
    (inv : s.world.state.volumeLocks.locks.keys ~ outside ++ held s.calls) :
    s'.world.state.volumeLocks.locks.keys ~ outside ++ held s'.calls := by
  cases step with
  | arrive call => simpa [Phase.holds] using inv
  | advance pre post call phase current =>
    rw [current] at inv
    rcases Call.step_locks call phase s.world with ⟨same, kept⟩ | ⟨free, holds, -, added⟩ |
      ⟨holds, free, removed⟩
    · simpa [same, kept] using inv
    · simp only [held_append, held_cons, free, holds, if_true, if_false, List.nil_append,
        List.singleton_append, Bool.false_eq_true] at inv ⊢
      rw [added]
      calc s.world.state.volumeLocks.locks.keys ++ [call.volumeId]
          ~ outside ++ (held pre ++ held post) ++ [call.volumeId] := inv.append_right _
        _ = outside ++ ((held pre ++ held post) ++ [call.volumeId]) := List.append_assoc _ _ _
        _ ~ outside ++ (held pre ++ call.volumeId :: held post) :=
          ((List.perm_append_singleton _ _).trans List.perm_middle.symm).append_left _
    · simp only [held_append, held_cons, free, holds, if_true, if_false, List.nil_append,
        List.singleton_append, Bool.false_eq_true] at inv ⊢
      have erased : s.world.state.volumeLocks.locks.keys.filter (· ≠ call.volumeId) =
          s.world.state.volumeLocks.locks.keys.erase call.volumeId := by
        rw [s.world.state.volumeLocks.locks.nodup.erase_eq_filter]
        exact List.filter_congr fun x _ => by simp [bne, beq_eq_decide]
      rw [removed, erased]
      have middle : outside ++ (held pre ++ call.volumeId :: held post) ~
          call.volumeId :: (outside ++ (held pre ++ held post)) :=
        (List.perm_middle.append_left _).trans List.perm_middle
      simpa using (inv.trans middle).erase call.volumeId

theorem Server.reachable_locks (reach : Server.Reachable w₀ s) :
    s.world.state.volumeLocks.locks.keys ~ w₀.state.volumeLocks.locks.keys ++ held s.calls := by
  induction reach with
  | start => simp
  | step _ step inv => exact Server.step_locks step inv

theorem Server.held_apart (reach : Server.Reachable w₀ s) :
    (w₀.state.volumeLocks.locks.keys ++ held s.calls).Nodup :=
  (Server.reachable_locks reach).nodup_iff.mp s.world.state.volumeLocks.locks.nodup

/-- Over every interleaving, the lock table holds what other code held at the start and, besides,
exactly the volumes of the calls between `TryAcquire` and `Release`, each locked by one call. -/
theorem reachable_locks_exclusive (reach : Server.Reachable w₀ s) :
    s.world.state.volumeLocks.locks.keys ~ w₀.state.volumeLocks.locks.keys ++ held s.calls ∧
      (held s.calls).Nodup ∧ ∀ id ∈ held s.calls, id ∉ w₀.state.volumeLocks.locks.keys := by
  have apart := List.nodup_append.mp (Server.held_apart reach)
  exact ⟨Server.reachable_locks reach, apart.2.1, fun id mine theirs => apart.2.2 theirs mine⟩

/-- A call sends a request only while it holds its volume's lock, which then no other call
and no other code holds. -/
theorem sends_under_lock (reach : Server.Reachable w₀ s) {pre post : List (Call × Phase)}
    {call : Call} {phase : Phase} (current : s.calls = pre ++ (call, phase) :: post)
    (sends : (call.step phase s.world).2.sent ≠ s.world.sent) :
    phase.holds = true ∧ call.volumeId ∉ held pre ++ held post ∧
      call.volumeId ∉ w₀.state.volumeLocks.locks.keys := by
  have holds : phase.holds = true := by
    cases free : phase.holds
    · exact absurd (Call.step_sent_of_free free) sends
    · rfl
  have apart := Server.held_apart reach
  simp only [current, held_append, held_cons, holds, if_true, List.singleton_append] at apart
  have mine := List.nodup_middle.mp (List.nodup_append.mp apart).2.1
  exact ⟨holds, (List.nodup_cons.mp mine).1,
    fun theirs => (List.nodup_append.mp apart).2.2 theirs (List.mem_append_right _ (List.mem_cons_self _ _))⟩

end Server

/-! ## Two calls for one volume -/

/-- No lock held, no image in use, nothing sent, and every request succeeds. -/
def idle : World := ⟨⟨⟨KeySet.empty⟩, fun _ => false, fun _ => 22⟩, [], fun _ => none⟩

def trimCall : Call := .node ⟨"vol-1", "/staging", "", none⟩

def sparsifyCall : Call := .controller ⟨"vol-1"⟩

/-- The node call holds the lock of `vol-1`; the controller call for the same volume came
next and was refused. -/
def contended : Server :=
  ⟨⟨⟨⟨KeySet.empty.insert "vol-1"⟩, fun _ => false, fun _ => 22⟩, [], fun _ => none⟩,
    [(trimCall, .locked),
      (sparsifyCall, .done (.error ⟨.aborted, volumeOperationAlreadyExistsFmt, [.text "vol-1"]⟩))]⟩

theorem contended_reachable : Server.Reachable idle contended :=
  .step (.step (.step (.step .start (.arrive _ trimCall)) (.arrive _ sparsifyCall))
    (.advance _ [] [(sparsifyCall, .start)] trimCall .start rfl))
    (.advance _ [(trimCall, .locked)] [] sparsifyCall .start rfl)

theorem contended_locks :
    contended.world.state.volumeLocks.locks.keys ~ idle.state.volumeLocks.locks.keys ++ held contended.calls ∧
      (held contended.calls).Nodup ∧ ∀ id ∈ held contended.calls, id ∉ idle.state.volumeLocks.locks.keys :=
  reachable_locks_exclusive contended_reachable

theorem contended_trim_under_lock :
    Phase.locked.holds = true ∧
      trimCall.volumeId ∉ held [] ++ held [(sparsifyCall,
        .done (.error ⟨.aborted, volumeOperationAlreadyExistsFmt, [.text "vol-1"]⟩))] ∧
      trimCall.volumeId ∉ idle.state.volumeLocks.locks.keys :=
  sends_under_lock contended_reachable rfl (by decide)

end CephCsi.CsiAddons
