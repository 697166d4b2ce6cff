import Mathlib.Data.List.Nodup
import Mathlib.Logic.Function.Basic

/-! Errors, requests and Go's control flow, as both components use them. A client's `n`-th request
fails with `fault n` when that is `some`, and a failed request changes nothing. -/

namespace CephCsi

/-- A Go `error`. -/
inductive Error where
  /-- A value made once and compared by identity: an `errors.New` sentinel, a go-ceph
  error code, or any error the cluster returns. -/
  | sentinel (name : String)
  /-- `fmt.Errorf(format, args...)` whose `%w` verb wraps `inner`. -/
  | wrap (format : String) (args : List String) (inner : Error)
  deriving DecidableEq, Repr

/-- `errors.Is(err, target)`: `target` is `err` or one of the errors `err` wraps. -/
def Error.is (err target : Error) : Bool :=
  err == target ||
    match err with
    | .wrap _ _ inner => inner.is target
    | .sentinel _ => false

@[simp] theorem Error.is_self (err : Error) : err.is err = true := by
  cases err <;> simp [Error.is]

@[simp] theorem Error.is_wrap (format : String) (args : List String) (inner target : Error) :
    (Error.wrap format args inner).is target = (inner.is target || .wrap format args inner == target) := by
  simp only [Error.is, Bool.or_comm]

@[simp] theorem Error.sentinel_is (name : String) (target : Error) :
    (Error.sentinel name).is target = (Error.sentinel name == target) := by
  simp [Error.is]

/-- A client of the cluster: its state, the requests sent so far, and which fail. -/
structure Client (Request State : Type) where
  state : State
  sent : List Request
  fault : Nat → Option Error

section Client
variable {Request State : Type} (effect : Request → State → State)

/-- Send one request: record it, and apply its effect unless the oracle fails it. -/
def Client.send (r : Request) (c : Client Request State) : Option Error × Client Request State :=
  match c.fault c.sent.length with
  | some err => (some err, { c with sent := c.sent ++ [r] })
  | none => (none, { c with state := effect r c.state, sent := c.sent ++ [r] })

/-- Call a method that returns no error (a `Destroy`): record it and apply its effect. -/
def Client.note (r : Request) (c : Client Request State) : Client Request State :=
  { c with state := effect r c.state, sent := c.sent ++ [r] }

variable {effect} {r : Request} {c : Client Request State}

@[simp] theorem Client.send_sent : (c.send effect r).2.sent = c.sent ++ [r] := by
  unfold Client.send; split <;> rfl

@[simp] theorem Client.send_fault : (c.send effect r).2.fault = c.fault := by
  unfold Client.send; split <;> rfl

theorem Client.send_of_fault {err : Error} (h : c.fault c.sent.length = some err) :
    c.send effect r = (some err, { c with sent := c.sent ++ [r] }) := by
  simp [Client.send, h]

theorem Client.send_of_ok (h : c.fault c.sent.length = none) :
    c.send effect r = (none, { c with state := effect r c.state, sent := c.sent ++ [r] }) := by
  simp [Client.send, h]

@[simp] theorem Client.send_result : (c.send effect r).1 = c.fault c.sent.length := by
  unfold Client.send; split <;> simp_all

@[simp] theorem Client.note_sent : (c.note effect r).sent = c.sent ++ [r] := rfl
@[simp] theorem Client.note_fault : (c.note effect r).fault = c.fault := rfl
@[simp] theorem Client.note_state : (c.note effect r).state = effect r c.state := rfl

variable (effect)

/-- Send requests one after the other. -/
def Client.sendAll (rs : List Request) (c : Client Request State) : Client Request State :=
  rs.foldl (fun c r => (c.send effect r).2) c

/-- The next `n` requests sent from `c` all succeed. -/
def Client.Succeeds (c : Client Request State) (n : Nat) : Prop :=
  ∀ i < n, c.fault (c.sent.length + i) = none

/-- `step` changes the world only by sending a prefix of `rs`, and when it returns `nil`
it has sent all of `rs` and every one of them succeeded. -/
def Sends (step : Client Request State → Option Error × Client Request State)
    (rs : List Request) : Prop :=
  ∀ c, ∃ l, l <+: rs ∧ (step c).2 = c.sendAll effect l ∧
    ((step c).1 = none → l = rs ∧ c.Succeeds rs.length)

variable {effect} {rs rs' : List Request}

@[simp] theorem Client.sendAll_nil : c.sendAll effect [] = c := rfl

@[simp] theorem Client.sendAll_cons :
    c.sendAll effect (r :: rs) = (c.send effect r).2.sendAll effect rs := rfl

theorem Client.sendAll_append :
    c.sendAll effect (rs ++ rs') = (c.sendAll effect rs).sendAll effect rs' := by
  simp [Client.sendAll, List.foldl_append]

@[simp] theorem Client.sendAll_sent : (c.sendAll effect rs).sent = c.sent ++ rs := by
  induction rs generalizing c <;> simp_all

@[simp] theorem Client.sendAll_fault : (c.sendAll effect rs).fault = c.fault := by
  induction rs generalizing c <;> simp_all

theorem Client.sendAll_state (succeeds : c.Succeeds rs.length) :
    (c.sendAll effect rs).state = rs.foldl (fun s r => effect r s) c.state := by
  induction rs generalizing c with
  | nil => rfl
  | cons r rs ih =>
    have first : c.fault c.sent.length = none := by simpa using succeeds 0 (by simp)
    rw [Client.sendAll_cons, ih, Client.send_of_ok first]
    · rfl
    intro i hi
    simpa [Nat.add_assoc, Nat.add_comm 1 i] using succeeds (i + 1) (by simpa using hi)

/-- A property of the state that no request in `rs` changes survives sending them. -/
theorem Client.sendAll_preserves {α : Type} (f : State → α)
    (keeps : ∀ r ∈ rs, ∀ s, f (effect r s) = f s) : f (c.sendAll effect rs).state = f c.state := by
  induction rs generalizing c with
  | nil => rfl
  | cons r rs ih =>
    rw [Client.sendAll_cons, ih fun r' mem => keeps r' (List.mem_cons_of_mem _ mem)]
    unfold Client.send
    split
    · rfl
    · exact keeps r (List.mem_cons_self _ _) _

theorem Client.succeeds_append {n : Nat} (first : c.Succeeds rs.length)
    (then_ : (c.sendAll effect rs).Succeeds n) : c.Succeeds (rs.length + n) := by
  intro i hi
  by_cases early : i < rs.length
  · exact first i early
  · have later := then_ (i - rs.length) (by omega)
    simp only [Client.sendAll_sent, Client.sendAll_fault, List.length_append] at later
    rwa [Nat.add_assoc, Nat.add_sub_cancel' (by omega)] at later

theorem Client.succeeds_cons {n : Nat} (first : c.fault c.sent.length = none)
    (then_ : (c.send effect r).2.Succeeds n) : c.Succeeds (n + 1) := by
  have once : c.Succeeds [r].length := fun i hi => by simpa [Nat.lt_one_iff.mp hi]
  rw [Nat.add_comm]
  exact Client.succeeds_append once then_

theorem sends_send : Sends effect (fun c => c.send effect r) [r] := by
  intro c
  cases h : c.fault c.sent.length with
  | none => exact ⟨[r], List.prefix_refl _, rfl, fun _ => ⟨rfl, by simpa [Client.Succeeds]⟩⟩
  | some err => exact ⟨[r], List.prefix_refl _, rfl, by simp [h]⟩

end Client

/-- A Go map used as a set of keys: its keys, each once, in the order they were inserted. -/
@[ext] structure KeySet where
  keys : List String
  nodup : keys.Nodup

namespace KeySet

def empty : KeySet := ⟨[], List.nodup_nil⟩

def insert (k : String) (s : KeySet) : KeySet :=
  if mem : k ∈ s.keys then s
  else ⟨s.keys ++ [k], List.nodup_append.mpr ⟨s.nodup, List.nodup_singleton k,
    List.disjoint_singleton.mpr mem⟩⟩

def erase (k : String) (s : KeySet) : KeySet := ⟨s.keys.filter (· ≠ k), s.nodup.filter _⟩

variable {k k' : String} {s : KeySet}

@[simp] theorem mem_insert : k ∈ (s.insert k').keys ↔ k = k' ∨ k ∈ s.keys := by
  unfold insert
  split_ifs with mem
  · exact ⟨Or.inr, fun h => h.elim (fun same => same ▸ mem) id⟩
  · simp [or_comm]

@[simp] theorem mem_erase : k ∈ (s.erase k').keys ↔ k ≠ k' ∧ k ∈ s.keys := by
  simp [erase, and_comm]

theorem keys_insert (absent : k ∉ s.keys) : (s.insert k).keys = s.keys ++ [k] := by
  simp [insert, absent]

theorem erase_insert (absent : k ∉ s.keys) : (s.insert k).erase k = s := by
  have kept : s.keys.filter (· ≠ k) = s.keys :=
    List.filter_eq_self.mpr fun x mem => decide_eq_true fun same : x = k => absent (same ▸ mem)
  ext1
  simpa [insert, absent, erase, List.filter_append] using kept

end KeySet

/-- The order in which Go's `range` visits a map's keys, which the language leaves
unspecified: any permutation of them. -/
structure RangeOrder where
  walk : KeySet → List String
  perm : ∀ s, List.Perm (walk s) s.keys

/-- `range` in the order the keys were inserted. -/
def RangeOrder.inserted : RangeOrder := ⟨KeySet.keys, fun _ => List.Perm.refl _⟩

section Chain
variable {σ : Type}

/-- Run steps in order and return at the first one that fails, as Go's
`if err != nil { return err }` after each call does. -/
def chain : List (σ → Option Error × σ) → σ → Option Error × σ
  | [], s => (none, s)
  | step :: rest, s =>
    match step s with
    | (some err, s) => (some err, s)
    | (none, s) => chain rest s

@[simp] theorem chain_nil (s : σ) : chain [] s = (none, s) := rfl

theorem chain_cons (step : σ → Option Error × σ) (rest : List (σ → Option Error × σ)) (s : σ) :
    chain (step :: rest) s =
      match step s with
      | (some err, s) => (some err, s)
      | (none, s) => chain rest s := rfl

theorem chain_append (steps steps' : List (σ → Option Error × σ)) (s : σ) :
    chain (steps ++ steps') s =
      match chain steps s with
      | (some err, s) => (some err, s)
      | (none, s) => chain steps' s := by
  induction steps generalizing s with
  | nil => rfl
  | cons step rest ih =>
    simp only [List.cons_append, chain_cons]
    split <;> simp_all

theorem chain_append_none {steps steps' : List (σ → Option Error × σ)} {s : σ}
    (done : (chain (steps ++ steps') s).1 = none) : (chain steps s).1 = none := by
  rw [chain_append] at done
  revert done
  split <;> simp_all

end Chain

section Sends
variable {Request State : Type} {effect : Request → State → State}

/-- A chain sends its steps' requests in order, up to the first step that fails. -/
theorem sends_chain_cons {step : Client Request State → Option Error × Client Request State}
    {rest : List (Client Request State → Option Error × Client Request State)}
    {rs rs' : List Request} (first : Sends effect step rs) (others : Sends effect (chain rest) rs') :
    Sends effect (chain (step :: rest)) (rs ++ rs') := by
  intro c
  obtain ⟨l, pre, stepped, ok⟩ := first c
  rw [chain_cons]
  rcases hstep : step c with ⟨out, c'⟩
  rw [hstep] at stepped ok
  cases out with
  | some err => exact ⟨l, pre.trans (List.prefix_append _ _), stepped, by simp⟩
  | none =>
    simp only at stepped
    subst stepped
    obtain ⟨rfl, succeeds⟩ := ok rfl
    obtain ⟨l', pre', rested, ok'⟩ := others (c.sendAll effect l)
    refine ⟨l ++ l', List.prefix_append_right_inj _ |>.mpr pre', ?_, fun done => ?_⟩
    · simpa only [Client.sendAll_append] using rested
    · obtain ⟨rfl, succeeds'⟩ := ok' done
      exact ⟨rfl, by simpa only [List.length_append] using Client.succeeds_append succeeds succeeds'⟩

theorem sends_chain_nil :
    Sends effect (chain [] : Client Request State → Option Error × Client Request State) [] :=
  fun _ => ⟨[], List.prefix_refl _, rfl, fun _ => ⟨rfl, fun _ h => absurd h (Nat.not_lt_zero _)⟩⟩

/-- Steps that each send one request, then a chain. -/
theorem sends_chain_map_append {α : Type} {f : α → Client Request State → Option Error × Client Request State}
    {g : α → Request} {rest : List (Client Request State → Option Error × Client Request State)}
    {rs : List Request} (each : ∀ a, Sends effect (f a) [g a]) (others : Sends effect (chain rest) rs)
    (as : List α) : Sends effect (chain (as.map f ++ rest)) (as.map g ++ rs) := by
  induction as with
  | nil => simpa using others
  | cons a as ih => simpa using sends_chain_cons (each a) ih

theorem sends_chain_map {α : Type} {f : α → Client Request State → Option Error × Client Request State}
    {g : α → Request} (each : ∀ a, Sends effect (f a) [g a]) (as : List α) :
    Sends effect (chain (as.map f)) (as.map g) := by
  simpa using sends_chain_map_append each sends_chain_nil as

end Sends

end CephCsi
