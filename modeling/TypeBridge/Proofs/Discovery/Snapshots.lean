import TypeBridge.Proofs.Discovery.Drain
/-!
# The snapshot loop ends

`Discovery.Loops` is the snapshot loop without a bound. Each snapshot settles a new simple name
or processes nothing (`drainSnapshot_progress`), so the model's fuel reaches the end of the
unbounded loop (`resolveRoot_loop_ends`). An idle snapshot need not come first: a struct that
refers to itself requeues its own name (`selfLoop_second_snapshot_idle`).
-/

namespace TypeBridge

namespace Discovery

/-- The snapshot loop run to its end without a bound: `Loops r acc s n res` when the loop that
starts from `s` with the targets `acc` takes `n` snapshots, the last of them empty, and ends with
`res`. -/
inductive Loops (r : Registry) : List Target → Discovery → Nat → List Target × Discovery → Prop
  | stop {acc : List Target} {s : Discovery} : s.pending = [] → Loops r acc s 1 (acc, s)
  | next {acc : List Target} {s : Discovery} {n : Nat} {res : List Target × Discovery} :
      s.pending ≠ [] →
        Loops r (drainSnapshot r s.pending acc s).1 (drainSnapshot r s.pending acc s).2 n res →
          Loops r acc s (n + 1) res

variable {r : Registry}

namespace Loops

theorem pending_nil {acc : List Target} {s : Discovery} {n : Nat} {res : List Target × Discovery}
    (h : Loops r acc s n res) : res.2.pending = [] := by
  induction h with
  | stop hs => exact hs
  | next _ _ ih => exact ih

theorem one_le {acc : List Target} {s : Discovery} {n : Nat} {res : List Target × Discovery}
    (h : Loops r acc s n res) : 1 ≤ n := by
  cases h <;> omega

theorem drain_eq {acc : List Target} {s : Discovery} {n : Nat} {res : List Target × Discovery}
    (h : Loops r acc s n res) : ∀ fuel, n ≤ fuel + 1 → drain r fuel acc s = res := by
  induction h with
  | stop hs => exact fun _ _ => drain_of_pending_nil r hs
  | @next acc s n res hs hrest ih =>
    intro fuel hfuel
    have hn := hrest.one_le
    obtain ⟨fuel, rfl⟩ : ∃ f, fuel = f + 1 := ⟨fuel - 1, by omega⟩
    have hne : s.pending.isEmpty = false := List.isEmpty_eq_false_iff.mpr hs
    simp only [drain, hne, Bool.false_eq_true, ↓reduceIte]
    exact ih fuel (by omega)

end Loops

theorem loops_of_queueOk (r : Registry) :
    ∀ (k : Nat) (acc : List Target) (s : Discovery), QueueOk s → (unsettled r s).card = k →
      ∃ n res, n ≤ k + 2 ∧ Loops r acc s n res := by
  intro k
  induction k using Nat.strong_induction_on with
  | _ k ih =>
    intro acc s hq hk
    by_cases hnil : s.pending = []
    · exact ⟨1, (acc, s), by omega, .stop hnil⟩
    -- the snapshot from `acc`: the targets it adds do not change what it does to the state
    have hsnap : (drainSnapshot r s.pending acc s).2 = (drainSnapshot r s.pending [] s).2 := by
      rw [drainSnapshot_acc]
    rcases drainSnapshot_progress r hq with hlt | ⟨-, hempty⟩
    · have hcard := Finset.card_lt_card hlt
      obtain ⟨n, res, hn, hloop⟩ := ih _ (hk ▸ hcard) (drainSnapshot r s.pending acc s).1
        (drainSnapshot r s.pending acc s).2 (hsnap ▸ drainSnapshot_queueOk r hq) (by rw [hsnap])
      exact ⟨n + 1, res, by omega, .next hnil hloop⟩
    · exact ⟨2, _, by omega, .next hnil (.stop (hsnap ▸ hempty))⟩

/-- Resolving a root terminates. Every snapshot of a well-formed queue either shrinks the set of
the registry's simple names that are in neither scope nor rejected, or holds only entries that are
in scope or look up to nothing and leaves the queue empty. From an empty queue, which every call
on one discovery state starts from, the snapshot loop run without a bound takes at most as many
snapshots as the registry has distinct simple names, plus two; it ends with an empty queue, where
the model's bounded drain ends. -/
theorem resolveRoot_loop_ends (r : Registry) :
    (∀ s : Discovery, QueueOk s →
      unsettled r (drainSnapshot r s.pending [] s).2 ⊂ unsettled r s ∨
        ((∀ e ∈ s.pending, e.1 ∈ s.scope ∨ r.lookup? e.2 = none) ∧
          (drainSnapshot r s.pending [] s).2.pending = [])) ∧
    ∀ (root : String) (s : Discovery), s.pending = [] →
      ∃ n, n ≤ (simpleNames r).card + 2 ∧
        Loops r (rootStep r root s).1 { (rootStep r root s).2 with mode := .transitive } n
          (resolveRoot r root s) ∧
        (resolveRoot r root s).2.pending = [] := by
  refine ⟨fun s hq => drainSnapshot_progress r hq, fun root s hs => ?_⟩
  have hq := rootStep_queueOk r root hs
  have hq' : QueueOk { (rootStep r root s).2 with mode := .transitive } := ⟨hq.keyed, hq.nodup, hq.unrejected⟩
  obtain ⟨n, res, hn, hloop⟩ := loops_of_queueOk r _ (rootStep r root s).1 _ hq' rfl
  have hle := card_unsettled_le_simpleNames r { (rootStep r root s).2 with mode := .transitive }
  have hfuel := card_simpleNames_le r
  -- the model's fuel covers the snapshots of the loop, so it ends with the loop's outcome
  have hres : resolveRoot r root s = res := by
    rw [resolveRoot_eq]
    exact hloop.drain_eq _ (by omega)
  rw [hres]
  exact ⟨n, by omega, hloop, hloop.pending_nil⟩

end Discovery

def selfLoop : Registry where
  decls := [{ name := "crate::Root", members := [{ name := "node", ty := .simpleRef "crate::Node" }] },
    { name := "crate::Node", members := [{ name := "next", ty := .simpleRef "crate::Node" }] }]

theorem selfLoop_loop_ends :
    Discovery.QueueOk ({} : Discovery) ∧ ({} : Discovery).pending = [] ∧
      ∃ n, n ≤ (Discovery.simpleNames selfLoop).card + 2 ∧
        Discovery.Loops selfLoop (Discovery.rootStep selfLoop "crate::Root" {}).1
          { (Discovery.rootStep selfLoop "crate::Root" {}).2 with mode := .transitive } n
          (Discovery.resolveRoot selfLoop "crate::Root" {}) ∧
        (Discovery.resolveRoot selfLoop "crate::Root" {}).2.pending = [] :=
  ⟨Discovery.QueueOk.of_nil rfl, rfl, (Discovery.resolveRoot_loop_ends selfLoop).2 "crate::Root" {} rfl⟩

/-- The snapshot that settles nothing need not be the first, nor hold the root's name. Resolving
`crate::Root` in `selfLoop`, the first snapshot holds `Node` and settles it; assembling `Node`
queues `Node` again, so the second snapshot holds only `Node` and leaves the unsettled names as
they were. -/
theorem selfLoop_second_snapshot_idle :
    let s₁ : Discovery := { (Discovery.rootStep selfLoop "crate::Root" {}).2 with mode := .transitive }
    let s₂ := (Discovery.drainSnapshot selfLoop s₁.pending [] s₁).2
    s₁.pending.keys = ["Node"] ∧
      Discovery.unsettled selfLoop s₂ ⊂ Discovery.unsettled selfLoop s₁ ∧
      s₂.pending.keys = ["Node"] ∧
      Discovery.unsettled selfLoop (Discovery.drainSnapshot selfLoop s₂.pending [] s₂).2 =
        Discovery.unsettled selfLoop s₂ := by
  decide +kernel

end TypeBridge
