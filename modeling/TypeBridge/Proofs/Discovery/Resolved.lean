import TypeBridge.Proofs.Discovery.Closure
import TypeBridge.Proofs.Discovery.Scope
/-!
# Resolving roots generates their closure

A run returns one target for each generated declaration and nothing else. `RunInv` (every
target, queued path and rejected name comes from a reached declaration) and `Covered` (everything
owed so far is in scope or queued) are kept by each visit; both rest on distinct simple names
among the reached declarations and one declaration per path.
-/

namespace TypeBridge

namespace Discovery

variable (r : Registry) (roots : List String)

/-- What a run from `roots` keeps: each target returned is assembled from a generated
declaration, each queued path is that of a reached declaration, and each rejected simple name
is that of a reached ineligible one. -/
structure RunInv (ts : List Target) (s : Discovery) : Prop where
  queue : QueueOk s
  sound : ∀ t ∈ ts, ∃ d, Generated r roots d ∧ ∃ m, Target.assembled? r d m = some t
  queued : ∀ e ∈ s.pending, ∃ d, Reaches r roots d ∧ d.name = e.2
  rejected : ∀ x ∈ s.rejected, ∃ d, Reaches r roots d ∧ ¬Eligible r d ∧ d.simple = x

def Owed (done scope : List String) (d : Decl) : Prop :=
  Eligible r d ∧ ((∃ root ∈ done, r.lookup? root = some d) ∨
    ∃ D, Generated r roots D ∧ D.simple ∈ scope ∧ D.kind = .struct ∧ Successor r D d)

def Covers (s : Discovery) (x : String) : Prop := x ∈ s.scope ∨ x ∈ s.pending.keys

/-- Every declaration the run owes is in scope or queued. -/
def Covered (done : List String) (s : Discovery) : Prop :=
  ∀ d, Owed r roots done s.scope d → Covers s d.simple

variable {r roots}

section Step

variable {done : List String} {ts : List Target} {s : Discovery} {D : Decl}

theorem Owed.reaches (hdone : ∀ x ∈ done, x ∈ roots) {scope : List String} {d : Decl}
    (h : Owed r roots done scope d) : Reaches r roots d := by
  obtain ⟨-, ⟨root, hroot, hl⟩ | ⟨D, hD, -, hk, hs⟩⟩ := h
  · exact .root (hdone root hroot) hl
  · exact .step hD.reaches hD.eligible hk hs

theorem Covers.mono {s' : Discovery} {x : String} (h : Covers s x) (hs : ∀ y ∈ s.scope, y ∈ s'.scope)
    (hp : ∀ y ∈ s.pending.keys, y ∈ s'.pending.keys) : Covers s' x :=
  h.imp (hs x) (hp x)

theorem RunInv.erase (h : RunInv r roots ts s) (x : String) :
    RunInv r roots ts { s with pending := s.pending.erase x } :=
  ⟨h.queue.erase x, h.sound, fun e he => h.queued e (Keyed.mem_of_mem_erase he), h.rejected⟩

theorem reaches_of_mem_queue (hD : Reaches r roots D) (he : Eligible r D) {p : String}
    (hp : p ∈ Target.queue r D) : ∃ d, Reaches r roots d ∧ d.name = p := by
  obtain ⟨d, hs, rfl⟩ := successor_of_mem_queue hp
  exact ⟨d, .step hD he (he.struct_of_mem_queue hp) hs, rfl⟩

theorem process_runInv (hinv : RunInv r roots ts s) (hD : Reaches r roots D)
    (hq : D.simple ∉ s.pending.keys) :
    RunInv r roots (ts ++ (process r D s).1.toList) (process r D s).2 := by
  rcases process_cases r D s with
    ⟨_, hnone, hskip | ⟨ex, -, -, -, herr⟩⟩ | ⟨_, _, ⟨hpair, hp⟩ | ⟨rej, -, hrej, hp⟩⟩ | ⟨t, _, ht, hp⟩
  · rw [hnone, hskip, Option.toList_none, List.append_nil]
    exact hinv
  · rw [hnone, herr, Option.toList_none, List.append_nil]
    exact ⟨⟨hinv.queue.keyed, hinv.queue.nodup, hinv.queue.unrejected⟩, hinv.sound, hinv.queued,
      hinv.rejected⟩
  · rw [hp, Option.toList_none, List.append_nil]
    refine ⟨hinv.queue.markRejected hq, hinv.sound, hinv.queued, ?_⟩
    intro x hx
    rcases (mem_markRejected_rejected s D.name).mp hx with hx | rfl
    · exact hinv.rejected x hx
    · exact ⟨D, hD, fun he => he.not_pair hpair, rfl⟩
  · rw [hp, Option.toList_none, List.append_nil]
    refine ⟨(hinv.queue.reject rej).markRejected (by rw [reject_pending]; exact hq), hinv.sound,
      by simpa using hinv.queued, ?_⟩
    intro x hx
    rcases (mem_markRejected_rejected _ D.name).mp hx with hx | rfl
    · exact hinv.rejected x (by simpa using hx)
    · exact ⟨D, hD, fun he => by simp [he.ineligibility?_eq_none] at hrej, rfl⟩
  · have hel : Eligible r D := (assembled?_isSome_iff s.mode).mp (by rw [ht]; rfl)
    have hq' := foldl_enqueue_queueOk hinv.queue (Target.queue r D)
    obtain ⟨added, hpend, hadded⟩ := foldl_enqueue_pending s (Target.queue r D)
    rw [hp]
    refine ⟨⟨hq'.keyed, hq'.nodup, hq'.unrejected⟩, ?_, ?_, ?_⟩
    · intro t' ht'
      rcases List.mem_append.mp ht' with ht' | ht'
      · exact hinv.sound t' ht'
      · have heq : t' = t := by simpa using ht'
        exact ⟨D, hD.generated hel, s.mode, heq ▸ ht⟩
    · intro e he
      rw [addToScope_pending, hpend] at he
      rcases List.mem_append.mp he with he | he
      · exact hinv.queued e he
      · exact reaches_of_mem_queue hD hel (hadded e he).1
    · intro x hx
      rw [addToScope_rejected, foldl_enqueue_rejected] at hx
      exact hinv.rejected x hx

theorem RunInv.withMode (h : RunInv r roots ts s) (m : Mode) : RunInv r roots ts { s with mode := m } :=
  ⟨⟨h.queue.keyed, h.queue.nodup, h.queue.unrejected⟩, h.sound, h.queued, h.rejected⟩

theorem RunInv.lookup_entry (hr : r.WellFormed) (hinv : RunInv r roots ts s) {e : String × String}
    (he : e ∈ s.pending) : ∃ D, Reaches r roots D ∧ r.lookup? e.2 = some D ∧ D.simple = e.1 := by
  obtain ⟨D, hD, hname⟩ := hinv.queued e he
  refine ⟨D, hD, hname ▸ Registry.lookup?_name hr hD.mem, ?_⟩
  rw [hinv.queue.keyed e he, ← hname]
  rfl

theorem visit_runInv (hr : r.WellFormed) (hinv : RunInv r roots ts s) {e : String × String}
    (he : e ∈ s.pending) : RunInv r roots (ts ++ (visit r e s).1.toList) (visit r e s).2 := by
  obtain ⟨D, hD, hl, hsimple⟩ := hinv.lookup_entry hr he
  by_cases hs : e.1 ∈ s.scope
  · rw [visit_inert r (.inl hs), Option.toList_none, List.append_nil]
    exact hinv.erase e.1
  · rw [visit_of_lookup r hs hl]
    apply process_runInv (hinv.erase e.1) hD
    rw [hsimple, Keyed.mem_keys_erase]
    exact fun h => h.2 rfl

theorem rootStep_runInv {root : String} (hroot : root ∈ roots) (hinv : RunInv r roots ts s)
    (hnil : s.pending = []) : RunInv r roots (ts ++ (rootStep r root s).1) (rootStep r root s).2 := by
  have h0 := hinv.withMode .explicitRoot
  cases hl : r.lookup? root with
  | none =>
    simp only [rootStep, hl, List.append_nil]
    exact ⟨h0.queue.reject _, h0.sound, by simpa using h0.queued, by simpa using h0.rejected⟩
  | some D =>
    simp only [rootStep, hl]
    exact process_runInv h0 (.root hroot hl) (by simp [hnil])

theorem drain_runInv (hr : r.WellFormed) (fuel : Nat) (hinv : RunInv r roots ts s) :
    RunInv r roots (ts ++ (drain r fuel [] s).1) (drain r fuel [] s).2 :=
  drain_induction r (RunInv r roots) (fun _ _ h => h.queue.nodup) (fun _ _ _ h he => visit_runInv hr h he)
    fuel ts s hinv

theorem resolveRoot_runInv (hr : r.WellFormed) {root : String} (hroot : root ∈ roots)
    (hinv : RunInv r roots ts s) (hnil : s.pending = []) :
    RunInv r roots (ts ++ (resolveRoot r root s).1) (resolveRoot r root s).2 := by
  have hinv' := rootStep_runInv hroot hinv hnil
  rw [resolveRoot_eq, drain_acc, ← List.append_assoc]
  exact drain_runInv hr _ (hinv'.withMode _)

theorem process_scope_of_eligible (he : Eligible r D) : D.simple ∈ (process r D s).2.scope := by
  rcases process_cases r D s with
    ⟨hin, -, hskip | ⟨ex, -, -, -, herr⟩⟩ | ⟨_, _, ⟨hpair, -⟩ | ⟨rej, -, hrej, -⟩⟩ | ⟨t, _, _, hp⟩
  · rw [hskip]
    exact hin
  · rw [herr]
    exact hin
  · exact absurd hpair he.not_pair
  · simp [he.ineligibility?_eq_none] at hrej
  · rw [hp]
    exact (mem_addToScope_scope _ _).mpr (.inr rfl)

theorem Covered.append_root {root : String} (h : Covered r roots done s)
    (hroot : ∀ d, r.lookup? root = some d → Eligible r d → d.simple ∈ s.scope) :
    Covered r roots (done ++ [root]) s := by
  rintro d ⟨hel, ⟨x, hx, hl⟩ | hsucc⟩
  · rcases List.mem_append.mp hx with hx | hx
    · exact h d ⟨hel, .inl ⟨x, hx, hl⟩⟩
    · rw [List.mem_singleton.mp hx] at hl
      exact .inl (hroot d hl hel)
  · exact h d ⟨hel, .inr hsucc⟩

variable (hdist : DistinctNames r roots) (hdone : ∀ x ∈ done, x ∈ roots)
include hdist hdone

theorem covered_of_unchanged {s' : Discovery} (hsc : s'.scope = s.scope) (hpend : s'.pending = s.pending)
    (hD : Reaches r roots D) (hself : Eligible r D → D.simple ∈ s.scope)
    (hcov : ∀ d, Owed r roots done s.scope d → d.simple ≠ D.simple → Covers s d.simple) :
    Covered r roots done s' := by
  intro d hd
  rw [hsc] at hd
  unfold Covers
  rw [hsc, hpend]
  by_cases hname : d.simple = D.simple
  · obtain rfl : d = D := hdist d D (hd.reaches hdone) hD hname
    exact .inl (hself hd.1)
  · exact hcov d hd hname

theorem process_covered (hinv : RunInv r roots ts s) (hD : Reaches r roots D)
    (hcov : ∀ d, Owed r roots done s.scope d → d.simple ≠ D.simple → Covers s d.simple) :
    Covered r roots done (process r D s).2 := by
  rcases process_cases r D s with
    ⟨hin, -, hskip | ⟨ex, -, -, -, herr⟩⟩ | ⟨_, _, ⟨hpair, hp⟩ | ⟨rej, -, hrej, hp⟩⟩ | ⟨t, _, ht, hp⟩
  · rw [hskip]
    exact covered_of_unchanged hdist hdone rfl rfl hD (fun _ => hin) hcov
  · rw [herr]
    exact covered_of_unchanged hdist hdone rfl rfl hD (fun _ => hin) hcov
  · rw [hp]
    exact covered_of_unchanged hdist hdone rfl rfl hD (fun he => absurd hpair he.not_pair) hcov
  · rw [hp]
    refine covered_of_unchanged hdist hdone (by simp) (by simp) hD (fun he => ?_) hcov
    simp [he.ineligibility?_eq_none] at hrej
  · rw [hp]
    set s' := ((Target.queue r D).foldl enqueue s).addToScope D.name
    have hsc : ∀ y ∈ s.scope, y ∈ s'.scope := fun y hy =>
      (mem_addToScope_scope _ _).mpr (.inl (by simpa using hy))
    have hpk : ∀ y ∈ s.pending.keys, y ∈ s'.pending.keys := by
      obtain ⟨added, hpend, -⟩ := foldl_enqueue_pending s (Target.queue r D)
      intro y hy
      simp [s', hpend, hy]
    intro d hd
    by_cases hname : d.simple = D.simple
    · exact .inl ((mem_addToScope_scope _ _).mpr (.inr hname))
    obtain ⟨hel, ⟨root, hroot, hl⟩ | ⟨D', hD', hin', hk', hs'⟩⟩ := hd
    · exact (hcov d ⟨hel, .inl ⟨root, hroot, hl⟩⟩ hname).mono hsc hpk
    rcases (mem_addToScope_scope _ _).mp hin' with hin' | hin'
    · exact (hcov d ⟨hel, .inr ⟨D', hD', by simpa using hin', hk', hs'⟩⟩ hname).mono hsc hpk
    -- the struct in scope is the one just committed, whose assembly queued `d`
    obtain rfl : D' = D := hdist D' D hD'.reaches hD hin'
    have hd : Reaches r roots d := .step hD hD'.eligible hk' hs'
    rcases foldl_enqueue_covers s _ (mem_queue_of_successor (by rw [hk']; decide) hs') with
      h | h | h
    · exact .inl (hsc _ h)
    · obtain ⟨e, he, hne, hx⟩ := hinv.rejected _ h
      obtain rfl : e = d := hdist e d he hd hx
      exact absurd hel hne
    · exact .inr h

theorem visit_covered (hr : r.WellFormed) (hinv : RunInv r roots ts s) {e : String × String}
    (he : e ∈ s.pending) (hcov : Covered r roots done s) : Covered r roots done (visit r e s).2 := by
  obtain ⟨D, hD, hl, hsimple⟩ := hinv.lookup_entry hr he
  have herase : ∀ d, Owed r roots done s.scope d → d.simple ≠ e.1 →
      Covers { s with pending := s.pending.erase e.1 } d.simple := by
    intro d hd hne
    rcases hcov d hd with h | h
    · exact .inl h
    · exact .inr (Keyed.mem_keys_erase.mpr ⟨h, hne⟩)
  by_cases hs : e.1 ∈ s.scope
  · rw [visit_inert r (.inl hs)]
    intro d hd
    by_cases hne : d.simple = e.1
    · exact .inl (hne ▸ hs)
    · exact herase d hd hne
  · rw [visit_of_lookup r hs hl]
    exact process_covered hdist hdone (hinv.erase e.1) hD fun d hd hne => herase d hd (hsimple ▸ hne)

theorem rootStep_covered {root : String} (hroot : root ∈ roots) (hinv : RunInv r roots ts s)
    (hcov : Covered r roots done s) : Covered r roots (done ++ [root]) (rootStep r root s).2 := by
  cases hl : r.lookup? root with
  | none =>
    simp only [rootStep, hl]
    refine Covered.append_root (fun d hd => by simpa [Covers] using hcov d (by simpa using hd)) ?_
    intro d hd
    simp [hl] at hd
  | some D =>
    simp only [rootStep, hl]
    have hcov' := process_covered hdist hdone (hinv.withMode .explicitRoot) (.root hroot hl)
      fun d hd _ => hcov d hd
    refine hcov'.append_root fun d hd he => ?_
    obtain rfl : D = d := Option.some.inj (hl.symm.trans hd)
    exact process_scope_of_eligible he

theorem drain_inv (hr : r.WellFormed) (fuel : Nat) (hinv : RunInv r roots ts s)
    (hcov : Covered r roots done s) :
    RunInv r roots (ts ++ (drain r fuel [] s).1) (drain r fuel [] s).2 ∧
      Covered r roots done (drain r fuel [] s).2 :=
  drain_induction r (fun ts s => RunInv r roots ts s ∧ Covered r roots done s)
    (fun _ _ h => h.1.queue.nodup)
    (fun _ _ _ h he => ⟨visit_runInv hr h.1 he, visit_covered hdist hdone hr h.1 he h.2⟩)
    fuel ts s ⟨hinv, hcov⟩

theorem resolveRoot_inv (hr : r.WellFormed) {root : String} (hroot : root ∈ roots)
    (hinv : RunInv r roots ts s) (hnil : s.pending = []) (hcov : Covered r roots done s) :
    RunInv r roots (ts ++ (resolveRoot r root s).1) (resolveRoot r root s).2 ∧
      Covered r roots (done ++ [root]) (resolveRoot r root s).2 := by
  have hdone' : ∀ x ∈ done ++ [root], x ∈ roots := by
    intro x hx
    rcases List.mem_append.mp hx with hx | hx
    · exact hdone x hx
    · rw [List.mem_singleton.mp hx]
      exact hroot
  have hinv' := rootStep_runInv hroot hinv hnil
  have hcov' := rootStep_covered hdist hdone hroot hinv hcov
  rw [resolveRoot_eq, drain_acc, ← List.append_assoc]
  exact drain_inv hdist hdone' hr _ (hinv'.withMode _) hcov'

end Step

theorem RunInv.empty : RunInv r roots [] {} :=
  ⟨QueueOk.of_nil rfl, by simp, by simp, by simp⟩

theorem resolveAll_runInv (hr : r.WellFormed) :
    ∀ (rest : List String) (ts : List Target) (s : Discovery), (∀ x ∈ rest, x ∈ roots) →
      RunInv r roots ts s → s.pending = [] →
      RunInv r roots (ts ++ (resolveAll r rest [] s).1) (resolveAll r rest [] s).2 := by
  intro rest
  induction rest with
  | nil =>
    intro ts s _ hinv _
    simpa [resolveAll] using hinv
  | cons root rest ih =>
    intro ts s hroots hinv hnil
    have hinv' := resolveRoot_runInv hr (hroots root List.mem_cons_self) hinv hnil
    have hnext := ih _ _ (fun x hx => hroots x (List.mem_cons_of_mem root hx)) hinv'
      (resolveRoot_pending_nil r root hnil)
    simp only [resolveAll, List.nil_append]
    rw [resolveAll_acc, ← List.append_assoc]
    simpa using hnext

theorem resolveAll_sound (hr : r.WellFormed) {t : Target} (ht : t ∈ (resolveAll r roots [] {}).1) :
    ∃ d, Generated r roots d ∧ ∃ m, Target.assembled? r d m = some t :=
  (resolveAll_runInv hr roots [] {} (fun _ hx => hx) .empty rfl).sound t (by simpa using ht)

theorem Covered.empty : Covered r roots [] {} := by
  rintro d ⟨-, ⟨x, hx, -⟩ | ⟨D, -, hD, -⟩⟩
  · simp at hx
  · simp at hD

theorem resolveAll_inv (hr : r.WellFormed) (hdist : DistinctNames r roots) :
    ∀ (rest done : List String) (ts : List Target) (s : Discovery), (∀ x ∈ done ++ rest, x ∈ roots) →
      RunInv r roots ts s → s.pending = [] → Covered r roots done s →
      RunInv r roots (ts ++ (resolveAll r rest [] s).1) (resolveAll r rest [] s).2 ∧
        Covered r roots (done ++ rest) (resolveAll r rest [] s).2 := by
  intro rest
  induction rest with
  | nil =>
    intro done ts s _ hinv _ hcov
    simpa [resolveAll] using And.intro hinv hcov
  | cons root rest ih =>
    intro done ts s hroots hinv hnil hcov
    have hdone : ∀ x ∈ done, x ∈ roots := fun x hx => hroots x (List.mem_append_left _ hx)
    obtain ⟨hinv', hcov'⟩ := resolveRoot_inv hdist hdone hr (hroots root (by simp)) hinv hnil hcov
    have hnext := ih (done ++ [root]) _ _ (by simpa using hroots) hinv'
      (resolveRoot_pending_nil r root hnil) hcov'
    simp only [resolveAll, List.nil_append]
    rw [resolveAll_acc, ← List.append_assoc]
    simpa using hnext

theorem resolveAll_complete (hr : r.WellFormed) (hdist : DistinctNames r roots) {d : Decl}
    (hd : Generated r roots d) : ∃ t ∈ (resolveAll r roots [] {}).1, ∃ m, Target.assembled? r d m = some t := by
  have hrun := resolveAll_inv hr hdist roots [] [] {} (by simp) .empty rfl .empty
  rw [List.nil_append, List.nil_append] at hrun
  obtain ⟨hinv, hcov⟩ := hrun
  have hnil : (resolveAll r roots [] {}).2.pending = [] := resolveAll_pending_nil r roots rfl
  have hgrow := resolveAll_scopeGrowth r roots {}
  -- the queue is empty, so everything owed is in scope; by induction the whole closure is
  have hin : ∀ d, Owed r roots roots (resolveAll r roots [] {}).2.scope d →
      d.simple ∈ (resolveAll r roots [] {}).2.scope := by
    intro d hd
    rcases hcov d hd with h | h
    · exact h
    · simp [hnil] at h
  have hscope : ∀ d, Generated r roots d → d.simple ∈ (resolveAll r roots [] {}).2.scope := by
    intro d hd
    induction hd with
    | root hroot hl he => exact hin _ ⟨he, .inl ⟨_, hroot, hl⟩⟩
    | step hD hk hs he ih => exact hin _ ⟨he, .inr ⟨_, hD, ih, hk, hs⟩⟩
  obtain ⟨t, ht, hsimple⟩ : ∃ t ∈ (resolveAll r roots [] {}).1, t.simple = d.simple := by
    simpa using (hgrow.scope d.simple).mp (hscope d hd)
  obtain ⟨d', hd', m, hm⟩ := hinv.sound t ht
  have hname := Target.assembled?_name r d' hm
  obtain rfl : d' = d := hdist d' d hd'.reaches hd.reaches (by
    rw [← hsimple]
    simp [Target.simple, Decl.simple, hname])
  exact ⟨t, ht, m, hm⟩

end Discovery

/-- Resolving roots in order returns exactly the closure of the roots: one target for each
generated declaration, assembled from it, no two with one name, and nothing else. -/
theorem resolveAll_generates_closure (r : Registry) (roots : List String) (hr : r.WellFormed)
    (hdist : DistinctNames r roots) :
    ((Discovery.resolveAll r roots [] {}).1.map Target.name).Nodup ∧
      (∀ t ∈ (Discovery.resolveAll r roots [] {}).1,
        ∃ d, Generated r roots d ∧ ∃ m, Target.assembled? r d m = some t) ∧
      ∀ d, Generated r roots d →
        ∃ t ∈ (Discovery.resolveAll r roots [] {}).1, ∃ m, Target.assembled? r d m = some t := by
  refine ⟨?_, fun t ht => Discovery.resolveAll_sound hr ht, fun d hd => Discovery.resolveAll_complete hr hdist hd⟩
  have hnodup := (Discovery.resolveAll_scopeGrowth r roots {}).nodup
  rw [show Target.simple = Path.simple ∘ Target.name from rfl, ← List.map_map] at hnodup
  exact hnodup.of_map _

def mutualPair : Registry where
  decls := [
    { name := "crate::graph::Node",
      members := [{ name := "edges", ty := .named "Vec" [.named "crate::graph::Edge" [] false] false }] },
    { name := "crate::graph::Edge",
      members := [{ name := "target", ty := .named "crate::graph::Node" [] false }] }]
  roots := ["crate::graph::Node"]

theorem mutualPair_generates_closure :
    mutualPair.WellFormed ∧ DistinctNames mutualPair mutualPair.roots ∧
      ((Discovery.resolveAll mutualPair mutualPair.roots [] {}).1.map Target.name).Nodup ∧
      (∀ t ∈ (Discovery.resolveAll mutualPair mutualPair.roots [] {}).1,
        ∃ d, Generated mutualPair mutualPair.roots d ∧ ∃ m, Target.assembled? mutualPair d m = some t) ∧
      ∀ d, Generated mutualPair mutualPair.roots d →
        ∃ t ∈ (Discovery.resolveAll mutualPair mutualPair.roots [] {}).1,
          ∃ m, Target.assembled? mutualPair d m = some t :=
  have hr : mutualPair.WellFormed := by decide
  have hdist : DistinctNames mutualPair mutualPair.roots := distinctNames_of_nodup (by decide)
  ⟨hr, hdist, resolveAll_generates_closure mutualPair mutualPair.roots hr hdist⟩

end TypeBridge
