import TypeBridge.Proofs.Discovery.Snapshots
import TypeBridge.Proofs.Discovery.Annotation
import Mathlib.Data.List.Forall2
/-!
# The diagnostics of a run

The diagnostics of a run are laid out root by root (`Discovery.Reported`): at most one error for
the root itself, then warnings from draining the queue, no two about one simple name. The run
fails with the whole list exactly when it holds an error (`Generator.resolve_diagnostics`).
-/

namespace TypeBridge

namespace Discovery

/-- The errors that the step of a root can record: the root looks up to nothing; or it looks up
to a declaration other than the pair type that cannot be generated, and the error gives the
reason; or to a declaration whose simple name an annotated declaration of another path holds. -/
inductive RootError (r : Registry) (root : String) : Rejection → Prop
  | unknown : r.lookup? root = none → RootError r root (.unknown root)
  | ineligible {d : Decl} {rej : Rejection} : r.lookup? root = some d → d.name ≠ Known.pair →
      Target.ineligibility? r d = some rej → RootError r root rej
  | duplicate {d : Decl} {ex : String} : r.lookup? root = some d → ex ≠ d.name →
      RootError r root (.duplicateName d.simple ex d.name)

/-- A warning about a registered declaration other than the pair type that cannot be generated:
it gives the reason. -/
def Warns (r : Registry) (w : Diagnostic) (d : Decl) : Prop :=
  w.severity = .warning ∧ d ∈ r.decls ∧ d.name ≠ Known.pair ∧ Target.ineligibility? r d = some w.rejection

/-- How resolving `roots` from `s` to `s'` lays out its diagnostics: root by root, the error the
root recorded, if any, then the warnings about the declarations discovered from it. The warnings
are about the declarations `ds`, of distinct simple names, none rejected at the start, all
rejected at the end. -/
structure Reported (r : Registry) (roots : List String) (s s' : Discovery)
    (parts : List (List Diagnostic × List Diagnostic)) (ds : List Decl) : Prop where
  length : parts.length = roots.length
  diagnostics : s'.diagnostics = s.diagnostics ++ (parts.map fun p => p.1 ++ p.2).flatten
  errors : ∀ q ∈ roots.zip parts,
    q.2.1.length ≤ 1 ∧ ∀ e ∈ q.2.1, e.severity = .error ∧ RootError r q.1 e.rejection
  warnings : List.Forall₂ (Warns r) (parts.map Prod.snd).flatten ds
  distinct : (ds.map Decl.simple).Nodup
  fresh : ∀ d ∈ ds, d.simple ∉ s.rejected ∧ d.simple ∈ s'.rejected

variable {r : Registry} {d : Decl} {s : Discovery}

@[simp] theorem reject_diagnostics (rej : Rejection) :
    (s.reject rej).diagnostics =
      s.diagnostics ++ [⟨if s.mode = .explicitRoot then .error else .warning, rej⟩] := by
  rw [reject_eq]

/-! ### One step -/

theorem process_root_diagnostics (h : s.mode = .explicitRoot) :
    (process r d s).2.diagnostics = s.diagnostics ∨
      ∃ rej, (process r d s).2.diagnostics = s.diagnostics ++ [⟨.error, rej⟩] ∧
        ((d.name ≠ Known.pair ∧ Target.ineligibility? r d = some rej) ∨
          ∃ ex, ex ≠ d.name ∧ rej = .duplicateName d.simple ex d.name) := by
  rcases process_cases r d s with
    ⟨-, -, hskip | ⟨ex, -, -, hne, herr⟩⟩ | ⟨-, -, ⟨-, hp⟩ | ⟨rej, hpair, hrej, hp⟩⟩ | ⟨t, -, -, hp⟩
  · exact .inl (by rw [hskip])
  · exact .inr ⟨_, by rw [herr, error_diagnostics], .inr ⟨ex, hne, rfl⟩⟩
  · exact .inl (by rw [hp, markRejected_diagnostics])
  · refine .inr ⟨rej, ?_, .inl ⟨hpair, hrej⟩⟩
    rw [hp, markRejected_diagnostics, reject_diagnostics, if_pos h]
  · exact .inl (by rw [hp, addToScope_diagnostics, foldl_enqueue_diagnostics])

theorem process_discovered_diagnostics (h : s.mode = .transitive) :
    (process r d s).2.diagnostics = s.diagnostics ∨
      ∃ rej, d.name ≠ Known.pair ∧ Target.ineligibility? r d = some rej ∧
        (process r d s).2.diagnostics = s.diagnostics ++ [⟨.warning, rej⟩] ∧
        d.simple ∈ (process r d s).2.rejected := by
  rcases process_cases r d s with
    ⟨-, -, hskip | ⟨ex, hroot, -⟩⟩ | ⟨-, -, ⟨-, hp⟩ | ⟨rej, hpair, hrej, hp⟩⟩ | ⟨t, -, -, hp⟩
  · exact .inl (by rw [hskip])
  · rw [h] at hroot
    cases hroot
  · exact .inl (by rw [hp, markRejected_diagnostics])
  · refine .inr ⟨rej, hpair, hrej, ?_, ?_⟩
    · rw [hp, markRejected_diagnostics, reject_diagnostics, h]
      rfl
    · rw [hp]
      exact (mem_markRejected_rejected _ _).mpr (.inr rfl)
  · exact .inl (by rw [hp, addToScope_diagnostics, foldl_enqueue_diagnostics])

theorem rootStep_diagnostics (root : String) (s : Discovery) :
    ∃ es, (rootStep r root s).2.diagnostics = s.diagnostics ++ es ∧ es.length ≤ 1 ∧
      ∀ e ∈ es, e.severity = .error ∧ RootError r root e.rejection := by
  cases hl : r.lookup? root with
  | none =>
    refine ⟨[⟨.error, .unknown root⟩], ?_, by simp, ?_⟩
    · simp [rootStep, hl]
    · intro e he
      rw [List.mem_singleton.mp he]
      exact ⟨rfl, .unknown hl⟩
  | some d =>
    have hstep : (rootStep r root s).2 = (process r d { s with mode := .explicitRoot }).2 := by
      simp [rootStep, hl]
    rw [hstep]
    rcases process_root_diagnostics (r := r) (d := d) (s := { s with mode := .explicitRoot }) rfl with
      hsame | ⟨rej, hrec, hwhy⟩
    · exact ⟨[], by rw [hsame, List.append_nil], by simp, by simp⟩
    · refine ⟨[⟨.error, rej⟩], hrec, by simp, ?_⟩
      intro e he
      rw [List.mem_singleton.mp he]
      refine ⟨rfl, ?_⟩
      rcases hwhy with ⟨hpair, hrej⟩ | ⟨ex, hne, rfl⟩
      · exact .ineligible hl hpair hrej
      · exact .duplicate hl hne

theorem rejected_rootStep (root : String) {x : String} (hx : x ∈ s.rejected) :
    x ∈ (rootStep r root s).2.rejected := by
  cases hl : r.lookup? root with
  | none => simpa [rootStep, hl] using hx
  | some d =>
    simp only [rootStep, hl]
    exact rejected_process r hx

/-! ### Draining the queue -/

/-- What a drain started from `s₀` has recorded by the state `s`: it is still draining a
well-formed queue of discovered types, rejected no name back, and appended warnings only, about
declarations of distinct simple names that were not rejected at the start and are now. -/
structure Warned (r : Registry) (s₀ s : Discovery) : Prop where
  queueOk : QueueOk s
  transitive : s.mode = .transitive
  rejected_mono : ∀ x ∈ s₀.rejected, x ∈ s.rejected
  warnings : ∃ ws ds, s.diagnostics = s₀.diagnostics ++ ws ∧ List.Forall₂ (Warns r) ws ds ∧
    (ds.map Decl.simple).Nodup ∧ ∀ d ∈ ds, d.simple ∉ s₀.rejected ∧ d.simple ∈ s.rejected

theorem Warned.start (hq : QueueOk s) (hm : s.mode = .transitive) : Warned r s s :=
  ⟨hq, hm, fun _ hx => hx, [], [], by simp, .nil, .nil, by simp⟩

theorem Warned.of_same {s₀ s' : Discovery} (h : Warned r s₀ s) (hq : QueueOk s') (hm : s'.mode = .transitive)
    (hmono : ∀ x ∈ s.rejected, x ∈ s'.rejected) (hsame : s'.diagnostics = s.diagnostics) : Warned r s₀ s' := by
  obtain ⟨ws, ds, hdiag, hws, hnodup, hds⟩ := h.warnings
  exact ⟨hq, hm, fun x hx => hmono x (h.rejected_mono x hx), ws, ds, by rw [hsame, hdiag], hws, hnodup,
    fun d' hd' => ⟨(hds d' hd').1, hmono _ (hds d' hd').2⟩⟩

theorem Warned.of_warning {s₀ s' : Discovery} (h : Warned r s₀ s) (hq : QueueOk s') (hm : s'.mode = .transitive)
    (hmono : ∀ x ∈ s.rejected, x ∈ s'.rejected) {w : Diagnostic} (hdiag' : s'.diagnostics = s.diagnostics ++ [w])
    (hw : Warns r w d) (hfresh : d.simple ∉ s.rejected) (hin : d.simple ∈ s'.rejected) : Warned r s₀ s' := by
  obtain ⟨ws, ds, hdiag, hws, hnodup, hds⟩ := h.warnings
  refine ⟨hq, hm, fun x hx => hmono x (h.rejected_mono x hx), ws ++ [w], ds ++ [d],
    by rw [hdiag', hdiag, List.append_assoc], List.rel_append hws (.cons hw .nil), ?_, ?_⟩
  · rw [List.map_append, List.nodup_append]
    refine ⟨hnodup, List.nodup_singleton _, ?_⟩
    intro x hx y hy hxy
    obtain ⟨d', hd', rfl⟩ := List.mem_map.mp hx
    rw [List.map_singleton, List.mem_singleton] at hy
    exact hfresh (hy ▸ hxy ▸ (hds d' hd').2)
  · intro d' hd'
    rcases List.mem_append.mp hd' with hd' | hd'
    · exact ⟨(hds d' hd').1, hmono _ (hds d' hd').2⟩
    · rw [List.mem_singleton.mp hd']
      exact ⟨fun h₀ => hfresh (h.rejected_mono _ h₀), hin⟩

theorem visit_warned {s₀ : Discovery} (h : Warned r s₀ s) {e : String × String} (he : e ∈ s.pending) :
    Warned r s₀ (visit r e s).2 := by
  have hkeyed := h.queueOk.keyed e he
  -- an entry in scope or naming no declaration is dropped from the queue, and nothing else
  have hdrop : Warned r s₀ { s with pending := s.pending.erase e.1 } :=
    h.of_same (h.queueOk.erase e.1) h.transitive (fun _ hx => hx) rfl
  by_cases hs : e.1 ∈ s.scope
  · rw [visit_inert r (.inl hs)]
    exact hdrop
  cases hl : r.lookup? e.2 with
  | none =>
    rw [visit_inert r (.inr hl)]
    exact hdrop
  | some d =>
    have hsimple : d.simple = e.1 := by rw [Registry.lookup?_simple hl, hkeyed]
    have hfresh : d.simple ∉ s.rejected := hsimple ▸ h.queueOk.unrejected e.1 (Keyed.mem_keys he)
    have hq := process_queueOk r (h.queueOk.erase e.1) (d := d)
      (by rw [hsimple]; exact fun hx => (Keyed.mem_keys_erase.mp hx).2 rfl)
    have hmode := (process_transitive (r := r) (d := d) (s := { s with pending := s.pending.erase e.1 })
      h.transitive).1
    have hmono : ∀ x ∈ s.rejected, x ∈ (process r d { s with pending := s.pending.erase e.1 }).2.rejected :=
      fun x hx => rejected_process r hx
    rw [visit_of_lookup r hs hl]
    rcases process_discovered_diagnostics (r := r) (d := d) (s := { s with pending := s.pending.erase e.1 })
        h.transitive with hsame | ⟨rej, hpair, hrej, hrec, hin⟩
    · exact h.of_same hq hmode hmono hsame
    · exact h.of_warning hq hmode hmono hrec ⟨rfl, Registry.lookup?_mem hl, hpair, hrej⟩ hfresh hin

theorem drain_warned {s₀ : Discovery} (h : Warned r s₀ s) (fuel : Nat) (acc : List Target) :
    Warned r s₀ (drain r fuel acc s).2 := by
  have hrun := drain_induction r (fun _ s' => Warned r s₀ s') (fun _ _ h' => h'.queueOk.nodup)
    (fun _ _ _ h' he => visit_warned h' he) fuel [] s h
  rw [drain_acc]
  exact hrun

/-! ### Runs -/

theorem resolveRoot_reported (root : String) (hs : s.pending = []) :
    ∃ e w ds, Reported r [root] s (resolveRoot r root s).2 [(e, w)] ds ∧
      ∀ x ∈ s.rejected, x ∈ (resolveRoot r root s).2.rejected := by
  obtain ⟨es, hes, hlen, herr⟩ := rootStep_diagnostics (r := r) root s
  have hq := rootStep_queueOk r root hs
  have hstart : Warned r { (rootStep r root s).2 with mode := .transitive }
      { (rootStep r root s).2 with mode := .transitive } :=
    Warned.start ⟨hq.keyed, hq.nodup, hq.unrejected⟩ rfl
  have hdrain := drain_warned hstart (r.size + 2) (rootStep r root s).1
  rw [← resolveRoot_eq] at hdrain
  obtain ⟨ws, ds, hdiag, hws, hnodup, hds⟩ := hdrain.warnings
  have hmono : ∀ x ∈ s.rejected, x ∈ (resolveRoot r root s).2.rejected :=
    fun x hx => hdrain.rejected_mono x (rejected_rootStep root hx)
  refine ⟨es, ws, ds, ⟨rfl, ?_, ?_, by simpa using hws, hnodup, ?_⟩, hmono⟩
  · rw [hdiag]
    simp [hes]
  · intro q hq'
    rw [List.zip_cons_cons, List.zip_nil_left, List.mem_singleton] at hq'
    rw [hq']
    exact ⟨hlen, herr⟩
  · exact fun d hd => ⟨fun h₀ => (hds d hd).1 (rejected_rootStep root h₀), (hds d hd).2⟩

theorem resolveAll_rejected_mono (roots : List String) (acc : List Target) {x : String}
    (hx : x ∈ s.rejected) : x ∈ (resolveAll r roots acc s).2.rejected :=
  resolveAll_preserves (fun s' => x ∈ s'.rejected) (fun _ _ h => rejected_process r h)
    (fun _ _ h => h) (fun _ _ h => h) (fun _ _ h => by simpa using h) roots acc s hx

theorem resolveAll_reported :
    ∀ (roots : List String) (acc : List Target) (s : Discovery), s.pending = [] →
      ∃ parts ds, Reported r roots s (resolveAll r roots acc s).2 parts ds := by
  intro roots
  induction roots with
  | nil => exact fun _ s _ => ⟨[], [], rfl, by simp [resolveAll], by simp, .nil, by simp, by simp⟩
  | cons root rest ih =>
    intro acc s hs
    obtain ⟨e, w, ds₀, h₀, hmono₀⟩ := resolveRoot_reported (r := r) root hs
    obtain ⟨parts, ds, h⟩ := ih (acc ++ (resolveRoot r root s).1) (resolveRoot r root s).2
      (resolveRoot_pending_nil r root hs)
    refine ⟨(e, w) :: parts, ds₀ ++ ds, ⟨by simp [h.length], ?_, ?_, ?_, ?_, ?_⟩⟩
    · rw [resolveAll, h.diagnostics, h₀.diagnostics]
      simp
    · intro q hq
      rw [List.zip_cons_cons, List.mem_cons] at hq
      rcases hq with rfl | hq
      · exact h₀.errors _ (by simp)
      · exact h.errors q hq
    · simpa using List.rel_append (by simpa using h₀.warnings) h.warnings
    · -- the names of this root's warnings are rejected before the later roots run
      rw [List.map_append, List.nodup_append]
      refine ⟨h₀.distinct, h.distinct, ?_⟩
      intro x hx y hy hxy
      obtain ⟨d₀, hd₀, rfl⟩ := List.mem_map.mp hx
      obtain ⟨d, hd, rfl⟩ := List.mem_map.mp hy
      exact (h.fresh d hd).1 (hxy ▸ (h₀.fresh d₀ hd₀).2)
    · intro d hd
      rcases List.mem_append.mp hd with hd | hd
      · exact ⟨(h₀.fresh d hd).1, by
          rw [resolveAll]
          exact resolveAll_rejected_mono rest _ (h₀.fresh d hd).2⟩
      · exact ⟨fun h' => (h.fresh d hd).1 (hmono₀ _ h'), by rw [resolveAll]; exact (h.fresh d hd).2⟩

end Discovery

namespace Generator

theorem isError_iff (w : Diagnostic) : w.isError = true ↔ w.severity = .error := by
  rcases w with ⟨_ | _, _⟩ <;> simp [Diagnostic.isError]

def collected (g : Generator) : List Diagnostic :=
  (Discovery.resolveAll g.registry g.registry.roots [] {}).2.diagnostics

/-- The diagnostics of resolving the roots follow these rules. Root by root, the step of a root
records at most one diagnostic, an error: the root is unknown, its declaration cannot be
generated, or its simple name collides with an annotated path. The queue drained after it records
warnings only, each the reason a discovered declaration cannot be generated, and no two warnings of
the run are about declarations of one simple name. The run fails with the whole list, warnings
included, exactly when the list holds an error; otherwise it succeeds with the list, which then
holds warnings only. -/
theorem resolve_diagnostics (g : Generator) :
    (∃ parts ds, Discovery.Reported g.registry g.registry.roots {}
      (Discovery.resolveAll g.registry g.registry.roots [] {}).2 parts ds) ∧
    (∀ e, g.resolve = .error e ↔ e = .rejected g.collected ∧ g.collected.any Diagnostic.isError) ∧
    ∀ res, g.resolve = .ok res → res.diagnostics = g.collected ∧ ∀ w ∈ g.collected, w.severity = .warning := by
  refine ⟨Discovery.resolveAll_reported _ [] {} rfl, ?_, ?_⟩
  · intro e
    cases hany : g.collected.any Diagnostic.isError with
    | false =>
      rw [resolve_of_no_errors hany]
      simp
    | true =>
      obtain ⟨⟨sev, rej⟩, hmem, herr⟩ := List.any_eq_true.mp hany
      obtain rfl : sev = .error := (isError_iff _).mp herr
      rw [resolve_of_error hmem]
      simp [collected, eq_comm]
  · intro res hres
    cases hany : g.collected.any Diagnostic.isError with
    | true =>
      obtain ⟨⟨sev, rej⟩, hmem, herr⟩ := List.any_eq_true.mp hany
      obtain rfl : sev = .error := (isError_iff _).mp herr
      rw [resolve_of_error hmem] at hres
      cases hres
    | false =>
      rw [resolve_of_no_errors hany] at hres
      cases hres
      refine ⟨rfl, fun w hw => ?_⟩
      have hne : ¬w.severity = .error := fun h => by
        simpa [(isError_iff w).mpr h] using List.any_eq_false.mp hany w hw
      cases hsev : w.severity with
      | error => exact absurd hsev hne
      | warning => rfl

end Generator

end TypeBridge
