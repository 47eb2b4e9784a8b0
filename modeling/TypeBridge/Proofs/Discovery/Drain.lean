import TypeBridge.Proofs.Discovery.Steps
import Mathlib.Data.Finset.Card
/-!
# The queue is drained

Resolving a root ends with an empty queue. A snapshot that processes an entry settles a simple
name of the registry, one that processes none leaves the queue empty, and the fuel, the number of
declarations plus two, outlasts the names left to settle.
-/

namespace TypeBridge

namespace Registry

variable {r : Registry} {p : String} {d : Decl}

theorem lookup?_mem (h : r.lookup? p = some d) : d ∈ r.decls := by
  unfold lookup? at h
  split at h
  · rename_i hf
    cases h
    exact List.mem_of_find?_eq_some hf
  · split at h
    · split at h
      · rename_i hl
        cases h
        exact (List.mem_filter.mp (hl ▸ List.mem_singleton_self d)).1
      · cases h
    · cases h

theorem lookup?_simple (h : r.lookup? p = some d) : d.simple = Path.simple p := by
  unfold lookup? at h
  split at h
  · rename_i hf
    cases h
    have hname : d.name = p := by simpa using List.find?_some hf
    simp [Decl.simple, hname]
  · split at h
    · split at h
      · rename_i hl
        cases h
        have hmem := (List.mem_filter.mp (hl ▸ List.mem_singleton_self d)).2
        simp only [Bool.and_eq_true, beq_iff_eq] at hmem
        exact hmem.1
      · cases h
    · cases h

end Registry

namespace Keyed

variable {α : Type}

theorem mem_of_mem_erase {m : Keyed α} {key : String} {e : String × α} (h : e ∈ m.erase key) : e ∈ m :=
  (List.mem_filter.mp h).1

theorem mem_erase {m : Keyed α} {key : String} {e : String × α} :
    e ∈ m.erase key ↔ e ∈ m ∧ e.1 ≠ key := by
  simp [erase, List.mem_filter]

theorem mem_keys_erase {m : Keyed α} {key x : String} : x ∈ (m.erase key).keys ↔ x ∈ m.keys ∧ x ≠ key := by
  constructor
  · intro hx
    obtain ⟨e, he, rfl⟩ := List.mem_map.mp hx
    obtain ⟨he, hne⟩ := mem_erase.mp he
    exact ⟨mem_keys he, hne⟩
  · rintro ⟨hx, hne⟩
    obtain ⟨e, he, rfl⟩ := List.mem_map.mp hx
    exact mem_keys (mem_erase.mpr ⟨he, hne⟩)

theorem keys_erase_nodup {m : Keyed α} (key : String) (h : m.keys.Nodup) : (m.erase key).keys.Nodup :=
  h.sublist (List.Sublist.map _ List.filter_sublist)

end Keyed

namespace Discovery

/-! ### A well-formed queue -/

/-- A well-formed queue: each entry is keyed by the simple name of its path, no key occurs twice,
and no key is rejected. -/
structure QueueOk (s : Discovery) : Prop where
  keyed : ∀ e ∈ s.pending, e.1 = Path.simple e.2
  nodup : s.pending.keys.Nodup
  unrejected : ∀ x ∈ s.pending.keys, x ∉ s.rejected

theorem QueueOk.of_nil {s : Discovery} (h : s.pending = []) : QueueOk s :=
  ⟨by simp [h], by simp [h], by simp [h]⟩

theorem QueueOk.erase {s : Discovery} (h : QueueOk s) (x : String) :
    QueueOk { s with pending := s.pending.erase x } where
  keyed e he := h.keyed e (Keyed.mem_of_mem_erase he)
  nodup := Keyed.keys_erase_nodup x h.nodup
  unrejected y hy := h.unrejected y (Keyed.mem_keys_erase.mp hy).1

theorem foldl_enqueue_queueOk {s : Discovery} (h : QueueOk s) (ps : List String) :
    QueueOk (ps.foldl enqueue s) := by
  obtain ⟨added, hq, hadded⟩ := foldl_enqueue_pending s ps
  refine ⟨?_, foldl_enqueue_keys_nodup s ps h.nodup, ?_⟩
  · intro e he
    rw [hq] at he
    rcases List.mem_append.mp he with he | he
    · exact h.keyed e he
    · exact (hadded e he).2.1
  · intro x hx
    rw [hq, Keyed.keys_append] at hx
    rw [foldl_enqueue_rejected]
    rcases List.mem_append.mp hx with hx | hx
    · exact h.unrejected x hx
    · obtain ⟨e, he, rfl⟩ := List.mem_map.mp hx
      exact (hadded e he).2.2.2

theorem QueueOk.markRejected {s : Discovery} (h : QueueOk s) {p : String}
    (hp : Path.simple p ∉ s.pending.keys) : QueueOk (s.markRejected p) where
  keyed := h.keyed
  nodup := h.nodup
  unrejected x hx hr := by
    rcases (mem_markRejected_rejected s p).mp hr with hr | rfl
    · exact h.unrejected x hx hr
    · exact hp hx

theorem QueueOk.reject {s : Discovery} (h : QueueOk s) (rej : Rejection) : QueueOk (s.reject rej) :=
  ⟨by simpa using h.keyed, by simpa using h.nodup, by simpa using h.unrejected⟩

theorem process_pending (r : Registry) (d : Decl) (s : Discovery) :
    ∃ added, (process r d s).2.pending = s.pending ++ added := by
  rcases process_cases r d s with
    ⟨_, _, hskip | ⟨ex, -, -, -, herr⟩⟩ | ⟨_, _, ⟨-, hp⟩ | ⟨rej, -, -, hp⟩⟩ | ⟨t, _, _, hp⟩
  · exact ⟨[], by simp [hskip]⟩
  · exact ⟨[], by simp [herr]⟩
  · exact ⟨[], by simp [hp]⟩
  · exact ⟨[], by simp [hp]⟩
  · obtain ⟨added, hq, -⟩ := foldl_enqueue_pending s (Target.queue r d)
    exact ⟨added, by simp [hp, hq]⟩

theorem process_queueOk (r : Registry) {d : Decl} {s : Discovery} (h : QueueOk s)
    (hd : d.simple ∉ s.pending.keys) : QueueOk (process r d s).2 := by
  rcases process_cases r d s with
    ⟨_, _, hskip | ⟨ex, -, -, -, herr⟩⟩ | ⟨_, _, ⟨-, hp⟩ | ⟨rej, -, -, hp⟩⟩ | ⟨t, _, _, hp⟩
  · rw [hskip]
    exact h
  · rw [herr]
    exact ⟨h.keyed, h.nodup, h.unrejected⟩
  · rw [hp]
    exact h.markRejected hd
  · rw [hp]
    exact (h.reject rej).markRejected (by rw [reject_pending]; exact hd)
  · rw [hp]
    have hq := foldl_enqueue_queueOk h (Target.queue r d)
    exact ⟨hq.keyed, hq.nodup, hq.unrejected⟩

/-! ### Visiting one queue entry -/

section Visit

variable (r : Registry) {e : String × String} {s : Discovery} {x : String}

theorem visit_inert (h : e.1 ∈ s.scope ∨ r.lookup? e.2 = none) :
    visit r e s = (none, { s with pending := s.pending.erase e.1 }) := by
  rcases h with h | h
  · have hc : ({ s with pending := s.pending.erase e.1 } : Discovery).inScope e.1 = true :=
      (inScope_iff _ _).mpr h
    simp [visit, hc]
  · simp [visit, h]

theorem visit_of_lookup {d : Decl} (hs : e.1 ∉ s.scope) (hl : r.lookup? e.2 = some d) :
    visit r e s = process r d { s with pending := s.pending.erase e.1 } := by
  have hc : ({ s with pending := s.pending.erase e.1 } : Discovery).inScope e.1 = false :=
    Bool.eq_false_iff.mpr (mt (inScope_iff _ _).mp hs)
  simp [visit, hc, hl]

theorem visit_queueOk (h : QueueOk s) (he : e.1 = Path.simple e.2) : QueueOk (visit r e s).2 := by
  by_cases hs : e.1 ∈ s.scope
  · rw [visit_inert r (.inl hs)]
    exact h.erase e.1
  · cases hl : r.lookup? e.2 with
    | none =>
      rw [visit_inert r (.inr hl)]
      exact h.erase e.1
    | some d =>
      rw [visit_of_lookup r hs hl]
      apply process_queueOk r (h.erase e.1)
      rw [Registry.lookup?_simple hl, ← he]
      intro hx
      exact (Keyed.mem_keys_erase.mp hx).2 rfl

theorem mem_visit_pending {e' : String × String} (h : e' ∈ s.pending) (hne : e'.1 ≠ e.1) :
    e' ∈ (visit r e s).2.pending := by
  have herase : e' ∈ s.pending.erase e.1 := Keyed.mem_erase.mpr ⟨h, hne⟩
  by_cases hs : e.1 ∈ s.scope
  · rw [visit_inert r (.inl hs)]
    exact herase
  · cases hl : r.lookup? e.2 with
    | none =>
      rw [visit_inert r (.inr hl)]
      exact herase
    | some d =>
      rw [visit_of_lookup r hs hl]
      obtain ⟨added, hq⟩ := process_pending r d { s with pending := s.pending.erase e.1 }
      rw [hq]
      exact List.mem_append_left _ herase

theorem process_scope {d : Decl} (hx : x ∈ (process r d s).2.scope) : x ∈ s.scope ∨ x = d.simple := by
  rcases process_cases r d s with
    ⟨_, _, hskip | ⟨ex, -, -, -, herr⟩⟩ | ⟨_, _, ⟨-, hp⟩ | ⟨rej, -, -, hp⟩⟩ | ⟨t, _, _, hp⟩
  · exact .inl (by simpa [hskip] using hx)
  · exact .inl (by simpa [herr] using hx)
  · exact .inl (by simpa [hp] using hx)
  · exact .inl (by simpa [hp] using hx)
  · rw [hp] at hx
    simpa [mem_addToScope_scope, Decl.simple] using hx

theorem scope_process {d : Decl} (hx : x ∈ s.scope) : x ∈ (process r d s).2.scope := by
  rcases process_cases r d s with
    ⟨_, _, hskip | ⟨ex, -, -, -, herr⟩⟩ | ⟨_, _, ⟨-, hp⟩ | ⟨rej, -, -, hp⟩⟩ | ⟨t, _, _, hp⟩
  · simpa [hskip] using hx
  · simpa [herr] using hx
  · simpa [hp] using hx
  · simpa [hp] using hx
  · rw [hp]
    simp [mem_addToScope_scope, hx]

theorem rejected_process {d : Decl} (hx : x ∈ s.rejected) : x ∈ (process r d s).2.rejected := by
  rcases process_cases r d s with
    ⟨_, _, hskip | ⟨ex, -, -, -, herr⟩⟩ | ⟨_, _, ⟨-, hp⟩ | ⟨rej, -, -, hp⟩⟩ | ⟨t, _, _, hp⟩
  · simpa [hskip] using hx
  · simpa [herr] using hx
  · rw [hp]
    simp [mem_markRejected_rejected, hx]
  · rw [hp]
    simp [mem_markRejected_rejected, hx]
  · simpa [hp] using hx

theorem process_settles {d : Decl} (hs : d.simple ∉ s.scope) :
    d.simple ∈ (process r d s).2.scope ∨ d.simple ∈ (process r d s).2.rejected := by
  rcases process_cases r d s with
    ⟨hin, -⟩ | ⟨_, _, ⟨-, hp⟩ | ⟨rej, -, -, hp⟩⟩ | ⟨t, _, _, hp⟩
  · exact absurd hin hs
  · rw [hp]
    exact .inr ((mem_markRejected_rejected _ _).mpr (.inr rfl))
  · rw [hp]
    exact .inr ((mem_markRejected_rejected _ _).mpr (.inr rfl))
  · rw [hp]
    exact .inl ((mem_addToScope_scope _ _).mpr (.inr rfl))

theorem visit_scope (he : e.1 = Path.simple e.2) (hx : x ∈ (visit r e s).2.scope) :
    x ∈ s.scope ∨ x = e.1 := by
  by_cases hs : e.1 ∈ s.scope
  · rw [visit_inert r (.inl hs)] at hx
    exact .inl hx
  · cases hl : r.lookup? e.2 with
    | none =>
      rw [visit_inert r (.inr hl)] at hx
      exact .inl hx
    | some d =>
      rw [visit_of_lookup r hs hl] at hx
      have hnew := process_scope r hx
      rw [he, ← Registry.lookup?_simple hl]
      exact hnew

theorem scope_visit (hx : x ∈ s.scope) : x ∈ (visit r e s).2.scope := by
  by_cases hs : e.1 ∈ s.scope
  · rw [visit_inert r (.inl hs)]
    exact hx
  · cases hl : r.lookup? e.2 with
    | none =>
      rw [visit_inert r (.inr hl)]
      exact hx
    | some d =>
      rw [visit_of_lookup r hs hl]
      exact scope_process r hx

theorem rejected_visit (hx : x ∈ s.rejected) : x ∈ (visit r e s).2.rejected := by
  by_cases hs : e.1 ∈ s.scope
  · rw [visit_inert r (.inl hs)]
    exact hx
  · cases hl : r.lookup? e.2 with
    | none =>
      rw [visit_inert r (.inr hl)]
      exact hx
    | some d =>
      rw [visit_of_lookup r hs hl]
      exact rejected_process r hx

end Visit

/-! ### Draining a snapshot -/

section Snapshot

variable (r : Registry)

theorem drainSnapshot_cons_snd (e : String × String) (rest : Keyed String) (acc : List Target)
    (s : Discovery) :
    (drainSnapshot r (e :: rest) acc s).2 = (drainSnapshot r rest [] (visit r e s).2).2 := by
  rw [drainSnapshot_cons, drainSnapshot_acc]

theorem drainSnapshot_induction (P : List Target → Discovery → Prop)
    (step : ∀ ts s e, P ts s → e ∈ s.pending → P (ts ++ (visit r e s).1.toList) (visit r e s).2) :
    ∀ (L : Keyed String) (ts : List Target) (s : Discovery), L.keys.Nodup →
      (∀ e ∈ L, e ∈ s.pending) → P ts s → P (ts ++ (drainSnapshot r L [] s).1) (drainSnapshot r L [] s).2 := by
  intro L
  induction L with
  | nil =>
    intro ts s _ _ h
    simpa [drainSnapshot] using h
  | cons e rest ih =>
    intro ts s hn hL h
    have he : e ∈ s.pending := hL e List.mem_cons_self
    rw [Keyed.keys_cons, List.nodup_cons] at hn
    have hrest : ∀ e' ∈ rest, e' ∈ (visit r e s).2.pending := by
      intro e' he'
      apply mem_visit_pending r (hL e' (List.mem_cons_of_mem e he'))
      intro heq
      exact hn.1 (heq ▸ Keyed.mem_keys he')
    have hnext := ih (ts ++ (visit r e s).1.toList) (visit r e s).2 hn.2 hrest (step ts s e h he)
    rw [drainSnapshot_cons, drainSnapshot_acc, List.nil_append, ← List.append_assoc]
    exact hnext

theorem drain_induction (P : List Target → Discovery → Prop)
    (nodup : ∀ ts s, P ts s → s.pending.keys.Nodup)
    (step : ∀ ts s e, P ts s → e ∈ s.pending → P (ts ++ (visit r e s).1.toList) (visit r e s).2) :
    ∀ (fuel : Nat) (ts : List Target) (s : Discovery), P ts s →
      P (ts ++ (drain r fuel [] s).1) (drain r fuel [] s).2 := by
  intro fuel
  induction fuel with
  | zero =>
    intro ts s h
    simpa [drain] using h
  | succ fuel ih =>
    intro ts s h
    by_cases hq : s.pending.isEmpty = true
    · simpa [drain, hq] using h
    · simp only [drain, Bool.not_eq_true] at hq ⊢
      simp only [hq, Bool.false_eq_true, ↓reduceIte]
      rw [drain_acc, ← List.append_assoc]
      exact ih _ _ (drainSnapshot_induction r P step s.pending ts s (nodup ts s h) (fun _ he => he) h)

theorem scope_drainSnapshot {x : String} : ∀ (L : Keyed String) (s : Discovery), x ∈ s.scope →
    x ∈ (drainSnapshot r L [] s).2.scope := by
  intro L
  induction L with
  | nil => exact fun _ hx => hx
  | cons e rest ih =>
    intro s hx
    rw [drainSnapshot_cons_snd]
    exact ih _ (scope_visit r hx)

theorem rejected_drainSnapshot {x : String} : ∀ (L : Keyed String) (s : Discovery), x ∈ s.rejected →
    x ∈ (drainSnapshot r L [] s).2.rejected := by
  intro L
  induction L with
  | nil => exact fun _ hx => hx
  | cons e rest ih =>
    intro s hx
    rw [drainSnapshot_cons_snd]
    exact ih _ (rejected_visit r hx)

theorem drainSnapshot_settles : ∀ (L : Keyed String) (s : Discovery), QueueOk s →
    (∀ e ∈ L, e ∈ s.pending) → L.keys.Nodup → ∀ e ∈ L, e.1 ∉ s.scope → (r.lookup? e.2).isSome →
      e.1 ∈ (drainSnapshot r L [] s).2.scope ∨ e.1 ∈ (drainSnapshot r L [] s).2.rejected := by
  intro L
  induction L with
  | nil => intro _ _ _ _ e he; simp at he
  | cons e₀ rest ih =>
    intro s hq hL hn e he hs hl
    have he₀ : e₀ ∈ s.pending := hL e₀ List.mem_cons_self
    rw [Keyed.keys_cons, List.nodup_cons] at hn
    rw [drainSnapshot_cons_snd]
    rcases List.mem_cons.mp he with rfl | he
    · obtain ⟨d, hd⟩ := Option.isSome_iff_exists.mp hl
      have hsimple : d.simple = e.1 := by rw [Registry.lookup?_simple hd, hq.keyed e he₀]
      have hsettled := process_settles r (s := { s with pending := s.pending.erase e.1 }) (d := d)
        (by rw [hsimple]; exact hs)
      rw [← visit_of_lookup r hs hd, hsimple] at hsettled
      rcases hsettled with h | h
      · exact .inl (scope_drainSnapshot r rest _ h)
      · exact .inr (rejected_drainSnapshot r rest _ h)
    · have hne : e.1 ≠ e₀.1 := fun heq => hn.1 (heq ▸ Keyed.mem_keys he)
      apply ih _ (visit_queueOk r hq (hq.keyed e₀ he₀)) _ hn.2 e he _ hl
      · intro e' he'
        apply mem_visit_pending r (hL e' (List.mem_cons_of_mem e₀ he'))
        intro heq
        exact hn.1 (heq ▸ Keyed.mem_keys he')
      · intro hs'
        rcases visit_scope r (hq.keyed e₀ he₀) hs' with h | h
        · exact hs h
        · exact hne h

theorem drainSnapshot_inert : ∀ (L : Keyed String) (s : Discovery),
    (∀ e ∈ L, e.1 ∈ s.scope ∨ r.lookup? e.2 = none) →
      (drainSnapshot r L [] s).2 = { s with pending := L.foldl (fun q e => q.erase e.1) s.pending } := by
  intro L
  induction L with
  | nil => intro s _; rfl
  | cons e rest ih =>
    intro s hL
    rw [drainSnapshot_cons_snd, visit_inert r (hL e List.mem_cons_self)]
    exact ih _ fun e' he' => hL e' (List.mem_cons_of_mem e he')

end Snapshot

theorem Keyed.mem_foldl_erase {α β : Type} (L : List (String × β)) :
    ∀ (q : Keyed α) (e : String × α), e ∈ L.foldl (fun q e => q.erase e.1) q → e ∈ q ∧ e.1 ∉ L.map (·.1) := by
  induction L with
  | nil => intro q e he; exact ⟨he, by simp⟩
  | cons x L ih =>
    intro q e he
    obtain ⟨he, hnot⟩ := ih _ e he
    obtain ⟨he, hne⟩ := Keyed.mem_erase.mp he
    refine ⟨he, ?_⟩
    simp only [List.map_cons, List.mem_cons, not_or]
    exact ⟨hne, hnot⟩

theorem Keyed.foldl_erase_self {α : Type} (q : Keyed α) : q.foldl (fun q' e => q'.erase e.1) q = [] := by
  apply List.eq_nil_iff_forall_not_mem.mpr
  intro e he
  obtain ⟨he, hnot⟩ := Keyed.mem_foldl_erase q q e he
  exact hnot (List.mem_map_of_mem he)

/-! ### The fuel suffices -/

def unsettled (r : Registry) (s : Discovery) : Finset String :=
  (r.decls.map Decl.simple).toFinset.filter fun x => x ∉ s.scope ∧ x ∉ s.rejected

theorem mem_unsettled {r : Registry} {s : Discovery} {x : String} :
    x ∈ unsettled r s ↔ x ∈ r.decls.map Decl.simple ∧ x ∉ s.scope ∧ x ∉ s.rejected := by
  simp [unsettled]

def simpleNames (r : Registry) : Finset String := (r.decls.map Decl.simple).toFinset

theorem card_unsettled_le_simpleNames (r : Registry) (s : Discovery) : (unsettled r s).card ≤ (simpleNames r).card :=
  Finset.card_filter_le _ _

theorem card_simpleNames_le (r : Registry) : (simpleNames r).card ≤ r.size :=
  calc (simpleNames r).card ≤ (r.decls.map Decl.simple).length := List.toFinset_card_le _
    _ = r.size := by simp [Registry.size]

theorem card_unsettled_le (r : Registry) (s : Discovery) : (unsettled r s).card ≤ r.size :=
  (card_unsettled_le_simpleNames r s).trans (card_simpleNames_le r)

theorem unsettled_ssubset {r : Registry} {s s' : Discovery} (hs : ∀ x ∈ s.scope, x ∈ s'.scope)
    (hr : ∀ x ∈ s.rejected, x ∈ s'.rejected) {x : String} (hx : x ∈ unsettled r s)
    (hx' : x ∈ s'.scope ∨ x ∈ s'.rejected) : unsettled r s' ⊂ unsettled r s := by
  refine (Finset.ssubset_iff_of_subset ?_).mpr ⟨x, hx, ?_⟩
  · intro y hy
    rw [mem_unsettled] at hy ⊢
    exact ⟨hy.1, fun h => hy.2.1 (hs y h), fun h => hy.2.2 (hr y h)⟩
  · rw [mem_unsettled]
    rintro ⟨-, h1, h2⟩
    rcases hx' with h | h
    · exact h1 h
    · exact h2 h

theorem drain_of_pending_nil (r : Registry) {fuel : Nat} {acc : List Target} {s : Discovery}
    (h : s.pending = []) : drain r fuel acc s = (acc, s) := by
  cases fuel <;> simp [drain, h]

theorem drainSnapshot_progress (r : Registry) {s : Discovery} (hq : QueueOk s) :
    unsettled r (drainSnapshot r s.pending [] s).2 ⊂ unsettled r s ∨
      ((∀ e ∈ s.pending, e.1 ∈ s.scope ∨ r.lookup? e.2 = none) ∧
        (drainSnapshot r s.pending [] s).2.pending = []) := by
  by_cases hwork : ∃ e ∈ s.pending, e.1 ∉ s.scope ∧ (r.lookup? e.2).isSome
  · -- some entry is processed: its name is settled
    obtain ⟨e, he, hs, hl⟩ := hwork
    obtain ⟨d, hd⟩ := Option.isSome_iff_exists.mp hl
    have hx : e.1 ∈ unsettled r s := by
      refine mem_unsettled.mpr ⟨?_, hs, hq.unrejected e.1 (Keyed.mem_keys he)⟩
      rw [hq.keyed e he, ← Registry.lookup?_simple hd]
      exact List.mem_map_of_mem (Registry.lookup?_mem hd)
    exact .inl (unsettled_ssubset (fun y hy => scope_drainSnapshot r s.pending s hy)
      (fun y hy => rejected_drainSnapshot r s.pending s hy) hx
      (drainSnapshot_settles r s.pending s hq (fun _ he => he) hq.nodup e he hs hl))
  · -- no entry is processed: the snapshot only drops its entries
    have hinert : ∀ e ∈ s.pending, e.1 ∈ s.scope ∨ r.lookup? e.2 = none := by
      intro e he
      by_cases hs : e.1 ∈ s.scope
      · exact .inl hs
      · exact .inr (Option.not_isSome_iff_eq_none.mp fun hl => hwork ⟨e, he, hs, hl⟩)
    refine .inr ⟨hinert, ?_⟩
    rw [drainSnapshot_inert r s.pending s hinert]
    exact Keyed.foldl_erase_self _

theorem drainSnapshot_queueOk (r : Registry) {s : Discovery} (hq : QueueOk s) :
    QueueOk (drainSnapshot r s.pending [] s).2 := by
  simpa using drainSnapshot_induction r (fun _ s => QueueOk s)
    (fun _ s e h he => visit_queueOk r h (h.keyed e he)) s.pending [] s hq.nodup (fun _ he => he) hq

theorem drain_pending_nil (r : Registry) (fuel : Nat) :
    ∀ s : Discovery, QueueOk s → (unsettled r s).card < fuel → (drain r fuel [] s).2.pending = [] := by
  induction fuel with
  | zero => intro s _ hlt; exact absurd hlt (Nat.not_lt_zero _)
  | succ fuel ih =>
    intro s hq hlt
    by_cases hnil : s.pending = []
    · rw [drain_of_pending_nil r hnil]
      exact hnil
    have hne : s.pending.isEmpty = false := List.isEmpty_eq_false_iff.mpr hnil
    simp only [drain, hne, Bool.false_eq_true, ↓reduceIte]
    rw [drain_acc]
    rcases drainSnapshot_progress r hq with hlt' | ⟨-, hempty⟩
    · have := Finset.card_lt_card hlt'
      exact ih _ (drainSnapshot_queueOk r hq) (by omega)
    · rw [drain_of_pending_nil r hempty]
      exact hempty

theorem rootStep_queueOk (r : Registry) (root : String) {s : Discovery} (h : s.pending = []) :
    QueueOk (rootStep r root s).2 := by
  have h0 : QueueOk ({ s with mode := .explicitRoot } : Discovery) := QueueOk.of_nil h
  cases hl : r.lookup? root with
  | none =>
    simp only [rootStep, hl]
    exact h0.reject _
  | some d =>
    simp only [rootStep, hl]
    exact process_queueOk r h0 (by simp [h])

theorem resolveRoot_pending_nil (r : Registry) (root : String) {s : Discovery} (h : s.pending = []) :
    (resolveRoot r root s).2.pending = [] := by
  have hq := rootStep_queueOk r root h
  have hq' : QueueOk { (rootStep r root s).2 with mode := .transitive } :=
    ⟨hq.keyed, hq.nodup, hq.unrejected⟩
  have hle := card_unsettled_le r { (rootStep r root s).2 with mode := .transitive }
  rw [resolveRoot_eq, drain_acc]
  exact drain_pending_nil r _ _ hq' (by omega)

theorem resolveAll_pending_nil (r : Registry) (roots : List String) {acc : List Target} {s : Discovery}
    (h : s.pending = []) : (resolveAll r roots acc s).2.pending = [] := by
  induction roots generalizing acc s with
  | nil => exact h
  | cons root rest ih =>
    simp only [resolveAll]
    exact ih (resolveRoot_pending_nil r root h)

end Discovery

end TypeBridge
