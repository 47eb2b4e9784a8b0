import TypeBridge.Discovery.Resolve
/-!
# What one discovery step does

Each operation on a discovery state changes few of its fields, and assembling a declaration
either rejects it or builds the target its declaration and mode decide, queueing the paths of
`Target.queue`. Later modules reason with these lemmas and never unfold a step again.
-/

namespace TypeBridge

/-! ### Equality tests

The enumerations of the model derive their `==`; each agrees with equality, so that `simp`
can decide the tests the steps make. -/

theorem DeclKind.beq_eq_decide (a b : DeclKind) : (a == b) = decide (a = b) := by
  cases a <;> cases b <;> rfl

instance : LawfulBEq DeclKind where
  eq_of_beq h := by simpa [DeclKind.beq_eq_decide] using h
  rfl := by simp [DeclKind.beq_eq_decide]

theorem Mode.beq_eq_decide (a b : Mode) : (a == b) = decide (a = b) := by
  cases a <;> cases b <;> rfl

instance : LawfulBEq Mode where
  eq_of_beq h := by simpa [Mode.beq_eq_decide] using h
  rfl := by simp [Mode.beq_eq_decide]

theorem SupertypeKind.beq_eq_decide (a b : SupertypeKind) : (a == b) = decide (a = b) := by
  cases a <;> cases b <;> rfl

instance : LawfulBEq SupertypeKind where
  eq_of_beq h := by simpa [SupertypeKind.beq_eq_decide] using h
  rfl := by simp [SupertypeKind.beq_eq_decide]

theorem UseSite.beq_eq_decide (a b : UseSite) : (a == b) = decide (a = b) := by
  cases a <;> cases b <;> rfl

instance : LawfulBEq UseSite where
  eq_of_beq h := by simpa [UseSite.beq_eq_decide] using h
  rfl := by simp [UseSite.beq_eq_decide]

theorem CollectionShape.beq_eq_decide (a b : CollectionShape) : (a == b) = decide (a = b) := by
  cases a <;> cases b <;> rfl

instance : LawfulBEq CollectionShape where
  eq_of_beq h := by simpa [CollectionShape.beq_eq_decide] using h
  rfl := by simp [CollectionShape.beq_eq_decide]

namespace Keyed

variable {α : Type}

theorem contains_iff (m : Keyed α) (key : String) : m.contains key = true ↔ key ∈ m.keys := by
  simp [contains, keys]

@[simp] theorem keys_nil : Keyed.keys ([] : Keyed α) = [] := rfl

@[simp] theorem keys_cons (e : String × α) (m : Keyed α) : Keyed.keys (e :: m) = e.1 :: m.keys := rfl

@[simp] theorem keys_append (m n : Keyed α) : (m ++ n).keys = m.keys ++ n.keys := by
  simp [keys]

theorem mem_keys {m : Keyed α} {e : String × α} (h : e ∈ m) : e.1 ∈ m.keys :=
  List.mem_map_of_mem h

/-! ### Which entries inserting and replacing leave -/

section Members

variable {m : Keyed α} {k : String} {v : α} {e : String × α}

theorem mem_insertNew (h : e ∈ m.insertNew k v) : e ∈ m ∨ e = (k, v) := by
  unfold insertNew at h
  split at h
  · exact .inl h
  · simpa using h

theorem mem_upsert (h : e ∈ m.upsert k v) : e ∈ m ∨ e = (k, v) := by
  unfold upsert at h
  split at h
  · obtain ⟨x, hx, rfl⟩ := List.mem_map.mp h
    by_cases hk : x.1 = k
    · exact .inr (by simp [hk])
    · exact .inl (by simpa [hk] using hx)
  · simpa using h

theorem mem_foldl_of_step {β : Type} (step : Keyed α → β → Keyed α) (key : β → String)
    (val : β → α) (hstep : ∀ n x d, d ∈ step n x → d ∈ n ∨ d = (key x, val x)) (xs : List β)
    {acc : Keyed α} (h : e ∈ xs.foldl step acc) : e ∈ acc ∨ ∃ x ∈ xs, e = (key x, val x) := by
  induction xs generalizing acc with
  | nil => exact .inl h
  | cons x xs ih =>
    rcases ih h with h | ⟨y, hy, rfl⟩
    · rcases hstep acc x e h with h | rfl
      · exact .inl h
      · exact .inr ⟨x, List.mem_cons_self, rfl⟩
    · exact .inr ⟨y, List.mem_cons_of_mem _ hy, rfl⟩

theorem mem_foldl_insertNew {β : Type} (key : β → String) (val : β → α) (xs : List β)
    {acc : Keyed α} (h : e ∈ xs.foldl (fun m x => m.insertNew (key x) (val x)) acc) :
    e ∈ acc ∨ ∃ x ∈ xs, e = (key x, val x) :=
  mem_foldl_of_step _ key val (fun _ _ _ => mem_insertNew) xs h

theorem mem_foldl_upsert {β : Type} (key : β → String) (val : β → α) (xs : List β)
    {acc : Keyed α} (h : e ∈ xs.foldl (fun m x => m.upsert (key x) (val x)) acc) :
    e ∈ acc ∨ ∃ x ∈ xs, e = (key x, val x) :=
  mem_foldl_of_step _ key val (fun _ _ _ => mem_upsert) xs h

theorem mem_ofListFirst {xs : List (String × α)} (h : e ∈ ofListFirst xs) : e ∈ xs := by
  rcases mem_foldl_insertNew Prod.fst Prod.snd xs h with h | ⟨x, hx, rfl⟩
  · cases h
  · exact hx

theorem mem_of_get? {key : String} (h : m.get? key = some v) : (key, v) ∈ m := by
  obtain ⟨e, he, rfl⟩ := Option.map_eq_some_iff.mp h
  have hkey : e.1 = key := by simpa using List.find?_some he
  rw [← hkey]
  exact List.mem_of_find?_eq_some he

end Members

end Keyed

namespace Discovery

variable (s : Discovery)

theorem inScope_iff (x : String) : s.inScope x = true ↔ x ∈ s.scope := by
  simp [inScope]

theorem isRejected_iff (x : String) : s.isRejected x = true ↔ x ∈ s.rejected := by
  simp [isRejected]

/-! ### Queueing a path -/

section Enqueue

variable (p : String)

theorem enqueue_eq : s.enqueue p = { s with pending := (s.enqueue p).pending } := by
  dsimp only [enqueue]
  split <;> rfl

@[simp] theorem enqueue_scope : (s.enqueue p).scope = s.scope := by
  rw [enqueue_eq]

@[simp] theorem enqueue_rejected : (s.enqueue p).rejected = s.rejected := by
  rw [enqueue_eq]

@[simp] theorem enqueue_annotated : (s.enqueue p).annotated = s.annotated := by
  rw [enqueue_eq]

@[simp] theorem enqueue_mode : (s.enqueue p).mode = s.mode := by
  rw [enqueue_eq]

@[simp] theorem enqueue_diagnostics : (s.enqueue p).diagnostics = s.diagnostics := by
  rw [enqueue_eq]

theorem enqueue_pending :
    (s.enqueue p).pending =
      if Path.simple p ∈ s.scope ∨ Path.simple p ∈ s.rejected ∨ Path.simple p ∈ s.pending.keys
      then s.pending else s.pending ++ [(Path.simple p, p)] := by
  have hc : (s.inScope (Path.simple p) || s.isRejected (Path.simple p) ||
      s.pending.contains (Path.simple p)) = true ↔
      Path.simple p ∈ s.scope ∨ Path.simple p ∈ s.rejected ∨ Path.simple p ∈ s.pending.keys := by
    simp [inScope_iff, isRejected_iff, Keyed.contains_iff, or_assoc]
  dsimp only [enqueue]
  by_cases h : Path.simple p ∈ s.scope ∨ Path.simple p ∈ s.rejected ∨ Path.simple p ∈ s.pending.keys
  · rw [if_pos (hc.mpr h), if_pos h]
  · rw [if_neg (mt hc.mp h), if_neg h]

end Enqueue

/-! ### Queueing a list of paths -/

section Queue

variable (ps : List String)

theorem foldl_enqueue_eq : ps.foldl enqueue s = { s with pending := (ps.foldl enqueue s).pending } := by
  induction ps generalizing s with
  | nil => rfl
  | cons p ps ih =>
    rw [List.foldl_cons, ih (s.enqueue p), enqueue_eq s p]

@[simp] theorem foldl_enqueue_scope : (ps.foldl enqueue s).scope = s.scope := by
  rw [foldl_enqueue_eq]

@[simp] theorem foldl_enqueue_rejected : (ps.foldl enqueue s).rejected = s.rejected := by
  rw [foldl_enqueue_eq]

@[simp] theorem foldl_enqueue_annotated : (ps.foldl enqueue s).annotated = s.annotated := by
  rw [foldl_enqueue_eq]

@[simp] theorem foldl_enqueue_mode : (ps.foldl enqueue s).mode = s.mode := by
  rw [foldl_enqueue_eq]

@[simp] theorem foldl_enqueue_diagnostics : (ps.foldl enqueue s).diagnostics = s.diagnostics := by
  rw [foldl_enqueue_eq]

theorem foldl_enqueue_pending :
    ∃ added, (ps.foldl enqueue s).pending = s.pending ++ added ∧
      ∀ e ∈ added, e.2 ∈ ps ∧ e.1 = Path.simple e.2 ∧ e.1 ∉ s.scope ∧ e.1 ∉ s.rejected := by
  induction ps generalizing s with
  | nil => exact ⟨[], by simp⟩
  | cons p ps ih =>
    obtain ⟨added, hq, hadded⟩ := ih (s.enqueue p)
    rw [enqueue_pending] at hq
    split at hq
    · refine ⟨added, by simpa using hq, fun e he => ?_⟩
      obtain ⟨hp, hk, hs, hr⟩ := hadded e he
      exact ⟨List.mem_cons_of_mem p hp, hk, by simpa using hs, by simpa using hr⟩
    · rename_i hfresh
      refine ⟨(Path.simple p, p) :: added, by simpa using hq, fun e he => ?_⟩
      rcases List.mem_cons.mp he with rfl | he
      · simp only [not_or] at hfresh
        exact ⟨List.mem_cons_self, rfl, hfresh.1, hfresh.2.1⟩
      · obtain ⟨hp, hk, hs, hr⟩ := hadded e he
        exact ⟨List.mem_cons_of_mem p hp, hk, by simpa using hs, by simpa using hr⟩

theorem foldl_enqueue_keys_nodup (h : s.pending.keys.Nodup) :
    (ps.foldl enqueue s).pending.keys.Nodup := by
  induction ps generalizing s with
  | nil => exact h
  | cons p ps ih =>
    apply ih
    rw [enqueue_pending]
    split
    · exact h
    · rename_i hfresh
      simp only [not_or] at hfresh
      simpa [List.nodup_append] using ⟨h, fun a ha heq => hfresh.2.2 (heq ▸ ha)⟩

theorem foldl_enqueue_covers {p : String} (hp : p ∈ ps) :
    Path.simple p ∈ s.scope ∨ Path.simple p ∈ s.rejected ∨
      Path.simple p ∈ (ps.foldl enqueue s).pending.keys := by
  induction ps generalizing s with
  | nil => simp at hp
  | cons q ps ih =>
    have grows : ∀ t : Discovery, ∀ x ∈ t.pending.keys, x ∈ (ps.foldl enqueue t).pending.keys := by
      intro t x hx
      obtain ⟨added, hq, -⟩ := foldl_enqueue_pending t ps
      simp [hq, hx]
    rcases List.mem_cons.mp hp with rfl | hp
    · rw [List.foldl_cons]
      by_cases hfresh : Path.simple p ∈ s.scope ∨ Path.simple p ∈ s.rejected ∨
          Path.simple p ∈ s.pending.keys
      · rcases hfresh with h | h | h
        · exact .inl h
        · exact .inr (.inl h)
        · exact .inr (.inr (grows _ _ (by rw [enqueue_pending, if_pos (.inr (.inr h))]; exact h)))
      · refine .inr (.inr (grows _ _ ?_))
        rw [enqueue_pending, if_neg hfresh]
        simp
    · simpa using ih (s.enqueue q) hp

end Queue

/-! ### Committing, rejecting and reporting -/

section Record

variable {x : String} (p : String) (rej : Rejection)

@[simp] theorem addToScope_pending : (s.addToScope p).pending = s.pending := rfl
@[simp] theorem addToScope_rejected : (s.addToScope p).rejected = s.rejected := rfl
@[simp] theorem addToScope_mode : (s.addToScope p).mode = s.mode := rfl
@[simp] theorem addToScope_diagnostics : (s.addToScope p).diagnostics = s.diagnostics := rfl

theorem mem_addToScope_scope : x ∈ (s.addToScope p).scope ↔ x ∈ s.scope ∨ x = Path.simple p := by
  simp only [addToScope]
  split
  · rename_i h
    have hp : Path.simple p ∈ s.scope := List.contains_iff_mem.mp h
    constructor
    · exact .inl
    · rintro (hx | rfl)
      · exact hx
      · exact hp
  · simp

theorem addToScope_annotated :
    (s.addToScope p).annotated =
      if s.mode = .explicitRoot then s.annotated.upsert (Path.simple p) p else s.annotated := by
  simp only [addToScope]
  cases s.mode <;> rfl

@[simp] theorem markRejected_scope : (s.markRejected p).scope = s.scope := rfl
@[simp] theorem markRejected_pending : (s.markRejected p).pending = s.pending := rfl
@[simp] theorem markRejected_annotated : (s.markRejected p).annotated = s.annotated := rfl
@[simp] theorem markRejected_mode : (s.markRejected p).mode = s.mode := rfl
@[simp] theorem markRejected_diagnostics : (s.markRejected p).diagnostics = s.diagnostics := rfl

theorem mem_markRejected_rejected :
    x ∈ (s.markRejected p).rejected ↔ x ∈ s.rejected ∨ x = Path.simple p := by
  simp only [markRejected]
  split
  · rename_i h
    have hp : Path.simple p ∈ s.rejected := List.contains_iff_mem.mp h
    constructor
    · exact .inl
    · rintro (hx | rfl)
      · exact hx
      · exact hp
  · simp

@[simp] theorem error_scope : (s.error rej).scope = s.scope := rfl
@[simp] theorem error_pending : (s.error rej).pending = s.pending := rfl
@[simp] theorem error_rejected : (s.error rej).rejected = s.rejected := rfl
@[simp] theorem error_annotated : (s.error rej).annotated = s.annotated := rfl
@[simp] theorem error_mode : (s.error rej).mode = s.mode := rfl
@[simp] theorem error_diagnostics : (s.error rej).diagnostics = s.diagnostics ++ [⟨.error, rej⟩] := rfl

theorem reject_eq :
    s.reject rej = { s with diagnostics := s.diagnostics ++
      [⟨if s.mode = .explicitRoot then .error else .warning, rej⟩] } := by
  rcases s with ⟨_, _, _, _, _ | _, _⟩ <;> rfl

@[simp] theorem reject_scope : (s.reject rej).scope = s.scope := by rw [reject_eq]
@[simp] theorem reject_pending : (s.reject rej).pending = s.pending := by rw [reject_eq]
@[simp] theorem reject_rejected : (s.reject rej).rejected = s.rejected := by rw [reject_eq]
@[simp] theorem reject_annotated : (s.reject rej).annotated = s.annotated := by rw [reject_eq]
@[simp] theorem reject_mode : (s.reject rej).mode = s.mode := by rw [reject_eq]

end Record

end Discovery

namespace Wrapped

def queued (r : Registry) (w : Wrapped) : List String := (w.classify r).discoveries r

end Wrapped

theorem Discovery.classifyAndEnqueue_eq (r : Registry) (s : Discovery) (w : Wrapped) :
    s.classifyAndEnqueue r w = (w.classify r, (w.queued r).foldl Discovery.enqueue s) := rfl

namespace Target

def withOrigin (o : TargetOrigin) (t : Target) : Target := { t with origin := o }

@[simp] theorem withOrigin_withOrigin (t : Target) (o o' : TargetOrigin) :
    (t.withOrigin o).withOrigin o' = t.withOrigin o' := rfl

@[simp] theorem withOrigin_name (t : Target) (o : TargetOrigin) : (t.withOrigin o).name = t.name := rfl

@[simp] theorem withOrigin_simple (t : Target) (o : TargetOrigin) :
    (t.withOrigin o).simple = t.simple := rfl

def argWrappers : List TypeParam → List TypeRef → List Wrapped
  | _, [] => []
  | p :: ps, a :: as => Wrapped.typeVariableAt a p.asTypeRef :: argWrappers ps as
  | [], a :: as => Wrapped.typeVariable a :: argWrappers [] as

section Assembly

variable (r : Registry)

theorem wrapTypeVariables_fst (ps : List TypeParam) (acc : Keyed Wrapped) (s : Discovery) :
    (wrapTypeVariables r ps acc s).1 =
      ps.foldl (fun acc p => acc.insertNew p.name ((Wrapped.typeVariable p.asTypeRef).classify r)) acc := by
  induction ps generalizing acc s with
  | nil => rfl
  | cons p ps ih => exact ih _ _

theorem wrapTypeVariables_snd (ps : List TypeParam) (acc : Keyed Wrapped) (s : Discovery) :
    (wrapTypeVariables r ps acc s).2 =
      (ps.flatMap fun p => (Wrapped.typeVariable p.asTypeRef).queued r).foldl Discovery.enqueue s := by
  induction ps generalizing acc s with
  | nil => rfl
  | cons p ps ih =>
    rw [List.flatMap_cons, List.foldl_append, ← ih (acc.insertNew p.name _)]
    rfl

theorem wrapProperties_fst (d : Decl) (ms : List Member) (acc : Keyed TargetMember) (s : Discovery) :
    (wrapProperties r d ms acc s).1 =
      ms.foldl (fun acc m =>
        acc.upsert m.name ⟨.property, m.name, (propertyType d m).classify r, m.serialName⟩) acc := by
  induction ms generalizing acc s with
  | nil => rfl
  | cons m ms ih => exact ih _ _

theorem wrapProperties_snd (d : Decl) (ms : List Member) (acc : Keyed TargetMember) (s : Discovery) :
    (wrapProperties r d ms acc s).2 =
      (ms.flatMap fun m => (propertyType d m).queued r).foldl Discovery.enqueue s := by
  induction ms generalizing acc s with
  | nil => rfl
  | cons m ms ih =>
    rw [List.flatMap_cons, List.foldl_append, ← ih (acc.upsert m.name _)]
    rfl

@[simp] theorem argWrappers_nil_right (params : List TypeParam) : argWrappers params [] = [] := by
  cases params <;> rfl

theorem supertypeArgs_fst (params : List TypeParam) (args : List TypeRef)
    (acc : List Wrapped × Keyed TypeRef) (s : Discovery) :
    (supertypeArgs r params args acc s).1 =
      (acc.1 ++ (argWrappers params args).map (Wrapped.classify r),
        (params.zip args).foldl (fun res pa => res.upsert pa.1.name pa.2) acc.2) := by
  induction args generalizing params acc s with
  | nil => simp [supertypeArgs]
  | cons a as ih =>
    obtain ⟨ws, res⟩ := acc
    cases params with
    | nil => simp [supertypeArgs, argWrappers, ih, Discovery.classifyAndEnqueue_eq]
    | cons p ps => simp [supertypeArgs, argWrappers, ih, Discovery.classifyAndEnqueue_eq]

theorem supertypeArgs_snd (params : List TypeParam) (args : List TypeRef)
    (acc : List Wrapped × Keyed TypeRef) (s : Discovery) :
    (supertypeArgs r params args acc s).2 =
      ((argWrappers params args).flatMap (Wrapped.queued r)).foldl Discovery.enqueue s := by
  induction args generalizing params acc s with
  | nil => cases params <;> rfl
  | cons a as ih =>
    obtain ⟨ws, res⟩ := acc
    cases params with
    | nil =>
      rw [argWrappers, List.flatMap_cons, List.foldl_append, ← ih [] (ws ++ [_], res)]
      rfl
    | cons p ps =>
      rw [argWrappers, List.flatMap_cons, List.foldl_append, ← ih ps (ws ++ [_], res.upsert p.name a)]
      rfl

def applied (p : TypeRef × Decl) : AppliedType :=
  ⟨p.2.name, (argWrappers p.2.typeParams p.1.args).map (Wrapped.classify r),
    (p.2.typeParams.zip p.1.args).foldl (fun res pa => res.upsert pa.1.name pa.2) []⟩

theorem applySupertypes_fst (sups : List (TypeRef × Decl)) (acc : List AppliedType) (s : Discovery) :
    (applySupertypes r sups acc s).1 = acc ++ sups.map (applied r) := by
  induction sups generalizing acc s with
  | nil => simp [applySupertypes]
  | cons sup sups ih =>
    obtain ⟨ty, sup⟩ := sup
    simp [applySupertypes, ih, supertypeArgs_fst, applied]

theorem applySupertypes_snd (sups : List (TypeRef × Decl)) (acc : List AppliedType) (s : Discovery) :
    (applySupertypes r sups acc s).2 =
      (sups.flatMap fun p => p.2.name :: (argWrappers p.2.typeParams p.1.args).flatMap (Wrapped.queued r)).foldl
        Discovery.enqueue s := by
  induction sups generalizing acc s with
  | nil => rfl
  | cons sup sups ih =>
    obtain ⟨ty, sup⟩ := sup
    simp only [applySupertypes, List.flatMap_cons, List.foldl_append, List.foldl_cons]
    rw [ih, supertypeArgs_snd]

variable (d : Decl)

/-- The paths assembling a declaration queues, in order. An enum queues nothing; an interface
queues what its type variables and field types make known, then each generated supertype
followed by what the arguments given to it make known. -/
def queue : List String :=
  if d.kind == .enum then []
  else (d.typeParams.flatMap fun p => (Wrapped.typeVariable p.asTypeRef).queued r) ++
    (d.members.flatMap fun m => (propertyType d m).queued r) ++
    ((structSupertypes r d).flatMap fun p =>
      p.2.name :: (argWrappers p.2.typeParams p.1.args).flatMap (Wrapped.queued r))

def assembled? (m : Mode) : Option Target := (assemble r d { mode := m }).1

theorem assemble_fst (s : Discovery) : (assemble r d s).1 = assembled? r d s.mode := by
  unfold assembled? assemble
  by_cases hp : d.name = Known.pair
  · simp [hp]
  · cases hi : ineligibility? r d with
    | some rej => simp [hp]
    | none =>
      by_cases he : d.kind = .enum <;>
        simp [hp, he, wrapTypeVariables_fst, wrapProperties_fst, applySupertypes_fst]

theorem assembled?_eq_none_iff (m : Mode) :
    assembled? r d m = none ↔ d.name = Known.pair ∨ (ineligibility? r d).isSome := by
  unfold assembled? assemble
  by_cases hp : d.name = Known.pair
  · simp [hp]
  · cases hi : ineligibility? r d with
    | some rej => simp [hp]
    | none => by_cases he : d.kind = .enum <;> simp [hp, he]

theorem assembled?_name {m : Mode} {t : Target} (h : assembled? r d m = some t) : t.name = d.name := by
  unfold assembled? assemble at h
  by_cases hp : d.name = Known.pair
  · simp [hp] at h
  · cases hi : ineligibility? r d with
    | some rej => simp [hp, hi] at h
    | none => by_cases he : d.kind = .enum <;> simp [hp, hi, he] at h <;> rw [← h]

theorem assembled?_withOrigin (m m' : Mode) (o : TargetOrigin) :
    (assembled? r d m).map (withOrigin o) = (assembled? r d m').map (withOrigin o) := by
  unfold assembled? assemble
  by_cases hp : d.name = Known.pair
  · simp [hp]
  · cases hi : ineligibility? r d with
    | some rej => simp [hp]
    | none => by_cases he : d.kind = .enum <;> simp [hp, he, withOrigin, wrapTypeVariables_fst, wrapProperties_fst, applySupertypes_fst]

theorem assemble_of_pair (s : Discovery) (h : d.name = Known.pair) : assemble r d s = (none, s) := by
  simp [assemble, h]

theorem assemble_of_ineligible (s : Discovery) {rej : Rejection} (hp : d.name ≠ Known.pair)
    (h : ineligibility? r d = some rej) : assemble r d s = (none, s.reject rej) := by
  simp [assemble, hp, h]

theorem assemble_snd_of_eligible (s : Discovery) (hp : d.name ≠ Known.pair)
    (h : ineligibility? r d = none) : (assemble r d s).2 = (queue r d).foldl Discovery.enqueue s := by
  unfold assemble queue
  by_cases he : d.kind = .enum
  · simp [hp, h, he]
  · simp [hp, h, he, wrapTypeVariables_snd, wrapProperties_snd, applySupertypes_snd, List.foldl_append]

theorem assemble_snd_cases (s : Discovery) :
    (assemble r d s).2 = s ∨ (∃ rej, (assemble r d s).2 = s.reject rej) ∨
      (assemble r d s).2 = (queue r d).foldl Discovery.enqueue s := by
  by_cases hp : d.name = Known.pair
  · exact .inl (by rw [assemble_of_pair r d s hp])
  · cases hi : ineligibility? r d with
    | some rej => exact .inr (.inl ⟨rej, by rw [assemble_of_ineligible r d s hp hi]⟩)
    | none => exact .inr (.inr (assemble_snd_of_eligible r d s hp hi))

@[simp] theorem assemble_scope (s : Discovery) : (assemble r d s).2.scope = s.scope := by
  rcases assemble_snd_cases r d s with h | ⟨rej, h⟩ | h <;> simp [h]

@[simp] theorem assemble_rejected (s : Discovery) : (assemble r d s).2.rejected = s.rejected := by
  rcases assemble_snd_cases r d s with h | ⟨rej, h⟩ | h <;> simp [h]

@[simp] theorem assemble_annotated (s : Discovery) : (assemble r d s).2.annotated = s.annotated := by
  rcases assemble_snd_cases r d s with h | ⟨rej, h⟩ | h <;> simp [h]

@[simp] theorem assemble_mode (s : Discovery) : (assemble r d s).2.mode = s.mode := by
  rcases assemble_snd_cases r d s with h | ⟨rej, h⟩ | h <;> simp [h]

end Assembly

end Target

namespace Discovery

theorem process_cases (r : Registry) (d : Decl) (s : Discovery) :
    (d.simple ∈ s.scope ∧ (process r d s).1 = none ∧
      ((process r d s).2 = s ∨ ∃ ex, s.mode = .explicitRoot ∧ s.annotated.get? d.simple = some ex ∧
        ex ≠ d.name ∧ (process r d s).2 = s.error (.duplicateName d.simple ex d.name))) ∨
    (d.simple ∉ s.scope ∧ Target.assembled? r d s.mode = none ∧
      ((d.name = Known.pair ∧ process r d s = (none, s.markRejected d.name)) ∨
        ∃ rej, d.name ≠ Known.pair ∧ Target.ineligibility? r d = some rej ∧
          process r d s = (none, (s.reject rej).markRejected d.name))) ∨
    (∃ t, d.simple ∉ s.scope ∧ Target.assembled? r d s.mode = some t ∧
      process r d s = (some t, ((Target.queue r d).foldl enqueue s).addToScope d.name)) := by
  by_cases hin : d.simple ∈ s.scope
  · have hc : s.inScope d.simple = true := (inScope_iff s _).mpr hin
    refine .inl ⟨hin, ?_⟩
    rcases hm : s.mode with _ | _ <;> rcases ha : s.annotated.get? d.simple with _ | ex
    · simp [process, hc, hm, ha]
    · by_cases hne : ex = d.name
      · simp [process, hc, hm, ha, hne]
      · simp [process, hc, hm, ha, hne]
    · simp [process, hc, hm, ha]
    · simp [process, hc, hm, ha]
  · have hc : s.inScope d.simple = false := Bool.eq_false_iff.mpr (mt (inScope_iff s _).mp hin)
    by_cases hp : d.name = Known.pair
    · have hA := Target.assemble_of_pair r d s hp
      have hnone : Target.assembled? r d s.mode = none := by rw [← Target.assemble_fst, hA]
      exact .inr (.inl ⟨hin, hnone, .inl ⟨hp, by simp [process, hc, hA]⟩⟩)
    · cases hi : Target.ineligibility? r d with
      | some rej =>
        have hA := Target.assemble_of_ineligible r d s hp hi
        have hnone : Target.assembled? r d s.mode = none := by rw [← Target.assemble_fst, hA]
        exact .inr (.inl ⟨hin, hnone, .inr ⟨rej, hp, rfl, by simp [process, hc, hA]⟩⟩)
      | none =>
        have hsome : Target.assembled? r d s.mode ≠ none := by
          rw [Ne, Target.assembled?_eq_none_iff]
          simp [hp, hi]
        obtain ⟨t, ht⟩ := Option.ne_none_iff_exists'.mp hsome
        have hA : Target.assemble r d s = (some t, (Target.queue r d).foldl enqueue s) :=
          Prod.ext (by rw [Target.assemble_fst, ht]) (Target.assemble_snd_of_eligible r d s hp hi)
        exact .inr (.inr ⟨t, hin, ht, by simp [process, hc, hA, Target.assembled?_name r d ht]⟩)

/-! ### The shape of a run -/

def visit (r : Registry) (e : String × String) (s : Discovery) : Option Target × Discovery :=
  let s := { s with pending := s.pending.erase e.1 }
  if s.inScope e.1 then (none, s)
  else match r.lookup? e.2 with
    | none => (none, s)
    | some d => process r d s

theorem drainSnapshot_cons (r : Registry) (e : String × String) (rest : Keyed String)
    (acc : List Target) (s : Discovery) :
    drainSnapshot r (e :: rest) acc s = drainSnapshot r rest (acc ++ (visit r e s).1.toList) (visit r e s).2 := by
  obtain ⟨x, p⟩ := e
  simp only [drainSnapshot, visit]
  split
  · simp
  · cases r.lookup? p <;> simp

theorem drainSnapshot_acc (r : Registry) (L : Keyed String) (acc : List Target) (s : Discovery) :
    drainSnapshot r L acc s = (acc ++ (drainSnapshot r L [] s).1, (drainSnapshot r L [] s).2) := by
  induction L generalizing acc s with
  | nil => simp [drainSnapshot]
  | cons e rest ih =>
    rw [drainSnapshot_cons, drainSnapshot_cons, List.nil_append, ih, ih (visit r e s).1.toList]
    simp

theorem drain_acc (r : Registry) (fuel : Nat) (acc : List Target) (s : Discovery) :
    drain r fuel acc s = (acc ++ (drain r fuel [] s).1, (drain r fuel [] s).2) := by
  induction fuel generalizing acc s with
  | zero => simp [drain]
  | succ fuel ih =>
    simp only [drain]
    split
    · simp
    · rw [drainSnapshot_acc, ih, ih (drainSnapshot r s.pending [] s).1]
      simp

def rootStep (r : Registry) (root : String) (s : Discovery) : List Target × Discovery :=
  let s := { s with mode := .explicitRoot }
  match r.lookup? root with
  | some d => let (t, s) := process r d s; (t.toList, s)
  | none => ([], s.reject (.unknown root))

theorem resolveRoot_eq (r : Registry) (root : String) (s : Discovery) :
    resolveRoot r root s =
      drain r (r.size + 2) (rootStep r root s).1 { (rootStep r root s).2 with mode := .transitive } := by
  unfold resolveRoot
  rfl

theorem resolveAll_acc (r : Registry) (roots : List String) (acc : List Target) (s : Discovery) :
    resolveAll r roots acc s = (acc ++ (resolveAll r roots [] s).1, (resolveAll r roots [] s).2) := by
  induction roots generalizing acc s with
  | nil => simp [resolveAll]
  | cons root rest ih =>
    simp only [resolveAll, List.nil_append]
    rw [ih, ih (resolveRoot r root s).1]
    simp

theorem resolveAll_append (r : Registry) (xs ys : List String) (acc : List Target) (s : Discovery) :
    resolveAll r (xs ++ ys) acc s = resolveAll r ys (resolveAll r xs acc s).1 (resolveAll r xs acc s).2 := by
  induction xs generalizing acc s with
  | nil => rfl
  | cons x xs ih => exact ih _ _

end Discovery

end TypeBridge
