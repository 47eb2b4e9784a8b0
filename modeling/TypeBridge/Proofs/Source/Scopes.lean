import TypeBridge.Proofs.Render.References
import TypeBridge.Source.Names
/-!
# Paths and the names of a module

Splitting a path at `::` and joining the segments are inverse on segments without colons. The
names of a module import a name exactly when one of its `use` trees binds it
(`Names.ofItems_imports`), anchored by `Names.absolute`.
-/

namespace TypeBridge

namespace Path

theorem splitAll_ne_nil (l : List Char) : splitAll l ≠ [] := by
  fun_induction splitAll l with
  | case1 rest _ => simp
  | case2 c rest _ ih => simpa using ih
  | case3 => simp

theorem splitAll_cons_of_ne {c : Char} (hc : c ≠ ':') (l : List Char) :
    splitAll (c :: l) = (splitAll l).modifyHead (c :: ·) := by
  rw [splitAll]
  intro rest h _
  exact hc h

theorem splitAll_of_colonFree {l : List Char} (hl : ':' ∉ l) : splitAll l = [l] := by
  induction l with
  | nil => rfl
  | cons c l ih =>
    have hc : c ≠ ':' := fun h => hl (h ▸ List.mem_cons_self)
    rw [splitAll_cons_of_ne hc, ih fun h => hl (List.mem_cons_of_mem c h)]
    rfl

theorem splitAll_sep {a : List Char} (ha : ':' ∉ a) (rest : List Char) :
    splitAll (a ++ ':' :: ':' :: rest) = a :: splitAll rest := by
  induction a with
  | nil => rfl
  | cons c a ih =>
    have hc : c ≠ ':' := fun h => ha (h ▸ List.mem_cons_self)
    rw [List.cons_append, splitAll_cons_of_ne hc, ih fun h => ha (List.mem_cons_of_mem c h)]
    rfl

theorem intercalate_splitAll (l : List Char) : [':', ':'].intercalate (splitAll l) = l := by
  fun_induction splitAll l with
  | case1 rest ih =>
    obtain ⟨s, ss, hs⟩ := List.exists_cons_of_ne_nil (splitAll_ne_nil rest)
    rw [hs] at ih ⊢
    rw [List.intercalate_cons_cons, ih]
    rfl
  | case2 c rest _ ih =>
    obtain ⟨s, ss, hs⟩ := List.exists_cons_of_ne_nil (splitAll_ne_nil rest)
    rw [hs] at ih ⊢
    cases ss with
    | nil => simpa using ih
    | cons s' ss => simpa [List.intercalate_cons_cons] using ih
  | case3 => rfl

theorem segments_ne_nil (path : String) : segments path ≠ [] := by
  simpa [segments] using splitAll_ne_nil path.toList

theorem intercalate_segments (path : String) : "::".intercalate (segments path) = path := by
  apply String.toList_injective
  rw [String.toList_intercalate, segments, List.map_map]
  simpa [Function.comp_def] using intercalate_splitAll path.toList

/-- Segments without colons are what splitting their join gives. -/
theorem segments_intercalate {segs : List String} (hne : segs ≠ [])
    (hplain : ∀ s ∈ segs, ':' ∉ s.toList) : segments ("::".intercalate segs) = segs := by
  induction segs with
  | nil => exact absurd rfl hne
  | cons s segs ih =>
    cases segs with
    | nil => simp [segments, splitAll_of_colonFree (hplain s List.mem_cons_self)]
    | cons t segs =>
      have hs := hplain s List.mem_cons_self
      rw [String.intercalate_cons_cons]
      have hrest := ih (List.cons_ne_nil t segs) fun x hx => hplain x (List.mem_cons_of_mem s hx)
      simp only [segments, String.toList_append] at hrest ⊢
      rw [show "::".toList = [':', ':'] from rfl, List.append_assoc, List.cons_append, List.cons_append,
        List.nil_append, splitAll_sep hs, List.map_cons, hrest, String.ofList_toList]

end Path

namespace Keyed

variable {α : Type}

theorem mem_keys_upsert {m : Keyed α} {k x : String} {v : α} :
    x ∈ (m.upsert k v).keys ↔ x ∈ m.keys ∨ x = k := by
  unfold upsert
  split
  · rename_i hc
    have hkeys : Keyed.keys (m.map fun e => if e.1 == k then (k, v) else e) = m.keys := by
      simp only [keys, List.map_map]
      refine List.map_congr_left fun e _ => ?_
      by_cases he : e.1 = k <;> simp [he]
    rw [hkeys]
    exact ⟨.inl, fun h => h.elim id fun hx => hx ▸ (contains_iff m k).mp hc⟩
  · simp

theorem mem_keys_foldl_upsert {β : Type} {k : β → String} {v : β → α} {xs : List β} {acc : Keyed α}
    {x : String} :
    x ∈ (xs.foldl (fun acc y => acc.upsert (k y) (v y)) acc).keys ↔ x ∈ acc.keys ∨ ∃ y ∈ xs, k y = x := by
  induction xs generalizing acc with
  | nil => simp
  | cons y xs ih =>
    rw [List.foldl_cons, ih, mem_keys_upsert]
    constructor
    · rintro ((hx | rfl) | ⟨z, hz, rfl⟩)
      · exact .inl hx
      · exact .inr ⟨y, List.mem_cons_self, rfl⟩
      · exact .inr ⟨z, List.mem_cons_of_mem y hz, rfl⟩
    · rintro (hx | ⟨z, hz, rfl⟩)
      · exact .inl (.inl hx)
      · rcases List.mem_cons.mp hz with rfl | hz
        · exact .inl (.inr rfl)
        · exact .inr ⟨z, hz, rfl⟩

theorem exists_get?_of_mem_keys {m : Keyed α} {key : String} (h : key ∈ m.keys) :
    ∃ v, m.get? key = some v :=
  Option.isSome_iff_exists.mp (get?_isSome_of_contains ((contains_iff m key).mpr h))

end Keyed

end TypeBridge

namespace TypeBridge.Rust

/-- `t.Binds pre y u`: the `use` tree `t`, standing after the path `pre`, brings in the name `y`
for the path `u`; `self` in a group names the group's own path. -/
inductive UseTree.Binds : UseTree → List String → String → List String → Prop
  | path {i : Ident} {t : UseTree} {pre u : List String} {y : String} :
      t.Binds (pre ++ [i.text]) y u → (UseTree.path i t).Binds pre y u
  | name {i : Ident} {pre : List String} :
      i.text ≠ "self" → (UseTree.name i).Binds pre i.text (pre ++ [i.text])
  | selfName {i : Ident} {pre : List String} {last : String} :
      i.text = "self" → pre.getLast? = some last → (UseTree.name i).Binds pre last pre
  | rename {i r : Ident} {pre : List String} : (UseTree.rename i r).Binds pre r.text (pre ++ [i.text])
  | group {ts : List UseTree} {t : UseTree} {pre u : List String} {y : String} :
      t ∈ ts → t.Binds pre y u → (UseTree.group ts).Binds pre y u

end TypeBridge.Rust

namespace TypeBridge.Source

open Rust

/-! ### What a `use` tree brings in -/

theorem imports_go_append (pre : List String) (acc : Keyed String) (ts ts' : List UseTree) :
    UseTree.imports.go pre acc (ts ++ ts') = UseTree.imports.go pre (UseTree.imports.go pre acc ts) ts' := by
  induction ts generalizing acc with
  | nil => rfl
  | cons t ts ih => exact ih _

mutual

theorem keys_imports {y : String} : ∀ (t : UseTree) (acc : Keyed String) (pre : List String),
    y ∈ acc.keys → y ∈ (UseTree.imports acc pre t).keys
  | .path _ t, acc, _, h => keys_imports t acc _ h
  | .name _, acc, pre, h => by
    unfold UseTree.imports
    split
    · split
      · exact Keyed.mem_keys_upsert.mpr (.inl h)
      · exact h
    · exact Keyed.mem_keys_upsert.mpr (.inl h)
  | .rename _ _, _, _, h => Keyed.mem_keys_upsert.mpr (.inl h)
  | .glob, _, _, h => h
  | .group ts, acc, pre, h => keys_imports_go ts acc pre h

theorem keys_imports_go {y : String} : ∀ (ts : List UseTree) (acc : Keyed String) (pre : List String),
    y ∈ acc.keys → y ∈ (UseTree.imports.go pre acc ts).keys
  | [], _, _, h => h
  | t :: ts, acc, pre, h => keys_imports_go ts _ pre (keys_imports t acc pre h)

end

theorem mem_keys_imports {t : UseTree} {pre u : List String} {y : String} (h : t.Binds pre y u)
    (acc : Keyed String) : y ∈ (UseTree.imports acc pre t).keys := by
  induction h generalizing acc with
  | path _ ih => exact ih acc
  | name hi => simp [UseTree.imports, hi, Keyed.mem_keys_upsert]
  | selfName hi hlast => simp [UseTree.imports, hi, hlast, Keyed.mem_keys_upsert]
  | rename => simp [UseTree.imports, Keyed.mem_keys_upsert]
  | group hmem _ ih =>
    obtain ⟨before, after, rfl⟩ := List.append_of_mem hmem
    change _ ∈ (UseTree.imports.go _ acc _).keys
    rw [imports_go_append]
    exact keys_imports_go after _ _ (ih _)

mutual

theorem mem_imports {e : String × String} : ∀ (t : UseTree) (acc : Keyed String) (pre : List String),
    e ∈ UseTree.imports acc pre t → e ∈ acc ∨ ∃ y u, t.Binds pre y u ∧ e = (y, "::".intercalate u)
  | .path _ t, acc, _, h =>
    (mem_imports t acc _ h).imp_right fun ⟨y, u, hb, he⟩ => ⟨y, u, .path hb, he⟩
  | .name i, acc, pre, h => by
    unfold UseTree.imports at h
    split at h
    · rename_i hself
      split at h
      · rename_i last hlast
        rcases Keyed.mem_upsert h with h | rfl
        · exact .inl h
        · exact .inr ⟨last, pre, .selfName (by simpa using hself) hlast, rfl⟩
      · exact .inl h
    · rename_i hself
      rcases Keyed.mem_upsert h with h | rfl
      · exact .inl h
      · exact .inr ⟨_, _, .name (by simpa using hself), rfl⟩
  | .rename _ _, _, _, h => by
    rcases Keyed.mem_upsert h with h | rfl
    · exact .inl h
    · exact .inr ⟨_, _, .rename, rfl⟩
  | .glob, _, _, h => .inl h
  | .group ts, acc, pre, h =>
    (mem_imports_go ts acc pre h).imp_right fun ⟨_, ht, y, u, hb, he⟩ => ⟨y, u, .group ht hb, he⟩

theorem mem_imports_go {e : String × String} : ∀ (ts : List UseTree) (acc : Keyed String) (pre : List String),
    e ∈ UseTree.imports.go pre acc ts →
      e ∈ acc ∨ ∃ t ∈ ts, ∃ y u, t.Binds pre y u ∧ e = (y, "::".intercalate u)
  | [], _, _, h => .inl h
  | t :: ts, acc, pre, h => by
    rcases mem_imports_go ts _ pre h with h | ⟨t', ht', hb⟩
    · rcases mem_imports t acc pre h with h | hb
      · exact .inl h
      · exact .inr ⟨t, List.mem_cons_self, hb⟩
    · exact .inr ⟨t', List.mem_cons_of_mem t ht', hb⟩

end

def Imports (c : List Item) (y : String) (u : List String) : Prop :=
  ∃ t, Item.use t ∈ c ∧ t.Binds [] y u

namespace Names

variable {y : String}

/-! ### What a module's items bring in -/

theorem foldl_collect_keeps (P : Keyed String × Keyed Alias × List String → Prop) {items : List Item}
    (hstep : ∀ acc, ∀ item ∈ items, P acc → P (collect acc item))
    (acc : Keyed String × Keyed Alias × List String) (h : P acc) : P (items.foldl collect acc) := by
  induction items generalizing acc with
  | nil => exact h
  | cons item items ih =>
    exact ih (fun acc item hi => hstep acc item (List.mem_cons_of_mem _ hi)) _
      (hstep acc item List.mem_cons_self h)

theorem foldl_collect_of_mem (P : Keyed String × Keyed Alias × List String → Prop) {items : List Item}
    {item : Item} (hi : item ∈ items) (hitem : ∀ acc, P (collect acc item))
    (hstep : ∀ acc item, P acc → P (collect acc item)) (acc : Keyed String × Keyed Alias × List String) :
    P (items.foldl collect acc) := by
  induction items generalizing acc with
  | nil => cases hi
  | cons item' items ih =>
    rw [List.foldl_cons]
    rcases List.mem_cons.mp hi with rfl | hi
    · exact foldl_collect_keeps P (fun acc item _ => hstep acc item) _ (hitem acc)
    · exact ih hi _

theorem collect_uses_keys (acc : Keyed String × Keyed Alias × List String) (item : Item)
    (h : y ∈ acc.1.keys) : y ∈ (collect acc item).1.keys := by
  obtain ⟨uses, aliases, mods⟩ := acc
  cases item with
  | use t => exact keys_imports t uses [] h
  | _ => exact h

theorem keys_foldl_collect {t : UseTree} {u : List String} {items : List Item} (ht : Item.use t ∈ items)
    (hb : t.Binds [] y u) (acc : Keyed String × Keyed Alias × List String) :
    y ∈ (items.foldl collect acc).1.keys :=
  foldl_collect_of_mem (fun acc => y ∈ acc.1.keys) ht (fun acc => mem_keys_imports hb acc.1)
    collect_uses_keys acc

theorem mem_foldl_collect {e : String × String} {items : List Item}
    {acc : Keyed String × Keyed Alias × List String} (h : e ∈ (items.foldl collect acc).1) :
    e ∈ acc.1 ∨ ∃ t, Item.use t ∈ items ∧ ∃ y u, t.Binds [] y u ∧ e = (y, "::".intercalate u) := by
  induction items generalizing acc with
  | nil => exact .inl h
  | cons item items ih =>
    rcases ih h with h | ⟨t, ht, hb⟩
    · obtain ⟨uses, aliases, mods⟩ := acc
      cases item with
      | use t =>
        rcases mem_imports t uses [] h with h | hb
        · exact .inl h
        · exact .inr ⟨t, List.mem_cons_self, hb⟩
      | _ => exact .inl h
    · exact .inr ⟨t, List.mem_cons_of_mem _ ht, hb⟩

theorem foldl_collect_aliases {items : List Item} (hy : ∀ i gen ty, Item.alias i gen ty ∈ items → i.text ≠ y)
    (acc : Keyed String × Keyed Alias × List String) (h : acc.2.1.get? y = none) :
    (items.foldl collect acc).2.1.get? y = none := by
  refine foldl_collect_keeps (fun acc => acc.2.1.get? y = none) (fun acc item hi hacc => ?_) acc h
  obtain ⟨uses, aliases, mods⟩ := acc
  cases item with
  | «alias» i gen ty =>
    change (aliases.upsert i.text _).get? y = none
    rw [Keyed.get?_upsert, if_neg (hy i gen ty hi)]
    exact hacc
  | _ => exact hacc

theorem collect_mods (acc : Keyed String × Keyed Alias × List String) (item : Item) (h : y ∈ acc.2.2) :
    y ∈ (collect acc item).2.2 := by
  obtain ⟨uses, aliases, mods⟩ := acc
  cases item with
  | module i content =>
    change y ∈ (if mods.contains i.text then mods else mods ++ [i.text])
    split
    · exact h
    · exact List.mem_append_left _ h
  | _ => exact h

theorem foldl_collect_mods {i : Ident} {content : Option (List Item)} {items : List Item}
    (hi : Item.module i content ∈ items) (acc : Keyed String × Keyed Alias × List String) :
    i.text ∈ (items.foldl collect acc).2.2 := by
  refine foldl_collect_of_mem (fun acc => i.text ∈ acc.2.2) hi (fun ⟨uses, aliases, mods⟩ => ?_)
    collect_mods acc
  change i.text ∈ (if mods.contains i.text then mods else mods ++ [i.text])
  split
  · simpa using ‹mods.contains i.text = true›
  · simp

/-! ### The names of a module -/

variable {module : String} {c : List Item}

theorem ofItems_localModules {i : Ident} {content : Option (List Item)} (hi : Item.module i content ∈ c) :
    (ofItems module c).localModules.contains i.text = true :=
  List.contains_iff_mem.mpr (foldl_collect_mods hi _)

theorem ofItems_aliases (hy : ∀ i gen ty, Item.alias i gen ty ∈ c → i.text ≠ y) :
    (ofItems module c).aliases.get? y = none :=
  foldl_collect_aliases hy _ rfl

theorem ofItems_imports_binds {v : String} (hv : (ofItems module c).imports.get? y = some v) :
    ∃ u, Imports c y u ∧ v = (ofItems module c).absolute ("::".intercalate u) := by
  rcases Keyed.mem_foldl_upsert Prod.fst _ _ (Keyed.mem_of_get? hv) with h | ⟨x, hx, hxy⟩
  · cases h
  · rcases mem_foldl_collect hx with h | ⟨t, ht, y', u, hb, rfl⟩
    · cases h
    · obtain rfl : y = y' := congrArg Prod.fst hxy
      exact ⟨u, ⟨t, ht, hb⟩, congrArg Prod.snd hxy⟩

theorem ofItems_imports_none (hy : ∀ u, ¬ Imports c y u) : (ofItems module c).imports.get? y = none := by
  cases hv : (ofItems module c).imports.get? y with
  | none => rfl
  | some v =>
    obtain ⟨u, hu, -⟩ := ofItems_imports_binds hv
    exact absurd hu (hy u)

/-- A name that the `use` items of the module bring in, always for the same path, is imported
for that path anchored at the crate root. -/
theorem ofItems_imports {u : List String} (h : Imports c y u) (huniq : ∀ u', Imports c y u' → u' = u) :
    (ofItems module c).imports.get? y = some ((ofItems module c).absolute ("::".intercalate u)) := by
  obtain ⟨t, ht, hb⟩ := h
  have hkey : y ∈ (ofItems module c).imports.keys := by
    obtain ⟨x, hx, rfl⟩ := List.mem_map.mp (keys_foldl_collect ht hb ([], [], []))
    exact Keyed.mem_keys_foldl_upsert.mpr (.inr ⟨x, hx, rfl⟩)
  obtain ⟨v, hv⟩ := Keyed.exists_get?_of_mem_keys hkey
  obtain ⟨u', hu', rfl⟩ := ofItems_imports_binds hv
  rw [hv, huniq u' hu']

/-! ### Anchoring a path -/

variable {n : Names} {path : String} {rest : List String}

theorem absolute_crate (h : Path.segments path = "crate" :: rest) : n.absolute path = path := by
  simp only [absolute, h]

theorem absolute_self (h : Path.segments path = "self" :: rest) :
    n.absolute path = "::".intercalate (Path.segments n.module ++ rest) := by
  simp only [absolute, h]

theorem absolute_super (h : Path.segments path = "super" :: rest) :
    n.absolute path = "::".intercalate ((Path.segments n.module).take
      (max 1 ((Path.segments n.module).length - ((rest.takeWhile (· == "super")).length + 1))) ++
        rest.dropWhile (· == "super")) := by
  simp only [absolute, h]

theorem absolute_inner {a : String} (h : Path.segments path = a :: rest) (ha : a ∉ ["crate", "self", "super"])
    (hm : n.localModules.contains a = true) :
    n.absolute path = "::".intercalate (Path.segments n.module ++ a :: rest) := by
  simp only [List.mem_cons, List.not_mem_nil, or_false, not_or] at ha
  obtain ⟨hc, hs, hu⟩ := ha
  rw [absolute, h]
  split
  · simp_all
  · simp_all
  · simp_all
  · rename_i heq
    obtain ⟨rfl, rfl⟩ := List.cons.inj heq
    rw [if_pos hm]
  · simp_all

end Names

def nestPath (module : String) (segs : List String) : String :=
  segs.foldl (fun m s => m ++ "::" ++ s) module

theorem nestPath_cons (module s : String) (segs : List String) :
    nestPath module (s :: segs) = nestPath (module ++ "::" ++ s) segs := rfl

theorem nestPath_append (module : String) (segs segs' : List String) :
    nestPath module (segs ++ segs') = nestPath (nestPath module segs) segs' :=
  List.foldl_append ..

theorem nestPath_eq (module : String) (segs : List String) :
    nestPath module segs = "::".intercalate (module :: segs) := by
  induction segs generalizing module with
  | nil => simp [nestPath]
  | cons s segs ih =>
    rw [nestPath_cons, ih]
    cases segs with
    | nil => simp
    | cons t segs => simp [String.intercalate_cons_cons, String.append_assoc]

theorem intercalate_segments_append (path : String) (segs : List String) :
    "::".intercalate (Path.segments path ++ segs) = nestPath path segs := by
  rw [nestPath_eq]
  cases segs with
  | nil => simp [Path.intercalate_segments]
  | cons s segs =>
    rw [String.intercalate_append_of_ne_nil (Path.segments_ne_nil path) (List.cons_ne_nil s segs),
      Path.intercalate_segments, String.intercalate_cons_of_ne_nil (List.cons_ne_nil s segs)]

theorem segments_nestPath {module : String} {segs : List String}
    (hm : ∀ s ∈ Path.segments module, ':' ∉ s.toList) (hs : ∀ s ∈ segs, ':' ∉ s.toList) :
    Path.segments (nestPath module segs) = Path.segments module ++ segs := by
  rw [← intercalate_segments_append]
  refine Path.segments_intercalate (by simp [Path.segments_ne_nil]) fun s hmem => ?_
  rcases List.mem_append.mp hmem with h | h
  · exact hm s h
  · exact hs s h

end TypeBridge.Source
