import TypeBridge.Proofs.Render.FieldText
import TypeBridge.Proofs.Discovery.Resolved
/-!
# The line of a field in the written file

A struct's target keeps, under each field name, the wrapper of the last field with that name,
and the file holds one line per property of every emitted interface: `name?: text;` with the
text of `FieldText`, `?` exactly when the type is nullable at the top.
-/

namespace TypeBridge

theorem Except.bind_eq_ok {ε α β : Type} {x : Except ε α} {f : α → Except ε β} {b : β} :
    x >>= f = .ok b ↔ ∃ a, x = .ok a ∧ f a = .ok b := by
  cases x with
  | error e => simp [bind, Except.bind]
  | ok a => simp [bind, Except.bind]

theorem Except.toOption_eq_some {ε α : Type} {x : Except ε α} {a : α} : x.toOption = some a ↔ x = .ok a := by
  cases x <;> simp [Except.toOption]

theorem List.mapM_ok_mem {ε α β : Type} {f : α → Except ε β} {xs : List α} {ys : List β}
    (h : xs.mapM f = .ok ys) {x : α} (hx : x ∈ xs) : ∃ y ∈ ys, f x = .ok y := by
  induction xs generalizing ys with
  | nil => simp at hx
  | cons a xs ih =>
    rw [List.mapM_cons] at h
    obtain ⟨b, hb, h⟩ := Except.bind_eq_ok.mp h
    obtain ⟨bs, hbs, h⟩ := Except.bind_eq_ok.mp h
    have hys : ys = b :: bs := by
      simpa [pure, Except.pure] using h.symm
    subst hys
    rcases List.mem_cons.mp hx with rfl | hx
    · exact ⟨b, List.mem_cons_self, hb⟩
    · obtain ⟨y, hy, hfy⟩ := ih hbs hx
      exact ⟨y, List.mem_cons_of_mem b hy, hfy⟩

/-! ### Texts standing within texts -/

theorem String.join_of_mem {l : List String} {s : String} (h : s ∈ l) : ∃ a c, String.join l = a ++ s ++ c := by
  obtain ⟨l₁, l₂, rfl⟩ := List.mem_iff_append.mp h
  exact ⟨String.join l₁, String.join l₂, by rw [String.join_append, String.join_cons, String.append_assoc]⟩

theorem String.within_append_left {s t : String} (h : ∃ a c, t = a ++ s ++ c) (x : String) :
    ∃ a c, x ++ t = a ++ s ++ c := by
  obtain ⟨a, c, rfl⟩ := h
  exact ⟨x ++ a, c, by simp only [String.append_assoc]⟩

theorem String.within_append_right {s t : String} (h : ∃ a c, t = a ++ s ++ c) (y : String) :
    ∃ a c, t ++ y = a ++ s ++ c := by
  obtain ⟨a, c, rfl⟩ := h
  exact ⟨a, c ++ y, by simp only [String.append_assoc]⟩

theorem String.within_trans {s t u : String} (h₁ : ∃ a c, t = a ++ s ++ c) (h₂ : ∃ a c, u = a ++ t ++ c) :
    ∃ a c, u = a ++ s ++ c := by
  obtain ⟨a, c, rfl⟩ := h₁
  obtain ⟨a', c', rfl⟩ := h₂
  exact ⟨a' ++ a, c ++ c', by simp only [String.append_assoc]⟩

namespace Keyed

variable {α β : Type}

theorem get?_replace (m : Keyed α) (k key : String) (v : α) :
    get? (m.map fun e => if e.1 == k then (k, v) else e) key =
      if k = key then (if m.contains k then some v else none) else get? m key := by
  induction m with
  | nil => simp [contains]
  | cons e m ih =>
    obtain ⟨ek, ev⟩ := e
    rw [List.map_cons]
    by_cases he : ek = k
    · subst he
      simp only [beq_self_eq_true, if_true, get?_cons, ih]
      by_cases hk : ek = key <;> simp [hk, contains]
    · have hne : (ek == k) = false := beq_eq_false_iff_ne.mpr he
      have hc : contains ((ek, ev) :: m) k = contains m k := by
        simp only [contains, List.any_cons, hne, Bool.false_or]
      rw [if_neg (by simp [hne]), get?_cons, ih, get?_cons, hc]
      by_cases hk : k = key
      · subst hk
        simp [he]
      · simp [hk]

theorem get?_upsert (m : Keyed α) (k key : String) (v : α) :
    get? (m.upsert k v) key = if k = key then some v else get? m key := by
  unfold upsert
  split
  · rename_i hc
    rw [get?_replace, hc]
    rfl
  · rename_i hc
    rw [get?_append, get?_cons, get?_nil]
    by_cases hk : k = key
    · subst hk
      simp [get?_eq_none_of_contains hc]
    · simp [hk]

theorem get?_foldl_upsert_of_ne (k : β → String) (v : β → α) (xs : List β) (acc : Keyed α) {key : String}
    (h : ∀ x ∈ xs, k x ≠ key) :
    get? (xs.foldl (fun acc x => acc.upsert (k x) (v x)) acc) key = get? acc key := by
  induction xs generalizing acc with
  | nil => rfl
  | cons x xs ih =>
    rw [List.foldl_cons, ih _ fun y hy => h y (List.mem_cons_of_mem x hy), get?_upsert,
      if_neg (h x List.mem_cons_self)]

theorem get?_foldl_upsert_last (k : β → String) (v : β → α) (pre post : List β) (x : β) (acc : Keyed α)
    (h : ∀ y ∈ post, k y ≠ k x) :
    get? ((pre ++ x :: post).foldl (fun acc y => acc.upsert (k y) (v y)) acc) (k x) = some (v x) := by
  rw [List.foldl_append, List.foldl_cons, get?_foldl_upsert_of_ne k v post _ h, get?_upsert, if_pos rfl]

theorem mem_values_of_get? {m : Keyed α} {key : String} {a : α} (h : get? m key = some a) : a ∈ m.values := by
  obtain ⟨e, he, rfl⟩ := Option.map_eq_some_iff.mp h
  exact List.mem_map_of_mem (List.mem_of_find?_eq_some he)

theorem mem_keys_foldl_insertNew (k : β → String) (v : β → α) (xs : List β) (acc : Keyed α) (x : String) :
    x ∈ (xs.foldl (fun acc y => acc.insertNew (k y) (v y)) acc).keys ↔ x ∈ acc.keys ∨ ∃ y ∈ xs, k y = x := by
  induction xs generalizing acc with
  | nil => simp
  | cons y xs ih =>
    rw [List.foldl_cons, ih]
    have hins : x ∈ (acc.insertNew (k y) (v y)).keys ↔ x ∈ acc.keys ∨ k y = x := by
      unfold insertNew
      split
      · rename_i hc
        have hy : k y ∈ acc.keys := (contains_iff acc (k y)).mp hc
        constructor
        · exact Or.inl
        · rintro (hx | rfl)
          · exact hx
          · exact hy
      · simp [eq_comm]
    rw [hins]
    constructor
    · rintro ((hx | hx) | ⟨z, hz, hzx⟩)
      · exact .inl hx
      · exact .inr ⟨y, List.mem_cons_self, hx⟩
      · exact .inr ⟨z, List.mem_cons_of_mem y hz, hzx⟩
    · rintro (hx | ⟨z, hz, hzx⟩)
      · exact .inl (.inl hx)
      · rcases List.mem_cons.mp hz with rfl | hz
        · exact .inl (.inr hzx)
        · exact .inr ⟨z, hz, hzx⟩

end Keyed

/-! ### The target of a struct -/

namespace Target

variable {r : Registry} {S : Decl} {mode : Mode} {t : Target}

theorem assembled?_struct (h : assembled? r S mode = some t) (hk : S.kind = .struct) :
    t.kind = .interface ∧
      t.members = S.members.foldl (fun acc m =>
        Keyed.upsert acc m.name ⟨.property, m.name, (propertyType S m).classify r, m.serialName⟩) [] ∧
      t.typeVariables = S.typeParams.foldl (fun acc p =>
        Keyed.insertNew acc p.name ((Wrapped.typeVariable p.asTypeRef).classify r)) [] := by
  have hp : S.name ≠ Known.pair := by
    intro hp
    rw [(assembled?_eq_none_iff r S mode).mpr (.inl hp)] at h
    cases h
  have hi : ineligibility? r S = none := by
    cases hi : ineligibility? r S with
    | none => rfl
    | some rej =>
      rw [(assembled?_eq_none_iff r S mode).mpr (.inr (by simp [hi]))] at h
      cases h
  unfold assembled? assemble at h
  have he : (S.kind == .enum) = false := by rw [hk]; rfl
  simp only [hp, hi, he, beq_iff_eq, if_false, Bool.false_eq_true] at h
  rw [wrapTypeVariables_fst, wrapProperties_fst] at h
  cases h
  exact ⟨rfl, rfl, rfl⟩

theorem get?_members_of_last (h : assembled? r S mode = some t) (hk : S.kind = .struct)
    {pre post : List Member} {f : Member} (hfields : S.members = pre ++ f :: post)
    (hlast : ∀ x ∈ post, x.name ≠ f.name) :
    t.members.get? f.name = some ⟨.property, f.name, (propertyType S f).classify r, f.serialName⟩ := by
  rw [(assembled?_struct h hk).2.1, hfields]
  exact Keyed.get?_foldl_upsert_last Member.name
    (fun m => (⟨.property, m.name, (propertyType S m).classify r, m.serialName⟩ : TargetMember)) pre post f [] hlast

theorem mem_typeVariables_keys (h : assembled? r S mode = some t) (hk : S.kind = .struct) {v : String}
    (hv : v ∈ S.typeParams.map (·.name)) : v ∈ t.typeVariables.keys := by
  rw [(assembled?_struct h hk).2.2, Keyed.mem_keys_foldl_insertNew]
  obtain ⟨p, hp, rfl⟩ := List.mem_map.mp hv
  exact .inr ⟨p, hp, rfl⟩

end Target

/-! ### Where the lines land in the file -/

namespace Emitter

variable {e : Emitter} {scope : List String} {t : Target}

theorem mem_propertyLines {ctx : TypeText.Context} {ms : List TargetMember} {m : TargetMember} (hm : m ∈ ms)
    (hrole : m.role = .property) : e.propertyLine ctx m ∈ e.propertyLines ctx ms :=
  List.mem_filterMap.mpr ⟨m, hm, by simp [hrole]⟩

theorem interfaceText_line {txt : String} (h : e.interfaceText scope t = .ok txt) {m : TargetMember}
    (hm : m ∈ t.members.values) (hrole : m.role = .property) :
    ∃ a c, txt = a ++ e.propertyLine { rules := e.rules, scope, vars := t.typeVariables.keys } m ++ c := by
  unfold interfaceText at h
  obtain ⟨params, -, h⟩ := Except.bind_eq_ok.mp h
  rw [(Except.ok.inj h).symm]
  apply String.within_append_right
  apply String.within_append_right
  apply String.within_append_left
  exact String.join_of_mem (mem_propertyLines hm hrole)

theorem definition_interface {s : String} (h : e.definition scope t = .ok s) (hk : t.kind = .interface) :
    ∃ body, e.interfaceText scope t = .ok body ∧ ∃ a c, s = a ++ body ++ c := by
  unfold definition at h
  rw [hk] at h
  obtain ⟨body, hbody, h⟩ := Except.bind_eq_ok.mp h
  exact ⟨body, hbody, _, _, (Except.ok.inj h).symm⟩

theorem document_definition {roots : List String} {types : List Target} {out : String}
    (h : e.document roots types = .ok out) (ht : t ∈ types) (hemit : e.emits roots t = true) :
    ∃ s, e.definition (types.map (·.simple)) t = .ok s ∧ ∃ a c, out = a ++ s ++ c := by
  unfold document at h
  obtain ⟨defs, hdefs, h⟩ := Except.bind_eq_ok.mp h
  obtain ⟨s, hs, hdef⟩ := List.mapM_ok_mem hdefs (List.mem_filter.mpr ⟨ht, hemit⟩)
  refine ⟨s, hdef, ?_⟩
  rw [(Except.ok.inj h).symm]
  apply String.within_append_right
  apply String.within_append_right
  apply String.within_append_left
  exact String.join_of_mem hs

end Emitter

theorem Generator.document_of_generate {g : Generator} {out : String} (hout : g.generate = .ok out)
    {res : Resolution} (hres : g.resolve = .ok res) :
    g.emitter.document g.registry.roots res.types = .ok out := by
  unfold generate at hout
  obtain ⟨res', hres', hdoc⟩ := Except.bind_eq_ok.mp hout
  rw [hres] at hres'
  cases hres'
  split at hdoc
  · rename_i text htext
    rw [htext, Except.ok.inj hdoc]
  · cases hdoc

/-! ### The line of a field -/

theorem FieldText.propertyType_ty (r : Registry) (S : Decl) (f : Member) :
    ((Target.propertyType S f).classify r).ty = f.ty := by
  rw [FieldText.propertyType_classify]
  split <;> simp

theorem Rule.isNullable_nil (w : Wrapped) : Rule.isNullable [] w = w.ty.nullable := rfl

theorem Emitter.document_field_line {e : Emitter} {r : Registry} (hb : r.HasBuiltins) (hrules : e.rules = [])
    {roots : List String} {types : List Target} {out : String} (hout : e.document roots types = .ok out)
    {S : Decl} {mode : Mode} {t : Target} (hS : S.kind = .struct) (ht : Target.assembled? r S mode = some t)
    (htypes : t ∈ types) (hemit : e.emits roots t = true)
    {pre post : List Member} {f : Member} (hfields : S.members = pre ++ f :: post)
    (hlast : ∀ x ∈ post, x.name ≠ f.name)
    (hτ : FieldText.InFragment (types.map Target.simple) (S.typeParams.map (·.name)) f.ty) :
    ∃ m ∈ t.members.values, m.name = f.name ∧ m.serialName = f.serialName ∧
      ∃ a c, out = a ++ (e.config.baseIndent ++ e.config.indent ++ m.jsonName ++
        (if f.ty.nullable then "?" else "") ++ ": " ++
        FieldText.field (types.map Target.simple) (S.typeParams.map (·.name)) f.ty ++ ";\n") ++ c := by
  let m : TargetMember := ⟨.property, f.name, (Target.propertyType S f).classify r, f.serialName⟩
  have hm : m ∈ t.members.values := Keyed.mem_values_of_get? (Target.get?_members_of_last ht hS hfields hlast)
  refine ⟨m, hm, rfl, rfl, ?_⟩
  -- the file holds the target's definition, which holds its interface text, which holds the line
  obtain ⟨s, hdef, hs⟩ := e.document_definition hout htypes hemit
  obtain ⟨body, hbody, hin⟩ := Emitter.definition_interface hdef (Target.assembled?_struct ht hS).1
  have hline := Emitter.interfaceText_line hbody hm rfl
  -- and the line is the one the table gives
  have hrender : TypeText.render
      { rules := e.rules, scope := types.map Target.simple, vars := t.typeVariables.keys } m.ty =
      FieldText.field (types.map Target.simple) (S.typeParams.map (·.name)) f.ty :=
    FieldText.render_property hb hrules S f (fun _ hv => Target.mem_typeVariables_keys ht hS hv) hτ
  have hnull : Rule.isNullable e.rules m.ty = f.ty.nullable := by
    rw [hrules, Rule.isNullable_nil]
    exact congrArg TypeRef.nullable (FieldText.propertyType_ty r S f)
  rw [Emitter.propertyLine, hnull, hrender] at hline
  exact String.within_trans (String.within_trans hline hin) hs

/-! ### Registries with the built-in declarations -/

namespace Registry

variable {r : Registry}

theorem mem_register_self (d : Decl) : d ∈ (r.register d).decls := by
  unfold register
  split
  · rename_i hc
    obtain ⟨e, he, hname⟩ := List.any_eq_true.mp hc
    exact List.mem_map.mpr ⟨e, he, by simp only [hname, if_true]⟩
  · exact List.mem_append_right _ List.mem_cons_self

theorem mem_register_of_ne {b : Decl} (hb : b ∈ r.decls) (d : Decl) (hne : b.name ≠ d.name) :
    b ∈ (r.register d).decls := by
  unfold register
  split
  · exact List.mem_map.mpr ⟨b, hb, by simp [hne]⟩
  · exact List.mem_append_left _ hb

theorem withBuiltins_decls : withBuiltins.decls = builtins := by rfl

theorem hasBuiltins_withBuiltins : withBuiltins.HasBuiltins :=
  fun _ hb => lookup?_name wellFormed_withBuiltins (withBuiltins_decls ▸ hb)

theorem HasBuiltins.register (h : r.HasBuiltins) (hr : r.WellFormed) (d : Decl)
    (hd : d.name ∉ builtins.map Decl.name) : (r.register d).HasBuiltins := by
  intro b hb
  have hne : b.name ≠ d.name := fun he => hd (he ▸ List.mem_map_of_mem hb)
  exact lookup?_name (hr.register d) (mem_register_of_ne (lookup?_mem (h b hb)) d hne)

theorem HasBuiltins.markRoot (h : r.HasBuiltins) (path : String) : (r.markRoot path).HasBuiltins := by
  unfold Registry.markRoot
  split
  · exact h
  · exact h

end Registry

/-! ### The targets of a resolution -/

namespace Generator

variable {g : Generator} {res : Resolution}

theorem resolve_types (hres : g.resolve = .ok res) :
    res.types = byName (Discovery.resolveAll g.registry g.registry.roots [] {}).1 := by
  unfold resolve at hres
  split at hres
  rename_i ts s hrun
  by_cases he : s.hasErrors = true
  · simp [he] at hres
  · rw [if_neg he] at hres
    cases hres
    rw [hrun]

theorem sound_of_resolve (hr : g.registry.WellFormed) (hres : g.resolve = .ok res) {t : Target}
    (ht : t ∈ res.types) :
    ∃ d, Generated g.registry g.registry.roots d ∧ ∃ m, Target.assembled? g.registry d m = some t := by
  rw [resolve_types hres] at ht
  have hperm := byName_perm (Discovery.resolveAll_scopeGrowth g.registry g.registry.roots {}).nodup
  exact Discovery.resolveAll_sound hr (hperm.mem_iff.mp ht)

theorem assembled_of_resolve (hr : g.registry.WellFormed) (hres : g.resolve = .ok res) {S : Decl}
    (hS : S ∈ g.registry.decls) {t : Target} (ht : t ∈ res.types) (hname : t.name = S.name) :
    ∃ m, Target.assembled? g.registry S m = some t := by
  obtain ⟨d, hd, m, hm⟩ := sound_of_resolve hr hres ht
  have hdS : d = S :=
    List.inj_on_of_nodup_map hr hd.reaches.mem hS ((Target.assembled?_name _ d hm).symm.trans hname)
  exact ⟨m, hdS ▸ hm⟩

end Generator

theorem generate_field_line (g : Generator) (hb : g.registry.HasBuiltins) (hr : g.registry.WellFormed)
    (hrules : g.rules = []) {out : String} (hout : g.generate = .ok out) {res : Resolution}
    (hres : g.resolve = .ok res) {S : Decl} (hSr : S ∈ g.registry.decls) (hS : S.kind = .struct)
    {t : Target} (ht : t ∈ res.types) (hname : t.name = S.name)
    (hemit : g.emitter.emits g.registry.roots t = true)
    {pre post : List Member} {f : Member} (hfields : S.members = pre ++ f :: post)
    (hlast : ∀ x ∈ post, x.name ≠ f.name)
    (hτ : FieldText.InFragment (res.types.map Target.simple) (S.typeParams.map (·.name)) f.ty) :
    ∃ m ∈ t.members.values, m.name = f.name ∧ m.serialName = f.serialName ∧
      ∃ a c, out = a ++ (g.config.baseIndent ++ g.config.indent ++ m.jsonName ++
        (if f.ty.nullable then "?" else "") ++ ": " ++
        FieldText.field (res.types.map Target.simple) (S.typeParams.map (·.name)) f.ty ++ ";\n") ++ c := by
  obtain ⟨mode, hta⟩ := Generator.assembled_of_resolve hr hres hSr ht hname
  exact Emitter.document_field_line hb hrules (Generator.document_of_generate hout hres) hS hta ht hemit
    hfields hlast hτ

def byteIndex : Member :=
  { name := "f", ty := .named Known.hashMap [.named Known.string [] false, .named Known.vec [.named "u8" [] false] false] true }

def holder : Decl where
  name := "crate::Holder"
  typeParams := [{ name := "T" }]
  members := [byteIndex, { name := "g", ty := .var "T" [] false }]

def holderGenerator : Generator := (({} : Generator).registerDecl holder).addRoot holder.name

theorem holderGenerator_field_line :
    holderGenerator.registry.HasBuiltins ∧ holderGenerator.registry.WellFormed ∧
      ∃ out res, holderGenerator.generate = .ok out ∧ holderGenerator.resolve = .ok res ∧
        ∃ t ∈ res.types, t.name = holder.name ∧
          FieldText.InFragment (res.types.map Target.simple) ["T"] byteIndex.ty ∧
          ∃ m ∈ t.members.values, m.name = "f" ∧ m.serialName = none ∧
            ∃ a c, out = a ++ "    f?: \x7b [key: string]: Array<number> \x7d;\n" ++ c := by
  have hb : holderGenerator.registry.HasBuiltins :=
    (Registry.hasBuiltins_withBuiltins.register Registry.wellFormed_withBuiltins holder (by decide)).markRoot _
  have hr : holderGenerator.registry.WellFormed := (Registry.wellFormed_withBuiltins.register holder).markRoot _
  have hSr : holder ∈ holderGenerator.registry.decls := Registry.mem_register_self holder
  obtain ⟨out, hout⟩ : ∃ out, holderGenerator.generate = .ok out :=
    ⟨_, Except.toOption_eq_some.mp (by decide +kernel :
      holderGenerator.generate.toOption = some
        "/* generated @ 0 */\ndeclare module \"NativeTypes\" \x7b\n  interface Holder<T> \x7b\n    f?: \x7b [key: string]: Array<number> \x7d;\n    g: T;\n  \x7d\n\x7d\n")⟩
  have hnames : holderGenerator.resolve.toOption.map (fun res => res.types.map Target.name) =
      some [holder.name] := by decide +kernel
  obtain ⟨res, hres, hnames⟩ := Option.map_eq_some_iff.mp hnames
  obtain ⟨t, ht, hname⟩ : ∃ t ∈ res.types, t.name = holder.name := by
    obtain ⟨t, ht, hname⟩ := List.mem_map.mp (hnames ▸ List.mem_singleton_self holder.name)
    exact ⟨t, ht, hname⟩
  have hscope : res.types.map Target.simple = ["Holder"] := by
    rw [show Target.simple = Path.simple ∘ Target.name from rfl, ← List.map_map, hnames]
    decide +kernel
  have hτ : FieldText.InFragment (res.types.map Target.simple) ["T"] byteIndex.ty :=
    .map (by decide) (.scalar (by decide)) (.sequence (by decide) (.scalar (by decide)))
  have hfields : holder.members = [] ++ byteIndex :: [{ name := "g", ty := .var "T" [] false }] := rfl
  obtain ⟨m, hm, hmn, hms, a, c, hline⟩ := generate_field_line holderGenerator hb hr rfl hout
    (Except.toOption_eq_some.mp hres) hSr rfl ht hname rfl hfields (by decide) hτ
  refine ⟨hb, hr, out, res, hout, Except.toOption_eq_some.mp hres, t, ht, hname, hτ, m, hm, hmn, hms, a, c, ?_⟩
  have hjson : m.jsonName = "f" := by simp [TargetMember.jsonName, hms, hmn, byteIndex]
  -- the line itself is computed: the table writes the map as an index signature
  rw [hline, hjson, hscope]
  congr 2

/-! ### Arguments that share a name -/

def vecMapHolder : Decl where
  name := "crate::Holder"
  members := [{ name := "f", ty := .named Known.hashMap [.named Known.vec [.named "u8" [] false] false,
    .named Known.vec [.named Known.string [] false] false] false }]

/-- Arguments are read by display name, the first with a name winning: the key and the value of
a map from byte vectors to string vectors are both named `Vec`, so the value is written as the
key, `Array<number>`, and not as `Array<string>`. -/
theorem vecMap_value_written_as_key :
    ((({} : Generator).registerDecl vecMapHolder).addRoot vecMapHolder.name).generate =
      .ok "/* generated @ 0 */\ndeclare module \"NativeTypes\" \x7b\n  interface Holder \x7b\n    f: Map<Array<number>, Array<number>>;\n  \x7d\n\x7d\n" :=
  Except.toOption_eq_some.mp (by decide +kernel)

end TypeBridge
