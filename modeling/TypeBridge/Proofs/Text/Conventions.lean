import TypeBridge.Text.Case
import TypeBridge.Source.Attrs
import Mathlib.Data.List.Basic
/-!
# Field and variant names agree under each convention

On canonical snake_case names, PascalCase and back gives the name again
(`snakeOfPascal_pascalOfSnake`), so a container's `rename_all` gives a field and the variant named
by its PascalCase form the same serialized name (`canonicalSnake_conventions_agree`). The round
trip needs a letter at the start of each word: `a_1b` comes back as `a1b`.
-/

namespace TypeBridge.Text

def isSnakeWord : List Char → Bool
  | [] => false
  | c :: rest => c.isLower && rest.all fun d => d.isLower || d.isDigit

def isCanonicalSnake (f : String) : Bool :=
  (f.toList.splitOn '_').all isSnakeWord

def capitalize : List Char → List Char
  | [] => []
  | c :: rest => c.toUpper :: rest

def snakeStep (ch : Char) : List Char :=
  if isUppercase ch then ['_', ch.toLower] else [ch.toLower]

theorem snakeOfPascal_ofList (c : Char) (rest : List Char) :
    snakeOfPascal (String.ofList (c :: rest)) = String.ofList (c.toLower :: rest.flatMap snakeStep) := by
  simp only [snakeOfPascal, String.toList_ofList]
  rfl

/-! ### Characters of a snake_case word -/

theorem forall_of_toNat_range (P : Char → Prop) (lo k : Nat) (h : ∀ n < k, P (Char.ofNat (lo + n)))
    {c : Char} (hc : lo ≤ c.toNat ∧ c.toNat < lo + k) : P c := by
  have := h (c.toNat - lo) (by omega)
  rwa [show lo + (c.toNat - lo) = c.toNat by omega, Char.ofNat_toNat] at this

theorem toNat_range_of_isLower {c : Char} (hc : c.isLower = true) : 97 ≤ c.toNat ∧ c.toNat < 97 + 26 := by
  -- `Char.isLower` is read by `change`: unfolding it with `simp` makes an equation lemma here
  change (c.val ≥ 'a'.val && c.val ≤ 'z'.val) = true at hc
  have h : 'a'.val.toNat ≤ c.val.toNat ∧ c.val.toNat ≤ 'z'.val.toNat := by
    simpa only [Bool.and_eq_true, decide_eq_true_eq, UInt32.le_iff_toNat_le] using hc
  exact ⟨h.1, Nat.lt_succ_of_le h.2⟩

theorem toNat_range_of_isDigit {c : Char} (hc : c.isDigit = true) : 48 ≤ c.toNat ∧ c.toNat < 48 + 10 := by
  have h := Char.isDigit_iff_toNat.1 hc
  exact ⟨h.1, Nat.lt_succ_of_le h.2⟩

theorem snakeStep_of_wordChar {d : Char} (hd : (d.isLower || d.isDigit) = true) :
    d ≠ '_' ∧ snakeStep d = [d] := by
  rcases Bool.or_eq_true_iff.1 hd with hd | hd
  · exact forall_of_toNat_range (fun d => d ≠ '_' ∧ snakeStep d = [d]) 97 26 (by decide)
      (toNat_range_of_isLower hd)
  · exact forall_of_toNat_range (fun d => d ≠ '_' ∧ snakeStep d = [d]) 48 10 (by decide)
      (toNat_range_of_isDigit hd)

theorem snakeStep_toUpper {c : Char} (hc : c.isLower = true) : snakeStep c.toUpper = ['_', c] :=
  forall_of_toNat_range (fun c => snakeStep c.toUpper = ['_', c]) 97 26 (by decide)
    (toNat_range_of_isLower hc)

theorem toLower_toUpper_of_isLower {c : Char} (hc : c.isLower = true) : c ≠ '_' ∧ c.toUpper.toLower = c :=
  forall_of_toNat_range (fun c => c ≠ '_' ∧ c.toUpper.toLower = c) 97 26 (by decide)
    (toNat_range_of_isLower hc)

theorem ne_underscore_of_isSnakeWord {w : List Char} (hw : isSnakeWord w = true) : ∀ d ∈ w, d ≠ '_' := by
  obtain _ | ⟨c, rest⟩ := w
  · simp [isSnakeWord] at hw
  · simp only [isSnakeWord, Bool.and_eq_true, List.all_eq_true] at hw
    rintro d (_ | ⟨_, hd⟩)
    · exact (toLower_toUpper_of_isLower hw.1).1
    · exact (snakeStep_of_wordChar (hw.2 d hd)).1

/-! ### PascalCase of a snake_case name -/

theorem pascalOfSnake_go_append {r : List Char} (hr : ∀ d ∈ r, d ≠ '_') (tail : List Char) :
    pascalOfSnake.go (r ++ tail) false = r ++ pascalOfSnake.go tail false := by
  induction r with
  | nil => rfl
  | cons d r ih =>
    have hd : (d == '_') = false := beq_false_of_ne (hr d List.mem_cons_self)
    simp only [List.cons_append, pascalOfSnake.go, hd, Bool.false_eq_true, if_false,
      ih fun d' h => hr d' (List.mem_cons_of_mem d h)]

theorem pascalOfSnake_go_word {w : List Char} (hw : ∀ d ∈ w, d ≠ '_') (tail : List Char) :
    pascalOfSnake.go (w ++ tail) true = capitalize w ++ pascalOfSnake.go tail w.isEmpty := by
  obtain _ | ⟨c, r⟩ := w
  · rfl
  · have hc : (c == '_') = false := beq_false_of_ne (hw c List.mem_cons_self)
    simp only [List.cons_append, pascalOfSnake.go, hc, Bool.false_eq_true, if_false, if_true,
      pascalOfSnake_go_append (fun d h => hw d (List.mem_cons_of_mem c h)), capitalize,
      List.isEmpty_cons]

/-- PascalCase of words joined by underscores is the words, each capitalised, one after another. -/
theorem pascalOfSnake_go_intercalate :
    ∀ ws : List (List Char), (∀ w ∈ ws, ∀ d ∈ w, d ≠ '_') →
      pascalOfSnake.go (['_'].intercalate ws) true = ws.flatMap capitalize
  | [], _ => rfl
  | [w], h => by simpa [pascalOfSnake.go] using pascalOfSnake_go_word (h w List.mem_cons_self) []
  | w :: w' :: ws, h => by
    rw [List.intercalate_cons_cons, List.append_assoc, List.singleton_append,
      pascalOfSnake_go_word (h w List.mem_cons_self)]
    -- the underscore after a word starts the next one, whatever the word was
    show capitalize w ++ pascalOfSnake.go (['_'].intercalate (w' :: ws)) true = _
    rw [pascalOfSnake_go_intercalate (w' :: ws) fun v hv => h v (List.mem_cons_of_mem w hv)]
    exact List.flatMap_cons.symm

/-! ### snake_case of a PascalCase name -/

theorem flatMap_snakeStep_of_wordChars {r : List Char} (hr : ∀ d ∈ r, (d.isLower || d.isDigit) = true) :
    r.flatMap snakeStep = r := calc
  r.flatMap snakeStep = r.flatMap fun d => [d] :=
    List.flatMap_congr fun d hd => (snakeStep_of_wordChar (hr d hd)).2
  _ = r := List.flatMap_singleton' r

/-- Snake_case of a capitalised word after the first is an underscore and the word. -/
theorem flatMap_snakeStep_capitalize {w : List Char} (hw : isSnakeWord w = true) :
    (capitalize w).flatMap snakeStep = '_' :: w := by
  obtain _ | ⟨c, rest⟩ := w
  · simp [isSnakeWord] at hw
  · simp only [isSnakeWord, Bool.and_eq_true, List.all_eq_true] at hw
    simp [capitalize, snakeStep_toUpper hw.1, flatMap_snakeStep_of_wordChars hw.2]

theorem intercalate_eq_append_flatMap (w : List Char) :
    ∀ ws : List (List Char), ['_'].intercalate (w :: ws) = w ++ ws.flatMap ('_' :: ·)
  | [] => by simp
  | w' :: ws => by
    rw [List.intercalate_cons_cons, intercalate_eq_append_flatMap w' ws]
    simp

/-- Snake_case undoes PascalCase on a canonical snake_case name. -/
theorem snakeOfPascal_pascalOfSnake {f : String} (hf : isCanonicalSnake f = true) :
    snakeOfPascal (pascalOfSnake f) = f := by
  have hwords : ∀ w ∈ f.toList.splitOn '_', isSnakeWord w = true := List.all_eq_true.1 hf
  have hsplit : ['_'].intercalate (f.toList.splitOn '_') = f.toList := List.intercalate_splitOn '_'
  -- the first word starts the name, and each other word follows an underscore
  rcases hws : f.toList.splitOn '_' with _ | ⟨_ | ⟨c, rest⟩, ws⟩
  · exact absurd hws (List.splitOn_ne_nil _ _)
  · simp [hws, isSnakeWord] at hwords
  rw [hws] at hwords hsplit
  have hfirst := hwords _ List.mem_cons_self
  simp only [isSnakeWord, Bool.and_eq_true, List.all_eq_true] at hfirst
  have htail : (ws.flatMap capitalize).flatMap snakeStep = ws.flatMap ('_' :: ·) := by
    rw [List.flatMap_assoc]
    exact List.flatMap_congr fun w hw => flatMap_snakeStep_capitalize (hwords w (List.mem_cons_of_mem _ hw))
  calc snakeOfPascal (pascalOfSnake f)
      = snakeOfPascal (String.ofList (c.toUpper :: (rest ++ ws.flatMap capitalize))) := by
        rw [pascalOfSnake, ← hsplit,
          pascalOfSnake_go_intercalate _ fun w hw => ne_underscore_of_isSnakeWord (hwords w hw)]
        rfl
    _ = String.ofList (c :: rest ++ ws.flatMap ('_' :: ·)) := by
        rw [snakeOfPascal_ofList, List.flatMap_append, flatMap_snakeStep_of_wordChars hfirst.2, htail,
          (toLower_toUpper_of_isLower hfirst.1).2, List.cons_append]
    _ = f := by rw [← intercalate_eq_append_flatMap, hsplit, String.ofList_toList]

/-- Under every convention but lowercase and UPPERCASE, the variant named by a canonical snake_case
field name in PascalCase is written as the field is. -/
theorem variantName_pascalOfSnake {f : String} (hf : isCanonicalSnake f = true) {r : CaseRule}
    (hr : r ∈ [CaseRule.snake, .camel, .pascal, .screamingSnake, .kebab, .screamingKebab]) :
    r.variantName (pascalOfSnake f) = r.fieldName f := by
  have h := snakeOfPascal_pascalOfSnake hf
  cases r with
  | lower | upper => simp at hr
  | pascal | camel => rfl
  | snake | screamingSnake | kebab | screamingKebab =>
    simp only [CaseRule.variantName, CaseRule.fieldName, h]

end TypeBridge.Text

namespace TypeBridge.Source

open Text

theorem ContainerAttrs.rename_getD {c : ContainerAttrs} {rule : String} {r : CaseRule}
    (hc : c.renameAll = some rule) (hr : CaseRule.ofName? rule = some r) (name : String) (variant : Bool) :
    (c.rename name variant).getD name = if variant then r.variantName name else r.fieldName name := by
  simp only [ContainerAttrs.rename, hc, hr, Option.bind_some]
  by_cases h : (if variant then r.variantName name else r.fieldName name) = name <;> simp [h]

/-- A canonical snake_case field name and the variant named by it in PascalCase correspond under
the six conventions that go through snake_case or PascalCase: snake_case writes the variant as
the field's name, each of the six writes the two alike, and so a container with one of them as
its `rename_all` gives the field and the variant the same serialized name. -/
theorem canonicalSnake_conventions_agree {f : String} (hf : isCanonicalSnake f = true) :
    CaseRule.snake.variantName (CaseRule.pascal.fieldName f) = f ∧
    (∀ r ∈ [CaseRule.snake, .camel, .pascal, .screamingSnake, .kebab, .screamingKebab],
      r.variantName (CaseRule.pascal.fieldName f) = r.fieldName f) ∧
    ∀ (c : ContainerAttrs) rule, c.renameAll = some rule →
      rule ∈ ["snake_case", "camelCase", "PascalCase", "SCREAMING_SNAKE_CASE", "kebab-case",
        "SCREAMING-KEBAB-CASE"] →
      (c.rename (CaseRule.pascal.fieldName f) true).getD (CaseRule.pascal.fieldName f) =
        (c.rename f false).getD f := by
  refine ⟨snakeOfPascal_pascalOfSnake hf, fun r hr => variantName_pascalOfSnake hf hr, ?_⟩
  intro c rule hc hrule
  obtain ⟨r, hr, hname⟩ : ∃ r ∈ [CaseRule.snake, .camel, .pascal, .screamingSnake, .kebab, .screamingKebab],
      CaseRule.ofName? rule = some r := by
    simp only [List.mem_cons, List.not_mem_nil, or_false] at hrule
    rcases hrule with rfl | rfl | rfl | rfl | rfl | rfl <;> exact ⟨_, by simp, rfl⟩
  rw [ContainerAttrs.rename_getD hc hname, ContainerAttrs.rename_getD hc hname, if_pos rfl,
    if_neg Bool.false_ne_true]
  exact variantName_pascalOfSnake hf hr

-- a word that starts with a digit loses its underscore
example : snakeOfPascal (pascalOfSnake "a_1b") = "a1b" := by decide

theorem createdAt2_conventions_agree :
    isCanonicalSnake "created_at2" = true ∧
    (CaseRule.snake.variantName (CaseRule.pascal.fieldName "created_at2") = "created_at2" ∧
    (∀ r ∈ [CaseRule.snake, .camel, .pascal, .screamingSnake, .kebab, .screamingKebab],
      r.variantName (CaseRule.pascal.fieldName "created_at2") = r.fieldName "created_at2") ∧
    ∀ (c : ContainerAttrs) rule, c.renameAll = some rule →
      rule ∈ ["snake_case", "camelCase", "PascalCase", "SCREAMING_SNAKE_CASE", "kebab-case",
        "SCREAMING-KEBAB-CASE"] →
      (c.rename (CaseRule.pascal.fieldName "created_at2") true).getD (CaseRule.pascal.fieldName "created_at2") =
        (c.rename "created_at2" false).getD "created_at2") :=
  ⟨by decide, canonicalSnake_conventions_agree (by decide)⟩

end TypeBridge.Source
