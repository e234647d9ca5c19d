import Inquest.Prompt.Template
import Inquest.Proofs.Text.Casing
import Inquest.Proofs.Text.Search
import Mathlib.Logic.ExistsUnique

/-! # The names of template files

A template's file is named for its tag, its role as it is spelled, and its kind, with underscores
between them (`stemFor`). The kind has no underscore, so the last one stands before it, and the role is
all that is left between it and the tag, underscores and all.

* `splitStem?_eq_some_iff`: the stems that are read, and what is read.
* `normalizeRole_normalizeRole`: a role is normalized once and for all.
* `named_for_role`: a template made from its file's name is for the suspects of its role and kind.
-/

namespace Inquest

/-- Normalizing a role again changes nothing. -/
theorem normalizeRole_normalizeRole (role : String) :
    normalizeRole (normalizeRole role) = normalizeRole role :=
  Text.lowercase_trim_lowercase_trim role

namespace Template

/-- The stem of the file of a role's template. -/
def stemFor (tag role : String) (isCulprit : Bool) : String :=
  tag ++ "_" ++ role ++ "_" ++ if isCulprit then "culprit" else "regular"

variable {tag role : String} {isCulprit : Bool}

theorem toList_stemFor (tag role : String) (isCulprit : Bool) :
    (stemFor tag role isCulprit).toList =
      tag.toList ++ ('_' :: (role.toList ++ '_' :: kindWord isCulprit)) := by
  cases isCulprit <;> simp [stemFor, kindWord]

theorem underscore_not_mem_kindWord : ∀ isCulprit, '_' ∉ kindWord isCulprit := by decide

theorem kindWord_inj : ∀ {k k' : Bool}, kindWord k = kindWord k' → k = k' := by decide

theorem ofKindWord_eq_some_iff {raw raw' kind : List Char} :
    (if kind = kindWord true then some (raw, true)
      else if kind = kindWord false then some (raw, false) else none) = some (raw', isCulprit) ↔
      raw = raw' ∧ kind = kindWord isCulprit := by
  have hne : kindWord true ≠ kindWord false := by decide
  cases isCulprit <;> grind

/-- **What is read of a stem is what it was written from**, the role as it is spelled. -/
theorem splitStem?_eq_some_iff {tag stem raw : List Char} :
    splitStem? tag stem = some (raw, isCulprit) ↔
      raw.all Text.isBlankChar = false ∧
        stem = tag ++ ('_' :: (raw ++ '_' :: kindWord isCulprit)) := by
  constructor
  · intro h
    simp only [splitStem?, Option.bind_eq_bind, Option.bind_eq_some_iff] at h
    obtain ⟨rest, htag, rest', hline, ⟨raw', kind⟩, hsplit, h⟩ := h
    obtain ⟨rfl, -⟩ := Text.splitLast?_eq_some_iff.1 hsplit
    split at h
    · cases h
    · next hraw =>
      obtain ⟨rfl, rfl⟩ := ofKindWord_eq_some_iff.1 h
      refine ⟨Bool.eq_false_iff.2 hraw, ?_⟩
      rw [Text.stripPrefix?_eq_some htag, Text.stripPrefix?_eq_some hline]
      rfl
  · rintro ⟨hraw, rfl⟩
    have hsplit : Text.splitLast? '_' (raw ++ '_' :: kindWord isCulprit) =
        some (raw, kindWord isCulprit) :=
      Text.splitLast?_eq_some_iff.2 ⟨rfl, underscore_not_mem_kindWord isCulprit⟩
    have hline := Text.stripPrefix?_append ['_'] (raw ++ '_' :: kindWord isCulprit)
    simp only [List.singleton_append] at hline
    simp only [splitStem?, Option.bind_eq_bind, Option.bind_some, Text.stripPrefix?_append, hline,
      hsplit, hraw, Bool.false_eq_true, if_false]
    exact ofKindWord_eq_some_iff.2 ⟨rfl, rfl⟩

/-- A stem tells its role and kind. -/
theorem stemFor_inj {role' : String} {isCulprit' : Bool}
    (h : stemFor tag role isCulprit = stemFor tag role' isCulprit') :
    role = role' ∧ isCulprit = isCulprit' := by
  have hchars := congrArg String.toList h
  simp only [toList_stemFor, List.append_cancel_left_eq, List.cons.injEq, true_and] at hchars
  have hsplit : some (role.toList, kindWord isCulprit) =
      some (role'.toList, kindWord isCulprit') := by
    rw [← Text.splitLast?_eq_some_iff.2 ⟨hchars, underscore_not_mem_kindWord isCulprit'⟩]
    exact (Text.splitLast?_eq_some_iff.2 ⟨rfl, underscore_not_mem_kindWord isCulprit⟩).symm
  obtain ⟨hrole, hkind⟩ := Prod.mk.inj (Option.some.inj hsplit)
  exact ⟨String.toList_inj.1 hrole, kindWord_inj hkind⟩

/-- The stems that are read, and what is read of them. -/
theorem ofStem?_eq_some_iff {stem : String} :
    ofStem? tag stem = some (role, isCulprit) ↔
      ∃ raw, Text.isBlank raw = false ∧ stem = stemFor tag raw isCulprit ∧
        role = normalizeRole raw := by
  rw [ofStem?, Option.map_eq_some_iff]
  constructor
  · rintro ⟨⟨raw, k⟩, hread, heq⟩
    obtain ⟨rfl, rfl⟩ := Prod.mk.inj heq
    obtain ⟨hraw, hstem⟩ := splitStem?_eq_some_iff.1 hread
    refine ⟨String.ofList raw, ?_, String.toList_inj.1 ?_, rfl⟩
    · rw [Text.isBlank, String.toList_ofList, hraw]
    · rw [hstem, toList_stemFor, String.toList_ofList]
  · rintro ⟨raw, hraw, rfl, rfl⟩
    refine ⟨(raw.toList, isCulprit), splitStem?_eq_some_iff.2 ⟨hraw, toList_stemFor ..⟩, ?_⟩
    simp only [String.ofList_toList]

/-- A template made from its file's name is for whoever has its role, however it is spelled. -/
theorem isFor_mk? {raw asked name possessions text : String} {guilty : Bool} {t : Template}
    (h : mk? (normalizeRole raw) isCulprit text = .ok t) :
    t.isFor { Profile.new name asked possessions with isCulprit := guilty } = true ↔
      isCulprit = guilty ∧ normalizeRole raw = normalizeRole asked := by
  rw [text_mk? h, normalizeRole_normalizeRole]
  simp [isFor, Profile.new]

/-- **The names of template files and the roles of suspects fit together.** A stem is read just where it
is the tag, a role and a kind with underscores between them, and the role, whatever underscores it has,
is the only one it can be read as. The template made from what was read is for the suspects of
its kind who have the role, whichever way the two are spelled. -/
theorem named_for_role (tag : String) :
    (∀ stem role isCulprit, ofStem? tag stem = some (role, isCulprit) ↔
      ∃! raw, Text.isBlank raw = false ∧ stem = stemFor tag raw isCulprit ∧
        role = normalizeRole raw) ∧
    (∀ raw isCulprit raw' isCulprit', stemFor tag raw isCulprit = stemFor tag raw' isCulprit' →
      raw = raw' ∧ isCulprit = isCulprit') ∧
    ∀ raw isCulprit text, Text.isBlank raw = false → Text.isBlank text = false →
      ∃ role t, ofStem? tag (stemFor tag raw isCulprit) = some (role, isCulprit) ∧
        mk? role isCulprit text = .ok t ∧
        ∀ name asked possessions guilty,
          t.isFor { Profile.new name asked possessions with isCulprit := guilty } = true ↔
            isCulprit = guilty ∧
              Text.lowercase (Text.trim raw) = Text.lowercase (Text.trim asked) := by
  refine ⟨fun stem role isCulprit => ?_, fun raw isCulprit raw' isCulprit' => stemFor_inj,
    fun raw isCulprit text hraw htext => ?_⟩
  · rw [ofStem?_eq_some_iff]
    constructor
    · rintro ⟨raw, hraw, hstem, hrole⟩
      refine ⟨raw, ⟨hraw, hstem, hrole⟩, ?_⟩
      rintro raw' ⟨-, hstem', -⟩
      exact (stemFor_inj (hstem'.symm.trans hstem)).1
    · rintro ⟨raw, hread, -⟩
      exact ⟨raw, hread⟩
  · have hmade : mk? (normalizeRole raw) isCulprit text =
        .ok ⟨normalizeRole (normalizeRole raw), isCulprit, text⟩ := by
      rw [mk?, if_neg (by rw [htext]; exact Bool.false_ne_true)]
    exact ⟨_, _, ofStem?_eq_some_iff.2 ⟨raw, hraw, rfl, rfl⟩, hmade,
      fun _ _ _ _ => isFor_mk? hmade⟩

/-- A role with underscores, a kind's word and a final sigma in it, spelled in two ways. -/
theorem named_for_role_underscored :
    (∃ role t, ofStem? "instr" "instr__culprit_ΣΟΦΟΣ _regular" = some (role, false) ∧
      mk? role false "Hide it." = .ok t ∧
      t.isFor { Profile.new "Rosa" "\t_CULPRIT_σοφος" "" with isCulprit := false } = true ∧
      t.isFor { Profile.new "Rosa" "_CULPRIT_σοφοσ" "" with isCulprit := false } = false) ∧
    stemFor "instr" "_culprit_ΣΟΦΟΣ " false = "instr__culprit_ΣΟΦΟΣ _regular" := by
  have hstem : stemFor "instr" "_culprit_ΣΟΦΟΣ " false = "instr__culprit_ΣΟΦΟΣ _regular" := by
    decide +kernel
  obtain ⟨role, t, hread, hmade, hfor⟩ :=
    (named_for_role "instr").2.2 "_culprit_ΣΟΦΟΣ " false "Hide it." (by decide) (by decide)
  refine ⟨⟨role, t, hstem ▸ hread, hmade, (hfor _ _ _ _).2 ⟨rfl, by decide +kernel⟩, ?_⟩, hstem⟩
  rw [Bool.eq_false_iff]
  intro h
  exact absurd ((hfor _ _ _ _).1 h).2 (by decide +kernel)

end Template

end Inquest
