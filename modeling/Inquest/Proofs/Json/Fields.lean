import Inquest.Json.Basic

/-! # Fields by name

The fields of generic data are put in their places one after the other, each next to its neighbours
by name. What one insertion keeps, the whole list keeps (`ofFields_induction`).

* `pairwise_ofFields`: the names are sorted, each once.
* `lookup_ofFields`: of several fields with one name, the last is kept.
* `ofFields_of_pairwise`: sorted fields stay as they are.
-/

namespace Inquest.Json

/-! ## One field -/

/-- A field put in its place keeps the names sorted. -/
theorem pairwise_insertField (key : String) (value : Json) {fields : List (String × Json)}
    (h : (fields.map Prod.fst).Pairwise (· < ·)) :
    ((insertField key value fields).map Prod.fst).Pairwise (· < ·) := by
  induction fields with
  | nil => exact List.pairwise_singleton _ _
  | cons f rest ih =>
    obtain ⟨k, v⟩ := f
    rw [List.map_cons, List.pairwise_cons] at h
    unfold insertField
    split
    · next heq =>
      subst heq
      exact List.pairwise_cons.2 h
    · next hne =>
      split
      · next hlt =>
        refine List.pairwise_cons.2 ⟨fun n hn => ?_, List.pairwise_cons.2 h⟩
        rcases List.mem_cons.1 hn with rfl | hn
        · exact hlt
        · exact String.lt_trans hlt (h.1 n hn)
      · next hlt =>
        have hgt : k < key := Decidable.not_not.1 fun hnot =>
          hne (String.le_antisymm (String.not_lt.1 hnot) (String.not_lt.1 hlt))
        refine List.pairwise_cons.2 ⟨fun n hn => ?_, ih h.2⟩
        rcases (insertField_names key value rest n).1 hn with rfl | hn
        · exact hgt
        · exact h.1 n hn

theorem mem_insertField {key : String} {value : Json} {fields : List (String × Json)}
    {f : String × Json} (h : f ∈ insertField key value fields) : f = (key, value) ∨ f ∈ fields := by
  induction fields with
  | nil => exact .inl (List.mem_singleton.1 h)
  | cons g rest ih =>
    obtain ⟨k, v⟩ := g
    unfold insertField at h
    split at h
    · rcases List.mem_cons.1 h with rfl | h
      · exact .inl rfl
      · exact .inr (List.mem_cons_of_mem _ h)
    · split at h
      · rcases List.mem_cons.1 h with rfl | h
        · exact .inl rfl
        · exact .inr h
      · rcases List.mem_cons.1 h with rfl | h
        · exact .inr List.mem_cons_self
        · rcases ih h with rfl | h
          · exact .inl rfl
          · exact .inr (List.mem_cons_of_mem _ h)

theorem lookup_insertField (key : String) (value : Json) (fields : List (String × Json))
    (name : String) :
    (insertField key value fields).lookup name =
      ([(key, value)].lookup name).or (fields.lookup name) := by
  induction fields with
  | nil => simp [insertField]
  | cons f rest ih =>
    obtain ⟨k, v⟩ := f
    unfold insertField
    split
    · next heq =>
      subst heq
      simp only [List.lookup_cons]
      cases name == key <;> rfl
    · next hne =>
      split
      · simp only [List.lookup_cons]
        cases name == key <;> rfl
      · simp only [List.lookup_cons, ih]
        cases hname : name == key with
        | false => cases name == k <;> rfl
        | true =>
          rw [beq_iff_eq] at hname
          subst hname
          rw [beq_false_of_ne hne]

theorem insertField_last {key : String} {fields : List (String × Json)} (value : Json)
    (h : ∀ n ∈ fields.map Prod.fst, n < key) :
    insertField key value fields = fields ++ [(key, value)] := by
  induction fields with
  | nil => rfl
  | cons f rest ih =>
    obtain ⟨k, v⟩ := f
    have hk : k < key := h k List.mem_cons_self
    have hne : key ≠ k := by
      rintro rfl
      exact String.lt_irrefl _ hk
    rw [insertField, if_neg hne, if_neg (String.lt_asymm hk),
      ih fun n hn => h n (List.mem_cons_of_mem _ hn)]
    rfl

/-! ## All fields -/

/-- What inserting a field keeps, putting fields in their places keeps. -/
theorem ofFields_induction {P : List (String × Json) → List (String × Json) → Prop}
    (hnil : P [] [])
    (hinsert : ∀ before sorted f, P before sorted →
      P (before ++ [f]) (insertField f.1 f.2 sorted)) (fields : List (String × Json)) :
    P fields (ofFields fields) := by
  have hfold : ∀ rest before sorted, P before sorted →
      P (before ++ rest) (rest.foldl (fun sorted f => insertField f.1 f.2 sorted) sorted) := by
    intro rest
    induction rest with
    | nil => exact fun before sorted h => (List.append_nil before).symm ▸ h
    | cons f rest ih =>
      intro before sorted h
      have hrest := ih (before ++ [f]) _ (hinsert before sorted f h)
      rwa [List.append_assoc] at hrest
  exact hfold fields [] [] hnil

/-- The fields of generic data are sorted by name. -/
theorem pairwise_ofFields (fields : List (String × Json)) :
    ((ofFields fields).map Prod.fst).Pairwise (· < ·) :=
  ofFields_induction (P := fun _ sorted => (sorted.map Prod.fst).Pairwise (· < ·)) .nil
    (fun _ _ f h => pairwise_insertField f.1 f.2 h) fields

theorem mem_ofFields {fields : List (String × Json)} {f : String × Json}
    (h : f ∈ ofFields fields) : f ∈ fields := by
  refine ofFields_induction (P := fun before sorted => ∀ g ∈ sorted, g ∈ before)
    (List.forall_mem_nil _) (fun before sorted f hsorted g hg => ?_) fields f h
  rcases mem_insertField hg with rfl | hg
  · exact List.mem_concat_self
  · exact List.mem_append_left _ (hsorted g hg)

/-- **Of several fields with one name the last is kept.** -/
theorem lookup_ofFields (fields : List (String × Json)) (name : String) :
    (ofFields fields).lookup name = fields.reverse.lookup name := by
  refine ofFields_induction
    (P := fun before sorted => sorted.lookup name = before.reverse.lookup name) rfl
    (fun before sorted f h => ?_) fields
  rw [lookup_insertField, h, List.reverse_append, List.reverse_singleton, List.lookup_append]

/-- Fields sorted by name are in their places. -/
theorem ofFields_of_pairwise {fields : List (String × Json)}
    (h : (fields.map Prod.fst).Pairwise (· < ·)) : ofFields fields = fields := by
  refine ofFields_induction (P := fun before sorted =>
    (before.map Prod.fst).Pairwise (· < ·) → sorted = before) (fun _ => rfl)
    (fun before sorted f hsorted hpairwise => ?_) fields h
  rw [List.map_append, List.pairwise_append] at hpairwise
  obtain ⟨hbefore, -, hlast⟩ := hpairwise
  rw [hsorted hbefore, insertField_last]
  exact fun n hn => hlast n hn f.1 (List.mem_singleton_self _)

end Inquest.Json
