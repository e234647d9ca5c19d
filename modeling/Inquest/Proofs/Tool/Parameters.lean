import Inquest.Proofs.Json.Generic
import Inquest.Tool.Parameters

/-! # Arguments are sorted

Arguments are kept sorted by name, each name once (`Sorted`).

* `sorted_parse`: the arguments that are read from a call are sorted.
* `insert_last`: an argument whose name comes last is put at the end.
-/

namespace Inquest

namespace Parameters

/-- Sorted by name, each name once. -/
def Sorted (p : Parameters) : Prop := (p.map Prod.fst).Pairwise (· < ·)

/-- An argument whose name comes last is put at the end. -/
theorem insert_last {p : Parameters} {name : String} (value : Scalar)
    (h : ∀ n ∈ p.map Prod.fst, n < name) : p.insert name value = p ++ [(name, value)] := by
  induction p with
  | nil => rfl
  | cons f p ih =>
    obtain ⟨n, v⟩ := f
    have hn : n < name := h n List.mem_cons_self
    have hne : name ≠ n := by
      rintro rfl
      exact String.lt_irrefl _ hn
    rw [insert, if_neg hne, if_neg (String.lt_asymm hn),
      ih fun m hm => h m (List.mem_cons_of_mem _ hm)]
    rfl

theorem sorted_ofFields {fields : List (String × Json)}
    (h : (fields.map Prod.fst).Pairwise (· < ·)) : (ofFields fields).Sorted := by
  have hsub : List.Sublist ((ofFields fields).map Prod.fst) (fields.map Prod.fst) := by
    induction fields with
    | nil => exact .slnil
    | cons f fields ih =>
      obtain ⟨n, j⟩ := f
      have hrest := ih (List.pairwise_cons.1 h).2
      rcases hkeep : keep j with _ | v
      · rw [show ofFields ((n, j) :: fields) = ofFields fields by simp [ofFields, hkeep]]
        exact hrest.cons n
      · rw [show ofFields ((n, j) :: fields) = (n, v) :: ofFields fields by simp [ofFields, hkeep]]
        exact hrest.cons_cons n
  exact h.sublist hsub

/-- **The arguments of a call are sorted.** -/
theorem sorted_parse {arguments : String} {p : Parameters} (h : parse arguments = .ok p) :
    p.Sorted := by
  unfold parse at h
  split at h
  · cases h
    exact .nil
  · split at h
    · next fields hparse =>
      cases h
      exact sorted_ofFields (Json.fits_of_parse hparse).normal.2.1
    · cases h
    · cases h

end Parameters

end Inquest
