import Inquest.Text.Utf8

/-! # An ASCII byte at the end of bytes

An ASCII byte is never part of a longer character, so at the end of any bytes, decodable or not, it
stands for itself.

* `run_mend_concat`: the same in the middle of a character, by the cases of the decoding machine.
* `decodeLossy_concat_ascii`: bytes and an ASCII byte decode to the text of the bytes and a character.
-/

namespace Inquest.Text.Utf8

/-- What starts a character without finishing it waits for a byte that is not ASCII. -/
theorem low_of_start {b : UInt8} {p : Partial} (h : start b = .opens p) : 0x80 ≤ p.low := by
  unfold start at h
  simp only at h
  grind

/-- An undecodable piece replaced. -/
def mend (s : List Char) : Option (List Char) := some (replacement :: s)

/-- An ASCII byte after any bytes ends the character that they left unfinished, if they left one, and
stands for itself. -/
theorem run_mend_concat {b : UInt8} (hb : b.toNat < 0x80) (p : Option Partial)
    (bytes : List UInt8) :
    (∀ q ∈ p, 0x80 ≤ q.low) → ∃ s, run mend p bytes = some s ∧
      run mend p (bytes ++ [b]) = some (s ++ [Char.ofNat b.toNat]) := by
  have hstart : start b = .whole (Char.ofNat b.toNat) := by simp [start, hb]
  have hnone : ∀ q ∈ (none : Option Partial), 0x80 ≤ q.low := by
    intro q hq
    cases hq
  fun_induction run mend p bytes with intro hp
  | case1 => exact ⟨[], rfl, by simp [run, hstart]⟩
  | case2 q =>
    have hq : 0x80 ≤ q.low := hp q rfl
    -- an ASCII byte does not continue a character, so it ends the piece and is read by itself
    have hlow : ¬ (q.low ≤ b.toNat ∧ b.toNat ≤ q.high) := by omega
    exact ⟨[replacement], rfl, by simp [run, hstart, hlow, mend]⟩
  -- in the other cases the byte comes at the end of what the machine reads next
  | case3 first bs c hc ih =>
    obtain ⟨s, hs, hs'⟩ := ih hnone
    exact ⟨c :: s, by simp [hs], by simp [run, hc, hs']⟩
  | case4 first bs q hq ih =>
    obtain ⟨s, hs, hs'⟩ := ih fun r hr => by cases hr; exact low_of_start hq
    exact ⟨s, hs, by simp [run, hq, hs']⟩
  | case5 first bs hrefused ih =>
    obtain ⟨s, hs, hs'⟩ := ih hnone
    exact ⟨replacement :: s, by simp [hs, mend], by simp [run, hrefused, hs', mend]⟩
  | case6 q first bs hfits bits hdue ih =>
    obtain ⟨s, hs, hs'⟩ := ih hnone
    exact ⟨Char.ofNat bits :: s, by simp [hs], by simp [run, hfits, hdue, hs', bits]⟩
  | case7 q first bs hfits bits hdue ih =>
    obtain ⟨s, hs, hs'⟩ := ih hnone
    exact ⟨Char.ofNat bits :: s, by simp [hs], by simp [run, hfits, hdue, hs', bits]⟩
  | case8 q first bs hfits bits due hdue ih =>
    obtain ⟨s, hs, hs'⟩ := ih fun r hr => by cases hr; exact Nat.le_refl _
    exact ⟨s, hs, by simp [run, hfits, hdue, hs', bits]⟩
  | case9 q first bs hfits c hc ih =>
    obtain ⟨s, hs, hs'⟩ := ih hnone
    exact ⟨replacement :: c :: s, by simp [hs, mend], by simp [run, hfits, hc, hs', mend]⟩
  | case10 q first bs hfits next hnext ih =>
    obtain ⟨s, hs, hs'⟩ := ih fun r hr => by cases hr; exact low_of_start hnext
    exact ⟨replacement :: s, by simp [hs, mend], by simp [run, hfits, hnext, hs', mend]⟩
  | case11 q first bs hfits hrefused ih =>
    obtain ⟨s, hs, hs'⟩ := ih hnone
    exact ⟨replacement :: replacement :: s, by simp [hs, mend],
      by simp [run, hfits, hrefused, hs', mend]⟩

/-- An ASCII byte at the end stands for itself. -/
theorem decodeLossy_concat_ascii {b : UInt8} (hb : b.toNat < 0x80) (bytes : List UInt8) :
    decodeLossy (bytes ++ [b]) = decodeLossy bytes ++ [Char.ofNat b.toNat] := by
  obtain ⟨s, hs, hs'⟩ := run_mend_concat hb none bytes (by intro q hq; cases hq)
  unfold decodeLossy
  change (run mend none _).getD [] = (run mend none _).getD [] ++ _
  rw [hs, hs']
  rfl

end Inquest.Text.Utf8
