import Mathlib.Tactic.SplitIfs
import QueryWatch.Text.Utf8

/-!
# ASCII among UTF-8

A byte below 0x80 stands for the character of the same number wherever it occurs, and
for nothing else. The encoder writes longer characters with bytes that all have their top
bit set. The decoder expects such bytes alone inside of a character, so an ASCII byte
ends what came before it and is read on its own, and no sequence that is completed stands
for an ASCII character.
-/
namespace QueryWatch.Utf8

theorem utf8EncodeChar_of_small {c : Char} (small : c.toNat ≤ 0x7f) :
    String.utf8EncodeChar c = [UInt8.ofNat c.toNat] :=
  if_pos small

theorem high_of_mem_utf8EncodeChar {c : Char} {b : UInt8} (wide : 0x7f < c.toNat)
    (member : b ∈ String.utf8EncodeChar c) : 0x80 ≤ b.toNat := by
  simp only [String.utf8EncodeChar, Char.toNat_val, if_neg (Nat.not_le.2 wide)] at member
  split_ifs at member
  all_goals
    simp only [List.mem_cons, List.not_mem_nil, or_false] at member
    rcases member with rfl | rfl | rfl | rfl <;> simp only [UInt8.toNat_ofNat'] <;> omega

/-- What is expected inside a character is no ASCII byte, and completes no ASCII
character. -/
def State.Wide : State → Prop
  | .between => True
  | .inside bits low _ further =>
    0x80 ≤ low.toNat ∧ (if further = 0 then 0x80 else 2) ≤ bits * 64 + (low.toNat - 0x80)

theorem start_wide (b : UInt8) : (start b).2.Wide := by
  unfold start
  split_ifs <;> simp_all [State.Wide, UInt8.le_iff_toNat_le] <;> omega

/-- A byte that fits leaves bits enough for a character that is not ASCII. -/
theorem extended_wide {bits further : Nat} {low high b : UInt8}
    (wide : (State.inside bits low high further).Wide) (fits : low ≤ b) :
    (if further = 0 then 0x80 else 2) ≤ bits * 64 + (b.toNat - 0x80) := by
  have least := UInt8.le_iff_toNat_le.1 fits
  exact Nat.le_trans wide.2 (by omega)

theorem step_wide {state : State} (wide : state.Wide) (b : UInt8) : (step state b).2.Wide := by
  cases state with
  | between => exact start_wide b
  | inside bits low high further =>
    simp only [step, Bool.and_eq_true, decide_eq_true_eq]
    split_ifs with fits
    · have extended := extended_wide wide fits.1
      cases further with
      | zero => trivial
      | succ n =>
        simp only [Nat.succ_ne_zero, if_false] at extended
        refine ⟨Nat.le_refl _, ?_⟩
        split_ifs <;> omega
    · exact start_wide b

end QueryWatch.Utf8
