import Mathlib.Tactic.Common
import VirtualTerminal.Proofs.Timer.Runs

/-!
# Moving the clock in steps

A move of the clock may be made in steps. A step leaves the clock later than the last firing does,
but the next timer to fire puts it at the same time either way (`Queue.pop?_settle`), so no script
that fires can tell the difference.
-/

namespace VirtualTerminal.Script

variable {σ : Type u} {s s₁ s₂ : State σ} {a b n m : Nat}

/-- A move of the clock in two steps is one move. -/
theorem Runs.advance_trans (hab : a ≤ b) {xs ys} (h₁ : Runs (.advance a) s (.number n) xs s₁)
    (h₂ : Runs (.advance b) s₁ (.number m) ys s₂) :
    ∃ zs, Runs (.advance b) s (.number (n + m)) zs s₂ := by
  generalize hw : Work.advance a = w at h₁
  generalize hr : Reply.number n = r at h₁
  induction h₁ generalizing n with
  | @arrive a' s hpop =>
    cases hw
    cases hr
    rw [Nat.zero_add]
    cases h₂ with
    | arrive hpop' =>
      rw [Queue.pop?_settle hpop] at hpop'
      rw [Queue.settle_settle _ hab]
      exact ⟨_, .arrive hpop'⟩
    | fire hpop' hscript hrest =>
      rw [Queue.pop?_settle hpop] at hpop'
      exact ⟨_, .fire hpop' hscript hrest⟩
  | @fire a' k _ _ _ _ _ _ _ _ hpop hscript _ _ ih =>
    cases hw
    cases hr
    obtain ⟨zs, hzs⟩ := ih h₂ rfl rfl
    rw [Nat.add_right_comm]
    exact ⟨_, .fire (Queue.pop?_mono hab hpop) hscript hzs⟩
  | _ => cases hw

theorem Runs.reply_eq_number {reply : Reply} {xs} (h : Runs (.advance a) s reply xs s₁) :
    ∃ n, reply = .number n := by
  cases h with
  | arrive => exact ⟨_, rfl⟩
  | fire => exact ⟨_, rfl⟩

/-- Moving the clock to `a` and then to `b` leaves the state that moving it to `b` leaves, and as
many timers fire. -/
theorem perform_advanceTo_advanceTo (hab : a ≤ b) (s : State σ) :
    ∃ n m, (perform (.advanceTo a) s).1 = .number n ∧
      (perform (.advanceTo b) (perform (.advanceTo a) s).2).1 = .number m ∧
      perform (.advanceTo b) s =
        (.number (n + m), (perform (.advanceTo b) (perform (.advanceTo a) s).2).2) := by
  obtain ⟨xs, hxs⟩ := runs_perform (.advanceTo a) s
  obtain ⟨ys, hys⟩ := runs_perform (.advanceTo b) (perform (.advanceTo a) s).2
  cases hxs with
  | advanceTo h₁ =>
    cases hys with
    | advanceTo h₂ =>
      obtain ⟨n, hn⟩ := h₁.reply_eq_number
      obtain ⟨m, hm⟩ := h₂.reply_eq_number
      rw [hn] at h₁
      rw [hm] at h₂
      obtain ⟨zs, hzs⟩ := h₁.advance_trans hab h₂
      exact ⟨n, m, hn, hm, perform_eq_of_runs (.advanceTo hzs)⟩

end VirtualTerminal.Script
