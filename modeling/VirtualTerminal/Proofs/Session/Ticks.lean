import VirtualTerminal.Proofs.Session.Reachable
import VirtualTerminal.Proofs.Timer.Advance

/-!
# Ticking in steps

How often a host moves the clock makes no difference: a session that has been through a list of
times is the session that has been moved to the last of them at once. Neither the scripts of a queue
nor the animations of the built-in commands can tell (`ticks_do_not_matter`).
-/

namespace VirtualTerminal

namespace Session

variable {s : Session}

theorem Sound.tick_tick (hs : s.Sound) {a b : Nat} (hab : a ≤ b) :
    s.tick b = ((s.tick a).1 + ((s.tick a).2.tick b).1, ((s.tick a).2.tick b).2) := by
  have hadvance := hs.settled.advanceTo_advanceTo hab
  unfold tick
  dsimp only
  rw [hadvance]

/-- Moves the clock through a list of times; gives the number of timers that fired. -/
def tickThrough : List Nat → Session → Nat × Session
  | [], s => (0, s)
  | now :: rest, s =>
    let (n, s) := s.tick now
    let (m, s) := tickThrough rest s
    (n + m, s)

/-- Going through times that do not decrease is going to the last of them. -/
theorem Sound.tickThrough_eq_tick (hs : s.Sound) {times : List Nat} {last : Nat}
    (hsorted : times.Pairwise (· ≤ ·)) (hlast : times.getLast? = some last) :
    tickThrough times s = s.tick last := by
  induction times generalizing s with
  | nil => cases hlast
  | cons now rest ih =>
    cases rest with
    | nil =>
      cases hlast
      rfl
    | cons next rest =>
      obtain ⟨hnow, hrest⟩ := List.pairwise_cons.mp hsorted
      rw [List.getLast?_cons_cons] at hlast
      have hle : now ≤ last := hnow last (List.mem_of_getLast? hlast)
      have htick : (s.tick now).2.Sound := ⟨(hs.settled.advanceTo now).2, hs.commands_eq⟩
      have hthrough := ih htick hrest hlast
      rw [hs.tick_tick hle, ← hthrough]
      rfl

end Session

/-- Moving a clock in steps is moving it at once. For a queue of scripts, two moves leave the state
that one leaves, and the numbers of firings add up. For a session that can be reached with the
built-in commands, going through any times that do not decrease is ticking to the last of them. -/
theorem ticks_do_not_matter {σ : Type u} (q : Script.State σ) (s : Session) :
    (∀ a b, a ≤ b → ∃ n m,
      (Script.perform (.advanceTo a) q).1 = .number n ∧
      (Script.perform (.advanceTo b) (Script.perform (.advanceTo a) q).2).1 = .number m ∧
      Script.perform (.advanceTo b) q = (.number (n + m),
        (Script.perform (.advanceTo b) (Script.perform (.advanceTo a) q).2).2)) ∧
    (s.Reachable → ∀ times last, times.Pairwise (· ≤ ·) → times.getLast? = some last →
      Session.tickThrough times s = s.tick last) := by
  refine ⟨fun a b hab => Script.perform_advanceTo_advanceTo hab q, ?_⟩
  intro hs times last hsorted hlast
  exact hs.sound.tickThrough_eq_tick hsorted hlast

/-- Three ticks make no difference to a spinner, nor does a stop at the time `3` to a timer that
fires at the time `1` and schedules another one, which is due at the time `5`. -/
theorem ticks_do_not_matter_spinner :
    (∃ n m, ∃ s' : Script.State Nat,
      Script.perform (.advanceTo 9)
        (Script.perform (.schedule [] 1 [.change (· + 1), .schedule [] 4 []]) { shared := 0 }).2 =
          (.number (n + m), s')) ∧
      Session.tickThrough [100, 250, 3000] (Session.submit (.new {}) "spinner".toList).2 =
        (Session.submit (.new {}) "spinner".toList).2.tick 3000 := by
  obtain ⟨hscript, hsession⟩ := ticks_do_not_matter
    (Script.perform (.schedule [] 1 [.change (· + 1), .schedule [] 4 []]) { shared := 0 }).2
    (Session.submit (.new {}) "spinner".toList).2
  obtain ⟨n, m, -, -, heq⟩ := hscript 3 9 (by decide)
  exact ⟨⟨n, m, _, heq⟩, hsession (.submit (.new {}) _) _ _ (by decide) rfl⟩

end VirtualTerminal
