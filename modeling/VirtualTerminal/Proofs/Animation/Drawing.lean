import VirtualTerminal.Proofs.Animation.Orderly

/-!
# What a start shows

While an animation starts, it paints into its own region and nothing else. `Drawing` follows what
this region shows from step to step, without a stage; on an orderly stage the start leaves the
transcript as it was with the region of its drawing after it (`Orderly.transcript_run`).
-/

namespace VirtualTerminal

namespace Transcript

variable {t : Transcript} {id : Text}

theorem updateRegion_append (h : t.hasRegion id = false) (ls : List Line) (u : Transcript) :
    updateRegion id ls (t ++ u) = t ++ updateRegion id ls u := by
  induction t with
  | nil => rfl
  | cons e t ih =>
    obtain ⟨he, ht⟩ := Bool.or_eq_false_iff.mp h
    simp only [List.cons_append, updateRegion, he, ih ht, Bool.false_eq_true, if_false]

theorem removeRegion_of_absent (h : t.hasRegion id = false) : t.removeRegion id = t :=
  List.filter_eq_self.mpr fun e he => by
    rw [Bool.not_eq_true']
    exact Bool.eq_false_iff.mpr (List.any_eq_false.mp h e he)

theorem removeRegion_append (h : t.hasRegion id = false) (u : Transcript) :
    removeRegion (t ++ u) id = t ++ removeRegion u id := by
  have ht := removeRegion_of_absent h
  unfold removeRegion at ht ⊢
  rw [List.filter_append, ht]

end Transcript

namespace Animation

/-- What an animation shows while it starts: whether it may still paint, and the lines of its region,
unless that has been removed. -/
structure Drawing where
  active : Bool := true
  lines : Option (List Line) := some []

namespace Drawing

/-- Shows lines while the animation is active. -/
def paint (d : Drawing) (ls : List Line) : Drawing :=
  if d.active then { d with lines := d.lines.map fun _ => ls } else d

/-- What is shown after a step; what a step does later does not show yet. -/
def step (d : Drawing) : Step → Drawing
  | .paint ls => d.paint ls
  | .paintAfter .. => d
  | .frames pictures _ => pictures.head?.elim d d.paint
  | .continuous painter _ => d.paint (painter 0 0)
  | .finish => { d with active := false }
  | .finishAfter .. => d
  | .cancel => { d with active := false }
  | .abandon => { active := false, lines := none }

/-- The region of a drawing. -/
def region (d : Drawing) (id : Text) : Transcript :=
  (d.lines.map (.region id)).toList

end Drawing

/-- The region that an animation has opened and kept once it has started; it keeps none if the start
fails. -/
def Plan.opened (plan : Plan) (scene : Scene) : Transcript :=
  match (plan.start scene).2 with
  | some _ => []
  | none => ((plan.start scene).1.foldl Drawing.step {}).region scene.id

namespace Stage

/-- Whether a stage shows what was there before and then the drawing of an animation. -/
structure Shows (before : Transcript) (h : Handle) (d : Drawing) (s : Stage) : Prop where
  transcript : s.transcript = before ++ d.region h.id
  active : s.isActive h = d.active

section Shows

variable {before : Transcript} {h : Handle} {d : Drawing} {s : Stage}

theorem Shows.update (hs : s.Shows before h d) (hbefore : before.hasRegion h.id = false)
    (ls : List Line) : (s.update h ls).Shows before h (d.paint ls) := by
  have hactive := hs.active
  unfold Stage.update Drawing.paint
  cases hd : d.active with
  | false =>
    rw [hd] at hactive
    simp only [hactive, Bool.false_eq_true, if_false]
    exact hs
  | true =>
    rw [hd] at hactive
    simp only [hactive, if_true]
    refine ⟨?_, hactive⟩
    show Transcript.updateRegion h.id ls s.transcript = _
    rw [hs.transcript, Transcript.updateRegion_append hbefore]
    unfold Drawing.region
    cases d.lines with
    | none => rfl
    | some lines => simp [Transcript.updateRegion, Entry.isRegion]

theorem Shows.schedule (hs : s.Shows before h d) (delay : Nat) (c : Cue) :
    (s.schedule delay c).Shows before h d :=
  ⟨hs.transcript, hs.active⟩

theorem Shows.finish (hs : s.Shows before h d) :
    (s.finish h).Shows before h { d with active := false } :=
  ⟨hs.transcript, s.isActive_finish h⟩

theorem Shows.abandon (hs : s.Shows before h d) (hbefore : before.hasRegion h.id = false) :
    (s.abandon h).Shows before h { active := false, lines := none } := by
  refine ⟨?_, s.isActive_finish h⟩
  show Transcript.removeRegion s.transcript h.id = _
  rw [hs.transcript, Transcript.removeRegion_append hbefore]
  unfold Drawing.region
  cases d.lines with
  | none => rfl
  | some lines => simp [Transcript.removeRegion, Entry.isRegion]

/-- The first picture is painted at once, of an animation that has been running for no time. -/
theorem Shows.play_picture (hs : s.Shows before h d) (hbefore : before.hasRegion h.id = false)
    (painter : Painter) (delay : Nat) :
    (s.play (.picture h painter 0 s.timers.now delay)).Shows before h (d.paint (painter 0 0)) := by
  by_cases hactive : s.isActive h = true
  · rw [play_picture_of_active hactive, Nat.sub_self]
    exact (hs.update hbefore _).schedule _ _
  · rw [play_picture_of_not_active hactive]
    have hinactive : d.active = false := hs.active.symm.trans (Bool.eq_false_iff.mpr hactive)
    unfold Drawing.paint
    rw [hinactive]
    exact hs

theorem Shows.perform (hs : s.Shows before h d) (hbefore : before.hasRegion h.id = false)
    (step : Step) : (s.perform h step).Shows before h (d.step step) := by
  cases step with
  | paint ls => exact hs.update hbefore ls
  | paintAfter delay ls => exact hs.schedule _ _
  | frames pictures delay =>
    cases pictures with
    | nil => exact hs
    | cons first rest =>
      -- the painter has to be given: what it paints first is `first` only by computation
      exact hs.play_picture hbefore
        (fun count _ => (first :: rest).getD (count % (first :: rest).length) []) _
  | continuous painter framesPerSecond => exact hs.play_picture hbefore _ _
  | finish => exact hs.finish
  | finishAfter delay last => exact hs.schedule _ _
  | cancel =>
    refine ⟨hs.transcript, isActive_eq_false_iff.mpr (.inr ?_)⟩
    exact List.contains_iff_mem.mpr List.mem_cons_self
  | abandon => exact hs.abandon hbefore

theorem Shows.foldl_perform (hs : s.Shows before h d) (hbefore : before.hasRegion h.id = false)
    (steps : List Step) :
    (steps.foldl (fun s step => s.perform h step) s).Shows before h (steps.foldl Drawing.step d) := by
  induction steps generalizing s d with
  | nil => exact hs
  | cons step steps ih => exact ih (hs.perform hbefore step)

end Shows

/-- Starting an animation adds the region that it opens and keeps to the transcript, and nothing
else. -/
theorem Orderly.transcript_run {s : Stage} (hs : s.Orderly) (plan : Plan) (name : Text)
    (i : Invocation) : (plan.run name i s).2.transcript =
      s.transcript ++ plan.opened ((s.launch name.lower).2.scene (s.launch name.lower).1 i) := by
  let scene := (s.launch name.lower).2.scene (s.launch name.lower).1 i
  have hfresh := hs.hasRegion_nextId name.lower
  have hlaunch : (s.launch name.lower).2.Shows s.transcript (s.launch name.lower).1 {} :=
    ⟨hs.transcript_launch name.lower, hs.isActive_launch name.lower⟩
  have hsteps := hlaunch.foldl_perform hfresh (plan.start scene).1
  unfold Plan.run Plan.opened
  dsimp only
  cases (plan.start scene).2 with
  | some e =>
    rw [(hsteps.abandon hfresh).transcript]
    rfl
  | none =>
    cases (plan.duration? i).filter (0 < ·) with
    | some duration => exact (hsteps.schedule _ _).transcript
    | none => exact hsteps.transcript

end Stage

end Animation

end VirtualTerminal
