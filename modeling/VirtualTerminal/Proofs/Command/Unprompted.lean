import VirtualTerminal.Proofs.Session.Reachable

/-!
# Outputs without prompts

Only the session itself writes lines that repeat a prompt. No output of a built-in command has one
(`Builtin.each_unprompted`), nor has an output that reports why no command has run.
-/

namespace VirtualTerminal

namespace Line

theorem isCommand_of_mem_ofText {s : Text} : ∀ l ∈ ofText s, l.isCommand = false :=
  List.forall_mem_map.mpr fun _ _ => rfl

end Line

/-- Whether no line of an output repeats a prompt. -/
def Output.Unprompted (o : Output) : Prop :=
  ∀ l ∈ o.lines, l.isCommand = false

namespace Output

theorem unprompted_success {lines : List Line} (h : ∀ l ∈ lines, l.isCommand = false) :
    (success lines).Unprompted := h

theorem unprompted_failure {lines : List Line} (h : ∀ l ∈ lines, l.isCommand = false) :
    (failure lines).Unprompted := h

theorem unprompted_nothing : nothing.Unprompted := nofun

theorem unprompted_text (s : Text) : (text s).Unprompted :=
  Line.isCommand_of_mem_ofText

theorem unprompted_error (message : Text) : (error message).Unprompted :=
  List.forall_mem_singleton.mpr rfl

theorem unprompted_usage (usage : Text) : (Output.usage usage).Unprompted :=
  unprompted_error _

end Output

/-- Whether no output of a body repeats a prompt; an animation has no lines of its own. -/
def Body.Unprompted : Body → Prop
  | .handler f => ∀ c d o, (f c d).1 = .ok o → o.Unprompted
  | .animation .. => True

theorem Body.unprompted_showing {f : Context → Desk → Output} (h : ∀ c d, (f c d).Unprompted) :
    (Body.handler (.showing f)).Unprompted := by
  intro c d o ho
  cases ho
  exact h c d

theorem Body.unprompted_doing {f : Context → Desk → Output × Desk}
    (h : ∀ c d, (f c d).1.Unprompted) : (Body.handler (.doing f)).Unprompted := by
  intro c d o ho
  cases ho
  exact h c d

namespace Builtin

open Output Body

/-! ## Help, the screen and the visitor -/

theorem isCommand_of_mem_listing {catalog : CommandTable Unit} {category : Category} {l : Line}
    (h : l ∈ listing catalog category) : l.isCommand = false := by
  unfold listing at h
  split at h
  · cases h
  · simp only [List.cons_append, List.mem_cons, List.mem_append, List.mem_map,
      List.not_mem_nil, or_false] at h
    obtain rfl | ⟨c, -, rfl⟩ | rfl := h
    · rfl
    · rfl
    · rfl

theorem isCommand_of_mem_details {c : CommandInfo} {l : Line} (h : l ∈ details c) :
    l.isCommand = false := by
  unfold details at h
  rcases List.mem_append.mp h with h | h
  · simp only [List.mem_cons, List.not_mem_nil, or_false] at h
    obtain rfl | rfl | rfl := h
    · rfl
    · rfl
    · rfl
  · split at h
    · cases h
    · rw [List.mem_singleton.mp h]
      rfl

theorem unprompted_help : help.body.Unprompted := by
  refine unprompted_showing fun c d => ?_
  split
  · refine unprompted_success fun l hl => ?_
    rcases List.mem_append.mp hl with hl | hl
    · obtain ⟨category, -, hl⟩ := List.mem_flatMap.mp hl
      exact isCommand_of_mem_listing hl
    · rw [List.mem_singleton.mp hl]
      rfl
  · split
    · exact unprompted_success fun l hl => isCommand_of_mem_details hl
    · exact unprompted_error _

theorem unprompted_clear : clear.body.Unprompted :=
  unprompted_doing fun _ _ => unprompted_nothing

theorem unprompted_crt : crt.body.Unprompted :=
  unprompted_doing fun _ _ => unprompted_success (List.forall_mem_singleton.mpr rfl)

theorem unprompted_snake : snake.body.Unprompted := by
  refine unprompted_doing fun c d => ?_
  dsimp only
  split
  · exact unprompted_error _
  · exact unprompted_success (List.forall_mem_cons.mpr ⟨rfl, List.forall_mem_singleton.mpr rfl⟩)

theorem unprompted_whoami : whoami.body.Unprompted :=
  unprompted_showing fun _ _ => unprompted_text _

theorem unprompted_sudo : sudoCommand.body.Unprompted :=
  unprompted_showing fun _ _ => unprompted_error _

theorem isCommand_of_mem_aboutText {d : Desk} {l : Line} (h : l ∈ aboutText d) :
    l.isCommand = false := by
  unfold aboutText at h
  split at h
  · exact Line.isCommand_of_mem_ofText l h
  · rw [List.mem_singleton.mp h]
    rfl

theorem unprompted_about : about.body.Unprompted := by
  refine unprompted_showing fun c d => unprompted_success fun l hl => ?_
  simp only [List.mem_append, List.mem_cons, List.mem_map, List.not_mem_nil, or_false] at hl
  obtain (((rfl | rfl) | hl) | rfl) | ⟨link, -, rfl⟩ := hl
  · rfl
  · rfl
  · exact isCommand_of_mem_aboutText hl
  · rfl
  · rfl

theorem unprompted_status : status.body.Unprompted := by
  refine unprompted_showing fun c d => unprompted_success ?_
  exact List.forall_mem_cons.mpr ⟨rfl, List.forall_mem_map.mpr fun _ _ => rfl⟩

/-! ## The history and the aliases -/

theorem unprompted_history : history.body.Unprompted := by
  refine unprompted_doing fun c d => ?_
  split
  · exact unprompted_success (List.forall_mem_singleton.mpr rfl)
  · exact unprompted_success (List.forall_mem_map.mpr fun _ _ => rfl)

theorem unprompted_defineAlias {name expansion : Text} {s : Shell} {output : Output}
    (h : defineAlias name expansion s = .error output) : output.Unprompted := by
  unfold defineAlias at h
  dsimp only at h
  split at h
  · cases h
    exact unprompted_error _
  · split at h
    · cases h
      exact unprompted_error _
    · cases h

theorem unprompted_aliasArgs {shown : List Line} (hshown : ∀ l ∈ shown, l.isCommand = false)
    (args : List Text) (s : Shell) : (aliasArgs shown args s).1.Unprompted := by
  induction args generalizing shown s with
  | nil => exact unprompted_success hshown
  | cons arg rest ih =>
    unfold aliasArgs
    split
    · split
      · exact ih hshown _
      next hdefine => exact unprompted_defineAlias hdefine
    · split
      · refine ih (fun l hl => ?_) s
        rcases List.mem_append.mp hl with hl | hl
        · exact hshown l hl
        · rw [List.mem_singleton.mp hl]
          rfl
      · exact unprompted_error _

theorem unprompted_aliasCommand : aliasCommand.body.Unprompted := by
  refine unprompted_doing fun c d => ?_
  dsimp only
  split
  · exact unprompted_success (List.forall_mem_singleton.mpr rfl)
  · exact unprompted_success (List.forall_mem_map.mpr fun _ _ => rfl)
  · exact unprompted_aliasArgs (List.forall_mem_nil _) _ _

theorem unprompted_unaliasArgs {report : Output} (hreport : report.Unprompted) (args : List Text)
    (s : Shell) : (unaliasArgs report args s).1.Unprompted := by
  induction args generalizing report s with
  | nil => exact hreport
  | cons name rest ih =>
    unfold unaliasArgs
    split
    · exact ih hreport _
    · exact ih (unprompted_error _) s

theorem unprompted_unalias : unalias.body.Unprompted := by
  refine unprompted_doing fun c d => ?_
  dsimp only
  split
  · exact unprompted_usage _
  · exact unprompted_unaliasArgs unprompted_nothing _ _

/-! ## Text tools -/

theorem unprompted_echo : echo.body.Unprompted := by
  refine unprompted_showing fun c d => ?_
  split
  · exact unprompted_success (List.forall_mem_singleton.mpr rfl)
  · exact unprompted_text _

theorem unprompted_base64 : base64.body.Unprompted := by
  refine unprompted_showing fun c d => ?_
  dsimp only
  split
  · exact unprompted_usage _
  · split
    · unfold decodeText
      split
      · exact unprompted_text _
      · exact unprompted_error _
    · exact unprompted_text _

theorem unprompted_wc : wc.body.Unprompted :=
  unprompted_showing fun _ _ => unprompted_text _

theorem unprompted_matchingLines (x : Searcher) (inverted : Bool) (s : Text) :
    (matchingLines x inverted s).Unprompted := by
  unfold matchingLines
  split
  · exact unprompted_failure (List.forall_mem_nil _)
  · refine unprompted_success (List.forall_mem_map.mpr fun line _ => ?_)
    cases inverted <;> rfl

theorem unprompted_grep : grep.body.Unprompted := by
  refine unprompted_showing fun c d => ?_
  split
  · split
    · exact unprompted_error _
    · exact unprompted_matchingLines _ _ _
  · exact unprompted_usage _

/-! ## Files -/

theorem unprompted_reporting (errors : List Text) : (reporting errors).Unprompted := by
  unfold reporting
  split
  · exact unprompted_nothing
  · exact unprompted_failure (List.forall_mem_map.mpr fun _ _ => rfl)

theorem isCommand_of_mem_shortLines {entries : List DirEntry} {l : Line}
    (h : l ∈ shortLines entries) : l.isCommand = false := by
  cases entries with
  | nil => cases h
  | cons e rest =>
    rw [List.mem_singleton.mp h]
    rfl

theorem unprompted_ls : ls.body.Unprompted := by
  refine unprompted_showing fun c d => ?_
  dsimp only
  split
  · exact unprompted_error _
  · refine unprompted_success fun l hl => ?_
    split at hl
    · obtain ⟨e, -, rfl⟩ := List.mem_map.mp hl
      rfl
    · exact isCommand_of_mem_shortLines hl

theorem unprompted_cd : cd.body.Unprompted := by
  refine unprompted_doing fun c d => ?_
  dsimp only
  split
  · exact unprompted_nothing
  · split
    · exact unprompted_nothing
    · exact unprompted_error _
    · exact unprompted_error _

theorem unprompted_pwd : pwd.body.Unprompted :=
  unprompted_showing fun _ _ => unprompted_text _

theorem isCommand_of_fileLines (d : Desk) (typed : Text) :
    match fileLines d typed with
    | .ok lines => ∀ l ∈ lines, l.isCommand = false
    | .error line => line.isCommand = false := by
  unfold fileLines
  dsimp only
  split
  next h =>
    split at h
    · cases h
    · split at h
      · cases h
        exact Line.isCommand_of_mem_ofText
      · cases h
  next h =>
    split at h
    · cases h
      rfl
    · split at h
      · cases h
      · cases h
        rfl

theorem unprompted_cat : cat.body.Unprompted := by
  refine unprompted_showing fun c d => ?_
  split
  · exact unprompted_usage _
  · intro l hl
    obtain ⟨result, hresult, hl⟩ := List.mem_flatMap.mp hl
    obtain ⟨typed, -, rfl⟩ := List.mem_map.mp hresult
    have hlines := isCommand_of_fileLines d typed
    split at hl
    next heq =>
      rw [heq] at hlines
      exact hlines l hl
    next heq =>
      rw [heq] at hlines
      rw [List.mem_singleton.mp hl]
      exact hlines

theorem unprompted_mkdir : mkdir.body.Unprompted := by
  refine unprompted_doing fun c d => ?_
  dsimp only
  split
  · exact unprompted_usage _
  · exact unprompted_reporting _

theorem unprompted_touch : touch.body.Unprompted := by
  refine unprompted_doing fun c d => ?_
  dsimp only
  split
  · exact unprompted_usage _
  · exact unprompted_reporting _

theorem unprompted_rm : rm.body.Unprompted := by
  refine unprompted_doing fun c d => ?_
  dsimp only
  split
  · dsimp only
    split
    · exact unprompted_nothing
    · exact unprompted_usage _
  · exact unprompted_reporting _

theorem unprompted_tree : tree.body.Unprompted := by
  refine unprompted_showing fun c d => ?_
  dsimp only
  split
  · exact unprompted_error _
  · refine unprompted_success fun l hl => ?_
    simp only [List.cons_append, List.mem_cons, List.mem_append, List.mem_map, List.not_mem_nil,
      or_false] at hl
    obtain rfl | ⟨entry, -, rfl⟩ | rfl | rfl := hl
    · rfl
    · rfl
    · rfl
    · rfl

/-! ## All commands -/

/-- No output of a built-in command repeats a prompt. -/
theorem each_unprompted : table.Each fun c => c.body.Unprompted := by
  refine CommandTable.Each.registerMany (fun name c h => by cases h) ?_
  unfold all
  simp only [List.forall_mem_cons]
  exact ⟨unprompted_help, unprompted_clear, unprompted_echo, unprompted_history,
    unprompted_aliasCommand, unprompted_unalias, unprompted_sudo, unprompted_whoami, unprompted_about,
    trivial, trivial, unprompted_crt, unprompted_status, unprompted_snake, unprompted_base64,
    unprompted_wc, unprompted_grep, unprompted_ls, unprompted_cd, unprompted_pwd, unprompted_cat,
    unprompted_mkdir, unprompted_touch, unprompted_rm, unprompted_tree, List.forall_mem_nil _⟩

end Builtin

end VirtualTerminal
