import Mathlib.Data.Bool.AllAny
import VirtualTerminal.Proofs.FileTree.Dotless
import VirtualTerminal.Proofs.FileTree.Listing
import VirtualTerminal.Proofs.Session.Prompt
import VirtualTerminal.Proofs.Session.WorkingDirectory
import VirtualTerminal.Proofs.Token.LeftOut

/-!
# Completed paths

A word is completed by the names of the entries of a directory. That directory is the one that the word
names up to its last slash, or the working directory (`Offers`), so the completed path is resolved to the
path of the entry (`Offers.resolve_eq`). This takes names that do not stand for something else: where the
home directory has no dots there are no others, except for an entry of the working directory that is named
like home. A name is offered as it is. So the line is read with it if it holds neither blanks nor quotes,
and not otherwise (`completed_path`).
-/

namespace VirtualTerminal

/-! ## Names that are typed -/

namespace Path

variable {name lead : Text}

/-- The text of an entry in a path that is typed: a slash follows the name of a directory. -/
def entryText (name : Text) (isDir : Bool) : Text :=
  name ++ if isDir then ['/'] else []

theorem entryText_dir (name : Text) : entryText name true = name ++ '/' :: [] := rfl

theorem entryText_file (name : Text) : entryText name false = name :=
  List.append_nil name

theorem components_entryText (h : IsName name) (isDir : Bool) :
    components (entryText name isDir) = [name] := by
  rw [← components_of_isName h]
  cases isDir with
  | true => rw [entryText_dir, components_append_cons, show components [] = [] from rfl, List.append_nil]
  | false => rw [entryText_file]

theorem dotless_entryText (h : IsEntry name) (isDir : Bool) : Dotless (entryText name isDir) := by
  intro part hpart
  rw [components_entryText h.toIsName, List.mem_singleton] at hpart
  subst hpart
  exact ⟨h.ne_dot, h.ne_dots⟩

/-- An entry leads one step down. -/
theorem walk_entryText (h : IsEntry name) (parts : List Text) (isDir : Bool) :
    walk parts (entryText name isDir) = name :: parts := by
  rw [(dotless_entryText h isDir).walk_eq, components_entryText h.toIsName]
  rfl

theorem isRelative_entryText (h : IsName name) (hname : name ≠ ['~']) (isDir : Bool) :
    IsRelative (entryText name isDir) := by
  have hrelative := h.isRelative hname
  cases isDir with
  | true => exact hrelative.append h.ne_nil []
  | false =>
    rw [entryText_file]
    exact hrelative

/-- The slash tells whether a completed path names a directory. -/
theorem getLast?_entryText (h : IsName name) (lead : Text) (isDir : Bool) :
    (lead ++ entryText name isDir).getLast? = some '/' ↔ isDir = true := by
  cases isDir with
  | true =>
    rw [entryText_dir, ← List.append_assoc]
    exact iff_of_true List.getLast?_concat rfl
  | false =>
    refine iff_of_false (fun hlast => ?_) Bool.false_ne_true
    rw [entryText_file, List.getLast?_append_of_ne_nil _ h.ne_nil] at hlast
    exact h.no_slash (List.mem_of_getLast? hlast)

/-- The last component of a completed path is the name of the entry. -/
theorem getLast?_components_entryText (h : IsName name) (hlead : lead = [] ∨ ∃ dir, lead = dir ++ ['/'])
    (isDir : Bool) : (components (lead ++ entryText name isDir)).getLast? = some name := by
  rcases hlead with rfl | ⟨dir, rfl⟩
  · rw [List.nil_append, components_entryText h]
    rfl
  · rw [← List.append_cons, components_append_cons, components_entryText h, List.getLast?_concat]

/-- What stands for home leads there, whether a slash follows or not. -/
theorem resolve_home (cwd home : Text) (isDir : Bool) :
    resolve cwd (entryText ['~'] isDir) home = resolve cwd ['~'] home := by
  cases isDir with
  | true =>
    show ofComponents (walk [] (join home [])).reverse = ofComponents (walk [] home).reverse
    rw [walk_join]
    rfl
  | false => rfl

end Path

/-! ## What is offered -/

namespace Session

variable {s : Session} {line word lead c : Text} {e : DirEntry}

/-- The directory whose entries complete a word, given the part of the word up to its last slash. -/
def searched (s : Session) (lead : Text) : Text :=
  if lead = [] then s.shell.cwd else Path.resolve s.shell.cwd lead s.shell.home

/-- Whether an entry is offered for a word, after the part of it up to its last slash. -/
structure Offers (s : Session) (word lead : Text) (e : DirEntry) : Prop where
  lead_eq : lead = [] ∨ ∃ dir, lead = dir ++ ['/']
  isPrefix : word <+: lead ++ e.name
  mem : e ∈ s.files.children (Path.normalize (s.searched lead))

/-- The paths that are offered for a word, given the part of it up to its last slash and the rest. -/
def offered (s : Session) (lead start : Text) : List Text :=
  match s.files.list (s.searched lead) with
  | .error _ => []
  | .ok entries =>
    (entries.filter fun e =>
      start.isPrefixOf e.name && (start.head? = some '.' || e.name.head? ≠ some '.')).map
      fun e => lead ++ e.name ++ if e.isDir then ['/'] else []

theorem exists_completePath_eq (s : Session) (word : Text) : ∃ lead start, word = lead ++ start ∧
    (lead = [] ∨ ∃ dir, lead = dir ++ ['/']) ∧ s.completePath word = s.offered lead start := by
  unfold completePath
  cases hsplit : Text.splitLast '/' word with
  | none => exact ⟨[], word, rfl, .inl rfl, rfl⟩
  | some parts =>
    obtain ⟨dir, start⟩ := parts
    refine ⟨dir ++ ['/'], start, ?_, .inr ⟨dir, rfl⟩, rfl⟩
    rw [(Text.eq_of_splitLast hsplit).1, List.append_assoc]
    rfl

theorem mem_completePath (hc : c ∈ s.completePath word) :
    ∃ lead e, s.Offers word lead e ∧ c = lead ++ Path.entryText e.name e.isDir := by
  obtain ⟨lead, start, hword, hlead, hoffered⟩ := s.exists_completePath_eq word
  rw [hoffered, offered] at hc
  split at hc
  · cases hc
  next entries hlist =>
    obtain ⟨e, he, rfl⟩ := List.mem_map.mp hc
    obtain ⟨hmem, hshown⟩ := List.mem_filter.mp he
    obtain ⟨hstart, -⟩ := Bool.and_eq_true_iff.mp hshown
    rw [FileTree.eq_children_of_list hlist] at hmem
    refine ⟨lead, e, ⟨hlead, ?_, hmem⟩, List.append_assoc ..⟩
    rw [hword]
    exact (List.prefix_append_right_inj lead).mpr (List.isPrefixOf_iff_prefix.mp hstart)

namespace Offers

theorem isName (h : s.Offers word lead e) : Path.IsName e.name :=
  (FileTree.mem_children_iff.mp h.mem).1

theorem isEntry (h : s.Offers word lead e) (ht : s.files.Dotless) : Path.IsEntry e.name := by
  obtain ⟨hname, n, hfind, -⟩ := FileTree.mem_children_iff.mp h.mem
  exact ht.isEntry hname hfind

/-- Where the working directory has no dots, a completed path is resolved to that of the entry, unless it
names home. -/
theorem resolve_eq (h : s.Offers word lead e) (hentry : Path.IsEntry e.name)
    (hcwd : Path.Dotless s.shell.cwd) (hhome : lead = [] → e.name ≠ ['~']) :
    Path.resolve s.shell.cwd (lead ++ Path.entryText e.name e.isDir) s.shell.home =
      Path.join (Path.normalize (s.searched lead)) e.name := by
  -- the components of the directory that is searched, the last ones first
  obtain ⟨parts, hparts, hdir, hwalk⟩ : ∃ parts : List Text, (∀ part ∈ parts, Path.IsEntry part) ∧
      Path.normalize (s.searched lead) = Path.ofComponents parts.reverse ∧
      Path.walk [] (Path.expand s.shell.cwd (lead ++ Path.entryText e.name e.isDir) s.shell.home) =
        Path.walk parts (Path.entryText e.name e.isDir) := by
    obtain hlead | ⟨dir, hlead⟩ := h.lead_eq
    · refine ⟨Path.walk [] s.shell.cwd, Path.isEntry_of_mem_walk _, ?_, ?_⟩
      · rw [searched, if_pos hlead, hcwd.ofComponents_walk]
      · rw [hlead, List.nil_append, (Path.isRelative_entryText h.isName (hhome hlead) _).expand_eq,
          Path.walk_join]
    · refine ⟨Path.walk [] (Path.expand s.shell.cwd lead s.shell.home), Path.isEntry_of_mem_walk _, ?_, ?_⟩
      · rw [searched, if_neg (by simp [hlead]), (Path.resolved_resolve _ _ _).normalize_eq,
          Path.resolve_eq_walk]
      · rw [hlead, ← List.append_cons, Path.walk_expand_slash]
  have hnames : ∀ part ∈ parts.reverse, Path.IsName part := fun part hpart =>
    (hparts part (List.mem_reverse.mp hpart)).toIsName
  rw [Path.resolve_eq_walk, hwalk, Path.walk_entryText hentry, hdir, List.reverse_cons,
    Path.ofComponents_concat hnames]

/-- What stands where a completed path leads is what the entry says. -/
theorem node?_eq (h : s.Offers word lead e) (hentry : Path.IsEntry e.name)
    (hcwd : Path.Dotless s.shell.cwd) (hhome : lead = [] → e.name ≠ ['~']) :
    ∃ n, s.files.node? (Path.resolve s.shell.cwd (lead ++ Path.entryText e.name e.isDir) s.shell.home) =
      some n ∧ e.isDir = n.isDir := by
  obtain ⟨-, n, hfind, he⟩ := FileTree.mem_children_iff.mp h.mem
  refine ⟨n, ?_, congrArg DirEntry.isDir he⟩
  rw [FileTree.node?_of_normal (Path.resolved_resolve _ _ _).toNormal, h.resolve_eq hentry hcwd hhome]
  exact hfind

end Offers

theorem mem_of_mem_lastPiece (hc : d ∈ lastPiece line) : d ∈ line := by
  unfold lastPiece Text.trimStart at hc
  exact List.mem_of_mem_drop ((List.dropWhile_suffix _).subset hc)

end Session

/-! ## Desks without dots -/

namespace Builtin

theorem dotless_mkdirOne (parents : Bool) (path typed : Text) (t : FileTree) (hpath : Path.Resolved path)
    (ht : t.Dotless) : (mkdirOne parents path typed t).2.Dotless := by
  unfold mkdirOne
  split
  · exact ht
  · split
    · exact ht
    · split
      next hmake => exact ht.makeDir hpath.dotless hmake
      · exact ht

theorem dotless_touchOne (path typed : Text) (t : FileTree) (hpath : Path.Resolved path)
    (ht : t.Dotless) : (touchOne path typed t).2.Dotless := by
  unfold touchOne
  split
  · exact ht
  · split
    next hwrite => exact ht.write hpath.dotless hwrite
    · exact ht

theorem dotless_leaveRemoved (d : Desk) (hd : d.files.Dotless) : (leaveRemoved d).files.Dotless := by
  unfold leaveRemoved
  split <;> exact hd

/-- All that commands make has been resolved, and so has no dots. -/
theorem each_keeps_dotless : table.Each fun c => c.body.Keeps fun d => d.files.Dotless :=
  each_keeps ⟨fun hd _ => hd⟩ (keeps_cd_of (fun _ hd => hd) fun _ _ hd _ => hd)
    (keeps_mkdir_of fun parents args _ hd => changing_rec (dotless_mkdirOne parents) args hd)
    (keeps_touch_of fun args _ hd => changing_rec dotless_touchOne args hd)
    (keeps_rm_of fun force recursive args _ hd => dotless_leaveRemoved _ <|
      changing_rec (fun path typed _ _ =>
        rmOne_rec (fun _ _ _ ht => FileTree.Dotless.remove ht) force recursive path typed) args hd)

end Builtin

/-- A home directory without dots keeps them out of the tree, whatever happens. -/
theorem Life.dotless_after (config : Config) (hhome : Path.Dotless config.home) (events : List Event) :
    ((start config Builtin.table).after events).session.files.Dotless :=
  (Life.hasDesk_after (P := fun d => d.files.Dotless) (Desk.OfPlace.ofShell ⟨fun hd _ => hd⟩)
    Builtin.each_keeps_dotless (Seed.dotless_tree hhome) events).desk

theorem Life.dotless_cwd (config : Config) (hhome : Path.Dotless config.home) (events : List Event) :
    Path.Dotless ((start config Builtin.table).after events).session.shell.cwd := by
  rcases (Life.sited_after config events).desk.cwd with hcwd | hcwd
  · exact hcwd ▸ hhome
  · exact hcwd.dotless

/-! ## Sessions -/

/-- Whatever a host has done to a session with the built-in commands: what is offered for the last word of
a line without quotes, in a piece that has words before it, goes on from that word. The piece with that
word replaced is read as the words before and the offered path exactly if that holds neither blanks nor
quotes. The offered path is resolved to what is there, and to a directory exactly if it ends with a slash,
except for an entry that is named like home. This takes a home directory that is configured without dots,
or a working directory without dots and an entry that is not named like another directory. -/
theorem completed_path (config : Config) (events : List Event) {line before word c : Text} {b : Char}
    (hline : ∀ d ∈ line, Quote.isQuote d = false)
    (hpiece : Session.lastPiece line = before ++ b :: word) (hb : isBlank b = true)
    (hword : ∀ d ∈ word, isBlank d = false)
    (hc : c ∈ ((Life.start config Builtin.table).after events).session.complete line) :
    let s := ((Life.start config Builtin.table).after events).session
    word <+: c ∧
      (Text.tokens (before ++ b :: c) = Text.words before ++ [c] ↔
        ∀ d ∈ c, Quote.isQuote d = false ∧ isBlank d = false) ∧
      (Path.Dotless config.home ∨ Path.Dotless s.shell.cwd ∧
          (∀ part, (Path.components c).getLast? = some part → part ≠ ['.'] ∧ part ≠ ['.', '.']) →
        (c = "~".toList ∨ c = "~/".toList) ∧
            Path.resolve s.shell.cwd c s.shell.home = Path.resolve s.shell.cwd "~".toList s.shell.home ∨
          ∃ n, s.files.node? (Path.resolve s.shell.cwd c s.shell.home) = some n ∧
            (n.isDir = true ↔ c.getLast? = some '/')) := by
  intro s
  unfold Session.complete at hc
  simp only [hpiece, Text.splitLastBlank_append hb hword] at hc
  obtain ⟨lead, e, hoffers, rfl⟩ := Session.mem_completePath hc
  have hname := hoffers.isName
  refine ⟨?_, ?_, fun hdots => ?_⟩
  · refine hoffers.isPrefix.trans ?_
    rw [Path.entryText, ← List.append_assoc]
    exact List.prefix_append _ _
  · have hbefore : ∀ d ∈ before, Quote.isQuote d = false := fun d hd =>
      hline d (Session.mem_of_mem_lastPiece (hpiece ▸ List.mem_append_left _ hd))
    have hinside : (Reading.start.through before).inside = none :=
      Reading.inside_through_of_not_quote (fun d hd => Text.ofChar?_eq_none (hbefore d hd)) Reading.start
    rw [Text.tokens, Text.tokensFrom_append_blank hb hinside, ← Text.tokens, Text.tokens_eq_words hbefore,
      List.append_cancel_left_eq, Text.tokens_eq_singleton_iff, and_iff_right]
    simp [Path.entryText, hname.ne_nil]
  · obtain ⟨hcwd, hentry⟩ : Path.Dotless s.shell.cwd ∧ Path.IsEntry e.name := by
      rcases hdots with hhome | ⟨hcwd, hlast⟩
      · exact ⟨Life.dotless_cwd config hhome events, hoffers.isEntry (Life.dotless_after config hhome events)⟩
      · obtain ⟨hdot, hdots⟩ := hlast _ (Path.getLast?_components_entryText hname hoffers.lead_eq _)
        exact ⟨hcwd, hname, hdot, hdots⟩
    by_cases htilde : lead = [] ∧ e.name = ['~']
    · obtain ⟨rfl, htilde⟩ := htilde
      left
      rw [List.nil_append, htilde]
      refine ⟨?_, Path.resolve_home _ _ _⟩
      cases e.isDir with
      | true => exact .inr rfl
      | false => exact .inl rfl
    · right
      have hhere : lead = [] → e.name ≠ ['~'] := fun hlead hname => htilde ⟨hlead, hname⟩
      obtain ⟨n, hn, hdir⟩ := hoffers.node?_eq hentry hcwd hhere
      refine ⟨n, hn, ?_⟩
      rw [Path.getLast?_entryText hname, hdir]

/-- A file in a directory is completed to its path, which is read as one word if its name is one. -/
theorem completed_path_ideas :
    let s := ((Life.start {} Builtin.table).after [.submit "touch 'projects/my list.txt'".toList]).session
    "projects/ideas.txt".toList ∈ s.complete "pwd; cat projects/".toList ∧
      Text.tokens "cat projects/ideas.txt".toList = ["cat".toList, "projects/ideas.txt".toList] ∧
      (∃ n, s.files.node? (Path.resolve s.shell.cwd "projects/ideas.txt".toList s.shell.home) = some n ∧
        n.isDir = false) ∧
      "projects/my list.txt".toList ∈ s.complete "pwd; cat projects/".toList ∧
      Text.tokens "cat projects/my list.txt".toList ≠ ["cat".toList, "projects/my list.txt".toList] := by
  intro s
  have hpiece : Session.lastPiece "pwd; cat projects/".toList = "cat".toList ++ ' ' :: "projects/".toList := by
    decide +kernel
  have hideas : "projects/ideas.txt".toList ∈ s.complete "pwd; cat projects/".toList := by
    decide +kernel
  have hlist : "projects/my list.txt".toList ∈ s.complete "pwd; cat projects/".toList := by
    decide +kernel
  have hline : ∀ d ∈ "pwd; cat projects/".toList, Quote.isQuote d = false :=
    List.all_iff_forall_prop.mp (by decide)
  have hword : ∀ d ∈ "projects/".toList, isBlank d = false := List.all_iff_forall_prop.mp (by decide)
  obtain ⟨-, hread, hthere⟩ := completed_path {} _ hline hpiece rfl hword hideas
  obtain ⟨-, hunread, -⟩ := completed_path {} _ hline hpiece rfl hword hlist
  refine ⟨hideas, hread.mpr (List.all_iff_forall_prop.mp (by decide)), ?_, hlist, fun h => ?_⟩
  · rcases hthere (.inl (by decide +kernel)) with ⟨heq | heq, -⟩ | ⟨n, hn, hdir⟩
    · exact absurd heq (by decide)
    · exact absurd heq (by decide)
    · exact ⟨n, hn, Bool.eq_false_iff.mpr fun h => absurd (hdir.mp h) (by decide)⟩
  · exact absurd (hunread.mp h ' ' (by decide)).2 (by decide)

/-- Four ways in which an offered path is no use. A name with a blank is read as two words. The name that
stands for home is resolved to that directory, even if it is offered for a file. What is offered in a home
directory that has been configured with dots is looked for elsewhere. And the name `..` in a directory
above it may lead to a file. -/
theorem not_completed_path :
    (let s := ((Life.start {} Builtin.table).after [.submit "touch 'a b'".toList]).session
     "a b".toList ∈ s.complete "cat a".toList ∧
       Text.tokens "cat a b".toList ≠ ["cat".toList, "a b".toList]) ∧
    (let s := ((Life.start {} Builtin.table).after [.submit "touch ./~".toList]).session
     "~".toList ∈ s.complete "cat ~".toList ∧
       s.files.node? (Path.resolve s.shell.cwd "~".toList s.shell.home) = some .dir) ∧
    (let s := (Life.start { home := "/a/../b".toList } Builtin.table).session
     "about.txt".toList ∈ s.complete "cat ab".toList ∧
       s.files.node? (Path.resolve s.shell.cwd "about.txt".toList s.shell.home) = none) ∧
    let s := ((Life.start { home := "/etc/motd/b/../x".toList } Builtin.table).after
      [.submit "cd /".toList]).session
    "/etc/motd/b/../".toList ∈ s.complete "cd /etc/motd/b/.".toList ∧
      s.files.isDir (Path.resolve s.shell.cwd "/etc/motd/b/../".toList s.shell.home) = false := by
  refine ⟨?_, ?_, ?_, ?_⟩ <;> decide +kernel

end VirtualTerminal
