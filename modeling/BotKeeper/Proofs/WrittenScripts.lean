import BotKeeper.Proofs.FileTrees
import BotKeeper.Script.Write

/-! Writing scripts, one after another. A script that is written stands where its path leads, and
around it nothing changes, except that directories that hold it may be new. A script that is not
written leaves at most such directories. An existing file is replaced only where that is asked for. -/

namespace BotKeeper.Proofs
open FilePath FileTree

variable {tree before after : FileTree} {start place : Place} {path text : String} {overwrite : Bool}

structure Hosts (start : Place) (tree : FileTree) : Prop where
  rooted : Rooted tree
  home : tree.node? start = some .dir

structure Order where
  path : String
  text : String
  overwrite : Bool

def Order.carryOut (start : Place) (tree : FileTree) (order : Order) : FileTree :=
  (Script.write tree order.path order.text order.overwrite start).1

/-- What comes of an order. A script that is written is the only file that changes, and one that is
refused changes none. What the path led to before says which of the two happens, unless directories
have to be made first. -/
structure OrderOutcome (start : Place) (order : Order) (before after : FileTree)
    (result : Except Error Unit) : Prop where
  written : result = .ok () → ∃ place executable,
    after.resolve start order.path = .ok (place, .file order.text executable) ∧
    (executable = true ↔
      NamesShellScript order.path ∨ ∃ old, before.node? place = some (.file old true)) ∧
    (before.resolve start order.path = .error .noEntry ∧ before.node? place = none ∨
      order.overwrite = true ∧ ∃ old was, before.node? place = some (.file old was)) ∧
    ∀ other, other ≠ place → KeptAt order.path start before after other
  refused : ∀ error, result = .error error → Grown order.path start before after
  occupied : ∀ place old executable,
    before.resolve start order.path = .ok (place, .file old executable) →
    if order.overwrite then result = .ok ()
    else result = .error (.alreadyExists order.path) ∧ after = before
  vacant : ∀ destination, before.locateFrom start order.path = .ok destination →
    destination.slash = false → before.resolve start order.path = .error .noEntry → result = .ok ()

section parents

private theorem makeParent_preserves {kept : FileTree → Prop}
    (step : ∀ outer, GoesOn outer path → ∀ before made, kept before →
      before.makeDir outer start = .ok made → kept made)
    (holds : kept tree) : kept (Script.makeParent tree path start).1 := by
  unfold Script.makeParent
  split
  · exact holds
  · rename_i parent found
    have around := goesOn_parent found
    have made : kept (tree.makeDirs (withParents parent) start).1 := by
      refine makeDirs_preserves (fun outer inside => step outer ?_) holds
      rcases mem_withParents inside with rfl | farther
      · exact around
      · exact farther.trans around
    split
    · rename_i done
      rwa [done] at made
    · rename_i failed
      rwa [failed] at made

private theorem makeParent_grown (tree : FileTree) (path : String) (start : Place) :
    Grown path start tree (Script.makeParent tree path start).1 :=
  makeParent_preserves
    (fun _ around _ _ earlier done => earlier.trans (makeDir_grown around done))
    (Grown.refl path start tree)

/-- Where the destination of a path is reached, no directory has to be made. -/
theorem makeParent_located {destination : Destination}
    (located : tree.locateFrom start path = .ok destination) :
    Script.makeParent tree path start = (tree, .ok ()) := by
  unfold Script.makeParent
  split
  · rfl
  · rename_i parent found
    obtain ⟨outer, row⟩ := withParents_eq_cons parent
    obtain ⟨place, resolved⟩ := resolve_outer located (goesOn_parent found)
    have made : tree.makeDirs (withParents parent) start = (tree, .ok ()) := by
      rw [row, makeDirs, makeDir_existing resolved]
      simp only [unlessDir, isDir_of_resolved resolved, if_true]
    rw [made]

end parents

section files

private theorem openFile_cases (opened : tree.openFile path overwrite start = .ok place) :
    ∃ parent name, place = parent ++ [name] ∧
      tree.locateFrom start path = .ok ⟨parent, some name, false⟩ ∧
      placeOf ⟨parent, some name, false⟩ name = .ok place ∧
      (tree.node? place = none ∨
        overwrite = true ∧ ∃ old was, tree.node? place = some (.file old was)) := by
  obtain ⟨⟨parent, named, slash⟩, located, opened⟩ := bind_eq_ok.mp opened
  cases named with
  | none => cases overwrite <;> cases opened
  | some name =>
    cases slash with
    | true => cases opened
    | false =>
      obtain ⟨found, placed, opened⟩ := bind_eq_ok.mp opened
      have here := placeOf_eq_ok placed
      split at opened
      · cases opened
        exact ⟨parent, name, here, located, placed, .inl ‹_›⟩
      · cases overwrite <;> cases opened
      · cases overwrite with
        | false => cases opened
        | true =>
          cases opened
          exact ⟨parent, name, here, located, placed, .inr ⟨rfl, _, _, ‹_›⟩⟩

/-- A file is opened in the place of a file, or of nothing. -/
theorem not_dir (free : tree.node? place = none ∨
    overwrite = true ∧ ∃ old was, tree.node? place = some (.file old was)) :
    tree.node? place ≠ some .dir := by
  rcases free with missing | ⟨-, old, was, held⟩
  · simp [missing]
  · simp [held]

private theorem openFile_existing {old : String} {was : Bool}
    (resolved : tree.resolve start path = .ok (place, .file old was)) :
    tree.openFile path overwrite start = if overwrite then .ok place else .error .fileExists := by
  obtain ⟨⟨parent, named, slash⟩, located, ⟨-, -, other⟩ | ⟨name, named, placed, held, behind⟩⟩ :=
    resolved_cases resolved
  · cases other
  · cases named
    cases slash with
    | true => cases behind rfl
    | false =>
      simp only [openFile, located, bind, Except.bind, placed, held]
      rfl

/-- Where only the file itself is missing, it is opened. -/
theorem openFile_missing {destination : Destination}
    (located : tree.locateFrom start path = .ok destination) (plain : destination.slash = false)
    (missing : tree.resolve start path = .error .noEntry) (overwrite : Bool) :
    ∃ place, tree.openFile path overwrite start = .ok place := by
  obtain ⟨parent, name, slash⟩ := destination
  cases plain
  cases name with
  | none =>
    have held := resolve_unnamed located rfl
    cases held.symm.trans missing
  | some name =>
    cases placed : placeOf ⟨parent, some name, false⟩ name with
    | error error =>
      simp only [resolve, located, bind, Except.bind, placed] at missing
      cases missing
      unfold placeOf at placed
      split at placed <;> cases placed
    | ok place =>
      cases held : tree.node? place with
      | none =>
        refine ⟨place, ?_⟩
        simp only [openFile, located, bind, Except.bind, placed, held]
        rfl
      | some node =>
        have found := resolve_named located rfl placed held fun slash => by cases slash
        cases found.symm.trans missing

def stored (tree : FileTree) (place : Place) (text : String) : FileTree :=
  if Script.isShellScript place then (tree.writeFile place text).makeExecutable place
  else tree.writeFile place text

private theorem writeFile_eq (tree : FileTree) (place : Place) (text : String) :
    ∃ was, tree.writeFile place text = tree.put place (.file text was) ∧
      (was = true ↔ ∃ old, tree.node? place = some (.file old true)) := by
  unfold writeFile
  split
  · rename_i old was held
    exact ⟨was, rfl, by simp [held]⟩
  · rename_i absent
    exact ⟨false, rfl, nofun, fun ⟨old, held⟩ => absurd held (absent old true)⟩

private theorem makeExecutable_put (inner : place ≠ []) (text : String) (was : Bool) :
    (tree.put place (.file text was)).makeExecutable place = tree.put place (.file text true) := by
  have held : (tree.put place (.file text was)).node? place = some (.file text was) := by
    rw [node?_put inner, if_pos rfl]
  unfold makeExecutable
  rw [held]
  simp only [put, OrderedMap.insert_insert]

private theorem stored_eq (inner : place ≠ []) (text : String) :
    ∃ executable, stored tree place text = tree.put place (.file text executable) ∧
      (executable = true ↔
        Script.isShellScript place = true ∨ ∃ old, tree.node? place = some (.file old true)) := by
  obtain ⟨was, written, mode⟩ := writeFile_eq tree place text
  unfold stored
  rw [written]
  split
  · rename_i shell
    exact ⟨true, makeExecutable_put inner text was, by simp [shell]⟩
  · rename_i other
    exact ⟨was, rfl, by simp [other, mode]⟩

/-- Whether the shell runs the file that was opened shows in its path. -/
theorem isShellScript_iff {parent : Place} {name : String}
    (located : tree.locateFrom start path = .ok ⟨parent, some name, false⟩) :
    Script.isShellScript (parent ++ [name]) = true ↔ NamesShellScript path := by
  rcases located_cases located with
    ⟨-, same⟩ | ⟨front, last, blanks, outer, parted, -, -, -, same⟩
  · cases same
  · have ending : pieces path = front ++ [name] := by
      unfold reached at same
      split at same
      · cases same
      · split at same
        · cases same
        · obtain ⟨-, shown, blank⟩ := Destination.mk.inj same
          have none : blanks = [] := by simpa using blank
          rw [parted, none, Option.some.inj shown]
    rw [namesShellScript_iff ending]
    simp [Script.isShellScript]

theorem write_cases (tree : FileTree) (path text : String) (overwrite : Bool) (start : Place) :
    (∃ error, Script.write tree path text overwrite start =
      ((Script.makeParent tree path start).1, .error error)) ∨
    ∃ place, (Script.makeParent tree path start).1.openFile path overwrite start = .ok place ∧
      Script.write tree path text overwrite start =
        (stored (Script.makeParent tree path start).1 place text, .ok ()) := by
  unfold Script.write
  rcases Script.makeParent tree path start with ⟨made, error | ⟨⟩⟩
  · exact .inl ⟨error, rfl⟩
  · cases opened : made.openFile path overwrite start with
    | error error => exact .inl ⟨Script.openError path error, by simp only [opened]⟩
    | ok place =>
      refine .inr ⟨place, rfl, ?_⟩
      simp only [opened]
      rfl

private theorem write_existing {old : String} {was : Bool}
    (resolved : tree.resolve start path = .ok (place, .file old was)) :
    Script.write tree path text overwrite start =
      if overwrite then (stored tree place text, .ok ())
      else (tree, .error (.alreadyExists path)) := by
  obtain ⟨destination, located, -⟩ := resolved_cases resolved
  unfold Script.write
  rw [makeParent_located located]
  simp only [openFile_existing resolved]
  cases overwrite with
  | false => rfl
  | true => rfl

end files

section orders

private theorem carryOut_hosts (order : Order) (hosts : Hosts start tree) :
    Hosts start (order.carryOut start tree) := by
  have made : Hosts start (Script.makeParent tree order.path start).1 := by
    refine makeParent_preserves ?_ hosts
    rintro outer - before after ⟨rooted, home⟩ done
    obtain ⟨destination, name, place, located, -, placed, free, rfl⟩ := makeDir_cases done
    obtain rfl := placeOf_eq_ok placed
    have unheld : before.node? (destination.parent ++ [name]) ≠ some .dir := by simp [free]
    exact ⟨rooted.put (rooted.parent_dir home located) unheld .dir,
      keepsDirs_put (by simp) unheld .dir start home⟩
  unfold Order.carryOut
  rcases write_cases tree order.path order.text order.overwrite start with
    ⟨error, same⟩ | ⟨place, opened, same⟩
  · rw [same]
    exact made
  · rw [same]
    obtain ⟨parent, name, rfl, located, -, free⟩ := openFile_cases opened
    have inner : parent ++ [name] ≠ [] := by simp
    obtain ⟨executable, written, -⟩ := stored_eq inner order.text
    rw [written]
    exact ⟨made.rooted.put (made.rooted.parent_dir made.home located) (not_dir free) _,
      keepsDirs_put inner (not_dir free) _ start made.home⟩

private theorem carriedOut_hosts (orders : List Order) (hosts : Hosts start tree) :
    Hosts start (orders.foldl (Order.carryOut start) tree) := by
  induction orders generalizing tree with
  | nil => exact hosts
  | cons order rest ih => exact ih (carryOut_hosts order hosts)

theorem Grown.stored_kept (grown : Grown path start before tree) (inner : place ≠ [])
    (free : tree.node? place ≠ some .dir) (node : FileNode) {other : Place} (apart : other ≠ place) :
    KeptAt path start before (tree.put place node) other := by
  have still : (tree.put place node).node? other = tree.node? other := by
    rw [node?_put inner, if_neg apart]
  rcases grown other with same | ⟨missing, made, outer, around, resolved⟩
  · exact .inl (still.trans same)
  · exact .inr ⟨missing, still.trans made, outer, around,
      resolve_mono (keepsDirs_put inner free node) resolved⟩

/-- A place that is free now was free before, and the path led to nothing. -/
theorem Grown.missing_before (grown : Grown path start before tree) {destination : Destination}
    {name : String} (located : tree.locateFrom start path = .ok destination)
    (named : destination.name = some name) (placed : placeOf destination name = .ok place)
    (missing : tree.node? place = none) :
    before.resolve start path = .error .noEntry ∧ before.node? place = none := by
  have absent : before.node? place = none := by
    rcases grown place with same | ⟨earlier, -⟩
    · exact same.symm.trans missing
    · exact earlier
  refine ⟨?_, absent⟩
  rcases grown.located_back located with same | failed
  · simp only [resolve, same, bind, Except.bind, named, placed, absent]
  · simp only [resolve, failed, bind, Except.bind]

theorem Grown.file_iff (grown : Grown path start before after) {old : String} {was : Bool} :
    after.node? place = some (.file old was) ↔ before.node? place = some (.file old was) := by
  rcases grown place with same | ⟨missing, made, -⟩
  · rw [same]
  · simp [missing, made]

/-- The file that was opened after the directories were made holds the script. -/
theorem Grown.written (grown : Grown path start before tree)
    (opened : tree.openFile path overwrite start = .ok place) (text : String) :
    ∃ executable,
      (stored tree place text).resolve start path = .ok (place, .file text executable) ∧
      (executable = true ↔ NamesShellScript path ∨ ∃ old, before.node? place = some (.file old true)) ∧
      (before.resolve start path = .error .noEntry ∧ before.node? place = none ∨
        overwrite = true ∧ ∃ old was, before.node? place = some (.file old was)) ∧
      ∀ other, other ≠ place → KeptAt path start before (stored tree place text) other := by
  obtain ⟨parent, name, rfl, located, placed, free⟩ := openFile_cases opened
  have inner : parent ++ [name] ≠ [] := by simp
  obtain ⟨executable, put, mode⟩ := stored_eq inner text
  rw [put]
  have held : (tree.put (parent ++ [name]) (.file text executable)).node? (parent ++ [name]) =
      some (.file text executable) := by
    rw [node?_put inner, if_pos rfl]
  refine ⟨executable, ?_, ?_, ?_, fun other => grown.stored_kept inner (not_dir free) _⟩
  · exact resolve_named (locateFrom_mono (keepsDirs_put inner (not_dir free) _) located) rfl placed
      held nofun
  · simp only [mode, isShellScript_iff located, grown.file_iff]
  · rcases free with missing | ⟨asked, old, was, held⟩
    · exact .inl (grown.missing_before located rfl placed missing)
    · exact .inr ⟨asked, old, was, grown.file_iff.mp held⟩

private theorem carryOut_outcome (order : Order) :
    OrderOutcome start order tree (order.carryOut start tree)
      (Script.write tree order.path order.text order.overwrite start).2 := by
  have grown := makeParent_grown tree order.path start
  unfold Order.carryOut
  constructor
  · intro done
    rcases write_cases tree order.path order.text order.overwrite start with
      ⟨error, same⟩ | ⟨place, opened, same⟩
    · rw [same] at done
      cases done
    · simp only [same]
      exact ⟨place, grown.written opened order.text⟩
  · intro error failed
    rcases write_cases tree order.path order.text order.overwrite start with
      ⟨_, same⟩ | ⟨place, opened, same⟩
    · simp only [same]
      exact grown
    · rw [same] at failed
      cases failed
  · intro place old was resolved
    rw [write_existing resolved]
    cases order.overwrite with
    | false => exact ⟨rfl, rfl⟩
    | true => rfl
  · intro destination located plain missing
    obtain ⟨place, opened⟩ := openFile_missing located plain missing order.overwrite
    simp only [Script.write, makeParent_located located, opened]

/-- However many scripts were written, the next one goes to its own file. -/
theorem scripts_keep_to_their_files (hosts : Hosts start tree) (orders : List Order) (next : Order) :
    let before := orders.foldl (Order.carryOut start) tree
    let written := Script.write before next.path next.text next.overwrite start
    Hosts start before ∧ Hosts start written.1 ∧ OrderOutcome start next before written.1 written.2 := by
  have kept := carriedOut_hosts orders hosts
  exact ⟨kept, carryOut_hosts next kept, carryOut_outcome next⟩

/-- The first script is there, the second one was refused, and so is the third. -/
theorem third_script_leaves_first :
    let orders : List Order :=
      [⟨"bots/a/start.sh", "first", false⟩, ⟨"bots/b/../a/start.sh/run.sh", "second", true⟩]
    let before := orders.foldl (Order.carryOut []) {}
    let path := "bots/./b/../a//start.sh"
    let written := Script.write before path "third" false []
    Hosts [] {} ∧ before.resolve [] path = .ok (["bots", "a", "start.sh"], .file "first" true) ∧
      written.2 = .error (.alreadyExists path) ∧ written.1 = before := by
  intro orders before path written
  have hosts : Hosts [] {} := by
    refine ⟨fun place name node found => ?_, rfl⟩
    simp [node?, OrderedMap.get?_empty] at found
  have resolved : before.resolve [] path = .ok (["bots", "a", "start.sh"], .file "first" true) := by
    decide +kernel
  have kept := (scripts_keep_to_their_files hosts orders ⟨path, "third", false⟩).2.2
  have refused := kept.occupied _ _ _ resolved
  simp only [Bool.false_eq_true, if_false] at refused
  exact ⟨hosts, resolved, refused⟩

end orders

end BotKeeper.Proofs
