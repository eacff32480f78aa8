import BotKeeper.FileTree
import BotKeeper.Proofs.PathTexts

/-! Directories that grow. A path that leads somewhere leads to the same place after directories
were added, and one that leads somewhere only now met nothing before. Where the destination of a
path is reached, the directories that hold it exist, so making them changes nothing. -/

namespace BotKeeper.Proofs
open FilePath FileTree

variable {tree before after : FileTree} {start place : Place} {path : String}

def KeepsDirs (before after : FileTree) : Prop :=
  ∀ place, before.node? place = some .dir → after.node? place = some .dir

/-- What stands at a place is the same as before, or it is a new directory, one of those that
hold what the path names. -/
def KeptAt (path : String) (start : Place) (before after : FileTree) (place : Place) : Prop :=
  after.node? place = before.node? place ∨
    before.node? place = none ∧ after.node? place = some .dir ∧
      ∃ outer, GoesOn outer path ∧ after.resolve start outer = .ok (place, .dir)

def Grown (path : String) (start : Place) (before after : FileTree) : Prop :=
  ∀ place, KeptAt path start before after place

def Rooted (tree : FileTree) : Prop :=
  ∀ place name node, tree.node? (place ++ [name]) = some node → tree.node? place = some .dir

theorem node?_put (inner : place ≠ []) (node : FileNode) (other : Place) :
    (tree.put place node).node? other = if other = place then some node else tree.node? other := by
  by_cases top : other = []
  · simp [node?, top, inner.symm]
  · simp only [node?, if_neg top, put, OrderedMap.get?_insert]

/-- A computation of two parts gives a value if both do. -/
theorem bind_eq_ok {ε α β : Type} {first : Except ε α} {next : α → Except ε β} {value : β} :
    first >>= next = .ok value ↔ ∃ middle, first = .ok middle ∧ next middle = .ok value := by
  cases first with
  | error error => exact ⟨nofun, nofun⟩
  | ok middle =>
    constructor
    · exact fun final => ⟨middle, rfl, final⟩
    · rintro ⟨_, same, final⟩
      cases same
      exact final

section walks

/-- A step stays where it is or goes back, whatever the tree, or it leads into a directory. -/
theorem step_cases (here : Place) (piece : String) :
    (∃ result : Except SystemError Place, (∀ tree : FileTree, tree.step here piece = result) ∧
      ∀ next, result = .ok next → next = here ∨ next = here.dropLast) ∨
    ∀ tree : FileTree, tree.step here piece = match tree.node? (here ++ [piece]) with
      | some .dir => .ok (here ++ [piece])
      | some (.file _ _) => .error .notDirectory
      | none => .error .noEntry := by
  by_cases idle : piece = "" ∨ piece = "."
  · exact .inl ⟨.ok here, fun tree => if_pos idle, by simp⟩
  · by_cases up : piece = ".."
    · exact .inl ⟨.ok here.dropLast, fun tree => (if_neg idle).trans (if_pos up), by simp⟩
    · by_cases long : maxNameBytes < piece.utf8ByteSize
      · exact .inl ⟨.error .nameTooLong,
          fun tree => (if_neg idle).trans ((if_neg up).trans (if_pos long)), by simp⟩
      · exact .inr fun tree => (if_neg idle).trans ((if_neg up).trans (if_neg long))

private theorem step_mono (keeps : KeepsDirs before after) {piece : String} {reached : Place}
    (walked : before.step start piece = .ok reached) : after.step start piece = .ok reached := by
  rcases step_cases start piece with ⟨result, fixed, -⟩ | named
  · rw [fixed] at walked ⊢
    exact walked
  · rw [named] at walked ⊢
    split at walked
    · rename_i held
      rwa [keeps _ held]
    · cases walked
    · cases walked

private theorem walk_mono (keeps : KeepsDirs before after) {pieces : List String} {reached : Place}
    (walked : before.walk start pieces = .ok reached) : after.walk start pieces = .ok reached := by
  induction pieces generalizing start with
  | nil => exact walked
  | cons piece rest ih =>
    rw [walk, List.foldlM_cons, bind_eq_ok] at walked ⊢
    obtain ⟨next, stepped, walked⟩ := walked
    exact ⟨next, step_mono keeps stepped, ih walked⟩

private theorem walk_append (tree : FileTree) (start : Place) (front back : List String) :
    tree.walk start (front ++ back) = tree.walk start front >>= fun reached => tree.walk reached back :=
  List.foldlM_append

theorem Grown.keepsDirs (grown : Grown path start before after) : KeepsDirs before after := by
  intro place held
  rcases grown place with same | ⟨-, made, -⟩
  · exact same.trans held
  · exact made

/-- A step that is possible only now led to nothing before. -/
theorem Grown.step_back (grown : Grown path start before after) {here reached : Place}
    {piece : String} (walked : after.step here piece = .ok reached) :
    before.step here piece = .ok reached ∨ before.step here piece = .error .noEntry := by
  rcases step_cases here piece with ⟨result, fixed, -⟩ | named
  · rw [fixed] at walked ⊢
    exact .inl walked
  · rw [named] at walked ⊢
    rcases grown (here ++ [piece]) with same | ⟨missing, -⟩
    · rw [← same]
      exact .inl walked
    · rw [missing]
      exact .inr rfl

theorem Grown.walk_back (grown : Grown path start before after) {here reached : Place}
    {pieces : List String} (walked : after.walk here pieces = .ok reached) :
    before.walk here pieces = .ok reached ∨ before.walk here pieces = .error .noEntry := by
  induction pieces generalizing here with
  | nil => exact .inl walked
  | cons piece rest ih =>
    rw [walk, List.foldlM_cons] at walked ⊢
    obtain ⟨next, stepped, walked⟩ := bind_eq_ok.mp walked
    rcases grown.step_back stepped with same | missing
    · rw [same]
      exact ih walked
    · rw [missing]
      exact .inr rfl

theorem Rooted.dropLast_dir (rooted : Rooted tree) {here : Place}
    (held : tree.node? here = some .dir) : tree.node? here.dropLast = some .dir := by
  rcases List.eq_nil_or_concat here with rfl | ⟨outer, name, rfl⟩
  · exact held
  · rw [List.concat_eq_append] at held ⊢
    rw [List.dropLast_concat]
    exact rooted outer name .dir held

theorem Rooted.step_dir (rooted : Rooted tree) {here next : Place} {piece : String}
    (held : tree.node? here = some .dir) (stepped : tree.step here piece = .ok next) :
    tree.node? next = some .dir := by
  rcases step_cases here piece with ⟨result, fixed, stays⟩ | named
  · rw [fixed] at stepped
    rcases stays next stepped with rfl | rfl
    · exact held
    · exact rooted.dropLast_dir held
  · rw [named] at stepped
    split at stepped
    · cases stepped
      assumption
    · cases stepped
    · cases stepped

theorem Rooted.walk_dir (rooted : Rooted tree) {here next : Place} {pieces : List String}
    (held : tree.node? here = some .dir) (walked : tree.walk here pieces = .ok next) :
    tree.node? next = some .dir := by
  induction pieces generalizing here with
  | nil =>
    cases walked
    exact held
  | cons piece rest ih =>
    rw [walk, List.foldlM_cons, bind_eq_ok] at walked
    obtain ⟨middle, stepped, walked⟩ := walked
    exact ih (rooted.step_dir held stepped) walked

end walks

section destinations

structure Fits (path : String) : Prop where
  clean : '\x00' ∉ path.toList
  present : path ≠ ""
  short : path.utf8ByteSize ≤ maxPathBytes

def reached (parent : Place) (last : String) (slash : Bool) : Destination :=
  if last = "." then ⟨parent, none, slash⟩
  else if last = ".." then ⟨parent.dropLast, none, slash⟩
  else ⟨parent, some last, slash⟩

private theorem pieces_cases (path : String) :
    (∀ piece ∈ pieces path, piece = "") ∨
    ∃ front last blanks, pieces path = front ++ last :: blanks ∧ last ≠ "" ∧
      ∀ piece ∈ blanks, piece = "" := by
  cases inside : (pieces path).reverse.dropWhile String.isEmpty with
  | nil =>
    left
    intro piece member
    simpa using List.dropWhile_eq_nil_iff.mp inside piece (by simpa using member)
  | cons last front =>
    right
    obtain ⟨gone, parted, blank, named⟩ := dropWhile_eq_cons inside
    refine ⟨front.reverse, last, gone.reverse, ?_, by simpa using named, by simpa using blank⟩
    rw [← List.reverse_reverse (pieces path), parted]
    simp

theorem fits_of_located {destination : Destination}
    (located : tree.locateFrom start path = .ok destination) : Fits path := by
  unfold locateFrom at located
  split at located
  · cases located
  · split at located
    · cases located
    · split at located
      · cases located
      · constructor
        · simp_all
        · simp_all
        · omega

theorem locateFrom_blank (fits : Fits path) (blank : ∀ piece ∈ pieces path, piece = "") :
    tree.locateFrom start path = .ok ⟨[], none, true⟩ := by
  have nothing : (pieces path).reverse.dropWhile String.isEmpty = [] := by
    simpa [List.dropWhile_eq_nil_iff] using blank
  unfold locateFrom
  rw [if_neg (by simpa using fits.clean), if_neg (by simpa using fits.present),
    if_neg (Nat.not_lt.mpr fits.short)]
  simp only [nothing]

theorem locateFrom_eq (fits : Fits path) {front blanks : List String} {last : String}
    (parted : pieces path = front ++ last :: blanks) (named : last ≠ "")
    (blank : ∀ piece ∈ blanks, piece = "") :
    tree.locateFrom start path =
      (tree.walk start front).map (reached · last (!blanks.isEmpty)) := by
  have inside : (pieces path).reverse.dropWhile String.isEmpty = last :: front.reverse := by
    rw [parted, List.reverse_append, List.reverse_cons, List.append_assoc,
      List.dropWhile_append_of_pos (by simpa using blank)]
    simp [named]
  have slash : ((pieces path).getLast? == some "") = !blanks.isEmpty := by
    rcases List.eq_nil_or_concat blanks with rfl | ⟨others, final, rfl⟩
    · simp [parted, named]
    · rw [parted, List.concat_eq_append, ← List.cons_append, ← List.append_assoc,
        List.getLast?_concat, blank final (by simp)]
      simp
  unfold locateFrom
  rw [if_neg (by simpa using fits.clean), if_neg (by simpa using fits.present),
    if_neg (Nat.not_lt.mpr fits.short)]
  simp only [inside, slash, List.reverse_reverse]
  cases tree.walk start front with
  | error error => rfl
  | ok parent =>
    simp only [reached, Except.map, bind, Except.bind, pure, Except.pure]
    split
    · rfl
    · split
      · rfl
      · rfl

/-- A destination is reached by a walk to the last step, unless the path has no step. -/
theorem located_cases {destination : Destination}
    (located : tree.locateFrom start path = .ok destination) :
    (∀ piece ∈ pieces path, piece = "") ∧ destination = ⟨[], none, true⟩ ∨
    ∃ front last blanks parent, pieces path = front ++ last :: blanks ∧ last ≠ "" ∧
      (∀ piece ∈ blanks, piece = "") ∧ tree.walk start front = .ok parent ∧
      destination = reached parent last (!blanks.isEmpty) := by
  have fits := fits_of_located located
  rcases pieces_cases path with blank | ⟨front, last, blanks, parted, named, blank⟩
  · rw [locateFrom_blank fits blank] at located
    cases located
    exact .inl ⟨blank, rfl⟩
  · rw [locateFrom_eq fits parted named blank] at located
    cases walked : tree.walk start front with
    | error error =>
      rw [walked] at located
      cases located
    | ok parent =>
      rw [walked] at located
      cases located
      exact .inr ⟨front, last, blanks, parent, parted, named, blank, walked, rfl⟩

theorem locateFrom_mono (keeps : KeepsDirs before after) {destination : Destination}
    (located : before.locateFrom start path = .ok destination) :
    after.locateFrom start path = .ok destination := by
  have fits := fits_of_located located
  rcases located_cases located with
    ⟨blank, rfl⟩ | ⟨front, last, blanks, parent, parted, named, blank, walked, rfl⟩
  · exact locateFrom_blank fits blank
  · rw [locateFrom_eq fits parted named blank, walk_mono keeps walked]
    rfl

/-- A destination that is reached only now was behind something that was missing. -/
theorem Grown.located_back (grown : Grown path start before after) {other : String}
    {destination : Destination} (located : after.locateFrom start other = .ok destination) :
    before.locateFrom start other = .ok destination ∨
      before.locateFrom start other = .error .noEntry := by
  have fits := fits_of_located located
  rcases located_cases located with
    ⟨blank, rfl⟩ | ⟨front, last, blanks, parent, parted, named, blank, walked, rfl⟩
  · exact .inl (locateFrom_blank fits blank)
  · rw [locateFrom_eq fits parted named blank]
    rcases grown.walk_back walked with same | missing
    · rw [same]
      exact .inl rfl
    · rw [missing]
      exact .inr rfl

theorem Rooted.parent_dir (rooted : Rooted tree) (home : tree.node? start = some .dir)
    {destination : Destination} (located : tree.locateFrom start path = .ok destination) :
    tree.node? destination.parent = some .dir := by
  rcases located_cases located with
    ⟨-, rfl⟩ | ⟨front, last, blanks, parent, -, -, -, walked, rfl⟩
  · rfl
  · have held := rooted.walk_dir home walked
    unfold reached
    split
    · exact held
    · split
      · exact rooted.dropLast_dir held
      · exact held

theorem resolve_unnamed {destination : Destination}
    (located : tree.locateFrom start path = .ok destination) (unnamed : destination.name = none) :
    tree.resolve start path = .ok (destination.parent, .dir) := by
  simp only [resolve, located, bind, Except.bind, unnamed]
  rfl

theorem resolve_named {destination : Destination} {name : String} {node : FileNode}
    (located : tree.locateFrom start path = .ok destination) (named : destination.name = some name)
    (placed : placeOf destination name = .ok place) (held : tree.node? place = some node)
    (behind : destination.slash = true → node = .dir) :
    tree.resolve start path = .ok (place, node) := by
  simp only [resolve, located, bind, Except.bind, named, placed, held]
  cases node with
  | dir => rfl
  | file text executable => exact if_neg fun slash => by cases behind slash

theorem resolved_cases {node : FileNode} (resolved : tree.resolve start path = .ok (place, node)) :
    ∃ destination, tree.locateFrom start path = .ok destination ∧
      (destination.name = none ∧ place = destination.parent ∧ node = .dir ∨
      ∃ name, destination.name = some name ∧ placeOf destination name = .ok place ∧
        tree.node? place = some node ∧ (destination.slash = true → node = .dir)) := by
  obtain ⟨destination, located, resolved⟩ := bind_eq_ok.mp resolved
  refine ⟨destination, located, ?_⟩
  split at resolved
  · cases resolved
    exact .inl ⟨‹_›, rfl, rfl⟩
  · rename_i name named
    obtain ⟨place, placed, resolved⟩ := bind_eq_ok.mp resolved
    split at resolved
    · cases resolved
    · cases resolved
      exact .inr ⟨name, named, placed, ‹_›, fun _ => rfl⟩
    · split at resolved
      · cases resolved
      · cases resolved
        exact .inr ⟨name, named, placed, ‹_›, fun slash => absurd slash ‹_›⟩

theorem resolve_mono (keeps : KeepsDirs before after)
    (resolved : before.resolve start path = .ok (place, .dir)) :
    after.resolve start path = .ok (place, .dir) := by
  obtain ⟨destination, located, ⟨unnamed, rfl, -⟩ | ⟨name, named, placed, held, behind⟩⟩ :=
    resolved_cases resolved
  · exact resolve_unnamed (locateFrom_mono keeps located) unnamed
  · exact resolve_named (locateFrom_mono keeps located) named placed (keeps place held) behind

/-- Where the last step of a path leads to is what the path names. -/
theorem resolve_stepped {parent : Place} {last : String} {slash : Bool}
    (located : tree.locateFrom start path = .ok (reached parent last slash)) (present : last ≠ "")
    (stepped : tree.step parent last = .ok place) :
    tree.resolve start path = .ok (place, .dir) := by
  unfold reached at located
  unfold step at stepped
  split at located
  · rw [if_pos (.inr ‹_›)] at stepped
    cases stepped
    exact resolve_unnamed located rfl
  · rw [if_neg (by simp [*])] at stepped
    split at located
    · rw [if_pos ‹_›] at stepped
      cases stepped
      exact resolve_unnamed located rfl
    · rw [if_neg ‹_›] at stepped
      split at stepped
      · cases stepped
      · split at stepped
        · cases stepped
          exact resolve_named located rfl (if_neg ‹_›) ‹_› fun _ => rfl
        · cases stepped
        · cases stepped

theorem GoesOn.fits {outer : String} (around : GoesOn outer path) (fits : Fits path) : Fits outer := by
  obtain ⟨⟨inner, rfl, -⟩, front, last, parted, named⟩ := around
  constructor
  · intro member
    exact fits.clean (by simp [member])
  · rintro rfl
    have alone : [""] = front ++ [last] := parted
    cases front with
    | nil => exact named (by simpa using alone.symm)
    | cons _ _ => simp at alone
  · have short := fits.short
    rw [String.utf8ByteSize_append, String.utf8ByteSize_append] at short
    omega

/-- Where the destination of a path is reached, the directories around it are there. -/
theorem resolve_outer {outer : String} {destination : Destination}
    (located : tree.locateFrom start path = .ok destination) (around : GoesOn outer path) :
    ∃ place, tree.resolve start outer = .ok (place, .dir) := by
  have fits := around.fits (fits_of_located located)
  obtain ⟨⟨inner, rfl, piece, member, active, -⟩, kept, final, outerPieces, ends⟩ := around
  rcases located_cases located with
    ⟨blank, -⟩ | ⟨front, last, blanks, parent, parted, -, blank, walked, -⟩
  · rw [pieces_joined] at blank
    exact absurd (blank piece (List.mem_append_right _ member)) active
  · -- The last step of the whole path is one of the inner ones, so all outer ones are walked.
    obtain ⟨between, rfl⟩ : pieces outer <+: front := by
      rw [pieces_joined] at parted
      rcases List.append_eq_append_iff.mp parted with ⟨between, same, -⟩ | ⟨between, same, rest⟩
      · exact ⟨between, same.symm⟩
      · cases between with
        | nil => simp [same]
        | cons first between =>
          cases rest
          exact absurd (blank piece (List.mem_append_right _ member)) active
    rw [outerPieces, walk_append, walk_append] at walked
    obtain ⟨place, walked, -⟩ := bind_eq_ok.mp walked
    obtain ⟨middle, front, last⟩ := bind_eq_ok.mp walked
    obtain ⟨next, stepped, rest⟩ := bind_eq_ok.mp last
    cases rest
    have found : tree.locateFrom start outer = .ok (reached middle final false) := by
      rw [locateFrom_eq fits outerPieces ends (by simp), front]
      rfl
    exact ⟨place, resolve_stepped found ends stepped⟩

end destinations

section growth

theorem Grown.refl (path : String) (start : Place) (tree : FileTree) : Grown path start tree tree :=
  fun _ => .inl rfl

theorem Grown.trans {middle : FileTree} (first : Grown path start before middle)
    (second : Grown path start middle after) : Grown path start before after := by
  intro place
  rcases second place with same | ⟨missing, made, outer, around, resolved⟩
  · rcases first place with earlier | ⟨missing, made, outer, around, resolved⟩
    · exact .inl (same.trans earlier)
    · exact .inr ⟨missing, same.trans made, outer, around, resolve_mono second.keepsDirs resolved⟩
  · rcases first place with earlier | ⟨-, held, -⟩
    · exact .inr ⟨earlier.symm.trans missing, made, outer, around, resolved⟩
    · cases held.symm.trans missing

theorem placeOf_eq_ok {destination : Destination} {name : String}
    (placed : placeOf destination name = .ok place) : place = destination.parent ++ [name] := by
  unfold placeOf at placed
  split at placed
  · cases placed
  · cases placed
    rfl

theorem makeDir_cases {made : FileTree} (done : tree.makeDir path start = .ok made) :
    ∃ destination name place, tree.locateFrom start path = .ok destination ∧
      destination.name = some name ∧ placeOf destination name = .ok place ∧
      tree.node? place = none ∧ made = tree.put place .dir := by
  obtain ⟨destination, located, done⟩ := bind_eq_ok.mp done
  split at done
  · cases done
  · rename_i name named
    obtain ⟨place, placed, done⟩ := bind_eq_ok.mp done
    split at done
    · cases done
    · cases done
      exact ⟨destination, name, place, located, named, placed, ‹_›, rfl⟩

theorem makeDir_existing (resolved : tree.resolve start path = .ok (place, .dir)) :
    tree.makeDir path start = .error .fileExists := by
  obtain ⟨destination, located, ⟨unnamed, -⟩ | ⟨name, named, placed, held, -⟩⟩ :=
    resolved_cases resolved
  · simp only [makeDir, located, bind, Except.bind, unnamed]
  · simp only [makeDir, located, bind, Except.bind, named, placed, held]

theorem isDir_of_resolved (resolved : tree.resolve start path = .ok (place, .dir)) :
    tree.isDir path start = true := by
  simp only [isDir, find, resolved, Except.map]

theorem keepsDirs_put (inner : place ≠ []) (free : tree.node? place ≠ some .dir) (node : FileNode) :
    KeepsDirs tree (tree.put place node) := by
  intro other held
  rw [node?_put inner, if_neg]
  · exact held
  · rintro rfl
    exact free held

theorem Rooted.put (rooted : Rooted tree) {parent : Place} {name : String}
    (held : tree.node? parent = some .dir) (free : tree.node? (parent ++ [name]) ≠ some .dir)
    (node : FileNode) : Rooted (tree.put (parent ++ [name]) node) := by
  intro place last other found
  apply keepsDirs_put (by simp) free
  rw [node?_put (by simp)] at found
  split at found
  · rename_i same
    rw [(List.append_inj' same rfl).1]
    exact held
  · exact rooted place last other found

theorem makeDir_grown {outer : String} (around : GoesOn outer path) {made : FileTree}
    (done : tree.makeDir outer start = .ok made) : Grown path start tree made := by
  obtain ⟨destination, name, place, located, named, placed, free, rfl⟩ := makeDir_cases done
  have inner : place ≠ [] := by simp [placeOf_eq_ok placed]
  intro other
  by_cases here : other = place
  · subst here
    have held : (tree.put other .dir).node? other = some .dir := by rw [node?_put inner, if_pos rfl]
    have unheld : tree.node? other ≠ some .dir := by simp [free]
    have keeps := keepsDirs_put inner unheld .dir
    exact .inr ⟨free, held, outer, around,
      resolve_named (locateFrom_mono keeps located) named placed held fun _ => rfl⟩
  · left
    rw [node?_put inner, if_neg here]

/-- What making one directory preserves, making a row of them preserves, also where it fails. -/
theorem makeDirs_preserves {kept : FileTree → Prop} {paths : List String}
    (step : ∀ outer ∈ paths, ∀ before made, kept before →
      before.makeDir outer start = .ok made → kept made)
    (holds : kept tree) : kept (tree.makeDirs paths start).1 := by
  induction paths generalizing tree with
  | nil => exact holds
  | cons outer rest ih =>
    have farther := ih (fun other member => step other (List.mem_cons_of_mem _ member)) holds
    have here := step outer List.mem_cons_self
    unfold makeDirs
    split
    · exact here _ _ holds ‹_›
    · split
      · rename_i failed
        exact failed ▸ farther
      · rename_i later others
        rw [others] at farther
        split
        · exact here _ _ farther ‹_›
        · exact farther
    · exact holds

end growth

end BotKeeper.Proofs
