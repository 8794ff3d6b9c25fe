import SymbolPath.Sources

/-!
How source files are named. The parts of a location are names, and those of a file that was found
below a folder are names on the disk; so a location can be read off its text. A file below the
project is shown as seen from there, any other is absolute, and no two files are shown alike.
-/

namespace SymbolPath

namespace Location

/-- What a part of a location can be: some text without a slash that is not a single dot. -/
def IsName (part : Text) : Prop := part ≠ [] ∧ '/' ∉ part ∧ part ≠ ['.']

instance (part : Text) : Decidable (IsName part) :=
  inferInstanceAs (Decidable (part ≠ [] ∧ '/' ∉ part ∧ part ≠ ['.']))

def Proper (l : Location) : Prop := ∀ part ∈ l.parts, IsName part

theorem proper_ofText (written : Text) : (ofText written).Proper := by
  intro part member
  obtain ⟨inSplit, kept⟩ := List.mem_filter.mp member
  have isPart : part ≠ [] ∧ part ≠ ['.'] := by simpa using kept
  exact ⟨isPart.1, Text.not_mem_of_mem_splitOn inSplit, isPart.2⟩

theorem Proper.child {l : Location} (proper : l.Proper) {names : List Text}
    (areNames : ∀ name ∈ names, IsName name) : (l.child names).Proper := by
  intro part member
  exact (List.mem_append.mp member).elim (proper part) (areNames part)

theorem Proper.append {l other : Location} (proper : l.Proper) (otherProper : other.Proper) :
    (l.append other).Proper := by
  unfold Location.append
  split
  · exact otherProper
  · exact proper.child otherProper

theorem rootOf_rootText (root : Root) {t : Text} (noSlash : t.head? ≠ some '/') :
    rootOf (rootText root ++ t) = root := by
  have stops : t.takeWhile (· == '/') = [] := by
    cases t with
    | nil => rfl
    | cons c rest =>
        have other : c ≠ '/' := fun same => noSlash (congrArg some same)
        simp [other]
  cases root <;> simp [rootOf, rootText, stops]

theorem partsOf_rootText (root : Root) (t : Text) :
    (ofText (rootText root ++ t)).parts = (ofText t).parts := by
  cases root <;> simp [ofText, rootText, Text.splitOn]

theorem head?_joinWith {parts : List Text} (areNames : ∀ part ∈ parts, IsName part) :
    (Text.joinWith ['/'] parts).head? ≠ some '/' := by
  cases parts with
  | nil => nofun
  | cons part rest =>
      obtain ⟨some, noSlash, _⟩ := areNames part List.mem_cons_self
      obtain ⟨c, cs, rfl⟩ := List.exists_cons_of_ne_nil some
      have other : c ≠ '/' := fun same => noSlash (same ▸ List.mem_cons_self)
      cases rest <;> simpa [Text.joinWith] using other

theorem partsOf_joinWith {parts : List Text} (areNames : ∀ part ∈ parts, IsName part) :
    (ofText (Text.joinWith ['/'] parts)).parts = parts := by
  cases parts with
  | nil => rfl
  | cons part rest =>
      unfold ofText
      rw [Text.splitOn_joinWith (by simp) fun part member => (areNames part member).2.1]
      refine List.filter_eq_self.mpr fun part member => ?_
      obtain ⟨some, _, notDot⟩ := areNames part member
      simp [some, notDot]

theorem ofText_text {l : Location} (proper : l.Proper) : ofText l.text = l := by
  obtain ⟨root, parts⟩ := l
  by_cases bare : root = .relative ∧ parts = []
  · obtain ⟨rfl, rfl⟩ := bare
    rfl
  · have written : text ⟨root, parts⟩ = rootText root ++ Text.joinWith ['/'] parts := by
      cases root <;> cases parts <;> first | rfl | exact absurd ⟨rfl, rfl⟩ bare
    rw [written, ofText, rootOf_rootText root (head?_joinWith proper)]
    exact congrArg (Location.mk root) ((partsOf_rootText root _).trans (partsOf_joinWith proper))

theorem text_ne_nil {l : Location} (proper : l.Proper) : l.text ≠ [] := by
  intro empty
  have read := ofText_text proper
  rw [empty] at read
  rw [← read] at empty
  exact absurd empty (by decide)

theorem dropPrefixParts_eq_some {above parts rest : List Text} :
    dropPrefixParts above parts = some rest ↔ parts = above ++ rest := by
  induction above generalizing parts with
  | nil => simp [dropPrefixParts]
  | cons a above ih =>
      cases parts with
      | nil => simp [dropPrefixParts]
      | cons b parts =>
          by_cases same : a = b
          · simp [dropPrefixParts, same, ih]
          · simp [dropPrefixParts, same, Ne.symm same]

theorem below?_eq_some {l base seen : Location} :
    l.below? base = some seen ↔ seen.root = .relative ∧ l = base.child seen.parts := by
  obtain ⟨root, parts⟩ := l
  obtain ⟨baseRoot, baseParts⟩ := base
  obtain ⟨seenRoot, seenParts⟩ := seen
  by_cases same : baseRoot = root
  · subst same
    simp only [below?, child, if_true, Option.map_eq_map, Option.map_eq_some_iff,
      dropPrefixParts_eq_some, mk.injEq, true_and]
    constructor
    · rintro ⟨rest, rfl, rfl, rfl⟩
      exact ⟨rfl, rfl⟩
    · rintro ⟨rfl, rfl⟩
      exact ⟨seenParts, rfl, rfl, rfl⟩
  · simp [below?, child, same, Ne.symm same]

end Location

namespace FileTree

/-- The files of the tree are led to by names, as they are on every disk. -/
def Named (tree : FileTree) : Prop :=
  ∀ names ∈ tree.files, ∀ name ∈ names, Location.IsName name

instance (tree : FileTree) : Decidable tree.Named :=
  inferInstanceAs (Decidable (∀ names ∈ tree.files, ∀ name ∈ names, Location.IsName name))

theorem mem_filesOf {entries : List (Text × FileTree)} {entry : Text × FileTree}
    (isEntry : entry ∈ entries) {names : List Text} (inEntry : names ∈ entry.2.files) :
    entry.1 :: names ∈ filesOf entries := by
  induction entries with
  | nil => cases isEntry
  | cons first rest ih =>
      rw [filesOf, List.mem_append]
      rcases List.mem_cons.mp isEntry with rfl | later
      · exact .inl (List.mem_map_of_mem inEntry)
      · exact .inr (ih later)

theorem mem_files_of_child? {tree child : FileTree} {name : Text}
    (found : tree.child? name = some child) {names : List Text} (below : names ∈ child.files) :
    name :: names ∈ tree.files := by
  obtain ⟨entry, isEntry, rfl⟩ := Option.map_eq_some_iff.mp found
  obtain rfl : entry.1 = name := by simpa using List.find?_some isEntry
  cases tree with
  | file bytes => cases isEntry
  | folder entries => exact mem_filesOf (List.mem_of_find?_eq_some isEntry) below

theorem mem_files_of_at? {tree found : FileTree} {above : List Text}
    (stands : tree.at? above = some found) {names : List Text} (below : names ∈ found.files) :
    above ++ names ∈ tree.files := by
  induction above generalizing tree with
  | nil =>
      cases stands
      exact below
  | cons name rest ih =>
      obtain ⟨child, isChild, stands⟩ := Option.bind_eq_some_iff.mp stands
      exact mem_files_of_child? isChild (ih stands)

theorem Named.at? {tree found : FileTree} (named : tree.Named) {above : List Text}
    (stands : tree.at? above = some found) : found.Named :=
  fun _ below name member =>
    named _ (mem_files_of_at? stands below) name (List.mem_append_right above member)

end FileTree

theorem Disk.exists_at?_of_find? {disk : Disk} {l : Location} {found : FileTree}
    (stands : disk.find? l = .ok (some found)) : ∃ above, disk.tree.at? above = some found := by
  unfold Disk.find? at stands
  split at stands
  · cases stands
  · split at stands
    · cases stands
    · split at stands
      · exact ⟨_, Except.ok.inj stands⟩
      · cases stands
      · cases stands

theorem Disk.named_of_find? {disk : Disk} (named : disk.tree.Named) {l : Location}
    {found : FileTree} (stands : disk.find? l = .ok (some found)) : found.Named :=
  have ⟨_, leads⟩ := exists_at?_of_find? stands
  named.at? leads

namespace Sources

/-- A place that a target can stand for: below the project as written, or absolute. -/
structure Placed (project l : Location) : Prop where
  proper : l.Proper
  seen : l.isAbsolute = true ∨ ∃ names, l = project.child names

theorem Placed.child {project l : Location} (placed : Placed project l) {names : List Text}
    (areNames : ∀ name ∈ names, Location.IsName name) : Placed project (l.child names) where
  proper := placed.proper.child areNames
  seen := by
    refine placed.seen.imp id ?_
    rintro ⟨above, rfl⟩
    exact ⟨above ++ names, congrArg (Location.mk project.root) (List.append_assoc _ _ _)⟩

theorem placed_append {project : Location} (proper : project.Proper) (target : Text) :
    Placed project (project.append (Location.ofText target)) where
  proper := proper.append (Location.proper_ofText target)
  seen := by
    unfold Location.append
    split
    · exact .inl ‹_›
    · exact .inr ⟨_, rfl⟩

theorem Placed.proper_shown {project l : Location} (placed : Placed project l) :
    ((l.below? project).getD l).Proper := by
  cases seen : l.below? project with
  | none => exact placed.proper
  | some below =>
      obtain ⟨_, rfl⟩ := Location.below?_eq_some.mp seen
      exact fun part member => placed.proper part (List.mem_append_right project.parts member)

theorem Placed.absolute {project l : Location} (placed : Placed project l)
    (outside : l.below? project = none) : l.root ≠ .relative := by
  rcases placed.seen with absolute | ⟨names, below⟩
  · simpa [Location.isAbsolute] using absolute
  · have inside : l.below? project = some ⟨.relative, names⟩ :=
      Location.below?_eq_some.mpr ⟨rfl, below⟩
    rw [outside] at inside
    cases inside

theorem shown_inj {project l other : Location} (placed : Placed project l)
    (otherPlaced : Placed project other)
    (same : (l.below? project).getD l = (other.below? project).getD other) : l = other := by
  cases seen : l.below? project with
  | none =>
      cases otherSeen : other.below? project with
      | none => simpa [seen, otherSeen] using same
      | some below =>
          obtain ⟨relative, _⟩ := Location.below?_eq_some.mp otherSeen
          rw [seen, otherSeen] at same
          exact absurd ((congrArg Location.root same).trans relative) (placed.absolute seen)
  | some below =>
      obtain ⟨relative, lies⟩ := Location.below?_eq_some.mp seen
      cases otherSeen : other.below? project with
      | none =>
          rw [seen, otherSeen] at same
          exact absurd ((congrArg Location.root same).symm.trans relative)
            (otherPlaced.absolute otherSeen)
      | some otherBelow =>
          obtain ⟨_, otherLies⟩ := Location.below?_eq_some.mp otherSeen
          rw [seen, otherSeen] at same
          rw [lies, otherLies, show below = otherBelow from same]

/-- No two files are shown by one name. -/
theorem shownName_inj {project l other : Location} (placed : Placed project l)
    (otherPlaced : Placed project other)
    (same : shownName project l = shownName project other) : l = other := by
  -- what is shown is read off the text
  have shown := congrArg Location.ofText same
  unfold shownName at shown
  rw [Location.ofText_text placed.proper_shown, Location.ofText_text otherPlaced.proper_shown]
    at shown
  exact shown_inj placed otherPlaced shown

def sourcesOf (found : List Found) : List Location :=
  found.filterMap fun
    | .source location => some location
    | .missing _ => none

theorem sourcesOf_append (found others : List Found) :
    sourcesOf (found ++ others) = sourcesOf found ++ sourcesOf others :=
  List.filterMap_append

theorem mem_sourcesOf {found : List Found} {l : Location} :
    l ∈ sourcesOf found ↔ .source l ∈ found := by
  unfold sourcesOf
  rw [List.mem_filterMap]
  constructor
  · rintro ⟨_ | _, member, same⟩
    · exact Option.some.inj same ▸ member
    · cases same
  · exact fun member => ⟨_, member, rfl⟩

theorem placed_of_below {settings : Settings} {project folder : Location} {tree : FileTree}
    (named : tree.Named) (placed : Placed project folder) {l : Location}
    (listed : l ∈ below settings folder tree) : Placed project l := by
  obtain ⟨names, inTree, rfl⟩ := List.mem_map.mp (List.mem_filter.mp listed).1
  exact placed.child (named names (List.mem_mergeSort.mp inTree))

theorem placed_of_expand {disk : Disk} {settings : Settings} {project : Location}
    (named : disk.tree.Named) (proper : project.Proper) {target : Text} {found : List Found}
    (expands : expand disk settings project target = .ok found) {l : Location}
    (isSource : l ∈ sourcesOf found) : Placed project l := by
  have placed := placed_append proper target
  unfold expand at expands
  rw [mem_sourcesOf] at isSource
  generalize project.append (Location.ofText target) = location at placed expands
  dsimp only at expands
  cases stands : disk.find? location with
  | error obstacle => simp [stands, Except.map] at expands
  | ok entry =>
      rw [stands] at expands
      obtain rfl := Except.ok.inj expands
      rcases entry with _ | (_ | entries)
      · simp at isSource
      · obtain rfl : l = location := by simpa using isSource
        exact placed
      · have listed : l ∈ below settings location (.folder entries) := by simpa using isSource
        exact placed_of_below (Disk.named_of_find? named stands) placed listed

theorem placed_of_expandAll {disk : Disk} (settings : Settings) {project : Location}
    (named : disk.tree.Named) (proper : project.Proper) (targets : List Text) {l : Location}
    (isSource : l ∈ sourcesOf (expandAll disk settings project targets).1) :
    Placed project l := by
  induction targets with
  | nil => cases isSource
  | cons target rest ih =>
      unfold expandAll at isSource
      cases expands : expand disk settings project target with
      | error obstacle =>
          rw [expands] at isSource
          cases isSource
      | ok found =>
          rw [expands] at isSource
          dsimp only at isSource
          rw [sourcesOf_append, List.mem_append] at isSource
          exact isSource.elim (placed_of_expand named proper expands) ih

end Sources

end SymbolPath
