import SymbolPath.Doclet

/-!
What a doclet holds after any run of writes. The run is told as a history, in which the tags of the
start count as added. A tag of the history stands at the end unless its title is set later, and the
tags that stand do so in the order in which they were written. What is read of a title then depends
on the last time it was set, and on what was added since.
-/

namespace SymbolPath.Doclet

inductive Write where
  | set (title value : Text)
  | add (title value : Text)

def Write.tag : Write → Tag
  | .set title value => ⟨title, value⟩
  | .add title value => ⟨title, value⟩

def write (d : Doclet) : Write → Doclet
  | .set title value => d.set title value
  | .add title value => d.add title value

def after (d : Doclet) (writes : List Write) : Doclet :=
  writes.foldl write d

def setTitles : List Write → List Text
  | [] => []
  | .set title _ :: rest => title :: setTitles rest
  | .add _ _ :: rest => setTitles rest

def additions : List Write → List Tag
  | [] => []
  | .set _ _ :: rest => additions rest
  | .add title value :: rest => ⟨title, value⟩ :: additions rest

/-- The tags of a history that stand: their title is not set later. -/
def standing : List Write → List Tag
  | [] => []
  | first :: later =>
      if (setTitles later).contains first.tag.title then standing later
      else first.tag :: standing later

/-- The history before the first write: what was there counts as added. -/
def origin (tags : List Tag) : List Write :=
  tags.map fun tag => .add tag.title tag.value

def under (title : Text) (tags : List Tag) : List Text :=
  (tags.filter fun tag => tag.title == title).map Tag.value

theorem values_eq_under (d : Doclet) (title : Text) : d.values title = under title d.tags := rfl

theorem under_append (title : Text) (front rest : List Tag) :
    under title (front ++ rest) = under title front ++ under title rest := by
  simp [under, List.filter_append]

theorem setTitles_append (before later : List Write) :
    setTitles (before ++ later) = setTitles before ++ setTitles later := by
  induction before with
  | nil => rfl
  | cons first before ih =>
      cases first with
      | set title value => exact congrArg (title :: ·) ih
      | add title value => exact ih

theorem additions_append (before later : List Write) :
    additions (before ++ later) = additions before ++ additions later := by
  induction before with
  | nil => rfl
  | cons first before ih =>
      cases first with
      | set title value => exact ih
      | add title value => exact congrArg (Tag.mk title value :: ·) ih

theorem setTitles_origin (tags : List Tag) : setTitles (origin tags) = [] := by
  induction tags with
  | nil => rfl
  | cons tag tags ih => exact ih

theorem additions_origin (tags : List Tag) : additions (origin tags) = tags := by
  induction tags with
  | nil => rfl
  | cons tag tags ih => exact congrArg (tag :: ·) ih

section Step

variable {first : Write} {later : List Write}

theorem standing_cons_of_set (isSet : first.tag.title ∈ setTitles later) :
    standing (first :: later) = standing later :=
  if_pos (List.contains_iff_mem.mpr isSet)

theorem standing_cons_of_unset (unset : first.tag.title ∉ setTitles later) :
    standing (first :: later) = first.tag :: standing later :=
  if_neg (mt List.contains_iff_mem.mp unset)

end Step

-- Induction on what comes before. A write of it falls if its title is set on either side.
theorem standing_append (before later : List Write) :
    standing (before ++ later) =
      (standing before).filter (fun tag => tag.title ∉ setTitles later) ++ standing later := by
  induction before with
  | nil => rfl
  | cons first before ih =>
      rw [List.cons_append]
      by_cases falls : first.tag.title ∈ setTitles (before ++ later)
      · rw [standing_cons_of_set falls, ih]
        rw [setTitles_append, List.mem_append] at falls
        by_cases soon : first.tag.title ∈ setTitles before
        · rw [standing_cons_of_set soon]
        · have late := falls.resolve_left soon
          rw [standing_cons_of_unset soon, List.filter_cons_of_neg (by simpa using late)]
      · rw [standing_cons_of_unset falls, ih]
        rw [setTitles_append, List.mem_append] at falls
        obtain ⟨notSoon, notLate⟩ := not_or.mp falls
        rw [standing_cons_of_unset notSoon, List.filter_cons_of_pos (by simpa using notLate),
          List.cons_append]

theorem standing_origin (tags : List Tag) : standing (origin tags) = tags := by
  induction tags with
  | nil => rfl
  | cons tag tags ih =>
      have unset : tag.title ∉ setTitles (origin tags) := by
        rw [setTitles_origin]
        exact List.not_mem_nil
      exact (standing_cons_of_unset unset).trans (congrArg (tag :: ·) ih)

theorem tags_write {d : Doclet} {history : List Write} (stands : d.tags = standing history)
    (next : Write) : (d.write next).tags = standing (history ++ [next]) := by
  rw [standing_append, ← stands]
  cases next with
  | set title value =>
      have others : (d.tags.filter fun tag => tag.title ∉ [title]) =
          d.tags.filter fun tag => tag.title != title := by
        apply List.filter_congr
        intro tag _
        by_cases same : tag.title = title <;> simp [same]
      exact congrArg (· ++ [⟨title, value⟩]) others.symm
  | add title value =>
      have all : (d.tags.filter fun tag => tag.title ∉ ([] : List Text)) = d.tags := by simp
      exact congrArg (· ++ [⟨title, value⟩]) all.symm

theorem tags_after {d : Doclet} {history : List Write} (stands : d.tags = standing history)
    (writes : List Write) : (d.after writes).tags = standing (history ++ writes) := by
  induction writes generalizing d history with
  | nil => rwa [List.append_nil]
  | cons next writes ih =>
      have further := ih (tags_write stands next)
      rwa [List.append_assoc] at further

/-- Of titles that a history never sets, all that was added stands, in order. -/
theorem filter_standing (wanted : Text → Bool) {history : List Write}
    (unset : ∀ title ∈ setTitles history, wanted title = false) :
    (standing history).filter (fun tag => wanted tag.title) =
      (additions history).filter fun tag => wanted tag.title := by
  induction history with
  | nil => rfl
  | cons first later ih =>
      cases first with
      | set title value =>
          obtain ⟨notWanted, behind⟩ := List.forall_mem_cons.mp unset
          rw [additions, ← ih behind]
          by_cases falls : title ∈ setTitles later
          · rw [standing_cons_of_set falls]
          · rw [standing_cons_of_unset falls]
            exact List.filter_cons_of_neg (Bool.eq_false_iff.mp notWanted)
      | add title value =>
          rw [additions, List.filter_cons, ← ih unset]
          by_cases falls : title ∈ setTitles later
          · -- what falls is of a title that is not asked for
            rw [standing_cons_of_set falls, if_neg (Bool.eq_false_iff.mp (unset title falls))]
          · rw [standing_cons_of_unset falls]
            exact List.filter_cons

theorem under_standing_of_unset {history : List Write} {title : Text}
    (unset : title ∉ setTitles history) :
    under title (standing history) = under title (additions history) := by
  unfold under
  rw [filter_standing (· == title)]
  intro other isSet
  rw [beq_eq_false_iff_ne]
  rintro rfl
  exact unset isSet

theorem under_standing_of_set {later : List Write} {title : Text} (unset : title ∉ setTitles later)
    (before : List Write) (value : Text) :
    under title (standing (before ++ .set title value :: later)) =
      value :: under title (additions later) := by
  have fallen : under title ((standing before).filter fun tag =>
      tag.title ∉ setTitles (.set title value :: later)) = [] := by
    rw [under, List.map_eq_nil_iff, List.filter_filter, List.filter_eq_nil_iff]
    intro tag _
    by_cases same : tag.title = title <;> simp [same, setTitles]
  have stands : standing (.set title value :: later) = [⟨title, value⟩] ++ standing later :=
    standing_cons_of_unset unset
  have alone : under title [⟨title, value⟩] = [value] := by simp [under]
  rw [standing_append, under_append, fallen, stands, under_append, alone,
    under_standing_of_unset unset]
  rfl

theorem exists_last_set {writes : List Write} {title : Text} (isSet : title ∈ setTitles writes) :
    ∃ before value later, writes = before ++ .set title value :: later ∧
      title ∉ setTitles later := by
  induction writes with
  | nil => cases isSet
  | cons first rest ih =>
      by_cases again : title ∈ setTitles rest
      · obtain ⟨before, value, later, rfl, unset⟩ := ih again
        exact ⟨first :: before, value, later, rfl, unset⟩
      · cases first with
        | set other value =>
            obtain rfl : title = other := (List.mem_cons.mp isSet).resolve_right again
            exact ⟨[], value, rest, rfl, again⟩
        | add other value => exact absurd isSet again

theorem mem_values_iff {d : Doclet} {title value : Text} :
    value ∈ d.values title ↔ ⟨title, value⟩ ∈ d.tags := by
  unfold values
  rw [List.mem_map]
  constructor
  · rintro ⟨tag, member, rfl⟩
    obtain ⟨stored, titled⟩ := List.mem_filter.mp member
    rwa [← beq_iff_eq.mp titled]
  · intro stored
    exact ⟨_, List.mem_filter.mpr ⟨stored, beq_self_eq_true title⟩, rfl⟩

theorem has_iff {d : Doclet} {title : Text} : d.has title = true ↔ d.values title ≠ [] := by
  rw [has, List.any_eq_true, values, ne_eq, List.map_eq_nil_iff, List.filter_eq_nil_iff]
  simp

theorem isInner_iff {d : Doclet} :
    d.isInner = true ↔ d.values "inner" ≠ [] ∨ ("inner" : Text) ∈ d.values "access" := by
  rw [isInner, Bool.or_eq_true, has_iff, mem_values_iff, List.any_eq_true]
  refine or_congr_right ⟨?_, fun stored => ⟨_, stored, rfl⟩⟩
  rintro ⟨⟨title, value⟩, stored, inner⟩
  obtain ⟨titled, valued⟩ := Bool.and_eq_true_iff.mp inner
  obtain rfl : title = "access" := beq_iff_eq.mp titled
  obtain rfl : value = "inner" := beq_iff_eq.mp valued
  exact stored

theorem tags_of_run (d : Doclet) (writes : List Write) :
    (d.after writes).tags = standing (origin d.tags ++ writes) :=
  tags_after (standing_origin d.tags).symm writes

/-- A title that was set moves behind what stood already, and keeps its place from then on. -/
example : (after ⟨[⟨"access", "private"⟩, ⟨"name", "a"⟩, ⟨"isa", "method"⟩], 0⟩
      [.set "name" "b", .add "access" "inner", .set "name" "c", .add "name" "d"]).tags =
    [⟨"access", "private"⟩, ⟨"isa", "method"⟩, ⟨"access", "inner"⟩, ⟨"name", "c"⟩,
      ⟨"name", "d"⟩] := by
  decide +kernel

/-- What can be read after a run: a title has what it had at the start and what was added to it, or
what it was last set to and what was added since. -/
theorem reads_after_run (d : Doclet) (writes : List Write) (title : Text) :
    let result := d.after writes
    ((title ∉ setTitles writes ∧
          result.values title = d.values title ++ under title (additions writes)) ∨
        ∃ before value later, writes = before ++ .set title value :: later ∧
          title ∉ setTitles later ∧
          result.values title = value :: under title (additions later)) ∧
      result.value title = (result.values title).head?.getD [] ∧
      (result.has title = true ↔ result.values title ≠ []) ∧
      (result.isInner = true ↔
        result.values "inner" ≠ [] ∨ ("inner" : Text) ∈ result.values "access") ∧
      result.tags.filter (fun tag => tag.title ∉ setTitles writes) =
        (d.tags ++ additions writes).filter fun tag => tag.title ∉ setTitles writes := by
  intro result
  have stands : result.tags = standing (origin d.tags ++ writes) := tags_of_run d writes
  have sets : setTitles (origin d.tags ++ writes) = setTitles writes := by
    rw [setTitles_append, setTitles_origin, List.nil_append]
  have adds : additions (origin d.tags ++ writes) = d.tags ++ additions writes := by
    rw [additions_append, additions_origin]
  refine ⟨?_, value_eq_head result title, has_iff, isInner_iff, ?_⟩
  · rw [values_eq_under, stands]
    by_cases isSet : title ∈ setTitles writes
    · obtain ⟨before, value, later, rfl, unset⟩ := exists_last_set isSet
      refine .inr ⟨before, value, later, rfl, unset, ?_⟩
      rw [← List.append_assoc, under_standing_of_set unset]
    · refine .inl ⟨isSet, ?_⟩
      rw [under_standing_of_unset (sets ▸ isSet), adds, under_append, values_eq_under]
  · rw [stands, ← adds, ← sets]
    apply filter_standing fun other => other ∉ setTitles (origin d.tags ++ writes)
    intro other isSet
    simpa using isSet

end SymbolPath.Doclet
