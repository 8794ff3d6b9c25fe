import SymbolPath.Proofs.Path.Masking

/-!
All the segments of a path and the separators between them, found in two ways: in one scan from left
to right that stops at every separator showing through the mask, and by cutting at the last separator
again and again, each time going on with what stands before it. Both find the same, since what
stands before a separator that shows is masked as a path of its own.
-/

namespace SymbolPath.Path

structure Pieces where
  first : Text
  rest : List (Char × Text)
deriving DecidableEq, Repr

namespace Pieces

def text (pieces : Pieces) : Text :=
  pieces.first ++ pieces.rest.flatMap fun (separator, segment) => separator :: segment

def separators (pieces : Pieces) : List Char :=
  pieces.rest.map Prod.fst

def segments (pieces : Pieces) : List Text :=
  pieces.first :: pieces.rest.map Prod.snd

def append (front : Pieces) (separator : Char) (back : Pieces) : Pieces :=
  ⟨front.first, front.rest ++ (separator, back.first) :: back.rest⟩

theorem segments_append (front : Pieces) (separator : Char) (back : Pieces) :
    (front.append separator back).segments = front.segments ++ back.segments := by
  simp [append, segments]

/-- Reads a path from left to right, its mask alongside. -/
def scan : Text → Text → Pieces
  | c :: path, shown :: mask =>
    let later := scan path mask
    if isSeparator shown then ⟨[], (c, later.first) :: later.rest⟩
    else ⟨c :: later.first, later.rest⟩
  | _, _ => ⟨[], []⟩

theorem scan_append {front mask : Text} (same : front.length = mask.length) {c : Char}
    (separates : isSeparator c = true) (back backMask : Text) :
    scan (front ++ c :: back) (mask ++ c :: backMask) =
      (scan front mask).append c (scan back backMask) := by
  induction front generalizing mask with
  | nil =>
      obtain rfl : mask = [] := List.length_eq_zero_iff.mp same.symm
      simp [scan, separates, append]
  | cons d front ih =>
      cases mask with
      | nil => cases same
      | cons shown mask =>
          have later := ih (Nat.succ.inj same)
          by_cases here : isSeparator shown = true <;> simp [scan, later, here, append]

theorem scan_plain {path mask : Text} (same : path.length = mask.length)
    (plain : ∀ c ∈ mask, isSeparator c = false) : scan path mask = ⟨path, []⟩ := by
  induction path generalizing mask with
  | nil => rfl
  | cons c path ih =>
      cases mask with
      | nil => cases same
      | cons shown mask =>
          obtain ⟨here, later⟩ := List.forall_mem_cons.mp plain
          simp [scan, here, ih (Nat.succ.inj same) later]

theorem text_scan {path mask : Text} (same : path.length = mask.length) :
    (scan path mask).text = path := by
  induction path generalizing mask with
  | nil => rfl
  | cons c path ih =>
      cases mask with
      | nil => cases same
      | cons shown mask =>
          have later := ih (Nat.succ.inj same)
          unfold text at later
          by_cases here : isSeparator shown = true <;> simp [scan, here, text, later]

theorem separators_scan {path mask : Text} (same : path.length = mask.length)
    (shows : ∀ (i : Nat) c, mask[i]? = some c → isSeparator c = true → path[i]? = some c) :
    (scan path mask).separators = mask.filter isSeparator := by
  induction path generalizing mask with
  | nil =>
      obtain rfl : mask = [] := List.length_eq_zero_iff.mp same.symm
      rfl
  | cons c path ih =>
      cases mask with
      | nil => cases same
      | cons shown mask =>
          have later := ih (Nat.succ.inj same) fun i => shows (i + 1)
          unfold separators at later
          by_cases here : isSeparator shown = true
          · obtain rfl : c = shown := Option.some.inj (shows 0 shown rfl here)
            simp [scan, here, separators, later]
          · simp [scan, here, separators, later]

def ofPath (path : Text) : Pieces :=
  scan path (masked path)

theorem ofPath_split {front back : Text} {c : Char}
    (shown : (masked (front ++ c :: back))[front.length]? = some c)
    (separates : isSeparator c = true) :
    ofPath (front ++ c :: back) = (ofPath front).append c (ofPath back) := by
  rw [ofPath, masked_split shown separates,
    scan_append (length_masked front).symm separates back (masked back)]
  rfl

theorem ofPath_plain {path : Text} (plain : ∀ c ∈ masked path, isSeparator c = false) :
    ofPath path = ⟨path, []⟩ :=
  scan_plain (length_masked path).symm plain

end Pieces

theorem length_before_lt {path : Text} {cut : Cut} (found : cut? path = some cut) :
    cut.before.length < path.length := by
  have whole := congrArg List.length (chars_cut? found)
  rw [List.length_append, List.length_cons] at whole
  omega

/-- Cuts a path at its last separator, and what stands before that again, until nothing separates
any more. -/
def cutAll (path : Text) : Pieces :=
  match _ : cut? path with
  | none => ⟨path, []⟩
  | some cut => (cutAll cut.before).append cut.separator ⟨cut.after, []⟩
termination_by path.length
decreasing_by exact length_before_lt (by assumption)

theorem cutAll_of_none {path : Text} (absent : cut? path = none) : cutAll path = ⟨path, []⟩ := by
  rw [cutAll]
  split
  · rfl
  · rename_i found
    rw [absent] at found
    cases found

theorem cutAll_of_some {path : Text} {cut : Cut} (found : cut? path = some cut) :
    cutAll path = (cutAll cut.before).append cut.separator ⟨cut.after, []⟩ := by
  rw [cutAll]
  split
  · rename_i absent
    rw [absent] at found
    cases found
  · rename_i other same
    rw [found] at same
    cases same
    rfl

theorem cutAll_eq_ofPath (path : Text) : cutAll path = Pieces.ofPath path := by
  induction path using cutAll.induct with
  | case1 path absent =>
      rw [cutAll_of_none absent, Pieces.ofPath_plain (cut?_eq_none_iff.mp absent)]
  | case2 path cut found ih =>
      have last := lastSeparator_of_cut? found
      -- nothing separates behind the last separator, so its segment is one piece of the scan
      have behind : Pieces.ofPath cut.after = ⟨cut.after, []⟩ :=
        Pieces.ofPath_plain (cut?_eq_none_iff.mp (cutMarks_after found))
      rw [cutAll_of_some found, ih]
      obtain ⟨before, separator, after⟩ := cut
      obtain rfl : before ++ separator :: after = path := chars_cut? found
      rw [Pieces.ofPath_split last.shown last.separates, behind]

theorem masked_of_mem_cutAll {path segment : Text} (member : segment ∈ (cutAll path).segments) :
    ∀ c ∈ masked segment, isSeparator c = false := by
  induction path using cutAll.induct with
  | case1 path absent =>
      rw [cutAll_of_none absent] at member
      obtain rfl := List.mem_singleton.mp member
      exact cut?_eq_none_iff.mp absent
  | case2 path cut found ih =>
      rw [cutAll_of_some found, Pieces.segments_append] at member
      rcases List.mem_append.mp member with before | last
      · exact ih before
      · obtain rfl := List.mem_singleton.mp last
        exact cut?_eq_none_iff.mp (cutMarks_after found)

/-- Each separator that shows parts the mask of a path into the masks of its two sides. So repeated
cuts find, in order, what one scan finds: the separators are those of the mask, no segment has one
of its own, and together they are the path. -/
theorem cuts_agree_with_scan (path : Text) :
    (∀ i c, (masked path)[i]? = some c → isSeparator c = true →
      path[i]? = some c ∧
        masked path = masked (path.take i) ++ c :: masked (path.drop (i + 1))) ∧
    cutAll path = Pieces.ofPath path ∧ (cutAll path).text = path ∧
    (cutAll path).separators = (masked path).filter isSeparator ∧
    ∀ segment ∈ (cutAll path).segments, ∀ c ∈ masked segment, isSeparator c = false := by
  have same : path.length = (masked path).length := (length_masked path).symm
  have agree := cutAll_eq_ofPath path
  refine ⟨?_, agree, ?_, ?_, fun segment => masked_of_mem_cutAll⟩
  · intro i c shown separates
    refine ⟨getElem?_of_shown shown separates, ?_⟩
    obtain ⟨front, back, rfl, rfl⟩ := parts_of_shown shown separates
    rw [masked_split shown separates]
    simp
  · rw [agree]
    exact Pieces.text_scan same
  · rw [agree]
    exact Pieces.separators_scan same fun i c => getElem?_of_shown

/-- A quote before the end of a line opens nothing, nor does the last one; the dot between them
shows, the one in the literal does not. -/
theorem cuts_agree_with_scan_quotes :
    let path : Text := "\"\n\"a.b\".\"c"
    (masked path)[7]? = some '.' ∧ isSeparator '.' = true ∧ path[7]? = some '.' ∧
      masked path = masked (path.take 7) ++ '.' :: masked (path.drop 8) ∧
      cutAll path = ⟨"\"\n\"a.b\"", [('.', "\"c")]⟩ := by
  intro path
  have shown : (masked path)[7]? = some '.' := by decide
  have separates : isSeparator '.' = true := by decide
  obtain ⟨parts, agree, _⟩ := cuts_agree_with_scan path
  obtain ⟨here, parted⟩ := parts 7 '.' shown separates
  exact ⟨shown, separates, here, parted, agree.trans (by decide)⟩

end SymbolPath.Path
