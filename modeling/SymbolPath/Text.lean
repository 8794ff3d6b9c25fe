/-!
Texts are lists of characters, so that every rule on names and comments is a recursion on them.
Positions and lengths count characters.
-/

namespace SymbolPath

abbrev Text := List Char

instance : Coe String Text := ⟨String.toList⟩

namespace Text

def dropStart? : Text → Text → Option Text
  | [], t => some t
  | _ :: _, [] => none
  | a :: start, b :: t => if a = b then dropStart? start t else none

def startsWith (start t : Text) : Bool :=
  (dropStart? start t).isSome

def endsWith (ending t : Text) : Bool :=
  startsWith ending.reverse t.reverse

theorem dropStart?_eq_some_iff {start t rest : Text} :
    dropStart? start t = some rest ↔ t = start ++ rest := by
  induction start generalizing t with
  | nil => simp [dropStart?, eq_comm]
  | cons a start ih =>
    cases t with
    | nil => simp [dropStart?]
    | cons b t =>
      by_cases same : a = b
      · simp [dropStart?, same, ih]
      · simp [dropStart?, same, Ne.symm same]

theorem startsWith_iff {start t : Text} :
    startsWith start t = true ↔ ∃ rest, t = start ++ rest := by
  simp [startsWith, Option.isSome_iff_exists, dropStart?_eq_some_iff]

theorem dropStart?_append_cons {word : Text} {c : Char} (outside : c ∉ word) (front back : Text) :
    dropStart? word (front ++ c :: back) = (dropStart? word front).map (· ++ c :: back) := by
  induction word generalizing front with
  | nil => rfl
  | cons w word ih =>
      obtain ⟨here, later⟩ := not_or.mp (mt List.mem_cons.mpr outside)
      cases front with
      | nil => simp [dropStart?, Ne.symm here]
      | cons d front =>
          by_cases same : w = d
          · simp [dropStart?, same, ih later]
          · simp [dropStart?, same]

/-- The parts of `t` between the characters `mark`; one part more than there are marks. -/
def splitOn (mark : Char) : Text → List Text
  | [] => [[]]
  | c :: rest =>
    if c = mark then [] :: splitOn mark rest
    else match splitOn mark rest with
      | [] => [[c]]
      | part :: parts => (c :: part) :: parts

def joinWith (between : Text) : List Text → Text
  | [] => []
  | [part] => part
  | part :: parts => part ++ between ++ joinWith between parts

theorem splitOn_ne_nil (mark : Char) (t : Text) : splitOn mark t ≠ [] := by
  cases t with
  | nil => simp [splitOn]
  | cons c rest =>
    by_cases h : c = mark
    · simp [splitOn, h]
    · simp only [splitOn, if_neg h]
      split <;> simp

theorem joinWith_splitOn (mark : Char) (t : Text) :
    joinWith [mark] (splitOn mark t) = t := by
  induction t with
  | nil => simp [splitOn, joinWith]
  | cons c rest ih =>
    rcases hparts : splitOn mark rest with _ | ⟨part, parts⟩
    · exact absurd hparts (splitOn_ne_nil mark rest)
    · rw [hparts] at ih
      by_cases h : c = mark
      · simp [splitOn, h, hparts, joinWith, ih]
      · cases parts with
        | nil => simpa [splitOn, h, hparts, joinWith] using ih
        | cons next parts => simpa [splitOn, h, hparts, joinWith] using ih

theorem splitOn_of_not_mem {mark : Char} {t : Text} (absent : mark ∉ t) : splitOn mark t = [t] := by
  induction t with
  | nil => rfl
  | cons c rest ih =>
    have different : c ≠ mark := fun same => absent (by simp [same])
    have cut := ih fun member => absent (List.mem_cons_of_mem c member)
    simp [splitOn, different, cut]

theorem splitOn_append_mark {mark : Char} {t : Text} (absent : mark ∉ t) (rest : Text) :
    splitOn mark (t ++ mark :: rest) = t :: splitOn mark rest := by
  induction t with
  | nil => simp [splitOn]
  | cons c t ih =>
    have different : c ≠ mark := fun same => absent (by simp [same])
    have cut := ih fun member => absent (List.mem_cons_of_mem c member)
    simp [splitOn, different, cut]

theorem splitOn_append_cons (mark : Char) (front back : Text) :
    splitOn mark (front ++ mark :: back) =
      splitOn mark front ++ splitOn mark back := by
  induction front with
  | nil => simp [splitOn]
  | cons c front ih =>
      by_cases same : c = mark
      · simp [splitOn, same, ih]
      · rcases parts : splitOn mark front with _ | ⟨part, more⟩
        · exact absurd parts (splitOn_ne_nil mark front)
        · simp [splitOn, same, ih, parts]

theorem splitOn_joinWith {mark : Char} {parts : List Text} (nonempty : parts ≠ [])
    (absent : ∀ part ∈ parts, mark ∉ part) : splitOn mark (joinWith [mark] parts) = parts := by
  induction parts with
  | nil => exact absurd rfl nonempty
  | cons part parts ih =>
    have first := absent part List.mem_cons_self
    cases parts with
    | nil => exact splitOn_of_not_mem first
    | cons next parts =>
      have later := ih (by simp) fun other member => absent other (List.mem_cons_of_mem part member)
      simp only [joinWith, List.append_assoc, List.singleton_append, splitOn_append_mark first, later]

theorem not_mem_of_mem_splitOn {mark : Char} {t part : Text} (member : part ∈ splitOn mark t) :
    mark ∉ part := by
  induction t generalizing part with
  | nil => simp_all [splitOn]
  | cons c rest ih =>
    by_cases same : c = mark
    · simp only [splitOn, if_pos same, List.mem_cons] at member
      rcases member with rfl | later
      · simp
      · exact ih later
    · rcases cut : splitOn mark rest with _ | ⟨first, parts⟩
      · exact absurd cut (splitOn_ne_nil mark rest)
      · simp only [splitOn, if_neg same, cut, List.mem_cons] at member
        rw [cut] at ih
        rcases member with rfl | later
        · simpa [Ne.symm same] using ih List.mem_cons_self
        · exact ih (List.mem_cons_of_mem first later)

def replaceChar (mark : Char) (form : Text) (t : Text) : Text :=
  t.flatMap fun c => if c = mark then form else [c]

/-- Writes every line end, of two characters or one, as a single line feed. -/
def unifyLineEnds : Text → Text
  | [] => []
  | '\r' :: '\n' :: rest => '\n' :: unifyLineEnds rest
  | '\r' :: rest => '\n' :: unifyLineEnds rest
  | c :: rest => c :: unifyLineEnds rest

def ofNat (n : Nat) : Text :=
  Nat.toDigits 10 n

def ofInt (n : Int) : Text :=
  if n < 0 then '-' :: ofNat n.natAbs else ofNat n.natAbs

def padEnd (width : Nat) (t : Text) : Text :=
  t ++ List.replicate (width - t.length) ' '

def le (a b : Text) : Bool :=
  match a, b with
  | [], _ => true
  | _ :: _, [] => false
  | x :: a, y :: b => x < y || (x == y && le a b)

end Text
end SymbolPath
