import SymbolPath.Text

/-!
Blank characters, and the operations that turn on them: trimming, splitting into words. The blanks
are the line and paragraph ends, the separators of information, and the spaces of every width that
takes part in layout; the zero-width marks are not among them.
-/

namespace SymbolPath.Text

def isBlank (c : Char) : Bool :=
  let n := c.toNat
  (0x09 ≤ n && n ≤ 0x0D) || (0x1C ≤ n && n ≤ 0x20) || n == 0x85 || n == 0xA0 || n == 0x1680 ||
  (0x2000 ≤ n && n ≤ 0x200A) || n == 0x2028 || n == 0x2029 || n == 0x202F || n == 0x205F ||
  n == 0x3000

def trimStart (t : Text) : Text :=
  t.dropWhile isBlank

def trimEnd (t : Text) : Text :=
  (t.reverse.dropWhile isBlank).reverse

def trim (t : Text) : Text :=
  trimEnd (trimStart t)

theorem trimStart_cons (c : Char) (t : Text) :
    trimStart (c :: t) = if isBlank c then trimStart t else c :: t := by
  simp [trimStart, List.dropWhile_cons]

theorem trimEnd_cons (c : Char) (t : Text) :
    trimEnd (c :: t) = if isBlank c && (trimEnd t).isEmpty then [] else c :: trimEnd t := by
  unfold trimEnd
  rw [List.reverse_cons, List.dropWhile_append]
  cases rest : t.reverse.dropWhile isBlank with
  | nil => cases blank : isBlank c <;> simp [blank]
  | cons d rest => simp

theorem trimEnd_append_blank {c : Char} (blank : isBlank c = true) (t : Text) :
    trimEnd (t ++ [c]) = trimEnd t := by
  simp [trimEnd, blank]

theorem trimEnd_trimEnd (t : Text) : trimEnd (trimEnd t) = trimEnd t := by
  induction t with
  | nil => rfl
  | cons c t ih =>
    rw [trimEnd_cons]
    split
    · rfl
    · rename_i kept
      rw [trimEnd_cons, ih, if_neg kept]

theorem trim_trimEnd (t : Text) : trim (trimEnd t) = trim t := by
  unfold trim
  induction t with
  | nil => rfl
  | cons c t ih =>
    cases blank : isBlank c with
    | false => simp [trimEnd_cons, trimStart_cons, blank, trimEnd_trimEnd]
    | true =>
      cases rest : trimEnd t with
      | nil =>
        rw [rest] at ih
        simpa [trimEnd_cons, trimStart_cons, blank, rest] using ih
      | cons d more =>
        rw [rest] at ih
        simpa [trimEnd_cons, trimStart_cons, blank, rest] using ih

theorem mem_of_mem_trim {c : Char} {t : Text} (member : c ∈ trim t) : c ∈ t := by
  unfold trim trimEnd trimStart at member
  rw [List.mem_reverse] at member
  have inside := (List.dropWhile_sublist isBlank).subset member
  rw [List.mem_reverse] at inside
  exact (List.dropWhile_sublist isBlank).subset inside

structure Trimmed (t : Text) : Prop where
  first : ∀ c ∈ t.head?, isBlank c = false
  last : ∀ c ∈ t.getLast?, isBlank c = false

theorem trimStart_of_first {t : Text} (first : ∀ c ∈ t.head?, isBlank c = false) :
    trimStart t = t := by
  cases t with
  | nil => rfl
  | cons c t => simp [trimStart_cons, first c rfl]

theorem trimEnd_of_last {t : Text} (last : ∀ c ∈ t.getLast?, isBlank c = false) :
    trimEnd t = t := by
  rw [← List.head?_reverse] at last
  have kept := trimStart_of_first last
  unfold trimStart at kept
  rw [trimEnd, kept, List.reverse_reverse]

theorem Trimmed.trim_eq {t : Text} (trimmed : Trimmed t) : trim t = t := by
  rw [trim, trimStart_of_first trimmed.first, trimEnd_of_last trimmed.last]

theorem trimmed_trim (t : Text) : Trimmed (trim t) := by
  have first : ∀ c ∈ (trimStart t).head?, isBlank c = false := by
    intro c member
    have found := List.head?_dropWhile_not isBlank t
    rw [show List.dropWhile isBlank t = trimStart t from rfl, Option.mem_def.mp member] at found
    simpa using found
  constructor
  · intro c member
    cases start : trimStart t with
    | nil => simp [trim, start, trimEnd] at member
    | cons d rest =>
      have blank := first d (by simp [start])
      rw [trim, start, trimEnd_cons] at member
      have same : d = c := by simpa [blank] using member
      exact same ▸ blank
  · intro c member
    rw [trim, trimEnd, List.getLast?_reverse] at member
    have found := List.head?_dropWhile_not isBlank (trimStart t).reverse
    rw [Option.mem_def.mp member] at found
    simpa using found

theorem trimmed_iff (t : Text) : Trimmed t ↔ trim t = t := by
  constructor
  · exact Trimmed.trim_eq
  · intro same
    exact same ▸ trimmed_trim t

/-- The maximal runs of characters that are not blank. -/
def words : Text → List Text
  | [] => []
  | c :: rest =>
    if isBlank c then words rest
    else match rest with
      | [] => [[c]]
      | d :: _ =>
        if isBlank d then [c] :: words rest
        else match words rest with
          | [] => [[c]]
          | word :: more => (c :: word) :: more

def firstWord (t : Text) : Text :=
  (trimStart t).takeWhile fun c => !isBlank c

def compact (t : Text) : Text :=
  t.filter fun c => !isBlank c

def joinWords (parts : List Text) : Text :=
  joinWith [' '] (parts.filter fun part => !part.isEmpty)

end SymbolPath.Text
