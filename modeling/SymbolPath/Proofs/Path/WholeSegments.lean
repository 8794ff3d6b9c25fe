import SymbolPath.Proofs.Path.Prototypes

/-!
Whole prototype segments. Such a segment ends at a dot or at the end of the path and stands outside of
literals. To rewrite those and nothing else is what the instance marker is for; rewriting does it for
the paths in which every segment that begins like one is whole. A longer segment loses its first
letters, and a literal is changed inside.
-/

namespace SymbolPath.Path

def plain (t : Text) : List Mark :=
  t.map (⟨·, false⟩)

def StartsWhole (list : List Mark) : Prop :=
  plain ".prototype." <+: list ∨ list = plain ".prototype"

instance (list : List Mark) : Decidable (StartsWhole list) :=
  inferInstanceAs (Decidable (_ ∨ _))

/-- Rewrites the whole segments, a dot behind one included, and keeps all other characters. The first
`inside` characters are part of a segment already written. -/
def foldWholeFrom : Nat → List Mark → Text
  | _, [] => []
  | inside + 1, _ :: rest => foldWholeFrom inside rest
  | 0, mark :: rest =>
    if StartsWhole (mark :: rest) then '#' :: foldWholeFrom 10 rest
    else mark.char :: foldWholeFrom 0 rest

/-- Every whole prototype segment becomes an instance marker, and nothing else changes. -/
def foldWhole (path : Text) : Text :=
  foldWholeFrom 0 (marks path)

/-- What stands from each `.prototype` on, from left to right. A dot that ends one begins no other. -/
def prototypesFrom : Nat → List Mark → List (List Mark)
  | _, [] => []
  | inside + 1, _ :: rest => prototypesFrom inside rest
  | 0, mark :: rest =>
    match prototypeLength? ((mark :: rest).map Mark.char) with
    | some length => (mark :: rest) :: prototypesFrom (length - 1) rest
    | none => prototypesFrom 0 rest

def prototypes (path : Text) : List (List Mark) :=
  prototypesFrom 0 (marks path)

theorem chars_plain (t : Text) : (plain t).map Mark.char = t := by
  simp [plain, Function.comp_def]

theorem StartsWhole.length {list : List Mark} (whole : StartsWhole list)
    (further : list ≠ plain ".prototype") : prototypeLength? (list.map Mark.char) = some 11 := by
  rcases whole with ⟨rest, rfl⟩ | last
  · rw [List.map_append, chars_plain]
    rfl
  · exact absurd last further

/-- The whole segment that ends a path is met alone. -/
theorem ends_alike :
    foldPrototypeFrom 0 ((plain ".prototype").map Mark.char) = foldWholeFrom 0 (plain ".prototype") ∧
      prototypesFrom 0 (plain ".prototype") = [plain ".prototype"] := by
  decide +kernel

section Step

variable {mark : Mark} {rest : List Mark}

theorem foldWholeFrom_of_whole (whole : StartsWhole (mark :: rest)) :
    foldWholeFrom 0 (mark :: rest) = '#' :: foldWholeFrom 10 rest := by
  rw [foldWholeFrom, if_pos whole]

theorem foldWholeFrom_of_other (other : ¬ StartsWhole (mark :: rest)) :
    foldWholeFrom 0 (mark :: rest) = mark.char :: foldWholeFrom 0 rest := by
  rw [foldWholeFrom, if_neg other]

theorem prototypesFrom_of_some {length : Nat}
    (found : prototypeLength? (mark.char :: rest.map Mark.char) = some length) :
    prototypesFrom 0 (mark :: rest) = (mark :: rest) :: prototypesFrom (length - 1) rest := by
  rw [prototypesFrom, List.map_cons, found]

theorem prototypesFrom_of_none
    (found : prototypeLength? (mark.char :: rest.map Mark.char) = none) :
    prototypesFrom 0 (mark :: rest) = prototypesFrom 0 rest := by
  rw [prototypesFrom, List.map_cons, found]

end Step

-- Induction on the marks that are left. Both ways of rewriting go on from the same place as long as
-- the segments met are whole, and the first one that is not tells them apart.
theorem foldPrototypeFrom_eq_iff (inside : Nat) (list : List Mark) :
    foldPrototypeFrom inside (list.map Mark.char) = foldWholeFrom inside list ↔
      ∀ met ∈ prototypesFrom inside list, StartsWhole met := by
  induction list generalizing inside with
  | nil => cases inside <;> simp [foldPrototypeFrom, foldWholeFrom, prototypesFrom]
  | cons mark rest ih =>
      cases inside with
      | succ inside => exact ih inside
      | zero =>
          by_cases last : mark :: rest = plain ".prototype"
          · rw [last, ends_alike.2]
            exact iff_of_true ends_alike.1 (List.forall_mem_singleton.mpr (.inr rfl))
          rw [List.map_cons]
          by_cases whole : StartsWhole (mark :: rest)
          · have eleven := whole.length last
            rw [foldPrototypeFrom_of_some eleven, foldWholeFrom_of_whole whole,
              prototypesFrom_of_some eleven, List.forall_mem_cons, List.cons_inj_right, ih]
            exact (and_iff_right whole).symm
          rw [foldWholeFrom_of_other whole]
          cases found : prototypeLength? (mark.char :: rest.map Mark.char) with
          | none =>
              rw [foldPrototypeFrom_of_none found, prototypesFrom_of_none found,
                List.cons_inj_right, ih]
          | some length =>
              -- one side begins with the marker, the other with the dot that is kept
              have dot : mark.char ≠ '#' := by
                intro same
                have starts := (prototypeLength?_eq_some found).1
                rw [same] at starts
                exact absurd (List.cons_prefix_cons.mp starts).1 (by decide)
              rw [foldPrototypeFrom_of_some found, prototypesFrom_of_some found,
                List.forall_mem_cons]
              exact iff_of_false (fun same => dot (List.cons.inj same).1.symm)
                fun both => whole both.1

/-- Rewriting takes exactly the whole segments if every segment that it meets is whole: no longer one
that begins with the same letters, and none in a literal. It takes those too, for it leaves none. -/
theorem whole_segments_folded_iff (path : Text) :
    (foldPrototype path = foldWhole path ↔ ∀ met ∈ prototypes path, StartsWhole met) ∧
      ¬ HasPrototype (foldPrototype path) := by
  refine ⟨?_, not_hasPrototype_foldPrototype path⟩
  have agree := foldPrototypeFrom_eq_iff 0 (marks path)
  rw [marks_chars] at agree
  exact agree

/-- The second segment shares its dot with the first and is not met; a quote that nothing closes opens
no literal. -/
example : foldPrototype "\"a.prototype.prototype.b.prototype" = "\"a#prototype.b#" ∧
    foldWhole "\"a.prototype.prototype.b.prototype" = "\"a#prototype.b#" := by
  decide +kernel

/-- A longer segment is cut, and so is the text of a literal. -/
theorem longer_segment_folded :
    foldPrototype "Foo.prototypes.bar" = "Foo#s.bar" ∧
      foldWhole "Foo.prototypes.bar" = "Foo.prototypes.bar" ∧
      foldPrototype "\"a.prototype.b\".c" = "\"a#b\".c" ∧
      foldWhole "\"a.prototype.b\".c" = "\"a.prototype.b\".c" := by
  decide +kernel

end SymbolPath.Path
