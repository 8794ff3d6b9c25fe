import Mathlib.Data.List.Basic
import SymbolPath.Proofs.Resolution.BareName

/-!
The two spellings of an instance container, `Foo.prototype` and `Foo#`. In a name they come to the same
thing; as a tagged container they do not. The tag is taken as it was written, so a member of the first
is joined to it by a dot, and no name that was written out can begin with it. Where a prototype segment
stands in a path, it came with the container or the scheme, or the dot that joins made it one.
-/

namespace SymbolPath.Path

/-- Does the text have a prototype segment with something behind it? -/
def HasSegment (t : Text) : Prop :=
  (".prototype." : Text) <:+: t

instance (t : Text) : Decidable (HasSegment t) :=
  inferInstanceAs (Decidable (_ <:+: _))

theorem not_hasSegment {t : Text} (absent : ¬ HasPrototype t) : ¬ HasSegment t := by
  intro found
  have longer : (".prototype" : Text) <:+: ".prototype." := by decide
  exact absent (longer.trans found)

theorem hasSegment_append_cons {front rest : Text} {c : Char}
    (foreign : c ∉ (".prototype." : Text)) :
    HasSegment (front ++ c :: rest) ↔ HasSegment front ∨ HasSegment rest :=
  infix_append_foreign_iff foreign

theorem hasSegment_append_dot {front rest : Text} :
    HasSegment (front ++ '.' :: rest) ↔
      HasSegment front ∨ ((".prototype" : Text) <:+ front ∨ ("prototype." : Text) <+: rest) ∨
        HasSegment rest := by
  have word : (".prototype." : Text) = '.' :: (("prototype" : Text) ++ ['.']) := by decide
  have opened : (".prototype" : Text) = '.' :: ("prototype" : Text) := by decide
  have closed : ("prototype." : Text) = ("prototype" : Text) ++ ['.'] := by decide
  have noDot : '.' ∉ ("prototype" : Text) := by decide
  unfold HasSegment
  rw [infix_append_cons_iff, word, opened, closed]
  generalize ("prototype" : Text) = letters at noDot
  refine or_congr_right (or_congr_left ⟨?_, ?_⟩)
  · rintro ⟨first, last, across, ends, starts⟩
    -- the dot is the first character of the word or its last one
    cases first with
    | nil =>
        obtain ⟨-, rfl⟩ := List.cons.inj across
        exact .inr starts
    | cons d first =>
        obtain ⟨rfl, further⟩ := List.cons.inj across
        obtain ⟨rfl, -⟩ := (List.append_cons_inj_of_notMem noDot List.not_mem_nil).mp further
        exact .inl ends
  · rintro (ends | starts)
    · exact ⟨'.' :: letters, [], rfl, ends, List.nil_prefix⟩
    · exact ⟨[], letters ++ ['.'], rfl, List.nil_suffix, starts⟩

end SymbolPath.Path

namespace SymbolPath.Resolution

open SymbolPath.Path

/-- The container has a prototype segment, or the dot that joins it to what follows completes one. -/
def JoinsSegment (container behind : Text) : Prop :=
  HasSegment container ∨ endsIn isScopeMarker container = false ∧
    ((".prototype" : Text) <:+ container ∨ ("prototype." : Text) <+: behind)

instance (container behind : Text) : Decidable (JoinsSegment container behind) :=
  inferInstanceAs (Decidable (_ ∨ _))

theorem hasSegment_joined (container behind : Text) :
    HasSegment (container ++ joiner container ++ behind) ↔
      JoinsSegment container behind ∨ HasSegment behind := by
  unfold JoinsSegment joiner
  by_cases marked : endsIn isScopeMarker container = true
  · obtain ⟨front, marker, rfl, isMarker⟩ := eq_append_of_endsIn marked
    have foreign : marker ∉ (".prototype." : Text) := by
      have none : (".prototype." : Text).any isScopeMarker = false := by decide
      exact fun letter => List.any_eq_false.mp none marker letter isMarker
    have alone : HasSegment (front ++ [marker]) ↔ HasSegment front := by
      rw [hasSegment_append_cons foreign]
      exact or_iff_left (by decide)
    rw [if_pos marked, List.append_nil, List.append_assoc, List.singleton_append,
      hasSegment_append_cons foreign, alone]
    simp [marked]
  · rw [if_neg marked, List.append_assoc, List.singleton_append, hasSegment_append_dot]
    simp [marked, or_assoc]

theorem isInfix_segment (doclet : Doclet) (full : Text) : segment doclet full <:+: full := by
  have last : (split full).2 <:+: full := List.IsSuffix.isInfix ⟨_, dropLast_append_short full⟩
  unfold segment halves shortUnder
  split
  · split
    · exact List.infix_refl full
    · exact last
  · split
    · exact last
    · exact List.infix_refl full

theorem isInfix_unschemed (kinds : KindTable) (kind short : Text) :
    unschemed kinds kind short <:+: short := by
  unfold unschemed
  split
  · exact isInfix_stripScheme short
  · exact List.infix_refl short

theorem hasSegment_behind (kinds : KindTable) (kind : Text) {short : Text}
    (absent : ¬ HasSegment short) :
    HasSegment (schemeOf kinds kind ++ short) ↔ HasSegment (schemeOf kinds kind) := by
  have foreign : ':' ∉ (".prototype." : Text) := by decide
  have none : ¬ HasSegment [] := by decide
  unfold schemeOf
  split
  · rw [List.append_assoc, List.singleton_append, hasSegment_append_cons foreign,
      hasSegment_append_cons foreign]
    simp only [absent, none]
  · exact iff_of_false absent none

theorem hasSegment_uncontained (kinds : KindTable) (kind : Text) {full short : Text}
    (absent : ¬ HasSegment full) (absentToo : ¬ HasSegment short) :
    HasSegment (uncontained full (schemeOf kinds kind) short) ↔
      HasSegment (schemeOf kinds kind) := by
  unfold uncontained
  cases scheme : schemeOf kinds kind with
  | nil => exact iff_of_false absent (by decide)
  | cons c rest =>
      have behind := hasSegment_behind kinds kind absentToo
      rw [scheme] at behind
      exact behind

theorem hasSegment_path (kinds : KindTable) (module : Text) (doclet : Doclet) :
    let full := fullName module doclet
    let scheme := schemeOf kinds doclet.kind
    let short := unschemed kinds doclet.kind (segment doclet full)
    HasSegment (resolve kinds module doclet).path ↔
      HasSegment scheme ∨
        holder doclet full ≠ [] ∧ Text.startsWith (holder doclet full) short = false ∧
          JoinsSegment (holder doclet full) (scheme ++ short) := by
  intro full scheme short
  have absent : ¬ HasSegment full := not_hasSegment (not_hasPrototype_foldPrototype _)
  have absentToo : ¬ HasSegment short := fun found =>
    absent (found.trans ((isInfix_unschemed _ _ _).trans (isInfix_segment doclet full)))
  have alone : HasSegment (uncontained full scheme short) ↔ HasSegment scheme :=
    hasSegment_uncontained kinds doclet.kind absent absentToo
  have behind : HasSegment (scheme ++ short) ↔ HasSegment scheme :=
    hasSegment_behind kinds doclet.kind absentToo
  rw [show (resolve kinds module doclet).path = compose full (holder doclet full) scheme short from
    path_eq_compose kinds module doclet]
  by_cases given : holder doclet full = []
  · rw [given, compose_nil, alone]
    simp
  · rw [compose_container given]
    cases begins : Text.startsWith (holder doclet full) short with
    | true =>
        rw [if_pos rfl, alone]
        simp
    | false =>
        rw [if_neg Bool.false_ne_true, List.append_assoc, hasSegment_joined, behind]
        simp [given, or_comm]

section Tagged

variable {path : Text} (noQuote : '"' ∉ path)
include noQuote

theorem pathUnder_marked (full : Text) :
    pathUnder (path ++ ['#']) full = path ++ '#' :: shortUnder (path ++ ['#']) full := by
  have other : Text.startsWith (path ++ ['#']) (shortUnder (path ++ ['#']) full) = false := by
    rw [Bool.eq_false_iff]
    intro begins
    have isShort : shortUnder (path ++ ['#']) full = (split full).2 :=
      if_pos (startsWith_of_shortUnder begins)
    obtain ⟨rest, same⟩ := Text.startsWith_iff.mp begins
    rw [isShort, List.append_assoc, List.singleton_append] at same
    have hidden := cut?_split full
    rw [same] at hidden
    exact noQuote (quote_mem_of_hidden rfl hidden)
  rw [pathUnder, other, if_neg Bool.false_ne_true, join_marked rfl]

end Tagged

theorem pathUnder_spelled (path : Text) {full : Text} (absent : ¬ HasPrototype full) :
    pathUnder (path ++ ".prototype") full = path ++ ".prototype." ++ full := by
  have other : Text.startsWith (path ++ ".prototype") full = false := by
    rw [Bool.eq_false_iff]
    intro begins
    obtain ⟨rest, rfl⟩ := Text.startsWith_iff.mp begins
    exact absent ⟨path, rest, rfl⟩
  have isShort : shortUnder (path ++ ".prototype") full = full := by
    rw [shortUnder, other, if_neg Bool.false_ne_true]
  have given : path ++ (".prototype" : Text) ≠ [] :=
    List.append_ne_nil_of_right_ne_nil _ (by decide)
  have dot : joiner (path ++ (".prototype" : Text)) = ['.'] := by
    have last : (".prototype" : Text) = (".prototyp" : Text) ++ ['e'] := by decide
    rw [joiner, endsIn, last, ← List.append_assoc, List.getLast?_concat]
    rfl
  have closed : (".prototype." : Text) = (".prototype" : Text) ++ ['.'] := by decide
  rw [pathUnder, isShort, other, if_neg Bool.false_ne_true, join_eq given, dot, closed]
  simp

theorem path_set_memberof {kinds : KindTable} (module : Text) {doclet : Doclet}
    (noSpace : kinds.isDocspace doclet.kind = false) {container : Text} (given : container ≠ []) :
    (resolve kinds module (doclet.set "memberof" container)).path =
      pathUnder container (fullName module doclet) := by
  have tag : (doclet.set "memberof" container).memberof = container := Doclet.value_set_same _ _ _
  have kind : (doclet.set "memberof" container).kind = doclet.kind :=
    Doclet.value_set_other _ _ (by decide)
  have name : (doclet.set "memberof" container).name = doclet.name :=
    Doclet.value_set_other _ _ (by decide)
  have tagged : (doclet.set "memberof" container).memberof ≠ [] := by rw [tag]; exact given
  have whole := resolve_tagged module tagged (kind ▸ noSpace)
  dsimp only at whole
  rw [whole, tag, fullName, fullName, name]

/-- Tagged with the two spellings of one instance container, a doclet never resolves to one path: the
prototype segment stays where it was tagged, in plain view, and the name stands whole behind it. A
path has such a segment exactly if the scheme brings one, or the container that stands in front of it
does or joins to one. -/
theorem instance_spellings_differ (kinds : KindTable) (module : Text) (doclet : Doclet) :
    let full := fullName module doclet
    let scheme := schemeOf kinds doclet.kind
    let short := unschemed kinds doclet.kind (segment doclet full)
    let pathIn (container : Text) := (resolve kinds module (doclet.set "memberof" container)).path
    (kinds.isDocspace doclet.kind = false → ∀ path : Text, '"' ∉ path →
        pathIn (path ++ ".prototype") = path ++ ".prototype." ++ full ∧
        masked (pathIn (path ++ ".prototype")) = path ++ ".prototype." ++ masked full ∧
        pathIn (path ++ ['#']) = path ++ '#' :: shortUnder (path ++ ['#']) full ∧
        pathIn (path ++ ".prototype") ≠ pathIn (path ++ ['#'])) ∧
      (HasSegment (resolve kinds module doclet).path ↔
        HasSegment scheme ∨
          holder doclet full ≠ [] ∧ Text.startsWith (holder doclet full) short = false ∧
            JoinsSegment (holder doclet full) (scheme ++ short)) := by
  intro full scheme short pathIn
  refine ⟨fun noSpace path noQuote => ?_, hasSegment_path kinds module doclet⟩
  have spelled : pathIn (path ++ ".prototype") = path ++ ".prototype." ++ full :=
    (path_set_memberof module noSpace (List.append_ne_nil_of_right_ne_nil _ (by decide))).trans
      (pathUnder_spelled path (not_hasPrototype_foldPrototype _))
  have marked : pathIn (path ++ ['#']) = path ++ '#' :: shortUnder (path ++ ['#']) full :=
    (path_set_memberof module noSpace (List.append_ne_nil_of_right_ne_nil _ (by decide))).trans
      (pathUnder_marked noQuote full)
  refine ⟨spelled, ?_, marked, ?_⟩
  · rw [spelled, masked_append_front]
    intro member
    rcases List.mem_append.mp member with inPath | inWord
    · exact noQuote inPath
    · exact absurd inWord (by decide)
  -- behind the path stands a dot in one and a hash in the other
  · rw [spelled, marked, List.append_assoc]
    intro same
    have behind := List.append_cancel_left same
    exact absurd (List.cons.inj behind).1 (by decide)

/-- A bare name and a qualified one, each under both spellings. -/
theorem instance_spellings_differ_member :
    let bare : Doclet := ⟨[⟨"name", "bar"⟩, ⟨"isa", "method"⟩], 0⟩
    let qualified : Doclet := ⟨[⟨"name", "Foo.prototype.bar"⟩, ⟨"isa", "method"⟩], 0⟩
    let pathIn (doclet : Doclet) (container : Text) :=
      (resolve KindTable.standard [] (doclet.set "memberof" container)).path
    KindTable.standard.isDocspace bare.kind = false ∧ '"' ∉ ("Foo" : Text) ∧
      pathIn bare "Foo.prototype" = "Foo.prototype.bar" ∧ pathIn bare "Foo#" = "Foo#bar" ∧
      pathIn qualified "Foo.prototype" = "Foo.prototype.Foo#bar" ∧
      pathIn qualified "Foo#" = "Foo#bar" := by
  intro bare qualified pathIn
  have noSpace : KindTable.standard.isDocspace bare.kind = false := by decide +kernel
  have noSpaceToo : KindTable.standard.isDocspace qualified.kind = false := by decide +kernel
  have noQuote : '"' ∉ ("Foo" : Text) := by decide
  obtain ⟨spelled, _, marked, _⟩ :=
    (instance_spellings_differ KindTable.standard [] bare).1 noSpace "Foo" noQuote
  obtain ⟨spelledToo, _, markedToo, _⟩ :=
    (instance_spellings_differ KindTable.standard [] qualified).1 noSpaceToo "Foo" noQuote
  refine ⟨noSpace, noQuote, spelled.trans ?_, marked.trans ?_, spelledToo.trans ?_,
    markedToo.trans ?_⟩
  all_goals decide +kernel

/-- Joined to its tag by a dot, the member keeps the prototype segment that a hash stands for. -/
theorem prototype_container_kept :
    let spelled : Doclet := ⟨[⟨"name", "bar"⟩, ⟨"memberof", "Foo.prototype"⟩], 0⟩
    let marked : Doclet := ⟨[⟨"name", "bar"⟩, ⟨"memberof", "Foo#"⟩], 0⟩
    (resolve KindTable.standard [] spelled).path = "Foo.prototype.bar" ∧
      (resolve KindTable.standard [] marked).path = "Foo#bar" ∧
      ("Foo" : Text).any Text.isBlank = false ∧ '"' ∉ ("Foo" : Text) ∧
      KindTable.standard.isDocspace spelled.kind = false ∧
      HasSegment (masked (resolve KindTable.standard [] spelled).path) := by
  decide +kernel

end SymbolPath.Resolution
