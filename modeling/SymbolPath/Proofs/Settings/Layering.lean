import SymbolPath.Settings.Store

/-!
What is found in mappings that were laid over each other. Under a name stands the value of the
upper mapping if it has one there, else that of the lower one; where both have mappings, these are
laid over each other in turn. For a setting, which stands in a section, this means that the upper
layer decides if it holds the setting at all, whatever else it holds.
-/

namespace SymbolPath

namespace Value

theorem sameKey_shared (label : Label) (loops : Bool) (a b : Value) :
    (shared label loops a).sameKey b = a.sameKey b := by
  rw [sameKey]

theorem sameKey_of_shared (label : Label) (loops : Bool) (b : Value) :
    (a : Value) → a.sameKey (shared label loops b) = a.sameKey b
  | shared other otherLoops a => by
    rw [sameKey_shared, sameKey_shared, sameKey_of_shared label loops b a]
  | null | bool _ | int _ | float _ | text _ | fragment _ | bytes _ | moment _ | list _ | pair _ _
  | set _ | map _ | again _ => by
    simp only [sameKey, unlabelled]

theorem sameKey_of_named {name : Text} (other : Value) :
    (key : Value) → key.sameKey (.text name) = true →
      other.sameKey key = other.sameKey (.text name)
  | shared label loops key, named => by
    rw [sameKey_shared] at named
    rw [sameKey_of_shared, sameKey_of_named other key named]
  | text t, named => by
    simp only [sameKey, unlabelled, sameScalar, beq_iff_eq] at named
    rw [named]
  | null, named | bool _, named | int _, named | float _, named | fragment _, named
  | bytes _, named | moment _, named | list _, named | pair _ _, named | set _, named
  | map _, named | again _, named => by
    simp [sameKey, unlabelled, sameScalar, whole?] at named

theorem sameKey_text_comm (name : Text) :
    (key : Value) → (text name).sameKey key = key.sameKey (.text name)
  | shared label loops key => by
    rw [sameKey_shared, sameKey_of_shared, sameKey_text_comm name key]
  | text t => by
    simp only [sameKey, unlabelled, sameScalar]
    exact BEq.comm
  | null | bool _ | int _ | float _ | fragment _ | bytes _ | moment _ | list _ | pair _ _ | set _
  | map _ | again _ => by
    simp [sameKey, unlabelled, sameScalar, whole?]

theorem sameKey_name {name : Text} {key : Value} :
    (other : Value) → other.sameKey (.text name) = true → other.sameKey key = true →
      key.sameKey (.text name) = true
  | shared label loops other, named, same => by
    rw [sameKey_shared] at named same
    exact sameKey_name other named same
  | text t, named, same => by
    simp only [sameKey, unlabelled, sameScalar, beq_iff_eq] at named
    rwa [named, sameKey_text_comm] at same
  | null, named, _ | bool _, named, _ | int _, named, _ | float _, named, _ | fragment _, named, _
  | bytes _, named, _ | moment _, named, _ | list _, named, _ | pair _ _, named, _
  | set _, named, _ | map _, named, _ | again _, named, _ => by
    simp [sameKey, unlabelled, sameScalar, whole?] at named

end Value

namespace Mapping

/-- No two entries have keys that agree. -/
def KeysOnce (mapping : Mapping) : Prop :=
  mapping.Pairwise fun a b => a.1.sameKey b.1 = false

theorem at?_nil (name : Text) : at? [] name = none := rfl

theorem at?_cons (key value : Value) (mapping : Mapping) (name : Text) :
    at? ((key, value) :: mapping) name =
      if key.sameKey (.text name) then some value else at? mapping name := by
  unfold at? find?
  rw [List.find?_cons]
  cases key.sameKey (.text name) <;> rfl

theorem at?_eq_none {mapping : Mapping} {name : Text}
    (unnamed : ∀ entry ∈ mapping, ¬ entry.1.sameKey (.text name) = true) :
    at? mapping name = none := by
  simpa [at?, find?] using unnamed

theorem find?_of_named {key : Value} {name : Text} (named : key.sameKey (.text name) = true)
    (mapping : Mapping) : find? mapping key = mapping.at? name := by
  have same : (fun entry : Value × Value => entry.1.sameKey key) =
      fun entry => entry.1.sameKey (.text name) := by
    funext entry
    exact Value.sameKey_of_named entry.1 key named
  rw [at?, find?, find?, same]

theorem at?_append (front back : Mapping) (name : Text) :
    at? (front ++ back) name = (at? front name).or (at? back name) := by
  simp only [at?, find?, List.find?_append, Option.map_or]

theorem at?_replace (mapping : Mapping) {key : Value} (value : Value) {name : Text}
    (unnamed : ¬ key.sameKey (.text name) = true) :
    at? (mapping.map fun entry => if entry.1.sameKey key then (entry.1, value) else entry) name =
      at? mapping name := by
  induction mapping with
  | nil => rfl
  | cons entry rest ih =>
      obtain ⟨other, kept⟩ := entry
      simp only [List.map_cons]
      by_cases same : other.sameKey key = true
      · have unnamedToo : ¬ other.sameKey (.text name) = true := fun hit =>
          unnamed (Value.sameKey_name other hit same)
        rw [if_pos same, at?_cons, at?_cons, if_neg unnamedToo, if_neg unnamedToo, ih]
      · rw [if_neg same, at?_cons, at?_cons, ih]

/-- Replacing or adding an entry changes what stands under its key, and nothing else. -/
theorem at?_put (mapping : Mapping) (key value : Value) (name : Text) :
    (put mapping key value).at? name =
      if key.sameKey (.text name) then some value else mapping.at? name := by
  by_cases named : key.sameKey (.text name) = true
  · have reflexive : key.sameKey key = true := by
      rw [Value.sameKey_of_named key key named]
      exact named
    rw [if_pos named, ← find?_of_named named]
    exact find?_put_same mapping key value reflexive
  · rw [if_neg named, put]
    split
    · exact at?_replace mapping value named
    · rw [at?_append, at?_cons, if_neg named, at?_nil, Option.or_none]

end Mapping

def Setting.place : Setting → Text × Text
  | .docspaceKinds => ("resolver", "docspace_kinds")
  | .maxFileSize => ("parsing", "max_file_size")
  | .extensions => ("parsing", "extensions")
  | .format => ("display", "format")

theorem Setting.ofKey_place (setting : Setting) :
    ofKey (setting.place.1 ++ "." ++ setting.place.2) = .ok setting := by
  cases setting <;> rfl

def Value.IsString (v : Value) : Prop := v.lettering?.isSome = true

def Setting.Fits : Setting → Value → Prop
  | .docspaceKinds, v => ∃ items, v.bare = .list items ∧ ∀ item ∈ items, item.IsString
  | .maxFileSize, v => ∃ n, v = .int n
  | .extensions, v => ∃ items, v.bare = .list items ∧ ∀ item ∈ items, item.IsString
  | .format, v => v.IsString

theorem Value.IsString.bare {v : Value} (isString : v.IsString) : v.bare = v := by
  cases v <;> first | rfl | cases isString

theorem Value.isString_texts (texts : List Text) : ∀ item ∈ texts.map Value.text, item.IsString := by
  intro item member
  obtain ⟨t, _, rfl⟩ := List.mem_map.mp member
  rfl

theorem Setting.Fits.noMapping {setting : Setting} {v : Value} (fits : setting.Fits v) :
    v.entries? = none := by
  cases setting with
  | docspaceKinds =>
      obtain ⟨items, bare, _⟩ := fits
      simp [Value.entries?, bare]
  | maxFileSize =>
      obtain ⟨n, rfl⟩ := fits
      rfl
  | extensions =>
      obtain ⟨items, bare, _⟩ := fits
      simp [Value.entries?, bare]
  | format => cases v <;> first | rfl | cases fits

theorem Setting.fits_bare {setting : Setting} {v : Value} (fits : setting.Fits v) :
    setting.Fits v.bare := by
  cases setting with
  | docspaceKinds | extensions =>
      obtain ⟨items, bare, strings⟩ := fits
      rw [bare]
      exact ⟨items, rfl, strings⟩
  | maxFileSize =>
      obtain ⟨n, rfl⟩ := fits
      exact ⟨n, rfl⟩
  | format =>
      have isString : v.IsString := fits
      rw [isString.bare]
      exact isString

namespace Mapping

def setting? (layer : Mapping) (setting : Setting) : Option Value :=
  ((layer.at? setting.place.1).bind Value.entries?).bind fun entries =>
    at? entries setting.place.2

/-- A layer whose sections are mappings, and whose settings have the right types. Of what else it
holds nothing is asked. -/
structure Shaped (layer : Mapping) : Prop where
  once : layer.KeysOnce
  sections : ∀ (setting : Setting) value, layer.at? setting.place.1 = some value →
    ∃ entries, value.entries? = some entries ∧ KeysOnce entries
  fits : ∀ (setting : Setting) value, layer.setting? setting = some value → setting.Fits value

/-- The same, but with keys that may be repeated. -/
structure Usable (data : Mapping) : Prop where
  sections : ∀ (setting : Setting) value, data.at? setting.place.1 = some value →
    value.entries?.isSome = true
  fits : ∀ (setting : Setting) value, data.setting? setting = some value → setting.Fits value

theorem Shaped.usable {layer : Mapping} (shaped : layer.Shaped) : layer.Usable where
  sections setting value found := by
    obtain ⟨entries, mapping, _⟩ := shaped.sections setting value found
    rw [mapping]
    rfl
  fits := shaped.fits

/-- No mappings lie in each other further down than that. -/
def Within : Nat → Mapping → Prop
  | 0, _ => False
  | levels + 1, mapping => ∀ entry ∈ mapping, ∀ inner, entry.2.entries? = some inner →
      Within levels inner

theorem Within.mono {levels deeper : Nat} {mapping : Mapping} (within : mapping.Within levels)
    (further : levels ≤ deeper) : mapping.Within deeper := by
  induction deeper generalizing levels mapping with
  | zero =>
      obtain rfl := Nat.le_zero.mp further
      exact within
  | succ deeper ih =>
      cases levels with
      | zero => cases within
      | succ levels =>
          intro entry member inner found
          exact ih (within entry member inner found) (Nat.le_of_succ_le_succ further)

end Mapping

namespace Settings

def laidOver (levels : Nat) (below : Option Value) (value : Value) : Value :=
  match bothEntries? below value with
  | some (below, above) => .map (mergeTo levels below above)
  | none => value

theorem mergeTo_cons (levels : Nat) (base : Mapping) (key value : Value) (entries : Mapping) :
    mergeTo (levels + 1) base ((key, value) :: entries) =
      mergeTo (levels + 1) (base.put key (laidOver levels (base.find? key) value)) entries := rfl

theorem at?_mergeTo {entries : Mapping} (once : entries.KeysOnce) (levels : Nat) (base : Mapping)
    (name : Text) :
    (mergeTo (levels + 1) base entries).at? name =
      match entries.at? name with
      | some value => some (laidOver levels (base.at? name) value)
      | none => base.at? name := by
  induction entries generalizing base with
  | nil => rfl
  | cons entry entries ih =>
      obtain ⟨key, value⟩ := entry
      obtain ⟨first, later⟩ := List.pairwise_cons.mp once
      rw [mergeTo_cons, ih later, Mapping.at?_cons, Mapping.at?_put]
      by_cases named : key.sameKey (.text name) = true
      · have absent : Mapping.at? entries name = none := by
          apply Mapping.at?_eq_none
          intro entry member hit
          have same := first entry member
          rw [Value.sameKey_of_named key entry.1 hit, named] at same
          cases same
        rw [absent, if_pos named, if_pos named, Mapping.find?_of_named named]
      · rw [if_neg named, if_neg named]

theorem at?_merge {layer : Mapping} (once : layer.KeysOnce) (base : Mapping) (name : Text) :
    (merge base layer).at? name =
      match layer.at? name with
      | some value => some (laidOver (levelLimit - 1) (base.at? name) value)
      | none => base.at? name :=
  at?_mergeTo once (levelLimit - 1) base name

theorem laidOver_plain {value : Value} (plain : value.entries? = none) (levels : Nat)
    (below : Option Value) : laidOver levels below value = value := by
  cases below with
  | none => rfl
  | some v => simp [laidOver, bothEntries?, plain]

theorem laidOver_mapping {value : Value} {above : Mapping} (mapping : value.entries? = some above)
    (levels : Nat) (below : Option Value) :
    laidOver levels below value =
      match below.bind Value.entries? with
      | some under => .map (mergeTo levels under above)
      | none => value := by
  cases below with
  | none => rfl
  | some v => cases lower : v.entries? <;> simp [laidOver, bothEntries?, lower, mapping]

theorem entries?_map (entries : Mapping) : (Value.map entries).entries? = some entries := rfl

theorem laidOver_over_plain {below : Option Value} (plain : below.bind Value.entries? = none)
    (levels : Nat) (value : Value) : laidOver levels below value = value := by
  cases mapping : value.entries? with
  | none => exact laidOver_plain mapping levels below
  | some above => rw [laidOver_mapping mapping, plain]

theorem at?_laidOver {entries : Mapping} {value : Value} (mapping : value.entries? = some entries)
    (once : entries.KeysOnce) (levels : Nat) (below : Option Value) (name : Text)
    (plain : ∀ v, entries.at? name = some v → v.entries? = none ∨
      ∀ under, below.bind Value.entries? = some under →
        (Mapping.at? under name).bind Value.entries? = none) :
    ((laidOver (levels + 1) below value).entries?.bind fun found => Mapping.at? found name) =
      (entries.at? name).or
        ((below.bind Value.entries?).bind fun found => Mapping.at? found name) := by
  rw [laidOver_mapping mapping]
  cases lower : below.bind Value.entries? with
  | none => simp [mapping]
  | some under =>
      simp only [entries?_map, Option.bind_some, at?_mergeTo once]
      cases said : entries.at? name with
      | none => rfl
      | some v =>
          have kept : laidOver levels (Mapping.at? under name) v = v := by
            rcases plain v said with upper | beneath
            · exact laidOver_plain upper levels _
            · exact laidOver_over_plain (beneath under lower) levels v
          simp [kept]

/-- The upper layer decides what it says, and leaves the rest to what is below. -/
theorem setting?_merge {layer : Mapping} (shaped : layer.Shaped) (base : Mapping)
    (setting : Setting) :
    (merge base layer).setting? setting = (layer.setting? setting).or (base.setting? setting) := by
  unfold Mapping.setting?
  rw [at?_merge shaped.once]
  cases present : layer.at? setting.place.1 with
  | none => rfl
  | some value =>
      obtain ⟨entries, mapping, once⟩ := shaped.sections setting value present
      simp only [Option.bind_some, mapping]
      apply at?_laidOver mapping once (levelLimit - 2)
      intro v said
      left
      apply (shaped.fits setting v _).noMapping
      simp [Mapping.setting?, present, mapping, said]

theorem isMapping_merge {base layer : Mapping} (once : layer.KeysOnce) {part : Text}
    (above : ∀ value, layer.at? part = some value → value.entries?.isSome = true)
    (below : layer.at? part = none →
      ∀ value, base.at? part = some value → value.entries?.isSome = true) :
    ∀ value, (merge base layer).at? part = some value → value.entries?.isSome = true := by
  intro value found
  rw [at?_merge once] at found
  cases present : layer.at? part with
  | none =>
      rw [present] at found
      exact below present value found
  | some v =>
      rw [present] at found
      obtain rfl := Option.some.inj found
      obtain ⟨entries, mapping⟩ := Option.isSome_iff_exists.mp (above v present)
      rw [laidOver_mapping mapping]
      split
      · rfl
      · exact above v present

theorem usable_merge {base layer : Mapping} (shaped : layer.Shaped)
    (below : ∀ setting : Setting, layer.at? setting.place.1 = none →
      ∀ value, base.at? setting.place.1 = some value → value.entries?.isSome = true)
    (fits : ∀ setting : Setting, layer.setting? setting = none →
      ∀ value, base.setting? setting = some value → setting.Fits value) :
    (merge base layer).Usable where
  sections setting :=
    isMapping_merge shaped.once (shaped.usable.sections setting) (below setting)
  fits setting value found := by
    rw [setting?_merge shaped] at found
    cases said : layer.setting? setting with
    | none =>
        rw [said, Option.none_or] at found
        exact fits setting said value found
    | some v =>
        rw [said, Option.some_or] at found
        exact Option.some.inj found ▸ shaped.fits setting v said

/-! The limit on levels, and the mappings that do not reach it. -/

theorem bothEntries?_eq_some {below : Option Value} {value : Value} {under above : Mapping}
    (both : bothEntries? below value = some (under, above)) :
    below.bind Value.entries? = some under ∧ value.entries? = some above := by
  cases below with
  | none => cases both
  | some v =>
      cases lower : v.entries? <;> cases upper : value.entries? <;>
        simp [bothEntries?, lower, upper] at both ⊢
      exact both

theorem reaches_succ_eq_false {levels : Nat} {base entries : Mapping}
    (ends : ∀ entry ∈ entries, ∀ under above,
      (base.find? entry.1).bind Value.entries? = some under → entry.2.entries? = some above →
      reaches levels under above = false) :
    reaches (levels + 1) base entries = false := by
  rw [reaches, List.any_eq_false]
  intro entry member
  cases both : bothEntries? (base.find? entry.1) entry.2 with
  | none => simp [both]
  | some pair =>
      obtain ⟨lower, upper⟩ := bothEntries?_eq_some both
      simp [both, ends entry member pair.1 pair.2 lower upper]

theorem reaches_above {levels : Nat} {entries : Mapping} (within : entries.Within levels)
    (base : Mapping) : reaches levels base entries = false := by
  induction levels generalizing base entries with
  | zero => cases within
  | succ levels ih =>
      apply reaches_succ_eq_false
      intro entry member under above _ upper
      exact ih (within entry member above upper) under

theorem reaches_below {levels : Nat} {base : Mapping} (within : base.Within levels)
    (entries : Mapping) : reaches levels base entries = false := by
  induction levels generalizing base entries with
  | zero => cases within
  | succ levels ih =>
      apply reaches_succ_eq_false
      intro entry member under above lower _
      obtain ⟨v, found, inner⟩ := Option.bind_eq_some_iff.mp lower
      obtain ⟨other, there, rfl⟩ := Option.map_eq_some_iff.mp found
      exact ih (within other (List.mem_of_find?_eq_some there) under inner) above

theorem within_put {levels : Nat} {mapping : Mapping} (within : mapping.Within (levels + 1))
    (key : Value) {value : Value}
    (inside : ∀ inner, value.entries? = some inner → Mapping.Within levels inner) :
    (mapping.put key value).Within (levels + 1) := by
  intro entry member inner found
  unfold Mapping.put at member
  split at member
  · obtain ⟨former, there, rfl⟩ := List.mem_map.mp member
    split at found
    · exact inside inner found
    · exact within former there inner found
  · rcases List.mem_append.mp member with there | added
    · exact within entry there inner found
    · obtain rfl := List.mem_singleton.mp added
      exact inside inner found

theorem within_mergeTo {depth : Nat} (levels : Nat) {base entries : Mapping}
    (lower : base.Within depth) (upper : entries.Within depth) :
    (mergeTo levels base entries).Within depth := by
  induction levels generalizing depth base entries with
  | zero => exact upper
  | succ levels ih =>
      cases depth with
      | zero => cases lower
      | succ depth =>
          induction entries generalizing base with
          | nil => exact lower
          | cons entry rest step =>
              obtain ⟨first, others⟩ := List.forall_mem_cons.mp upper
              rw [mergeTo_cons]
              refine step (within_put lower entry.1 fun inner found => ?_) others
              -- the new entry holds both mappings, or only the upper one
              cases mapping : entry.2.entries? with
              | none =>
                  rw [laidOver_plain mapping, mapping] at found
                  cases found
              | some above =>
                  rw [laidOver_mapping mapping] at found
                  cases meeting : (base.find? entry.1).bind Value.entries? with
                  | none =>
                      rw [meeting] at found
                      exact first inner found
                  | some under =>
                      rw [meeting] at found
                      obtain ⟨v, below, inner'⟩ := Option.bind_eq_some_iff.mp meeting
                      obtain ⟨other, there, rfl⟩ := Option.map_eq_some_iff.mp below
                      cases found
                      exact ih (lower other (List.mem_of_find?_eq_some there) under inner')
                        (first above mapping)

theorem within_merge {depth : Nat} {base entries : Mapping} (lower : base.Within depth)
    (upper : entries.Within depth) : (merge base entries).Within depth :=
  within_mergeTo levelLimit lower upper

end Settings
end SymbolPath
