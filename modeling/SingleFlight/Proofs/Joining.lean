import SingleFlight.Proofs.AsciiText
import SingleFlight.Proofs.Walking

/-!
Paths of files in a directory. A name that is joined to the path of a directory is the last name of the
path that comes out, and the names before it are those of the directory.
-/

namespace SingleFlight

open Text OsText

namespace Files.Tree

/-- The names between the slashes of a path. -/
def namesOf (text : OsText) : List OsText := (split (· = slash) text).filter fun name => !name.isEmpty

theorem steps_eq (text : OsText) :
    steps text = if text.getLast? = some slash then namesOf text ++ [dot] else namesOf text := by
  rw [steps, List.concat_eq_append]
  rfl

theorem namesOf_nil : namesOf [] = [] := rfl

theorem namesOf_cut (first second : OsText) :
    namesOf (first ++ slash :: second) = namesOf first ++ namesOf second := by
  rw [namesOf, split_append _ (by decide), List.filter_append]
  rfl

/-- A name that can stand between slashes. -/
structure IsPlain (name : OsText) : Prop where
  filled : name ≠ []
  noSlash : slash ∉ name
  noNull : 0 ∉ name

theorem IsPlain.clean {name : OsText} (plain : IsPlain name) : ∀ c ∈ name, decide (c = slash) = false := by
  intro c inside
  rw [decide_eq_false_iff_not]
  rintro rfl
  exact plain.noSlash inside

theorem namesOf_plain {name : OsText} (plain : IsPlain name) : namesOf name = [name] := by
  rw [namesOf, split_of_clean _ plain.clean]
  simp [plain.filled]

theorem getLast?_of_plain {name : OsText} (plain : IsPlain name) (before : OsText) :
    (before ++ name).getLast? ≠ some slash := by
  rw [List.getLast?_append]
  cases last : name.getLast? with
  | none => exact absurd (List.getLast?_eq_none_iff.mp last) plain.filled
  | some c =>
    rw [Option.some_or]
    rintro ⟨⟩
    exact plain.noSlash (List.mem_of_getLast? last)

/-- What stands before a name that is joined to a path. -/
def lead (root : Path) : OsText :=
  if root.text.isEmpty then [] else if root.text.getLast? = some slash then root.text else root.text ++ [slash]

theorem length_le_lead (root : Path) : root.text.length ≤ (lead root).length := by
  unfold lead
  split
  next empty => rw [List.isEmpty_iff.mp empty]
  split
  next => exact Nat.le_refl _
  next =>
    rw [List.length_append]
    exact Nat.le_add_right _ _

theorem not_isRooted {name : OsText} (plain : IsPlain name) : name.isRooted = false := by
  rw [isRooted, decide_eq_false_iff_not]
  intro slash
  exact plain.noSlash (List.mem_of_head? slash)

theorem join_text (root : Path) {name : OsText} (plain : IsPlain name) :
    (root.join name).text = lead root ++ name := by
  unfold Path.join lead
  rw [not_isRooted plain, Bool.false_or]
  split
  next => rfl
  next =>
    split
    next => rfl
    next => simp

theorem namesOf_lead (root : Path) {name : OsText} (plain : IsPlain name) :
    namesOf (lead root ++ name) = namesOf root.text ++ [name] := by
  have alone := namesOf_plain plain
  unfold lead
  split
  next empty =>
    rw [List.isEmpty_iff.mp empty]
    exact alone
  next =>
    split
    next slash =>
      obtain ⟨init, shape⟩ := List.getLast?_eq_some_iff.mp slash
      rw [shape, namesOf_cut, namesOf_nil, List.append_nil, List.append_assoc,
        List.singleton_append, namesOf_cut, alone]
    next => rw [List.append_assoc, List.singleton_append, namesOf_cut, alone]

theorem steps_join (root : Path) {name : OsText} (plain : IsPlain name) :
    steps (root.join name).text = namesOf root.text ++ [name] := by
  rw [steps_eq, join_text root plain, namesOf_lead root plain, if_neg (getLast?_of_plain plain _)]

theorem isAbsolute_join (root : Path) {name : OsText} (plain : IsPlain name) :
    (root.join name).isAbsolute = root.isAbsolute := by
  have relative := not_isRooted plain
  unfold Path.isAbsolute
  rw [join_text root plain]
  cases shape : root.text with
  | nil =>
    rw [lead, shape]
    exact relative
  | cons c rest =>
    obtain ⟨behind, front⟩ : ∃ behind, lead root ++ name = c :: behind := by
      rw [lead, shape]
      split
      next never => cases never
      split
      next => exact ⟨_, List.cons_append⟩
      next => exact ⟨_, by rw [List.cons_append, List.cons_append]⟩
    rw [front, isRooted, isRooted, List.head?_cons, List.head?_cons]

theorem origin_join (tree : Tree) (root : Path) {name : OsText} (plain : IsPlain name) :
    tree.origin (root.join name) = tree.origin root := by
  rw [origin, origin, isAbsolute_join root plain]

/-- Whether the path of a name in a directory is one that can be walked at all. -/
structure Fits (root : Path) (name : OsText) : Prop where
  noNull : 0 ∉ root.text
  short : (lead root).length + name.length ≤ longestPath

theorem null_mem_lead (root : Path) : 0 ∈ lead root ↔ 0 ∈ root.text := by
  unfold lead
  split
  next empty => rw [List.isEmpty_iff.mp empty]
  split
  next => exact Iff.rfl
  next =>
    rw [List.mem_append]
    constructor
    · intro either
      rcases either with before | isSlash
      · exact before
      · exact absurd isSlash (by decide)
    · exact .inl

theorem steps?_join {root : Path} {name : OsText} (plain : IsPlain name) {names : List OsText} :
    steps? (root.join name) = .ok names ↔ Fits root name ∧ names = namesOf root.text ++ [name] := by
  have filled : (root.join name).text.isEmpty = false := by
    rw [Bool.eq_false_iff, ne_eq, List.isEmpty_iff, join_text root plain]
    intro empty
    exact plain.filled (List.append_eq_nil_iff.mp empty).2
  have null : (root.join name).text.contains 0 = true ↔ 0 ∈ root.text := by
    rw [List.contains_iff_mem, join_text root plain, List.mem_append, null_mem_lead]
    exact or_iff_left plain.noNull
  have size : (root.join name).text.length = (lead root).length + name.length := by
    rw [join_text root plain, List.length_append]
  unfold steps?
  rw [filled, size, steps_join root plain]
  split
  next isNull =>
    constructor
    · intro never
      cases never
    · intro given
      obtain ⟨fits, _⟩ := given
      exact absurd (null.mp isNull) fits.noNull
  next noNull =>
    rw [null] at noNull
    rw [if_neg (by decide)]
    split
    next long =>
      constructor
      · intro never
        cases never
      · intro given
        obtain ⟨fits, _⟩ := given
        exact absurd fits.short (Nat.not_le.mpr long)
    next short =>
      constructor
      · intro same
        cases same
        exact ⟨⟨noNull, Nat.not_lt.mp short⟩, rfl⟩
      · intro given
        obtain ⟨_, rfl⟩ := given
        rfl

/-- A path that goes on through single dots. -/
def dotted (text : OsText) : Nat → OsText
  | 0 => text
  | count + 1 => dotted text count ++ slash :: dot

theorem length_dotted (text : OsText) (count : Nat) : (dotted text count).length = text.length + 2 * count := by
  induction count with
  | zero => rfl
  | succ count ih =>
    rw [dotted, List.length_append, ih]
    exact Nat.add_assoc _ _ _

theorem mem_dotted {text : OsText} {b : Byte} {count : Nat} (inside : b ∈ dotted text count) :
    b ∈ text ∨ b ∈ slash :: dot := by
  induction count with
  | zero => exact .inl inside
  | succ count ih =>
    rcases List.mem_append.mp inside with before | behind
    · exact ih before
    · exact .inr behind

theorem getLast?_dotted {text : OsText} (solid : text.getLast? ≠ some slash) (count : Nat) :
    (dotted text count).getLast? ≠ some slash := by
  cases count with
  | zero => exact solid
  | succ count =>
    rw [dotted, List.getLast?_append]
    intro same
    exact absurd (Option.some.inj same) (by decide)

/-- A dot behind a directory stays in that directory. -/
theorem locate_dot {tree : Tree} {text : OsText} {location : Location} {node : Node}
    (held : tree.find? location = some node)
    (isDirectory : node.isDirectory = true) (solid : text.getLast? ≠ some slash)
    (short : text.length + 2 ≤ longestPath)
    (located : tree.locate ⟨text⟩ = .ok location) : tree.locate ⟨text ++ slash :: dot⟩ = .ok location := by
  obtain ⟨names, spelled, walked⟩ := bind_ok located
  obtain ⟨noNull, filled, _, rfl⟩ := steps?_ok spelled
  have steps : steps (text ++ slash :: dot) = steps text ++ [dot] := by
    have last : (text ++ slash :: dot).getLast? ≠ some slash := getLast?_dotted solid 1
    rw [steps_eq, steps_eq, if_neg last, if_neg solid, namesOf_cut]
    rfl
  have spelledOn : steps? ⟨text ++ slash :: dot⟩ = .ok (Tree.steps text ++ [dot]) := by
    rw [← steps]
    apply steps?_of
    · simpa [slash, dot] using noNull
    · simp
    · rw [List.length_append]
      exact short
  have origin : tree.origin ⟨text ++ slash :: dot⟩ = tree.origin ⟨text⟩ := by
    obtain ⟨first, rest, shape⟩ := List.exists_cons_of_ne_nil (List.isEmpty_eq_false_iff.mp filled)
    change text = first :: rest at shape
    rw [Tree.origin, Tree.origin, Path.isAbsolute, Path.isAbsolute, shape]
    rfl
  obtain ⟨left, goesOn⟩ := walk_append tree linkLimit (tree.origin ⟨text⟩) (Tree.steps text)
  rw [locate_of_steps spelledOn, origin, goesOn, walked]
  change tree.walk left location [dot] = .ok location
  rw [walk_single_dot, held]
  dsimp only
  rw [if_pos isDirectory]

theorem locate_dotted {tree : Tree} {text : OsText} {location : Location} {node : Node}
    (held : tree.find? location = some node)
    (isDirectory : node.isDirectory = true) (solid : text.getLast? ≠ some slash) {count : Nat}
    (short : text.length + 2 * count ≤ longestPath) (located : tree.locate ⟨text⟩ = .ok location) :
    tree.locate ⟨dotted text count⟩ = .ok location := by
  induction count with
  | zero => exact located
  | succ count ih =>
    apply locate_dot held isDirectory (getLast?_dotted solid count) _ (ih (by omega))
    rw [length_dotted]
    exact short

/-- Whether the names of a path lead to a directory. The empty path stands for the working directory. -/
def LeadsTo (tree : Tree) (root : Path) (outer : Location) : Prop :=
  tree.walk linkLimit (tree.origin root) (namesOf root.text) = .ok outer ∧
    ∃ node, tree.find? outer = some node ∧ node.isDirectory = true

variable {tree after : Tree} {root directory : Path} {name : OsText} {outer location : Location} {node : Node}

theorem Follows.leadsTo (follows : Follows tree after) (leads : tree.LeadsTo root outer) : after.LeadsTo root outer := by
  obtain ⟨walked, node, held, isDirectory⟩ := leads
  refine ⟨?_, follows.directories outer node held isDirectory⟩
  rw [origin_of_here root follows.here]
  exact follows.walk walked

theorem LeadsTo.unique {other : Location} (first : tree.LeadsTo root outer) (second : tree.LeadsTo root other) :
    outer = other := Except.ok.inj (first.1.symm.trans second.1)

/-- A path that leads to a directory leads there by its names. -/
theorem leadsTo_of_isDirectory (is : tree.isDirectory root = true) :
    ∃ outer, tree.LeadsTo root outer ∧ tree.locate root = .ok outer := by
  obtain ⟨location, node, located, held, isDirectory⟩ := isDirectory_iff.mp is
  obtain ⟨names, spelled, walked⟩ := bind_ok located
  rw [(steps?_ok spelled).2.2.2, steps_eq] at walked
  split at walked
  next =>
    obtain ⟨left, walks⟩ := walk_append tree linkLimit (tree.origin root) (namesOf root.text)
    rw [walks] at walked
    obtain ⟨outer, first, asked⟩ := bind_ok walked
    rw [walk_single_dot] at asked
    split at asked
    next => cases asked
    next =>
      split at asked
      next =>
        cases asked
        exact ⟨location, ⟨first, node, held, isDirectory⟩, located⟩
      next => cases asked
  next => exact ⟨location, ⟨walked, node, held, isDirectory⟩, located⟩

/-- The entry of a joined name is that name in the directory that the path leads to. -/
theorem locateEntry_join (plain : IsPlain name) (proper : IsProper name) :
    tree.locateEntry (root.join name) = .ok (some location) ↔
      Fits root name ∧ ∃ outer, tree.LeadsTo root outer ∧ location = name :: outer := by
  rw [locateEntry_iff, origin_join tree root plain]
  constructor
  · intro given
    obtain ⟨init, last, outer, node, spelled, walked, held, isDirectory, _, rfl⟩ := given
    obtain ⟨fits, same⟩ := (steps?_join plain).mp spelled
    obtain ⟨rfl, lastSame⟩ := List.append_inj' same rfl
    cases lastSame
    exact ⟨fits, outer, ⟨walked, node, held, isDirectory⟩, rfl⟩
  · intro given
    obtain ⟨fits, outer, ⟨walked, node, held, isDirectory⟩, rfl⟩ := given
    exact ⟨_, name, outer, node, (steps?_join plain).mpr ⟨fits, rfl⟩, walked, held, isDirectory, proper, rfl⟩

theorem leadsTo_of_locate (located : tree.locate root = .ok outer) (held : tree.find? outer = some node)
    (isDirectory : node.isDirectory = true) : tree.LeadsTo root outer := by
  obtain ⟨there, leads, locatedThere⟩ := leadsTo_of_isDirectory (isDirectory_iff.mpr ⟨outer, node, located, held, isDirectory⟩)
  obtain rfl : outer = there := Except.ok.inj (located.symm.trans locatedThere)
  exact leads

/-- A path that leads to a directory leads to the directories in it. -/
theorem LeadsTo.join (leads : tree.LeadsTo root outer) (plain : IsPlain name) (proper : IsProper name)
    (held : tree.find? (name :: outer) = some node) (isDirectory : node.isDirectory = true) :
    tree.LeadsTo (root.join name) (name :: outer) := by
  obtain ⟨walked, outerNode, outerHeld, outerIs⟩ := leads
  refine ⟨?_, node, held, isDirectory⟩
  have noLink (target : OsText) : tree.find? (name :: outer) ≠ some (.link target) := by
    rw [held]
    rintro ⟨⟩
    cases isDirectory
  obtain ⟨left, walks⟩ := walk_append tree linkLimit (tree.origin root) (namesOf root.text)
  rw [origin_join tree root plain, join_text root plain, namesOf_lead root plain, walks, walked]
  exact walk_single outerHeld outerIs proper noLink

/-- What is opened under a name in a directory is what stands there, unless that is a link. -/
theorem LeadsTo.open?_join (leads : tree.LeadsTo directory outer) (plain : IsPlain name) (proper : IsProper name)
    (noLink : ∀ target, tree.find? (name :: outer) ≠ some (.link target)) :
    tree.open? (directory.join name) = .ok node ↔ Fits directory name ∧ tree.find? (name :: outer) = some node := by
  have leadsOn (fits : Fits directory name) : tree.locate (directory.join name) = .ok (name :: outer) :=
    locate_of_locateEntry ((locateEntry_join plain proper).mpr ⟨fits, outer, leads, rfl⟩) noLink
  rw [open?_iff]
  constructor
  · rintro ⟨location, located, held⟩
    obtain ⟨names, spelled, _⟩ := bind_ok located
    have fits := ((steps?_join plain).mp spelled).1
    obtain rfl : name :: outer = location := Except.ok.inj ((leadsOn fits).symm.trans located)
    exact ⟨fits, held⟩
  · rintro ⟨fits, held⟩
    exact ⟨_, leadsOn fits, held⟩

end Files.Tree

end SingleFlight
