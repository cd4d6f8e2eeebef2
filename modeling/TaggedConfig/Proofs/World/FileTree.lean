import Mathlib.Tactic.SplitIfs
import TaggedConfig.Proofs.Outcome
import TaggedConfig.World.FileTree

/-! Trees of files after a write.
Main statement: a write that succeeds leaves the content where its path leads, to be read there,
and every other place as it was.
-/

namespace TaggedConfig.FileTree

variable {tree other : FileTree} {place location : Location} {directory path : String}
  {content : Bytes}

/-- The other tree has the content at a place to which the path leads, and is the same everywhere
else.
-/
structure Written (tree other : FileTree) (directory path : String) (content : Bytes)
    : Prop where
  reads : other.read directory path = .ok content
  place
    : ∃ location,
        other.walk (origin directory path) (parts path) = .ok location
        ∧ ∀ elsewhere ≠ location, other.item? elsewhere = tree.item? elsewhere

-----------------------------------------------------------------------------------------
-- Places
-----------------------------------------------------------------------------------------

/-- Removing the entries of one place hides no other, by induction on the entries. -/
theorem lookup_filter_ne (place_ne : place ≠ location) (items : List (Location × Item))
    : (items.filter (·.1 ≠ location)).lookup place = items.lookup place := by
  induction items with
  | nil => rfl
  | cons entry items ih =>
      obtain ⟨entryPlace, item⟩ := entry
      by_cases replaced : entryPlace = location
      · subst replaced
        rw [List.filter_cons_of_neg (by simp), List.lookup_cons, beq_false_of_ne place_ne, ih]
      · rw [List.filter_cons_of_pos (by simpa using replaced), List.lookup_cons,
          List.lookup_cons, ih]

theorem item?_put_self (nonempty : location ≠ []) (item : Item)
    : (tree.put location item).item? location = some item := by
  cases location with
  | nil => contradiction
  | cons name names => simp [item?, put]

theorem item?_put_ne (place_ne : place ≠ location) (item : Item)
    : (tree.put location item).item? place = tree.item? place := by
  cases place with
  | nil => rfl
  | cons name names =>
      have other : (name :: names == location) = false := beq_false_of_ne place_ne
      simp only [item?, put, List.lookup_cons, other]
      exact lookup_filter_ne place_ne tree.items

-----------------------------------------------------------------------------------------
-- Walks
-----------------------------------------------------------------------------------------

/-- A name leads from a directory to that directory, to the one above or to what is in it. -/
inductive Steps (tree : FileTree) (start : Location) : String → Location → Prop where
  | stay (within : tree.item? start = some .directory) : Steps tree start "." start
  | up (within : tree.item? start = some .directory) : Steps tree start ".." start.dropLast
  | down {name : String} {item : Item} (within : tree.item? start = some .directory)
    (plain : name ≠ "." ∧ name ≠ "..") (fits : name.utf8ByteSize ≤ nameLimit)
    (there : tree.item? (start ++ [name]) = some item)
    : Steps tree start name (start ++ [name])

/-- A walk goes from step to step. -/
theorem walk_cons_eq_ok {name : String} {names : List String} {start finish : Location}
    : tree.walk start (name :: names) = .ok finish
      ↔ ∃ next, tree.Steps start name next ∧ tree.walk next names = .ok finish := by
  constructor
  · intro walked
    rw [walk] at walked
    split at walked
    · rename_i within
      split_ifs at walked with here above long
      · subst here
        exact ⟨start, .stay within, walked⟩
      · subst above
        exact ⟨start.dropLast, .up within, walked⟩
      · split at walked
        · rename_i there
          exact ⟨start ++ [name], .down within ⟨here, above⟩ (by omega) there, walked⟩
        · contradiction
    · contradiction
  · rintro ⟨next, step, walked⟩
    rw [walk]
    cases step with
    | stay within => simp only [within, ↓reduceIte, walked]
    | up within => simp [within, walked]
    | down within plain fits there =>
        have long : ¬nameLimit < name.utf8ByteSize := by omega
        simp only [within, there, if_neg plain.1, if_neg plain.2, if_neg long, walked]

/-- Walks follow each other, by induction on the first. -/
theorem walk_append {names more : List String} {start between finish : Location}
    (first : tree.walk start names = .ok between) (second : tree.walk between more = .ok finish)
    : tree.walk start (names ++ more) = .ok finish := by
  induction names generalizing start with
  | nil =>
      obtain rfl := Except.ok.inj first
      exact second
  | cons name names ih =>
      obtain ⟨next, step, rest⟩ := walk_cons_eq_ok.mp first
      exact walk_cons_eq_ok.mpr ⟨next, step, ih rest⟩

/-- A place that is not a directory can become a file without being in the way of a step. -/
theorem Steps.put {name : String} {start next : Location} (step : tree.Steps start name next)
    (notDirectory : tree.item? location ≠ some .directory)
    : (tree.put location (.file content)).Steps start name next := by
  have still {place : Location} (within : tree.item? place = some .directory)
      : (tree.put location (.file content)).item? place = some .directory := by
    have place_ne : place ≠ location := by
      rintro rfl
      exact notDirectory within
    rw [item?_put_ne place_ne, within]
  cases step with
  | stay within => exact .stay (still within)
  | up within => exact .up (still within)
  | @down _ item within plain fits there =>
      by_cases replaced : start ++ [name] = location
      · subst replaced
        exact .down (still within) plain fits (item?_put_self (by simp) _)
      · exact .down (still within) plain fits ((item?_put_ne replaced _).trans there)

theorem walk_put (notDirectory : tree.item? location ≠ some .directory) {names : List String}
    {start finish : Location} (walked : tree.walk start names = .ok finish)
    : (tree.put location (.file content)).walk start names = .ok finish := by
  induction names generalizing start with
  | nil => exact walked
  | cons name names ih =>
      obtain ⟨next, step, rest⟩ := walk_cons_eq_ok.mp walked
      exact walk_cons_eq_ok.mpr ⟨next, step.put notDirectory, ih rest⟩

-----------------------------------------------------------------------------------------
-- Writes
-----------------------------------------------------------------------------------------

/-- A path under which a file can be written: it leads into a directory and ends with a plain name
that is no directory's.
-/
structure Addresses (tree : FileTree) (directory path : String) (parent : Location)
    (name : String)
    : Prop where
  valid : checkPath path = .ok ()
  unslashed : path.endsWith "/" = false
  last : (parts path).getLast? = some name
  leads : tree.walk (origin directory path) (parts path).dropLast = .ok parent
  within : tree.item? parent = some .directory
  plain : name ≠ "." ∧ name ≠ ".."
  fits : name.utf8ByteSize ≤ nameLimit
  free : tree.item? (parent ++ [name]) ≠ some .directory

theorem write_eq_ok
    : tree.write directory path content = .ok other
      ↔ ∃ parent name,
          tree.Addresses directory path parent name
          ∧ other = tree.put (parent ++ [name]) (.file content) := by
  unfold write
  constructor
  · intro wrote
    obtain ⟨⟨⟩, valid, wrote⟩ := Outcome.bind_eq_ok.mp wrote
    obtain ⟨parent, leads, wrote⟩ := Outcome.bind_eq_ok.mp wrote
    split at wrote
    · rename_i within
      split at wrote
      · contradiction
      · rename_i name last
        split_ifs at wrote with special long free
        obtain rfl := Except.ok.inj wrote
        simp only [not_or] at special
        refine ⟨parent, name, ⟨valid, ?_, last, leads, within, special.2, by omega, free⟩, rfl⟩
        simpa using special.1
    · contradiction
  · rintro ⟨parent, name, addresses, rfl⟩
    have special : ¬(path.endsWith "/" ∨ name = "." ∨ name = "..") := by
      simp [addresses.unslashed, addresses.plain]
    have long : ¬nameLimit < name.utf8ByteSize := by
      have := addresses.fits
      omega
    simp [addresses.valid, addresses.leads, addresses.within, addresses.last, special, long,
      addresses.free]

/-- A file can be written under the path. -/
def Addressed (tree : FileTree) (directory path : String) : Prop :=
  ∃ parent name, tree.Addresses directory path parent name

/-- Whether a file can be written does not depend on its content. -/
theorem addressed_iff
    : tree.Addressed directory path ↔ ∃ other, tree.write directory path content = .ok other := by
  constructor
  · rintro ⟨parent, name, addresses⟩
    exact ⟨_, write_eq_ok.mpr ⟨parent, name, addresses, rfl⟩⟩
  · rintro ⟨other, wrote⟩
    obtain ⟨parent, name, addresses, -⟩ := write_eq_ok.mp wrote
    exact ⟨parent, name, addresses⟩

/-- What has been written is read at the same path, and nothing else has changed. -/
theorem written_of_write (wrote : tree.write directory path content = .ok other)
    : tree.Written other directory path content := by
  obtain ⟨parent, name, addresses, rfl⟩ := write_eq_ok.mp wrote
  have step
      : (tree.put (parent ++ [name]) (.file content)).Steps parent name (parent ++ [name]) := by
    have parent_ne : parent ≠ parent ++ [name] := by simp
    exact .down ((item?_put_ne parent_ne _).trans addresses.within) addresses.plain addresses.fits
      (item?_put_self (by simp) _)
  have walked
      : (tree.put (parent ++ [name]) (.file content)).walk (origin directory path) (parts path)
        = .ok (parent ++ [name]) := by
    obtain ⟨names, parts_eq⟩ := List.getLast?_eq_some_iff.mp addresses.last
    have dropped : (parts path).dropLast = names := by rw [parts_eq, List.dropLast_concat]
    rw [parts_eq, ← dropped]
    exact walk_append (walk_put addresses.free addresses.leads)
      (walk_cons_eq_ok.mpr ⟨_, step, rfl⟩)
  have there
      : (tree.put (parent ++ [name]) (.file content)).item? (parent ++ [name])
        = some (.file content) :=
    item?_put_self (by simp) _
  refine ⟨?_, _, walked, fun elsewhere elsewhere_ne => item?_put_ne elsewhere_ne _⟩
  simp [read, addresses.valid, walked, there, addresses.unslashed]

end TaggedConfig.FileTree
