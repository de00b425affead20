import EventAtlas.Text.Field

/-!
# Paths

A path is an anchor and a list of parts. Writing a path down and reading it again drops what
makes no difference to it: repeated and trailing slashes and parts that are a single dot. A
part that is two dots stays, because it can only be resolved against a tree. Comparing and
joining paths never looks at a tree.
-/

namespace EventAtlas

/-- Where a path starts. -/
inductive Path.Anchor where
  /-- At the current directory. -/
  | relative
  /-- At the root. -/
  | root
  /-- At the root, written with exactly two slashes. -/
  | doubleRoot
deriving DecidableEq, Repr

/-- A path, absolute or relative. -/
structure Path where
  anchor : Path.Anchor
  parts : List String
deriving DecidableEq, Repr

namespace Path

/-- How an anchor is written. -/
def Anchor.text : Anchor → String
  | .relative => ""
  | .root => "/"
  | .doubleRoot => "//"

/-- The anchor of a path that is written with the given number of leading slashes. -/
def Anchor.ofSlashes : Nat → Anchor
  | 0 => .relative
  | 2 => .doubleRoot
  | _ => .root

/-- The parts of a written path: its fields between slashes, without those that are empty or
a single dot. -/
def partsOf (written : List Char) : List String :=
  ((Text.fields '/' written).filter fun part => part ≠ [] ∧ part ≠ ['.']).map String.ofList

/-- Reads a written path. -/
def ofString (written : String) : Path where
  anchor := .ofSlashes (written.toList.takeWhile (· == '/')).length
  parts := partsOf written.toList

/-- Writes a path. The path without anchor and parts is written as a single dot. -/
def toString (path : Path) : String :=
  if path.anchor = .relative ∧ path.parts = [] then "."
  else path.anchor.text ++ Text.join "/" path.parts

instance : ToString Path := ⟨toString⟩

/-- The path of the current directory. -/
def here : Path where
  anchor := .relative
  parts := []

/-- Whether the path starts at the root. -/
def isAbsolute (path : Path) : Bool :=
  path.anchor ≠ .relative

/-- The path `tail` as seen from `path`. An absolute tail stands for itself. -/
def join (path tail : Path) : Path :=
  if tail.isAbsolute then tail else { path with parts := path.parts ++ tail.parts }

/-- The path of a part inside a directory. -/
def child (path : Path) (part : String) : Path :=
  { path with parts := path.parts ++ [part] }

/-- The last part, empty if there is none. -/
def name (path : Path) : String :=
  path.parts.getLast?.getD ""

/-- The path without its last part. A path without parts is its own parent. -/
def parent (path : Path) : Path :=
  { path with parts := path.parts.dropLast }

/-- What is left of the path below `base`, if its anchor and first parts are those of
`base`. -/
def relativeTo? (path base : Path) : Option Path :=
  if path.anchor = base.anchor ∧ base.parts.isPrefixOf path.parts then
    some { anchor := .relative, parts := path.parts.drop base.parts.length }
  else
    none

/-- The components that order paths: the anchor, if the path is absolute, and the parts. -/
def components (path : Path) : List String :=
  if path.isAbsolute then path.anchor.text :: path.parts else path.parts

/-- Whether components come before others or are the same: the first difference decides, and
what goes on comes later. -/
def componentsLe : List String → List String → Bool
  | [], _ => true
  | _ :: _, [] => false
  | left :: lefts, right :: rights =>
    if left = right then componentsLe lefts rights else decide (left ≤ right)

/-- Of two lists of components one comes before the other. -/
theorem componentsLe_total (left right : List String) :
    (componentsLe left right || componentsLe right left) = true := by
  fun_induction componentsLe left right with
  | case1 right => simp
  | case2 => simp [componentsLe]
  | case3 _ lefts rights ih => simpa [componentsLe] using ih
  | case4 left lefts right rights apart =>
    have total := String.le_total left right
    simpa [componentsLe, Ne.symm apart] using total

/-- Components that come before each other are the same. -/
theorem componentsLe_antisymm {left right : List String}
    (forth : componentsLe left right = true) (back : componentsLe right left = true) :
    left = right := by
  fun_induction componentsLe left right with
  | case1 right => cases right <;> simp_all [componentsLe]
  | case2 => simp at forth
  | case3 _ lefts rights ih =>
    simp only [componentsLe] at back
    rw [ih forth back]
  | case4 left lefts right rights apart =>
    simp only [componentsLe, if_neg (Ne.symm apart), decide_eq_true_eq] at forth back
    exact absurd (String.le_antisymm forth back) apart

/-- What comes before components comes before all that they come before. -/
theorem componentsLe_trans {first second third : List String}
    (below : componentsLe first second = true) (above : componentsLe second third = true) :
    componentsLe first third = true := by
  induction first generalizing second third with
  | nil => simp [componentsLe]
  | cons a as ih =>
    match second, third with
    | [], _ => simp [componentsLe] at below
    | _ :: _, [] => simp [componentsLe] at above
    | b :: bs, c :: cs =>
      simp only [componentsLe] at below above ⊢
      by_cases ab : a = b
      · subst ab
        by_cases ac : a = c
        · subst ac
          simp only [if_pos] at below above ⊢
          exact ih below above
        · simpa [ac] using above
      · by_cases bc : b = c
        · subst bc
          simpa [ab] using below
        · simp only [if_neg ab, if_neg bc, decide_eq_true_eq] at below above
          have le := String.le_trans below above
          by_cases ac : a = c
          · subst ac
            exact absurd (String.le_antisymm below above) ab
          · simpa [ac] using le

/-- Paths are ordered part by part, so that what lies below a directory stands together. -/
def le (left right : Path) : Bool :=
  componentsLe left.components right.components

/-- Of two paths one comes before the other. -/
theorem le_total (left right : Path) : (le left right || le right left) = true :=
  componentsLe_total left.components right.components

/-- What comes before a path comes before all paths after it. -/
theorem le_trans {first second third : Path} (below : le first second = true)
    (above : le second third = true) : le first third = true :=
  componentsLe_trans below above

/-- One step of resolving dots: two dots go back to the directory above, and the root is its
own directory above. -/
def step (parts : List String) (part : String) : List String :=
  if part = ".." then parts.dropLast else parts ++ [part]

/-- The absolute path that a path means when `current` is the current directory, without dot
parts. -/
def resolve (current path : Path) : Path where
  anchor := .root
  parts := (current.join path).parts.foldl step []

end Path

end EventAtlas
