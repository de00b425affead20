import EventAtlas.Proofs.Path
import EventAtlas.Proofs.Tree

/-!
# Going on from a place

Parts none of which goes back lead down from a place. Whatever they lead to, and whether they lead
anywhere, depends on nothing but what stands at the place and below it.
-/

namespace EventAtlas

namespace Tree

variable {tree other : Tree} {start place : Location} {parts : List String}

/-- Where parts lead can be told without a tree, if they lead anywhere. -/
theorem eq_foldl_of_walk (led : tree.walk start parts = .ok place) :
    place = parts.foldl Path.step start := by
  induction parts using List.reverseRecOn generalizing place with
  | nil => simpa [walk] using led.symm
  | append_singleton parts part ih =>
    rw [walk_append] at led
    obtain ⟨between, before, last⟩ := bind_eq_ok_iff.1 led
    rw [List.foldl_append, ← ih before, List.foldl_cons, List.foldl_nil, Path.step]
    obtain ⟨-, ⟨up, rfl⟩ | ⟨notUp, -, -, rfl⟩⟩ := walk_singleton_eq_ok_iff.1 last
    · rw [if_pos up]
    · rw [if_neg notUp]

/-- Each of the parts that lead somewhere is a name of a length that names may have. -/
theorem short_of_walk (led : tree.walk start parts = .ok place) :
    ∀ part ∈ parts, part.utf8ByteSize ≤ maxNameBytes := by
  induction parts using List.reverseRecOn generalizing place with
  | nil => simp
  | append_singleton parts last ih =>
    rw [walk_append] at led
    obtain ⟨between, before, led⟩ := bind_eq_ok_iff.1 led
    have short : last.utf8ByteSize ≤ maxNameBytes := by
      obtain ⟨-, ⟨rfl, -⟩ | ⟨-, short, -⟩⟩ := walk_singleton_eq_ok_iff.1 led
      · decide
      · exact short
    intro part member
    rcases List.mem_append.1 member with inside | same
    · exact ih before part inside
    · exact List.mem_singleton.1 same ▸ short

/-- Parts that do not go back lead down by their names. -/
theorem foldl_step_of_forward (forward : ".." ∉ parts) :
    parts.foldl Path.step start = start ++ parts := by
  induction parts using List.reverseRecOn with
  | nil => simp
  | append_singleton parts part ih =>
    simp only [List.mem_append, List.mem_singleton, not_or] at forward
    rw [List.foldl_append, ih forward.1, List.foldl_cons, List.foldl_nil, Path.step,
      if_neg (Ne.symm forward.2), List.append_assoc]

/-- What parts lead down to stands under their names. -/
theorem place_of_walk (forward : ".." ∉ parts) (led : tree.walk start parts = .ok place) :
    place = start ++ parts :=
  (eq_foldl_of_walk led).trans (foldl_step_of_forward forward)

/-- The trees agree at a place and everywhere below it. -/
def AgreeBelow (start : Location) (tree other : Tree) : Prop :=
  ∀ place, start <+: place → other.at? place = tree.at? place

/-- What is below a place below another one is below this one. -/
theorem AgreeBelow.deeper (agree : AgreeBelow start tree other) (names : List String) :
    AgreeBelow (start ++ names) tree other :=
  fun place inside => agree place ((List.prefix_append ..).trans inside)

/-- Parts lead down in the same way in trees that agree below the place. -/
theorem AgreeBelow.walk (agree : AgreeBelow start tree other) (forward : ".." ∉ parts) :
    other.walk start parts = tree.walk start parts := by
  induction parts generalizing start with
  | nil => rfl
  | cons part rest ih =>
    simp only [List.mem_cons, not_or] at forward
    have here := agree start List.prefix_rfl
    have next := agree (start ++ [part]) (List.prefix_append ..)
    rw [Tree.walk, Tree.walk, here, next, ih (agree.deeper [part]) forward.2]
    simp only [if_neg (Ne.symm forward.1)]

end Tree

namespace Workspace

variable {workspace other : Workspace} {path base : Path} {start : Location}

/-- A path that goes on from another one is followed from where this one leads. -/
theorem locate_below (located : workspace.locate base = .ok start) (parts : List String) :
    workspace.locate (base.below parts) =
      if Tree.maxPathBytes < (base.below parts).toString.utf8ByteSize then .error .nameTooLong
      else workspace.tree.walk start parts := by
  obtain ⟨-, led⟩ := locate_eq_ok_iff.1 located
  unfold locate
  split
  · rfl
  · change workspace.tree.walk (workspace.start base) (base.parts ++ parts) = _
    rw [Tree.walk_append, led]
    rfl

/-- In a connected tree, the absolute path that a path means is made of the names that lead to where
its parts lead. -/
theorem parts_resolve {place : Location} (connected : workspace.tree.Connected)
    (around : (workspace.tree.at? workspace.current).isSome)
    (led : workspace.tree.walk (workspace.start path) path.parts = .ok place) :
    (workspace.resolve path).parts = place := by
  rw [Tree.eq_foldl_of_walk led]
  cases absolute : path.isAbsolute with
  | true =>
    rw [resolve, Path.resolve, Path.join_of_absolute absolute, Workspace.start, if_pos absolute]
  | false =>
    have forward : ".." ∉ workspace.current := fun up =>
      (connected.passable_root around _ up).1 rfl
    rw [resolve, Path.resolve, Path.join_of_relative absolute, Path.below, currentPath,
      List.foldl_append, Tree.foldl_step_of_forward forward, Workspace.start, absolute]
    rfl

/-- So it leads where the path leads, unless it is too long. -/
theorem locate_resolve {place : Location} (connected : workspace.tree.Connected)
    (around : (workspace.tree.at? workspace.current).isSome)
    (located : workspace.locate path = .ok place) (stands : (workspace.tree.at? place).isSome)
    (short : (workspace.resolve path).toString.utf8ByteSize ≤ Tree.maxPathBytes) :
    workspace.locate (workspace.resolve path) = .ok place := by
  refine locate_eq_ok_iff.2 ⟨short, ?_⟩
  rw [parts_resolve connected around (locate_eq_ok_iff.1 located).2]
  exact connected.walk_root stands

/-- What a path leads to is the same where it leads to the same place and the same stands there. -/
theorem find?_congr (located : other.locate path = workspace.locate path)
    (same : ∀ place, workspace.locate path = .ok place →
      other.tree.at? place = workspace.tree.at? place) :
    other.find? path = workspace.find? path := by
  unfold find?
  rw [located]
  split
  · rfl
  · split
    · next place led => rw [same place led]
    · rfl

/-- So it is with the content that is read from it. -/
theorem read_congr_of_locate (located : other.locate path = workspace.locate path)
    (same : ∀ place, workspace.locate path = .ok place →
      other.tree.at? place = workspace.tree.at? place) :
    other.read path = workspace.read path := by
  unfold read
  rw [located]
  cases led : workspace.locate path with
  | ok place => simp only [bind, Except.bind, Tree.read, same place led]
  | error cause => rfl

/-- So it is with its text. -/
theorem readSource?_congr_of_locate (located : other.locate path = workspace.locate path)
    (same : ∀ place, workspace.locate path = .ok place →
      other.tree.at? place = workspace.tree.at? place) :
    other.readSource? path = workspace.readSource? path := by
  rw [readSource?, readSource?, read_congr_of_locate located same]

end Workspace

end EventAtlas
