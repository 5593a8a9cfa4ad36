import GraphIngest.Clock
import GraphIngest.Files.Tree

/-!
# The world of a program

What a program acts on, as a value: the files, and the readings of a clock.
-/

namespace GraphIngest

/-- The files, and what the clock is going to show. -/
structure World where
  files : FileTree
  readings : Readings

namespace World

/-- The world when the clock was read a number of times. -/
def later (w : World) (n : Nat) : World := { w with readings := w.readings.later n }

/-- Acts on the files. -/
def onFiles {α : Type} (act : FileTree → α × FileTree) : StateM World α := fun w =>
  ((act w.files).1, { w with files := (act w.files).2 })

instance : FileAccess (StateM World) where
  readText path := onFiles fun t => (t.readText path, t)
  pathExists path := onFiles fun t => (t.pathExists path, t)
  makeParents path := onFiles (·.makeParents path)
  writeText path text := onFiles (·.writeText path text)

instance : Clock (StateM World) where
  now := fun w => (w.readings 0, w.later 1)

theorem later_zero (w : World) : w.later 0 = w := congrArg (World.mk w.files) w.readings.later_zero

theorem later_later (w : World) (m n : Nat) : (w.later m).later n = w.later (m + n) :=
  congrArg (World.mk w.files) (w.readings.later_later m n)

end World

end GraphIngest
