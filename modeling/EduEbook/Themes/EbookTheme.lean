import EduEbook.Library.Runs
import Mathlib.Data.Nat.Bits

/-!
# The theme through lives of the app

`toggleThemeData` waits for the settings box, puts the opposite theme into it and
switches, without waiting for the write.  So taps overlap, and an app that is killed
takes the writes with it that have not reached the disk.  This module follows the
theme, the box and the disk, and says which theme the next life starts with.
-/

namespace EduEbook.EbookTheme

open EduEbook.Runs

/-- What is assumed of a box of the `hive` package: a value that is put is read back at
once, and the values reach the disk in the order in which they were put. -/
structure Box where
  memory : Option Bool
  disk : Option Bool
  writes : List Bool

def Box.put (value : Bool) (box : Box) : Box :=
  { box with memory := some value, writes := box.writes ++ [value] }

/-- `settings.get('isLightTheme') ?? true`. -/
def Box.isLightTheme (box : Box) : Bool := box.memory.getD true

/-- A box that is opened has what is on the disk. -/
def openBox (disk : Option Bool) : Box := ⟨disk, disk, []⟩

/-- The theme, the taps that wait for the box, and the box. -/
structure State where
  isLight : Bool
  opening : ℕ
  box : Box

/-- `main` reads the theme from the box that it has opened. -/
def main (disk : Option Bool) : State := ⟨(openBox disk).isLightTheme, 0, openBox disk⟩

/-- The switch is tapped, a tap goes on with the open box, a value reaches the disk, or
the app is killed and started again. -/
inductive Event
  | tap
  | resume
  | written
  | restart
  deriving DecidableEq

/-- `toggleThemeData` after its `await`. -/
def toggle (state : State) : State :=
  { state with
    isLight := !state.isLight
    box := state.box.put !state.isLight }

def step (state : State) : Event → Option State
  | .tap => some { state with opening := state.opening + 1 }
  | .resume =>
      match state.opening with
      | 0 => none
      | opening + 1 => some { toggle state with opening := opening }
  | .written =>
      match state.box.writes with
      | [] => none
      | value :: writes => some
          { state with box := { state.box with disk := some value, writes := writes } }
  | .restart => some (main state.box.disk)

/-- The theme that is on the disk, for a life that starts now. -/
def State.stored (state : State) : Bool := state.box.disk.getD true

end EduEbook.EbookTheme
