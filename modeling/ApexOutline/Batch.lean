import ApexOutline.Path
/-!
# Batches

The files of a run are worked on by several threads at once, which finish them in an order that nobody
knows before. Each result is put in the place of its file, so that the results stand in the order of the
files whatever happens. A progress bar tells how many files are done, unless it is hidden or there are
only a few.
-/

namespace ApexOutline

open Text

/-- What a progress bar is told. -/
inductive Progress where
  | position (count : Nat)
  | message (text : Text)
  /-- The last message, when all is done. -/
  | finished (text : Text)
  deriving DecidableEq, Repr

/-- Who works on a batch. -/
structure Crew where
  /-- Whether the progress bar is hidden. -/
  hidden : Bool
  /-- How many processors there are. -/
  processors : Nat
  /-- The order in which so many threads finish so many files. -/
  order : (threads size : Nat) → List Nat
  /-- Every file is finished once. -/
  once : ∀ threads size, (order threads size).Perm (List.range size)

/-- A batch that is worked on. -/
structure Batch (α : Type) where
  /-- The results so far, each in the place of its file. -/
  places : List (Option α)
  /-- How many files are done. -/
  done : Nat
  /-- What the progress bar has been told. -/
  bar : List Progress

namespace Batch

variable {α : Type}

/-- So many files on which nobody has worked yet. -/
def start (size : Nat) : Batch α :=
  ⟨List.replicate size none, 0, []⟩

/-- What the bar is told when the `count`-th of `size` files is done. Names are shown now and then. -/
def progressAt (size count : Nat) (path : Path) : List Progress :=
  .position count ::
    if count % 10 = 0 || count = 1 || count = size then (path.fileName?.map .message).toList else []

/-- Does the work on the file at an index. -/
def finish (work : Path → α) (paths : List Path) (drawn : Bool) (batch : Batch α) (index : Nat) :
    Batch α :=
  match paths[index]? with
  | none => batch
  | some path =>
    { places := batch.places.set index (some (work path))
      done := batch.done + 1
      bar := batch.bar ++ if drawn then progressAt paths.length (batch.done + 1) path else [] }

/-- The results in the order of the files. -/
def results (batch : Batch α) : List α :=
  batch.places.filterMap id

end Batch

namespace Crew

/-- One thread that takes the files in their order. -/
def single : Crew where
  hidden := false
  processors := 1
  order _ size := List.range size
  once _ _ := .refl _

/-- Batches up to this size have no progress bar. -/
def barThreshold : Nat := 10

/-- Whether a batch of this size has a progress bar. -/
def drawsBar (crew : Crew) (size : Nat) : Bool :=
  !crew.hidden && barThreshold < size

/-- Works on all files of a batch. -/
def work {α : Type} (crew : Crew) (threads : Nat) (operation : Path → α) (paths : List Path) : Batch α :=
  let drawn := crew.drawsBar paths.length
  let batch := (crew.order threads paths.length).foldl (Batch.finish operation paths drawn)
    (.start paths.length)
  { batch with
    bar := batch.bar ++ if drawn then [.finished "Scanning complete".toList] else [] }

end Crew

end ApexOutline
