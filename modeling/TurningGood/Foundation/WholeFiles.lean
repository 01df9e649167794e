import Mathlib.Logic.Basic

/-!
# Files that are written as a whole

Opening a file for writing empties it; what is written may be impossible to
encode, and the write may break off.  A file system is given by what it does
to each of these steps, and a file that is missing has no bytes.
-/

namespace TurningGood.Foundation

/-- What a file system does when a file is written as a whole. -/
inductive WriteFate where
  /-- The file is not opened. -/
  | refused
  /-- The file was emptied, and the write fails with `left` in the file. -/
  | broken (left : List UInt8)
  | done
  deriving DecidableEq, Repr

/-- What a file system does when a file is moved onto another one. -/
inductive ReplaceFate where
  | done
  /-- The target is kept busy, or may not be replaced. -/
  | blocked
  | refused
  deriving DecidableEq, Repr

namespace WriteFate

/--
Write bytes, unless there are none because the text cannot be encoded: what
the file holds afterwards, and whether the write succeeded.
-/
def write (fate : WriteFate) (bytes before : Option (List UInt8)) :
    Option (List UInt8) × Bool :=
  match fate, bytes with
  | refused, _ => (before, false)
  | broken _, none | done, none => (some [], false)
  | broken left, some _ => (some left, false)
  | done, some written => (some written, true)

theorem write_done (bytes : List UInt8) (before : Option (List UInt8)) :
    done.write (some bytes) before = (some bytes, true) := rfl

end WriteFate

end TurningGood.Foundation
