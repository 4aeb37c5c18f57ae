import WordMachine.File.SystemName
import WordMachine.Text.Inexpressible

/-!
# Why a file cannot be read

The operating system refuses a file that is missing, is a directory, lies below
something that is none, or has too long a name.  A name that no file can have is
refused before the operating system is asked.
-/

namespace WordMachine

/-- Why a file cannot be read. -/
inductive FileFailure where
  /-- There is no such file. -/
  | missing (path : Path)
  /-- There is a directory at the place of the file. -/
  | isDirectory (path : Path)
  /-- A name on the way is that of a file. -/
  | notDirectory (path : Path)
  /-- A name on the way, or the whole path, is too long. -/
  | tooLong (path : Path)
  /-- The operating system gives another reason. -/
  | refused (number : Nat) (reason : String) (path : Path)
  /-- The path holds a null character. -/
  | nullCharacter
  /-- The path holds code points that cannot be given to the operating system, with their place. -/
  | inexpressible (index : Nat) (points : List CodePoint)
deriving DecidableEq, Repr

namespace FileFailure

/-- The words of the operating system about a path. -/
def systemMessage
    (number : Nat)
    (reason : String)
    (path : Path) : String :=
  s!"[Errno {number}] {reason}: " ++ Text.quoted path.display

/-- The words for a failure. -/
def message : FileFailure -> String
  | .missing path => systemMessage 2 "No such file or directory" path
  | .isDirectory path => systemMessage 21 "Is a directory" path
  | .notDirectory path => systemMessage 20 "Not a directory" path
  | .tooLong path => systemMessage 36 "File name too long" path
  | .refused number reason path => systemMessage number reason path
  | .nullCharacter => "embedded null byte"
  | .inexpressible index points => Text.inexpressibleSurrogates index points

/-- Whether it is the operating system that refuses. -/
def isSystem : FileFailure -> Bool
  | .nullCharacter | .inexpressible .. => false
  | _ => true

/-- Why a path cannot be given to the operating system, if it cannot. -/
def ofPath? (path : Path) : Option FileFailure :=
  match SystemName.inexpressible? 0 path.display.points with
  | some (index, points) => some (.inexpressible index points)
  | none => if path.hasNull then some .nullCharacter else none

end FileFailure
end WordMachine
