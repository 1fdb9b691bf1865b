/-!
Why a disk refuses to read or write.
-/

namespace Colloquy

inductive DiskFault where
  | notFound
  | occupied
  | notDirectory
  | isDirectory
  | nameTooLong
  | nulInPath
  | notUtf8
deriving DecidableEq, Repr

def DiskFault.message : DiskFault → String
  | .notFound => "No such file or directory (os error 2)"
  | .occupied => "File exists (os error 17)"
  | .notDirectory => "Not a directory (os error 20)"
  | .isDirectory => "Is a directory (os error 21)"
  | .nameTooLong => "File name too long (os error 36)"
  | .nulInPath => "file name contained an unexpected NUL byte"
  | .notUtf8 => "stream did not contain valid UTF-8"

end Colloquy
