import Colloquy.Span

/-!
How a failure is reported: a code to tell kinds apart, a message, and the place in the source if
there is one.  Each part of the library has its own type of causes and turns them into reports.
-/

namespace Colloquy

structure Report where
  code : String
  message : String
  span : Option Span := none
deriving DecidableEq, Repr

def Report.text (report : Report) : String := report.code ++ ": " ++ report.message

end Colloquy
