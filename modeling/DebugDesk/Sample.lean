/-
  What debuggers print, and a sample console.

  Three titles carry news: two confirmations and the frame marker of a stop.  A frame marker goes on
  behind its line number with the name of the function, its arguments, and whatever else describes
  the frame.

  The sample is one operator with one script, and the batches that the debugger of a worker prints
  about it.  They serve to try out a desk without an engine.
-/
import DebugDesk.Console
import DebugDesk.Text.Decimal

namespace DebugDesk.Event.Printed

/-- A number as debuggers print it. -/
def number (n : UInt32) : String := String.ofList (Text.Decimal.digits n.toNat)

/-- The title that confirms a breakpoint. -/
def created (id : UInt32) (path : String) (line : UInt32) : String :=
  "Breakpoint " ++ number id ++ " at " ++ path ++ ":" ++ number line

/-- The title that confirms that a breakpoint was removed. -/
def deleted (id : UInt32) (path : String) (line : UInt32) : String :=
  "Deleted breakpoint " ++ number id ++ " at " ++ path ++ ":" ++ number line

/-- The frame marker of a stop. -/
def paused (path : String) (line : UInt32) (frame : String) : String :=
  "> " ++ path ++ "(" ++ number line ++ ")" ++ frame

end DebugDesk.Event.Printed

namespace DebugDesk.Sample

/-- The operator of the sample. -/
def operator : String := "PythonUDFV2-operator-1"

/-- The script that its workers run. -/
def script : String := "/tmp/udf/operator.py"

/-- A batch with one title of a worker's debugger. -/
def batch (worker title : String) : Batch := ⟨operator, [Message.debugger worker title]⟩

/-- A breakpoint of the script is confirmed. -/
def created (worker : String) (id line : UInt32) : Batch :=
  batch worker (Event.Printed.created id script line)

/-- A breakpoint of the script is confirmed to be removed. -/
def deleted (worker : String) (id line : UInt32) : Batch :=
  batch worker (Event.Printed.deleted id script line)

/-- A worker stops in the script. -/
def paused (worker : String) (line : UInt32) : Batch :=
  batch worker (Event.Printed.paused script line "process()")

end DebugDesk.Sample
