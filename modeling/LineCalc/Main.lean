import LineCalc.Console

/-!
# The program

Reads standard input and writes one line for each line of it, as soon as the line has
ended.  What is written is computed by `Reading`; this module only moves bytes.
-/

namespace LineCalc

/-- Reads `input` up to the next line end or to its end, behind the bytes of `part`. -/
partial def readPart (input : IO.FS.Stream) (part : ByteArray) : IO ByteArray := do
  let next ← input.read 1
  let part := part ++ next
  -- A larger read would wait for bytes behind the line end.
  match next.toList with
  | [] | [10] | [13] => return part
  | _ => readPart input part

/-- Reads `input` to its end and writes to `output`, going on from `r`. -/
partial def consume (input output : IO.FS.Stream) (r : Reading) : IO Unit := do
  let part ← readPart input .empty
  if part.isEmpty then output.putStr (String.ofList r.finish)
  else
    let (text, next) := r.feed part.toList
    output.putStr (String.ofList text)
    consume input output next

end LineCalc

open LineCalc in
/-- The command.  A failure to read or write is noted on standard error and ends it with
status one; what has been written by then stays written. -/
def main : IO UInt32 := do
  let stdout ← IO.getStdout
  try
    consume (← IO.getStdin) stdout {}
    stdout.flush
    return 0
  catch e =>
    let note := Note.ioFailure (toString e)
    (← IO.getStderr).putStrLn s!"{note.level} {note.source}: {note.message}"
    return 1
