import DumpConvert.Command.Disk

/-!
# Sessions

A session is a host that is a value: a disk, the streams for the script and for the
report, and a clock that stands still.  A run in a session gives the session after it, so
that what a run changes and what it leaves alone can be stated.

A file is written as a whole or not at all.  A stream that fails has let a beginning of the
text out by then, of whatever length.
-/

namespace DumpConvert.Command

/-- A stream fails once this many whole characters of a text are out, at its end at the latest. -/
structure Refusal where
  fault : SystemFault
  kept : Nat
deriving Repr, DecidableEq

structure Stream where
  content : Text
  refusal : Option Refusal
deriving Repr, DecidableEq

namespace Stream

def empty : Stream :=
  ⟨[], none⟩

/-- Write to a stream; what is out before the stream fails cannot be taken back. -/
def write (stream : Stream) (t : Text) : Except SystemFault Unit × Stream :=
  match stream.refusal with
  | none => (.ok (), { stream with content := stream.content ++ t })
  | some refusal =>
      (.error refusal.fault, { stream with content := stream.content ++ t.take refusal.kept })

end Stream

structure Session where
  disk : Disk
  output : Stream
  report : Stream
  clock : Moment

namespace Session

def ofDisk (disk : Disk) (clock : Moment) : Session :=
  ⟨disk, .empty, .empty, clock⟩

def writeFile (path t : Text) (session : Session) : Except SystemFault Unit × Session :=
  match session.disk.write path t with
  | .ok disk => (.ok (), { session with disk := disk })
  | .error fault => (.error fault, session)

def writeOutput (t : Text) (session : Session) : Except SystemFault Unit × Session :=
  ((session.output.write t).1, { session with output := (session.output.write t).2 })

def writeReport (t : Text) (session : Session) : Except SystemFault Unit × Session :=
  ((session.report.write t).1, { session with report := (session.report.write t).2 })

/-- The session as a host; no time passes and events are not kept. -/
def host : Host (StateM Session) :=
  { readFile := fun path => do
      let session ← get
      pure (session.disk.read path)
    writeFile := fun path t => modifyGet (writeFile path t)
    writeOutput := fun t => modifyGet (writeOutput t)
    writeReport := fun t => modifyGet (writeReport t)
    log := fun _ _ => pure ()
    now := do
      let session ← get
      pure session.clock
    elapsed := pure 0 }

def afterRun (session : Session) (arguments : Arguments) : Except Failure Unit × Session :=
  (run host arguments).run.run session

end Session

end DumpConvert.Command
