import ScriptHost.FileTree
import ScriptHost.Shell.Ending
import ScriptHost.Text.Octets

/-!
# What programs share

Programs act on one tree of files, hold streams open that others inherit, and send signals
to each other. A stream is a number that a program knows for a channel; two streams of the
same channel share the place where reading and writing goes on. Programs take turns: one
that is started runs to its end before its starter goes on.

## Main definitions

* `Channel` — what a stream leads to.
* `Kernel` — the state that all programs share.
* `Running` — the state of one program.
* `Running.write`, `Running.read`, `Running.openChannel` — the use of streams.
-/

namespace ScriptHost.Shell

/-- What a channel may be used for. -/
structure Access where
  reads : Bool
  writes : Bool
  /-- Everything is written behind what is there. -/
  appends : Bool
  deriving DecidableEq, Repr

namespace Access

/-- For reading only. -/
def reading : Access := ⟨true, false, false⟩

/-- For writing only. -/
def writing : Access := ⟨false, true, false⟩

/-- For writing behind what is there. -/
def appending : Access := ⟨false, true, true⟩

/-- For reading and writing. -/
def both : Access := ⟨true, true, false⟩

end Access

/-- Where a channel leads. -/
inductive Target where
  | device (d : Device)
  /-- A file, and how far reading and writing have come. -/
  | file (l : Location) (offset : Nat)
  /-- What is written waits to be read. -/
  | buffer (n : Nat)
  deriving DecidableEq, Repr

/-- What a stream leads to. -/
structure Channel where
  target : Target
  access : Access
  deriving DecidableEq, Repr

/-- The state that all programs share. -/
structure Kernel where
  files : FileTree
  channels : Array Channel
  buffers : Array Bytes
  /-- The numbers of the programs that are running. -/
  processes : List Nat
  /-- The number of the program that was started last. -/
  lastProcess : Nat
  /-- The signals that were sent, each after the program it was sent to. -/
  sent : List (Nat × Nat)

/-- The state of a running program. -/
structure Running where
  kernel : Kernel
  cwd : Location
  process : Nat
  /-- The program that started it. -/
  parent : Nat
  /-- The channels of its streams. -/
  streams : List (Nat × Nat)
  /-- The name the program was told it has. -/
  name : Octets
  arguments : List Octets
  /-- Variables with their values, each as one text with an equals sign between them. -/
  environment : List Octets
  /-- The signals that do nothing. -/
  ignored : List Nat
  /-- The permissions that new files do not get. -/
  mask : Nat

namespace Kernel

/-- The state before any program is started. -/
def ofFiles (files : FileTree) : Kernel :=
  ⟨files, #[], #[], [], 0, []⟩

/-- A new channel. -/
def addChannel (k : Kernel) (c : Channel) : Nat × Kernel :=
  (k.channels.size, { k with channels := k.channels.push c })

/-- A new buffer that holds something, with the channels to read from it and to write to it. -/
def addBuffer (k : Kernel) (content : Bytes) : Nat × Nat × Kernel :=
  let n := k.buffers.size
  let k := { k with buffers := k.buffers.push content }
  let (reader, k) := k.addChannel ⟨.buffer n, .reading⟩
  let (writer, k) := k.addChannel ⟨.buffer n, .writing⟩
  (reader, writer, k)

/-- What waits to be read from a channel. -/
def waiting (k : Kernel) (channel : Nat) : Except OsError Bytes :=
  match k.channels[channel]? with
  | none => .error .badStream
  | some c =>
    if !c.access.reads then .error .badStream
    else
      match c.target with
      | .device _ => .ok []
      | .buffer n => .ok ((k.buffers[n]?).getD [])
      | .file l offset =>
        match k.files.find? l with
        | some (.file content _) => .ok (content.drop offset)
        | some .directory => .error .isDirectory
        | _ => .ok []

/-- The state after bytes were read from a channel. -/
def consume (k : Kernel) (channel count : Nat) : Kernel :=
  match k.channels[channel]? with
  | none => k
  | some c =>
    match c.target with
    | .device _ => k
    | .buffer n =>
      { k with buffers := k.buffers.setIfInBounds n (((k.buffers[n]?).getD []).drop count) }
    | .file l offset =>
      { k with
        channels := k.channels.setIfInBounds channel { c with target := .file l (offset + count) } }

/-- Bytes in place of those from a place on. A gap in front of the place is filled. -/
def overwritten (old : Bytes) (offset : Nat) (b : Bytes) : Bytes :=
  old.take offset ++ List.replicate (offset - old.length) 0 ++ b ++ old.drop (offset + b.length)

/-- The state after bytes were written to a channel. -/
def write (k : Kernel) (channel : Nat) (b : Bytes) : Except OsError Kernel :=
  match k.channels[channel]? with
  | none => .error .badStream
  | some c =>
    if !c.access.writes then .error .badStream
    else
      match c.target with
      | .device .full => if b.isEmpty then .ok k else .error .noSpace
      | .device _ => .ok k
      | .buffer n =>
        .ok { k with buffers := k.buffers.setIfInBounds n (((k.buffers[n]?).getD []) ++ b) }
      | .file l offset =>
        match k.files.find? l with
        | some (.file old executable) =>
          let start := if c.access.appends then old.length else offset
          .ok { k with
            files := k.files.insert l (.file (overwritten old start b) executable)
            channels :=
              k.channels.setIfInBounds channel { c with target := .file l (start + b.length) } }
        | _ => .ok k

end Kernel

namespace Running

/-- The channel of a stream. -/
def channel? (r : Running) (stream : Nat) : Option Nat :=
  r.streams.lookup stream

/-- The program with a stream led to a channel, or closed. -/
def setStream (r : Running) (stream : Nat) (channel : Option Nat) : Running :=
  let others := r.streams.filter (·.1 ≠ stream)
  { r with streams := channel.toList.map (fun c => (stream, c)) ++ others }

/-- What can be read from a stream. -/
def waiting (r : Running) (stream : Nat) : Except OsError Bytes :=
  match r.channel? stream with
  | some c => r.kernel.waiting c
  | none => .error .badStream

/-- The program after it read bytes from a stream. -/
def consume (r : Running) (stream count : Nat) : Running :=
  match r.channel? stream with
  | some c => { r with kernel := r.kernel.consume c count }
  | none => r

/-- All that can be read from a stream. -/
def readAll (r : Running) (stream : Nat) : Except OsError (Bytes × Running) := do
  let content ← r.waiting stream
  .ok (content, r.consume stream content.length)

/-- The program after it wrote to a stream. -/
def write (r : Running) (stream : Nat) (text : Octets) : Except OsError Running :=
  match r.channel? stream with
  | some c => (r.kernel.write c (Octets.toBytes text)).map fun k => { r with kernel := k }
  | none => .error .badStream

/-- The program after it said something on a stream, if it could. -/
def say (r : Running) (stream : Nat) (text : Octets) : Running :=
  match r.write stream text with
  | .ok r => r
  | .error _ => r

/-- What a path names. -/
def lookUp (r : Running) (path : Octets) : Except OsError (Location × Entry) := do
  let l ← r.kernel.files.resolve r.cwd (Octets.toText path)
  match r.kernel.files.find? l with
  | some e => .ok (l, e)
  | none => .error .noEntry

/-- What a path names, if anything. -/
def entry? (r : Running) (path : Octets) : Option Entry :=
  match r.lookUp path with
  | .ok (_, e) => some e
  | .error _ => none

/-- A channel to a device. The name of an open stream is another name for its channel. -/
def openDevice (r : Running) (d : Device) (access : Access) : Except OsError (Nat × Running) :=
  match d with
  | .terminal => .error .noDevice
  | .stream n =>
    match r.channel? n with
    | some c => .ok (c, r)
    | none => .error .noEntry
  | d =>
    let (c, k) := r.kernel.addChannel ⟨.device d, access⟩
    .ok (c, { r with kernel := k })

/-- A channel to a file for reading. -/
def openToRead (r : Running) (path : Octets) : Except OsError (Nat × Running) := do
  match ← r.lookUp path with
  | (_, .device d) => r.openDevice d .reading
  | (l, _) =>
    let (c, k) := r.kernel.addChannel ⟨.file l 0, .reading⟩
    .ok (c, { r with kernel := k })

/-- A channel to a file for writing, which is created if it is not there, and emptied if told
so. -/
def openToWrite (r : Running) (path : Octets) (access : Access) (empties : Bool) :
    Except OsError (Nat × Running) := do
  let path := Octets.toText path
  let files ← r.kernel.files.writeFile r.cwd path (!empties) []
  let l ← files.resolve r.cwd path
  let r := { r with kernel := { r.kernel with files := files } }
  match files.find? l with
  | some (.device d) => r.openDevice d access
  | _ =>
    let (c, k) := r.kernel.addChannel ⟨.file l 0, access⟩
    .ok (c, { r with kernel := k })

/-- The names in a directory. -/
def names (r : Running) (path : Octets) : List Octets :=
  let path := if path.isEmpty then "." else path
  match r.kernel.files.readDirectory r.cwd (Octets.toText path) with
  | .ok names => names.map Octets.ofText
  | .error _ => []

/-- A path names a directory. -/
def isDirectory (r : Running) (path : Octets) : Bool :=
  r.entry? path = some .directory

/-- The path of a location from the root. -/
def pathOf (l : Location) : Octets :=
  Octets.ofText ("/" ++ "/".intercalate l)

end Running

end ScriptHost.Shell
