import ScriptHost.Module.Library

/-!
# The line machine

A small module to try a host out with. Every line of a source is an instruction: some log
what the machine was told by its host, one sets the status of the call, and any other line is
logged as it stands.

## Main definitions

* `Instruction.ofLine` — the instruction a line stands for.
* `Image` — a build of the machine: its version and its symbols, also as a file.
* `Image.entryPoints` — what a build does.
-/

namespace ScriptHost.LineMachine

open Number (Single)

/-! ### Instructions -/

/-- An instruction. -/
inductive Instruction where
  /-- Log the tag of the source. -/
  | tag
  /-- Log the version of the machine. -/
  | version
  /-- Log the bits of the bound on the runtime. -/
  | runtime
  /-- Log the configuration. -/
  | config
  /-- Log a null pointer with a length. -/
  | null
  /-- Log bytes that are not UTF-8. -/
  | badUtf8
  /-- Set the status of the call. -/
  | status (n : Int32)
  /-- Log the line. -/
  | log (line : Bytes)
  deriving DecidableEq, Repr

/-- The bytes of a text. -/
def ascii (s : String) : Bytes := Utf8.encode s

/-- A byte that precedes a numeral without being part of it. -/
def isPadding (b : UInt8) : Bool :=
  b = 0x20 || (0x09 ≤ b && b ≤ 0x0D)

/-- A decimal digit. -/
def isDigit (b : UInt8) : Bool :=
  0x30 ≤ b && b ≤ 0x39

/-- The value of the digits that bytes begin with. -/
def magnitude (bs : Bytes) : Nat :=
  (bs.takeWhile isDigit).foldl (fun n b => 10 * n + (b.toNat - 0x30)) 0

/-- The numeral that bytes begin with, zero if there is none. It is held within 64 bits, and
its low 32 bits are the status. -/
def numeral (bs : Bytes) : Int32 :=
  let n : Int :=
    match bs.dropWhile isPadding with
    | 0x2D :: digits => -(magnitude digits : Int)
    | 0x2B :: digits => magnitude digits
    | digits => magnitude digits
  Int32.ofInt (max Int64.minValue.toInt (min Int64.maxValue.toInt n))

/-- Begins a line that sets the status. -/
def statusLead : Bytes := ascii "status "

/-- The most bytes of a line that sets the status. -/
def maxStatusLine : Nat := 29

/-- The instruction a line stands for. -/
def Instruction.ofLine (line : Bytes) : Instruction :=
  if line = ascii "tag" then .tag
  else if line = ascii "version" then .version
  else if line = ascii "runtime" then .runtime
  else if line = ascii "config" then .config
  else if line = ascii "null" then .null
  else if line = ascii "badutf8" then .badUtf8
  else if statusLead.isPrefixOf line && statusLead.length < line.length
      && line.length ≤ maxStatusLine then
    .status (numeral (line.drop statusLead.length))
  else .log line

/-- The pieces between line ends. -/
def splitLines : Bytes → List Bytes
  | [] => [[]]
  | b :: bs =>
    if b = 0x0A then [] :: splitLines bs
    else
      match splitLines bs with
      | [] => [[b]]
      | piece :: pieces => (b :: piece) :: pieces

/-- The lines of a source. A line end at its end begins no further line. -/
def lines (source : Bytes) : List Bytes :=
  let pieces := splitLines source
  if pieces.getLast? = some [] then pieces.dropLast else pieces

/-! ### Instances -/

/-- What an instance was told. -/
structure Cell where
  maxRuntime : Single
  config : Option Bytes
  deriving DecidableEq, Repr

/-- All instances of a machine. -/
structure State where
  /-- The name of the next instance. -/
  next : Instance
  cells : List (Instance × Cell)
  deriving DecidableEq, Repr

/-- No instances. -/
def State.empty : State := ⟨1, []⟩

/-- The state with an instance told something. -/
def State.put (s : State) (i : Instance) (c : Cell) : State :=
  { s with cells := (i, c) :: s.cells.filter (·.1 ≠ i) }

/-! ### Images -/

/-- A build of the machine. -/
structure Image where
  version : Nat
  /-- The build hands back no instance. -/
  barren : Bool
  exports : List String
  deriving DecidableEq, Repr

namespace Image

/-- The build with all entry points under a prefix except some. -/
def without (version : Nat) (barren : Bool) (symbolPrefix : String)
    (missing : List String) : Image :=
  ⟨version, barren,
    (entryPointNames.filter fun name => !missing.contains name).map (symbolName symbolPrefix)⟩

/-- Begins the file of an image. -/
def magic : String := "line machine image"

/-- The image as a file: a line for each of its parts. -/
def encode (i : Image) : Bytes :=
  Utf8.encode ("\n".intercalate
    (magic :: toString i.version :: (if i.barren then "barren" else "fertile") :: i.exports))

/-- The image in a file, if it holds one. -/
def decode? (content : Bytes) : Option Image :=
  match (splitLines content).map Utf8.decodeLossy with
  | lead :: version :: barren :: exports =>
    if lead = magic then some ⟨version.toNat?.getD 0, barren = "barren", exports⟩ else none
  | _ => none

/-- The record an instruction logs. -/
def record? (i : Image) (c : Cell) (tag : UInt8) : Instruction → Option Record
  | .tag => some (.ofBytes (ascii (toString tag.toNat)))
  | .version => some (.ofBytes (ascii ("v" ++ toString i.version)))
  | .runtime =>
    let digits := String.ofList (Nat.toDigits 16 c.maxRuntime.pattern)
    some (.ofBytes (ascii ("".pushn '0' (8 - digits.length) ++ digits)))
  | .config => some (.ofBytes (c.config.getD (ascii "none")))
  | .null => some ⟨none, 9, true⟩
  | .badUtf8 => some (.ofBytes [0x61, 0xFF, 0xE2, 0x82, 0x7A])
  | .status _ => none
  | .log line => some (.ofBytes line)

/-- The status after an instruction. -/
def statusAfter (before : Int32) : Instruction → Int32
  | .status n => n
  | _ => before

/-- What the machine does with the instructions of a source. -/
def execute (i : Image) (c : Cell) (tag : UInt8) (source : Bytes) : List Record × Int32 :=
  let instructions := (lines source).map Instruction.ofLine
  (instructions.filterMap (i.record? c tag), instructions.foldl statusAfter 0)

/-- What a configuration that is refused is answered with. -/
def refusal : Int32 := -7

/-- The entry points of a build. A configuration that begins with `bad` is refused. -/
def entryPoints (i : Image) : EntryPoints State where
  create maxRuntime s :=
    if i.barren then (([], none), s)
    else (([], some s.next), { s.put s.next ⟨maxRuntime, none⟩ with next := s.next + 1 })
  destroy n s := ([], { s with cells := s.cells.filter (·.1 ≠ n) })
  loadConfig n content length s :=
    let config := content.take length.toNat
    if (ascii "bad").isPrefixOf config then (([], refusal), s)
    else
      match s.cells.lookup n with
      | none => (([], 0), s)
      | some c => (([], 0), s.put n { c with config := some config })
  call n arguments s :=
    match s.cells.lookup n with
    | none => (([], 0), s)
    | some c => (i.execute c arguments.tag (arguments.code.take arguments.length.toNat), s)
  status _ s := (([], 0), s)

/-- What the file of an image exports. -/
def library (i : Image) : Library State :=
  ⟨fun symbol => if i.exports.contains symbol then some i.entryPoints else none⟩

end Image

/-- The library in a file, if the file holds an image. -/
def readLibrary (content : Bytes) : Option (Library State) :=
  (Image.decode? content).map Image.library

end ScriptHost.LineMachine
