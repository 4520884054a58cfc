import CiHarness.Host.FileTree
import CiHarness.Run.Launcher

/-!
# Worlds

What processes share: the files, the open streams, the time and the numbers of processes. Processes
run one after another, each to its end; what a process writes into a pipe is kept until another one
reads it. A process in the background runs ahead of the time of the others: what it writes to them
is held back until their time has come, and is taken back if the process is stopped before.
-/
namespace CiHarness

/-- What can be read: some bytes from a position on, and after them others again and again. -/
structure Supply where
  bytes : ByteArray
  position : Nat
  repeated : ByteArray
  /-- Whether the bytes are those of a file. -/
  isFile : Bool

namespace Supply

def ofBytes (bytes : ByteArray) : Supply := ⟨bytes, 0, .empty, false⟩

def ofText (s : String) : Supply := ofBytes (Octets.toBytes s)

/-- Zeros without end. -/
def zeros : Supply := ⟨.empty, 0, ⟨#[0]⟩, false⟩

def isEndless (s : Supply) : Bool := s.repeated.size != 0

/-- How much of an endless supply is read by a reader that wants all of it. -/
def endlessLimit : Nat := 1048576

/-- The byte at a position. -/
def byteAt? (s : Supply) (i : Nat) : Option UInt8 :=
  if i < s.bytes.size then some (s.bytes.get! i)
  else if s.repeated.size = 0 then none
  else some (s.repeated.get! ((i - s.bytes.size) % s.repeated.size))

/-- The bytes from one position to another. -/
def between (s : Supply) (start stop : Nat) : ByteArray :=
  let here := s.bytes.extract start stop
  if s.isEndless ∧ s.bytes.size < stop then
    go (stop - max start s.bytes.size) (max start s.bytes.size) here
  else here
where
  go : Nat → Nat → ByteArray → ByteArray
    | 0, _, bytes => bytes
    | n + 1, i, bytes => go n (i + 1) (bytes.push ((s.byteAt? i).getD 0))

/-- The number of bytes that are left, as far as a reader wants them. -/
def remaining (s : Supply) : Nat :=
  if s.isEndless then endlessLimit else s.bytes.size - s.position

/-- At most some number of bytes, and what is left. -/
def take (s : Supply) (n : Nat) : ByteArray × Supply :=
  let n := if s.isEndless then n else min n s.remaining
  (s.between s.position (s.position + n), { s with position := s.position + n })

/-- All bytes. -/
def all (s : Supply) : ByteArray := s.between s.position (s.position + s.remaining)

/-- All bytes as a text. -/
def text (s : Supply) : String := Octets.ofBytes s.all

/-- Where the line ends that begins at a position: after its line break, or at the end. -/
def lineEnd (s : Supply) (mark : UInt8) : Nat → Nat → Nat
  | 0, i => i
  | n + 1, i =>
    match s.byteAt? i with
    | none => i
    | some b => if b == mark then i + 1 else lineEnd s mark n (i + 1)

/-- One line with its line break, and what is left; empty at the end. -/
def takeLine (s : Supply) (mark : UInt8) : ByteArray × Supply :=
  s.take (s.lineEnd mark (s.remaining + 1) s.position - s.position)

/-- Some lines, and what is left. -/
def takeLines (s : Supply) : Nat → ByteArray → ByteArray × Supply
  | 0, bytes => (bytes, s)
  | n + 1, bytes =>
    let (line, rest) := s.takeLine 10
    if line.isEmpty then (bytes, rest) else rest.takeLines n (bytes ++ line)

end Supply

/-- An open stream. -/
inductive Stream where
  /-- What is written is kept; what stands in `repeated` is then written again and again. -/
  | sink (written repeated : ByteArray)
  | source (s : Supply)
  /-- A file is read or written at a position, or written at its end. -/
  | file (here : Place) (position : Nat) (reads writes appends : Bool)
  | void
  | zeros
  | full
  | directory

/-- Something that a process in the background has written, and when. -/
structure Pending where
  time : Nat
  job : Nat
  layer : Nat
  stream : Nat
  bytes : ByteArray

/-- A process in the background that is being run: its number, and the first stream of its own. -/
structure Deferral where
  job : Nat
  base : Nat

/-- What processes share. Times are in microseconds. -/
structure World where
  files : FileTree
  streams : Array Stream
  clock : Nat
  /-- The last process number that was given. -/
  lastNumber : Nat
  /-- How many deferrals stand around what is running now, and the innermost one. -/
  layer : Nat
  deferral : Option Deferral
  pending : List Pending
  /-- Signals that have not been taken yet, each with the number of its process. -/
  signals : List (Nat × Nat)

namespace World

/-- A world with nothing but files and the void. -/
def ofFiles (files : FileTree) : World := ⟨files, #[.void], 1000000, 100, 0, none, [], []⟩

/-- The stream that holds nothing. -/
def voidStream : Nat := 0

/-- A stream is opened. -/
def openStream (w : World) (s : Stream) : Nat × World :=
  (w.streams.size, { w with streams := w.streams.push s })

/-- A stream that keeps what is written. -/
def openSink (w : World) : Nat × World := w.openStream (.sink .empty .empty)

/-- A process number that was not given before. -/
def newNumber (w : World) : Nat × World :=
  (w.lastNumber + 1, { w with lastNumber := w.lastNumber + 1 })

/-- A file's bytes are replaced. -/
def setFile (w : World) (here : Place) (bytes : ByteArray) : World :=
  let entry := match w.files.entry? here with
    | some entry => { entry with content := .file bytes, time := w.clock }
    | none => ⟨.file bytes, 0o644, w.clock⟩
  { w with files := w.files.set here entry }

/-- The bytes of a file; those of the programs of the system are not looked at. -/
def fileBytes (w : World) (here : Place) : ByteArray :=
  match (w.files.entry? here).map Entry.content with
  | some (.file bytes) => bytes
  | _ => .empty

/-- Bytes are put into others at a position; a gap is filled with zeros. -/
def overlay (bytes : ByteArray) (position : Nat) (added : ByteArray) : ByteArray :=
  let front := bytes.extract 0 position
  let gap : ByteArray := ⟨Array.replicate (position - bytes.size) 0⟩
  front ++ gap ++ added ++ bytes.extract (position + added.size) bytes.size

/-- Bytes are written now, whatever is deferred; and whether that can be done. -/
def writeNow (w : World) (stream : Nat) (bytes : ByteArray) : World × Bool :=
  match w.streams[stream]? with
  | some (.sink written repeated) =>
    let streams := w.streams.set! stream .void
    ({ w with streams := streams.set! stream (.sink (written ++ bytes) repeated) }, true)
  | some (.file here position reads true appends) =>
    let old := w.fileBytes here
    let position := if appends then old.size else position
    let w := if (w.files.entry? here).isSome then w.setFile here (overlay old position bytes) else w
    ({ w with
      streams :=
        w.streams.set! stream (.file here (position + bytes.size) reads true appends) }, true)
  | some .void => (w, true)
  | some .zeros => (w, true)
  | some .full => (w, bytes.isEmpty)
  | _ => (w, false)

/-- Whether a stream keeps what is written to it. -/
def isSink (w : World) (stream : Nat) : Bool :=
  match w.streams[stream]? with
  | some (.sink ..) => true
  | _ => false

/-- Bytes are written, or held back if they come from the background. -/
def write (w : World) (stream : Nat) (bytes : ByteArray) : World × Bool :=
  match w.deferral with
  | some d =>
    if stream < d.base && w.isSink stream then
      ({ w with pending := ⟨w.clock, d.job, w.layer, stream, bytes⟩ :: w.pending }, true)
    else w.writeNow stream bytes
  | none => w.writeNow stream bytes

/-- Bytes are written again and again, as far as anybody reads them. -/
def repeatForever (w : World) (stream : Nat) (unit : ByteArray) : World :=
  match w.streams[stream]? with
  | some (.sink written repeated) =>
    if repeated.isEmpty then { w with streams := w.streams.set! stream (.sink written unit) } else w
  | _ => w

/-- What was held back for some streams of the present layer is written if its time has come. -/
def deliver (w : World) (isDue : Pending → Bool) : World :=
  let isMine (p : Pending) : Bool := p.layer == w.layer + 1 && isDue p
  let due := (w.pending.reverse.filter isMine).mergeSort (fun a b => decide (a.time ≤ b.time))
  let now := w.clock
  let w := due.foldl (fun w p => ({ w with clock := p.time }.write p.stream p.bytes).1)
    { w with pending := w.pending.filter (!isMine ·) }
  { w with clock := now }

/-- Time passes. -/
def pass (w : World) (duration : Nat) : World :=
  let now := w.clock + duration
  { w with clock := now }.deliver (·.time ≤ now)

/-- Everything that was held back for a stream is waited for. -/
def settle (w : World) (stream : Nat) : World :=
  let isFor (p : Pending) : Bool := p.layer == w.layer + 1 && p.stream == stream
  let last := (w.pending.filter isFor).foldl (fun t p => max t p.time) w.clock
  { w with clock := last }.deliver fun p => p.stream == stream || p.time ≤ last

/-- All that was held back is waited for. -/
def settleAll (w : World) : World :=
  let last := w.pending.foldl (fun t p => max t p.time) w.clock
  { w with clock := last }.deliver fun _ => true

/-- What was written to a stream, with what is repeated after it. -/
def collected (w : World) (stream : Nat) : Supply :=
  match w.streams[stream]? with
  | some (.sink written repeated) => ⟨written, 0, repeated, false⟩
  | _ => .ofBytes .empty

/-- What can be read from a stream. -/
def supply? (w : World) (stream : Nat) : Option Supply :=
  match w.streams[stream]? with
  | some (.source s) => some s
  | some (.file here position true _ _) => some ⟨w.fileBytes here, position, .empty, true⟩
  | some .void => some (.ofBytes .empty)
  | some .zeros => some .zeros
  | some .full => some .zeros
  | _ => none

/-- A stream is read up to what is left of its supply. -/
def setSupply (w : World) (stream : Nat) (rest : Supply) : World :=
  match w.streams[stream]? with
  | some (.source _) => { w with streams := w.streams.set! stream (.source rest) }
  | some (.file here _ reads writes appends) =>
    { w with streams := w.streams.set! stream (.file here rest.position reads writes appends) }
  | _ => w

/-- A stream is read to its end. -/
def drain (w : World) (stream : Nat) : World :=
  match w.supply? stream with
  | some s => w.setSupply stream { s with position := s.position + s.remaining }
  | none => w

/-- Something runs ahead of the time of the others: what it does, when it ends, its number, and the
world at the time when it began, in which what it has written is held back. -/
def runAhead {α : Type} (w : World) (body : World → α × World) : α × Nat × Nat × World :=
  let (job, w) := w.newNumber
  let (a, inner) := body { w with layer := w.layer + 1, deferral := some ⟨job, w.streams.size⟩ }
  let finish := inner.clock
  (a, finish, job,
    { inner.settleAll with clock := w.clock, layer := w.layer, deferral := w.deferral })

/-- What a process that is stopped at some time would have written later is taken back. -/
def stopJob (w : World) (job time : Nat) : World :=
  { w with pending := w.pending.filter fun p => !(p.job == job && time < p.time) }

end World

/-- Descriptors, each with the number of the stream that it leads to. -/
abbrev Descriptors := List (Nat × Nat)

namespace Descriptors

/-- A descriptor leads to a stream from now on. -/
def connect (ds : Descriptors) (descriptor stream : Nat) : Descriptors :=
  (descriptor, stream) :: ds.filter (·.1 != descriptor)

/-- A descriptor is closed. -/
def disconnect (ds : Descriptors) (descriptor : Nat) : Descriptors := ds.filter (·.1 != descriptor)

/-- A text is written to a descriptor; false if that cannot be done. -/
def write (ds : Descriptors) (w : World) (descriptor : Nat) (text : String) : World × Bool :=
  match ds.lookup descriptor with
  | some stream => w.write stream (Octets.toBytes text)
  | none => (w, text.isEmpty)

end Descriptors

/-- Where a process stands: its directory, its environment, its descriptors, the number of the
process that starts others here, and the permissions that new files lack. -/
structure Setting where
  cwd : Place
  environment : List (String × String)
  descriptors : Descriptors
  starter : Nat
  mask : Nat

namespace Setting

/-- The stream of a descriptor. -/
def stream? (s : Setting) (descriptor : Nat) : Option Nat := s.descriptors.lookup descriptor

/-- The value of a variable of the environment. -/
def value? (s : Setting) (name : String) : Option String := s.environment.lookup name

/-- A text is written to a descriptor. -/
def write (s : Setting) (descriptor : Nat) (text : String) (w : World) : World :=
  (s.descriptors.write w descriptor text).1

end Setting

/-- How a program is started, by its words and where it stands; and how it ended, with the world
after it. -/
abbrev Starter := Setting → List String → World → Except SystemError (Ending × World)

/-- What a program does that starts others: it ends, and leaves a world. -/
abbrev Action := World → Ending × World

end CiHarness
