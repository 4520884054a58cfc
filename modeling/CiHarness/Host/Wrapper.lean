import CiHarness.Host.Tool.Awk.Running
import CiHarness.Host.Tool.Catalogue

/-!
# Programs that start others

Some programs start another one: in another environment, for a limited time, once for each line of
the input, or for each file that is found. How a program is started is handed to them.
-/
namespace CiHarness

namespace Wrapper

/-- The program ends with a status after a complaint. -/
def complain (s : Setting) (status : UInt8) (words : String) : Action := fun w =>
  (.exited status, s.write 2 (words ++ "\n") w)

/-- The status with which a program ends that cannot start another one. -/
def startStatus (e : SystemError) : UInt8 :=
  match e with
  | .noSuchEntry => 127
  | _ => 126

/-- Another program is started; if it cannot be, that is complained about. -/
def start (run : Starter) (name : String) (s : Setting) (words : List String) : Action := fun w =>
  match run s words w with
  | .ok result => result
  | .error e =>
    complain s (startStatus e) (name ++ ": '" ++ words.headD "" ++ "': " ++ e.words) w

/-- The status of an ending, as another program sees it. -/
def statusOf : Ending → UInt8
  | .exited code => code
  | .killed signal => UInt8.ofNat (128 + signal)

/-! ## Another environment -/

/-- Options and settings in front of a program's words. -/
structure Change where
  setting : Setting
  words : List String

/-- A text cut into words at blanks; quotes keep words together. -/
def cutWords (text : String) : List String :=
  go (text.length + 1) none none text.toList
where
  close (current : Option String) : List String := current.toList
  go : Nat → Option Char → Option String → List Char → List String
    | 0, _, current, _ => close current
    | _ + 1, _, current, [] => close current
    | n + 1, quote, current, c :: cs =>
      let add (d : Char) : Option String := some ((current.getD "").push d)
      match quote with
      | some q =>
        if c = q then go n none (some (current.getD "")) cs
        else if c = '\\' ∧ q = '"' then
          match cs with
          | d :: cs => go n quote (add d) cs
          | [] => close current
        else go n quote (add c) cs
      | none =>
        if c = ' ' ∨ c = '\t' ∨ c = '\n' then close current ++ go n none none cs
        else if c = '\x27' ∨ c = '"' then go n (some c) (some (current.getD "")) cs
        else if c = '\\' then
          match cs with
          | d :: cs => go n none (add d) cs
          | [] => close current
        else go n none (add c) cs

/-- A variable is set in an environment. -/
def setVariable (environment : List (String × String))
    (name value : String) : List (String × String) :=
  if (environment.lookup name).isSome then
    environment.map fun (n, v) => if n = name then (n, value) else (n, v)
  else environment ++ [(name, value)]

/-- The arguments of the program that changes the environment; the first argument bounds their
number. -/
def readChange (files : FileTree) : Nat → Setting → List String → Except String Change
  | 0, s, words => .ok ⟨s, words⟩
  | n + 1, s, words =>
    let unset (name : String) : Setting :=
      { s with environment := s.environment.filter (·.1 != name) }
    let enter (path : String) (rest : List String) : Except String Change :=
      match files.findEntry s.cwd ⟨Octets.toText path⟩ with
      | .ok (here, entry) =>
        if entry.isDirectory then readChange files n { s with cwd := here } rest
        else .error ("cannot change directory to '" ++ path ++ "': Not a directory")
      | .error e => .error ("cannot change directory to '" ++ path ++ "': " ++ e.words)
    match words with
    | "-i" :: rest => readChange files n { s with environment := [] } rest
    | "-" :: rest => readChange files n { s with environment := [] } rest
    | "--ignore-environment" :: rest => readChange files n { s with environment := [] } rest
    | "-u" :: name :: rest => readChange files n (unset name) rest
    | "-C" :: path :: rest => enter path rest
    | "-S" :: text :: rest => readChange files n s (cutWords text ++ rest)
    | "-0" :: rest => readChange files n s rest
    | "--" :: rest => settings s rest
    | arg :: rest =>
      if arg.startsWith "--unset=" then readChange files n (unset (arg.drop 8).toString) rest
      else if arg.startsWith "--chdir=" then enter (arg.drop 8).toString rest
      else if arg.startsWith "-u" then readChange files n (unset (arg.drop 2).toString) rest
      else if arg.startsWith "-S" then readChange files n s (cutWords (arg.drop 2).toString ++ rest)
      else if arg.startsWith "--split-string=" then
        readChange files n s (cutWords (arg.drop 15).toString ++ rest)
      else if arg.startsWith "-" && arg != "-" then
        .error ("invalid option -- '" ++ ((arg.drop 1).take 1).toString ++ "'")
      else settings s (arg :: rest)
    | [] => .ok ⟨s, []⟩
where
  settings (s : Setting) : List String → Except String Change
    | [] => .ok ⟨s, []⟩
    | word :: rest =>
      match Text.splitOnce '=' word with
      | some (name, value) =>
        if name = "" then .ok ⟨s, word :: rest⟩
        else settings { s with environment := setVariable s.environment name value } rest
      | none => .ok ⟨s, word :: rest⟩

def runEnv (run : Starter) (s : Setting) (name : String) (args : List String) : Action := fun w =>
  match readChange w.files (args.length + 100) s args with
  | .error words =>
    complain s 125 (name ++ ": " ++ words ++ "\nTry '" ++ name ++ " --help' for more information.")
      w
  | .ok c =>
    if c.words.isEmpty then (.exited 0, s.write 1 (Tool.environmentText c.setting.environment) w)
    else start run name c.setting c.words w

/-! ## A limited time -/

def runTimeout (run : Starter) (s : Setting) (name : String) (args : List String) : Action :=
  fun w =>
  let g : Tool.Grammar := { Tool.Grammar.ofText "k:s:v" [("kill-after", 'k'), ("signal", 's'),
    ("foreground", 'f'), ("preserve-status", 'p'), ("verbose", 'v')] false with
      plain := ['f', 'p', 'v'] }
  let misused (words : String) : Ending × World :=
    complain s 125 (name ++ ": " ++ words ++ "\nTry '" ++ name ++ " --help' for more information.")
      w
  match g.read args with
  | .error words => misused words
  | .ok o =>
    match o.operands with
    | duration :: words =>
      if words.isEmpty then misused "missing operand"
      else
        match Tool.duration? duration with
        | none => misused ("invalid time interval '" ++ duration ++ "'")
        | some limit =>
          let (ending, finish, job, after) := w.runAhead fun w => start run name s words w
          let deadline := w.clock + limit
          if limit = 0 || finish ≤ deadline then (ending, after.pass (finish - w.clock))
          else
            let signal := (o.value? 's').getD "TERM"
            let isKill := signal = "KILL" || signal = "9"
            let stopped := (after.stopJob job deadline).pass limit
            (if isKill then .killed 9 else .exited (if o.has 'p' then 143 else 124), stopped)
    | [] => misused "missing operand"

/-! ## Once for each line -/

/-- The words of an input: cut at blanks and line breaks, with quotes and backslashes. -/
def inputWords (o : Tool.Options) (text : String) : List String :=
  if o.has '0' then (Text.split '\x00' text).filter (· != "")
  else
    match o.value? 'd' with
    | some d =>
      let mark := ((Escapes.numbers.replace d.toList).1).headD '\n'
      let parts := Text.split mark text
      if parts.getLast? = some "" then parts.dropLast else parts
    | none =>
      if o.has 'I' then (Octets.bareLines text).filterMap fun line =>
        let line := String.ofList (line.toList.dropWhile fun c => c = ' ' || c = '\t')
        if line = "" then none else some line
      else cutWords text

/-- Words in groups. -/
def groupsOf (size : Nat) : Nat → List String → List (List String)
  | 0, _ => []
  | n + 1, words =>
    if words.isEmpty then [] else words.take size :: groupsOf size n (words.drop size)

def runXargs (run : Starter) (s : Setting) (name : String) (args : List String) : Action := fun w =>
  let g := Tool.Grammar.ofText "0d:I:L:n:P:prs:tE:a:x" [("null", '0'), ("delimiter", 'd'),
    ("max-args", 'n'), ("max-procs", 'P'), ("no-run-if-empty", 'r'), ("verbose", 't'),
    ("max-lines", 'L'), ("replace", 'I'), ("arg-file", 'a')] false
  match g.read args with
  | .error words => complain s 1 (name ++ ": " ++ words) w
  | .ok o =>
    let (text, w) : String × World :=
      match s.stream? 0 with
      | none => ("", w)
      | some stream =>
        let w := w.settle stream
        (((w.supply? stream).map Supply.text).getD "", w.drain stream)
    let command := if o.operands.isEmpty then ["echo"] else o.operands
    let calls : List (List String) :=
      match o.value? 'I' with
      | some mark => (inputWords o text).map fun line => command.map fun word =>
        word.replace mark line
      | none =>
        match (o.value? 'L').bind Tool.decimal? with
        | some n =>
          (groupsOf (max n 1) (text.length + 1) ((Octets.bareLines text).filter (· != ""))).map
          fun lines =>
            command ++ lines.flatMap cutWords
        | none =>
          let words := inputWords o text
          let size := ((o.value? 'n').bind Tool.decimal?).getD 5000
          if words.isEmpty then if o.has 'r' then [] else [command]
          else (groupsOf (max size 1) (words.length + 1) words).map (command ++ ·)
    -- the programs that are started read nothing
    let (stream, w) := w.openStream .void
    let inner := { s with descriptors := s.descriptors.connect 0 stream }
    let rec go : List (List String) → UInt8 → Action
      | [], status, w => (.exited status, w)
      | words :: rest, status, w =>
        let w := if o.has 't' then s.write 2 (" ".intercalate words ++ "\n") w else w
        match run inner words w with
        | .error e =>
          complain s (startStatus e) (name ++ ": " ++ words.headD "" ++ ": " ++ e.words) w
        | .ok (.killed _, w) =>
          complain s 125 (name ++ ": " ++ words.headD "" ++ ": terminated by signal") w
        | .ok (.exited 0, w) => go rest status w
        | .ok (.exited 255, w) =>
          complain s 124 (name ++ ": " ++ words.headD "" ++ ": exited with status 255; aborting") w
        | .ok (.exited _, w) => go rest 123 w
    go calls 0 w

/-! ## Finding files -/

/-- What is asked about a path, or done with it. -/
inductive Search where
  | name (pattern : String) (ignoresCase wholePath : Bool)
  | kind (letters : List Char)
  | isEmpty
  | size (sign : Char) (n unit : Nat)
  | executable
  | matching (r : Regex)
  | sameEntry (there : Place)
  | permissions (mode : Nat) (sign : Char)
  | newer (time : Nat)
  | always (b : Bool)
  | print (mark : String)
  | format (f : String)
  | run (words : List String)
  | gather (words : List String)
  | delete
  | prune
  | quit
  | negated (s : Search)
  | both (a b : Search)
  | either (a b : Search)

namespace Search

/-- Whether something is done besides asking. -/
def acts : Search → Bool
  | .print _ => true
  | .format _ => true
  | .run _ => true
  | .gather _ => true
  | .delete => true
  | .quit => false
  | .negated s => s.acts
  | .both a b => a.acts || b.acts
  | .either a b => a.acts || b.acts
  | _ => false

mutual

/-- A search that is written as alternatives, and what is left. The first argument bounds the
depth. -/
def alternatives (files : FileTree) (cwd : Place) :
    Nat → List String → Except String (Search × List String)
  | 0, _ => .error "too complex"
  | n + 1, words => do
    let (first, rest) ← conjunction files cwd n words
    match rest with
    | "-o" :: rest => do
      let (second, rest) ← alternatives files cwd n rest
      return (.either first second, rest)
    | "-or" :: rest => do
      let (second, rest) ← alternatives files cwd n rest
      return (.either first second, rest)
    | _ => return (first, rest)

def conjunction (files : FileTree) (cwd : Place) :
    Nat → List String → Except String (Search × List String)
  | 0, _ => .error "too complex"
  | n + 1, words => do
    let (first, rest) ← single files cwd n words
    match rest with
    | [] => return (first, [])
    | word :: more =>
      if word = "-a" ∨ word = "-and" then do
        let (second, rest) ← conjunction files cwd n more
        return (.both first second, rest)
      else if word = ")" ∨ word = "-o" ∨ word = "-or" ∨ word = "," then return (first, rest)
      else do
        let (second, rest) ← conjunction files cwd n rest
        return (.both first second, rest)

def single (files : FileTree) (cwd : Place) :
    Nat → List String → Except String (Search × List String)
  | 0, _ => .error "too complex"
  | n + 1, words =>
    match words with
    | [] => .error "expected an expression"
    | "!" :: rest => do
      let (s, rest) ← single files cwd n rest
      return (.negated s, rest)
    | "-not" :: rest => do
      let (s, rest) ← single files cwd n rest
      return (.negated s, rest)
    | "(" :: rest => do
      let (s, rest) ← alternatives files cwd n rest
      match rest with
      | ")" :: rest => return (s, rest)
      | _ =>
        .error ("invalid expression; " ++
          "I was expecting to find a ')' somewhere but did not see one.")
    | "-name" :: p :: rest => .ok (.name p false false, rest)
    | "-iname" :: p :: rest => .ok (.name p true false, rest)
    | "-path" :: p :: rest => .ok (.name p false true, rest)
    | "-wholename" :: p :: rest => .ok (.name p false true, rest)
    | "-ipath" :: p :: rest => .ok (.name p true true, rest)
    | "-regex" :: r :: rest => matching false r rest
    | "-iregex" :: r :: rest => matching true r rest
    | "-samefile" :: p :: rest =>
      match files.findEntry cwd ⟨Octets.toText p⟩ with
      | .ok (there, _) => .ok (.sameEntry there, rest)
      | .error e => .error ("'" ++ p ++ "': " ++ e.words)
    | "-links" :: n :: rest => .ok (.always (n = "1"), rest)
    | "-group" :: u :: rest => .ok (.always (u = "root" || u = "0"), rest)
    | "-uid" :: u :: rest => .ok (.always (u = "0"), rest)
    | "-gid" :: u :: rest => .ok (.always (u = "0"), rest)
    | "-nouser" :: rest => .ok (.always false, rest)
    | "-nogroup" :: rest => .ok (.always false, rest)
    | "-regextype" :: _ :: rest => single files cwd n rest
    | "-execdir" :: rest => single files cwd n ("-exec" :: rest)
    | "-ok" :: rest => single files cwd n ("-exec" :: rest)
    | "-type" :: t :: rest => .ok (.kind (t.toList.filter (· != ',')), rest)
    | "-empty" :: rest => .ok (.isEmpty, rest)
    | "-executable" :: rest => .ok (.executable, rest)
    | "-readable" :: rest => .ok (.always true, rest)
    | "-writable" :: rest => .ok (.always true, rest)
    | "-true" :: rest => .ok (.always true, rest)
    | "-false" :: rest => .ok (.always false, rest)
    | "-print" :: rest => .ok (.print "\n", rest)
    | "-print0" :: rest => .ok (.print "\x00", rest)
    | "-printf" :: f :: rest => .ok (.format f, rest)
    | "-delete" :: rest => .ok (.delete, rest)
    | "-prune" :: rest => .ok (.prune, rest)
    | "-quit" :: rest => .ok (.quit, rest)
    | "-mtime" :: _ :: rest => .ok (.always true, rest)
    | "-mmin" :: _ :: rest => .ok (.always true, rest)
    | "-user" :: u :: rest => .ok (.always (u = "root" || u = "0"), rest)
    | "-newer" :: p :: rest =>
      match files.findEntry cwd ⟨Octets.toText p⟩ with
      | .ok (_, e) => .ok (.newer e.time, rest)
      | .error e => .error ("'" ++ p ++ "': " ++ e.words)
    | "-perm" :: m :: rest =>
      let (sign, ds) := match m.toList with
        | '-' :: ds => ('-', ds)
        | '/' :: ds => ('/', ds)
        | ds => ('=', ds)
      .ok (.permissions (ds.foldl (fun n c => 8 * n + (c.toNat - 48)) 0) sign, rest)
    | "-size" :: z :: rest =>
      let (sign, cs) := match z.toList with
        | '+' :: cs => ('+', cs)
        | '-' :: cs => ('-', cs)
        | cs => ('=', cs)
      let digits := cs.takeWhile Char.isDigit
      let unit := match cs.drop digits.length with
        | ['c'] => 1
        | ['w'] => 2
        | ['k'] => 1024
        | ['M'] => 1048576
        | _ => 512
      .ok (.size sign (digits.foldl (fun n c => 10 * n + (c.toNat - 48)) 0) unit, rest)
    | "-exec" :: rest =>
      let words := rest.takeWhile fun w => w != ";" && w != "+"
      match rest.drop words.length with
      | ";" :: rest => .ok (.run words, rest)
      | "+" :: rest => .ok (.gather (words.filter (· != "\x7b\x7d")), rest)
      | _ => .error "missing argument to '-exec'"
    | word :: _ =>
      if word.startsWith "-" then .error ("unknown predicate '" ++ word ++ "'")
      else .error ("paths must precede expression: '" ++ word ++ "'")
where
  matching (ignoresCase : Bool) (r : String) (rest : List String) :
  Except String (Search × List String) :=
    match Regex.ofText ⟨false, ignoresCase, false, false, false⟩ r with
    | .ok r => .ok (.matching (.seq (.edge .textStart) (.seq r (.edge .textEnd))), rest)
    | .error words => .error words

end

/-- The letter for what lies at a place. -/
def kindLetter (e : Entry) : Char :=
  match e.content with
  | .directory => 'd'
  | .link _ => 'l'
  | .void => 'c'
  | .zeros => 'c'
  | .full => 'c'
  | _ => 'f'

/-- What a format tells about a path; the first argument after it bounds the length of the
format. -/
def told (path : String) (depth : Nat) (e : Entry) : Nat → List Char → String
  | 0, _ => ""
  | _ + 1, [] => ""
  | n + 1, '\\' :: cs =>
    let (plain, _) := Escapes.numbers.replace ('\\' :: cs.take 1)
    String.ofList plain ++ told path depth e n (cs.drop 1)
  | n + 1, '%' :: cs =>
    let flags := cs.takeWhile fun c => c = '-' ∨ c = '0'
    let digits := (cs.drop flags.length).takeWhile Char.isDigit
    let width := digits.foldl (fun n c => 10 * n + (c.toNat - 48)) 0
    let pad (s : String) : String :=
      if flags.contains '-' then Tool.padRight width s
      else if flags.contains '0' then Moment.fill '0' width s else Tool.padLeft width s
    let starting := "/".intercalate ((Text.split '/' path).reverse.drop depth).reverse
    let inner := if depth = 0 then "" else (path.drop (starting.length + 1)).toString
    match cs.drop (flags.length + digits.length) with
    | [] => "%"
    | c :: rest =>
      (match c with
      | 'p' => pad path
      | 'f' => pad (Tool.lastName path)
      | 'P' => pad inner
      | 'H' => pad starting
      | 'h' => pad (if path.toList.contains '/' then
          String.ofList ((path.toList.reverse.dropWhile (· != '/')).tail).reverse else ".")
      | 's' => pad (toString e.size)
      | 'd' => pad (toString depth)
      | 'y' => pad (kindLetter e).toString
      | 'Y' => pad (kindLetter e).toString
      | 'm' => pad (String.ofList (Nat.toDigits 8 e.mode))
      | 'M' => pad (Tool.modeText e)
      | 'u' => pad "root"
      | 'g' => pad "root"
      | 'U' => pad "0"
      | 'G' => pad "0"
      | 'n' => pad "1"
      | 'l' => pad (match e.content with
        | .link target => Octets.ofText target
        | _ => "")
      | '%' => "%"
      | c => String.ofList ['%', c]) ++ told path depth e n rest
  | n + 1, c :: cs => c.toString ++ told path depth e n cs

/-- What has been found out and done so far. -/
structure Progress where
  world : World
  gathered : List (List String × List String)
  isPruned : Bool
  hasQuit : Bool
  status : UInt8

/-- A path is asked about and dealt with; the depth is that below its starting point. -/
def holds (start : Starter) (s : Setting) (depth : Nat) (search : Search) (path : String)
    (here : Place) (e : Entry) (p : Progress) : Bool × Progress :=
  let kindLetter := kindLetter e
  let text (t : String) : Bool × Progress := (true, { p with world := s.write 1 t p.world })
  match search with
  | .always b => (b, p)
  | .name pattern ignoresCase wholePath =>
    let name := if wholePath then path else Tool.lastName path
    (if ignoresCase then Glob.isMatch false (Glob.active (pattern.map Char.toLower))
      (name.map Char.toLower)
      else Glob.isMatch false (Glob.active pattern) name, p)
  | .kind letters => (letters.contains kindLetter, p)
  | .isEmpty =>
    ((e.isDirectory && (p.world.files.children here).isEmpty) || (e.isRegular && e.size = 0), p)
  | .size sign n unit =>
    let size := (e.size + unit - 1) / unit
    (if sign = '+' then n < size else if sign = '-' then size < n else size = n, p)
  | .executable => (e.isExecutable, p)
  | .matching r => (r.occursIn path, p)
  | .sameEntry there => (here = there, p)
  | .permissions mode sign =>
    (if sign = '-' then e.mode &&& mode = mode else if sign = '/' then e.mode &&& mode != 0
      else e.mode = mode, p)
  | .newer time => (time < e.time, p)
  | .print mark => text (path ++ mark)
  | .format f => text (told path depth e (f.length + 1) f.toList)
  | .run words =>
    match start s (words.map fun w => w.replace "\x7b\x7d" path) p.world with
    | .ok (.exited 0, w) => (true, { p with world := w })
    | .ok (_, w) => (false, { p with world := w })
    | .error e =>
      (false, { p with
        world := s.write 2 ("find: '" ++ words.headD "" ++ "': " ++ e.words ++ "\n") p.world })
  | .gather words =>
    (true, { p with gathered := match p.gathered.lookup words with
      | some paths => p.gathered.map fun (w, old) =>
        if w = words then (w, paths ++ [path])
        else (w, old)
      | none => p.gathered ++ [(words, [path])] })
  | .delete =>
    if e.isDirectory && !(p.world.files.children here).isEmpty then
      (false, { p with
        status := 1,
        world :=
          s.write 2 ("find: cannot delete '" ++ path ++ "': Directory not empty\n") p.world })
    else (true, { p with world := { p.world with files := p.world.files.erase here } })
  | .prune => (true, { p with isPruned := true })
  | .quit => (true, { p with hasQuit := true })
  | .negated inner =>
    let (b, p) := inner.holds start s depth path here e p
    (!b, p)
  | .both a b =>
    let (x, p) := holds start s depth a path here e p
    if x && !p.hasQuit then holds start s depth b path here e p else (false, p)
  | .either a b =>
    let (x, p) := holds start s depth a path here e p
    if x then (true, p) else holds start s depth b path here e p

end Search

/-- How deep a search goes, and in which order directories and what they hold are looked at. -/
structure Bounds where
  least : Nat
  most : Nat
  innerFirst : Bool

/-- A path and all below it are searched. The first argument bounds the depth. -/
def visit (start : Starter) (s : Setting) (search : Search) (b : Bounds) :
    Nat → Nat → String → Place → Search.Progress → Search.Progress
  | 0, _, _, _, p => p
  | n + 1, depth, path, here, p =>
    match p.world.files.entry? here with
    | none => p
    | some e =>
      let look (p : Search.Progress) : Search.Progress :=
        if p.hasQuit || depth < b.least then p
        else (search.holds start s depth path here e { p with isPruned := false }).2
      let deeper (p : Search.Progress) : Search.Progress :=
        if e.isDirectory && depth < b.most && !(p.isPruned && !b.innerFirst) then
          (p.world.files.children here).foldl (fun p name =>
            if p.hasQuit then p
            else visit start s search b n (depth + 1) (Tool.below path (Octets.ofText name))
              (here ++ [name]) p)
            { p with isPruned := false }
        else p
      if b.innerFirst then look (deeper p) else deeper (look { p with isPruned := false })

def runFind (run : Starter) (s : Setting) (_ : String) (args : List String) : Action := fun w =>
  let isPath (word : String) : Bool := !(word.startsWith "-" || word = "(" || word = "!")
  let args := args.dropWhile fun a => a = "-L" || a = "-P" || a = "-H"
  let paths := args.takeWhile isPath
  let paths' := if paths.isEmpty then ["."] else paths
  let words := args.drop paths.length
  -- bounds may stand anywhere
  let rec settle : Nat → List String → Bounds → List String × Bounds
    | 0, ws, b => (ws, b)
    | n + 1, ws, b =>
      match ws with
      | "-maxdepth" :: d :: rest => settle n rest { b with most := (Tool.decimal? d).getD b.most }
      | "-mindepth" :: d :: rest => settle n rest { b with least := (Tool.decimal? d).getD b.least }
      | "-depth" :: rest => settle n rest { b with innerFirst := true }
      | "-xdev" :: rest => settle n rest b
      | "-delete" :: rest =>
        let (rest, b) := settle n rest { b with innerFirst := true }
        ("-delete" :: rest, b)
      | word :: rest =>
        let (rest, b) := settle n rest b
        (word :: rest, b)
      | [] => ([], b)
  let (words, bounds) := settle (words.length + 1) words ⟨0, 1000, false⟩
  let search? : Except String Search :=
    if words.isEmpty then .ok (.print "\n")
    else
      match Search.alternatives w.files s.cwd (8 * words.length + 10) words with
      | .error e => .error e
      | .ok (search, []) => .ok (if search.acts then search else .both search (.print "\n"))
      | .ok (_, word :: _) => .error ("paths must precede expression: '" ++ word ++ "'")
  match search? with
  | .error words => complain s 1 ("find: " ++ words) w
  | .ok search =>
    let p := paths'.foldl (fun (p : Search.Progress) path =>
      match p.world.files.locateEntry s.cwd ⟨Octets.toText path⟩ with
      | .ok (here, _) => visit run s search bounds 1000 0 path here p
      | .error e =>
        { p with
          status := 1,
          world := s.write 2 ("find: '" ++ path ++ "': " ++ e.words ++ "\n") p.world })
      ⟨w, [], false, false, 0⟩
    let p := p.gathered.foldl (fun (p : Search.Progress) (words, found) =>
      match run s (words ++ found) p.world with
      | .ok (.exited 0, w) => { p with world := w }
      | .ok (_, w) => { p with world := w, status := 1 }
      | .error e =>
        { p with
          status := 1,
          world := s.write 2 ("find: '" ++ words.headD "" ++ "': " ++ e.words ++ "\n") p.world })
      p
    (.exited p.status, p.world)

/-! ## Only started -/

/-- The words of a program after options of the one that starts it. -/
def afterOptions (valued : List String) : List String → List String
  | "--" :: rest => rest
  | arg :: value :: rest =>
    if valued.contains arg then afterOptions valued rest
    else if arg.startsWith "-" then afterOptions valued (value :: rest) else arg :: value :: rest
  | [arg] => if arg.startsWith "-" then [] else [arg]
  | [] => []

def runPlain (valued : List String) (run : Starter) (s : Setting) (name : String)
    (args : List String) :
    Action := fun w =>
  match afterOptions valued args with
  | [] => complain s 125 (name ++ ": missing operand") w
  | words => start run name s words w

/-- The program that starts others, by its name. -/
def ofName? (name : String) : Option (Starter → Setting → String → List String → Action) :=
  [("env", runEnv), ("timeout", runTimeout), ("xargs", runXargs), ("find", runFind),
    ("nice", runPlain ["-n"]), ("nohup", runPlain []), ("setsid", runPlain []),
    ("stdbuf", runPlain ["-i", "-o", "-e"]), ("awk", Awk.run), ("mawk", Awk.run)].lookup name

end Wrapper

end CiHarness
