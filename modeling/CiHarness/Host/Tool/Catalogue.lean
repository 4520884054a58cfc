import CiHarness.Host.Tool.Characters
import CiHarness.Host.Tool.Condition
import CiHarness.Host.Tool.Difference
import CiHarness.Host.Tool.Digest
import CiHarness.Host.Tool.Editing
import CiHarness.Host.Tool.Files
import CiHarness.Host.Tool.Ordering
import CiHarness.Host.Tool.Search

/-!
# The programs of the system

All programs that lie in the system's directories, each under its name, and the file tree of a
system before anything else is put into it.
-/
namespace CiHarness.Tool

/-- The program that finds programs in the search path. -/
def runWhich : Utility :=
  withOptions (Grammar.ofText "a" [("all", 'a')] true) 2 fun s _ o =>
    let path := (s.environment.lookup "PATH").getD ""
    let isProgram (p : String) : Bool := (s.find p).toOption.any fun (_, e) =>
      e.isRegular && e.isExecutable
    let found (name : String) : List String :=
      if name.toList.contains '/' then if isProgram name then [name] else []
      else
        let all := ((Text.split ':' path).map fun d => (if d = "" then "." else d) ++ "/" ++
          name).filter isProgram
        if o.has 'a' then all else all.take 1
    let results := o.operands.map found
    .done (.ofText (if o.operands.isEmpty || results.any List.isEmpty then 1 else 0)
      (Octets.unlines results.flatten))

/-- The programs that change nothing and tell nothing. -/
def runQuietly : Utility := fun _ _ _ => .done (.ofStatus 0)

def runHostname : Utility := fun _ _ _ => .done (.ofText 0 "localhost\n")

/-- All programs but those that start others. -/
def all : List (String × Utility) :=
  [("true", runSucceed), ("false", runFail), ("echo", runEcho), ("printf", runPrintf),
    ("yes", runYes), ("seq", runSeq), ("basename", runBasename), ("dirname", runDirname),
    ("pwd", runPwd),
    ("printenv", runPrintenv), ("sleep", runSleep), ("whoami", runWhoami), ("id", runId),
    ("groups", runGroups), ("logname", runLogname), ("users", runQuietly),
    ("uname", runUname), ("nproc", runNproc), ("arch", runArch), ("tty", runTty),
    ("factor", runFactor),
    ("test", runTest), ("[", runTest), ("expr", runExpr), ("cat", runCat), ("head", runHead),
    ("tail", runTail), ("tac", runTac), ("rev", runRev), ("wc", runWc), ("nl", runNl),
    ("cut", runCut),
    ("fold", runFold), ("expand", runExpand), ("unexpand", runUnexpand), ("paste", runPaste),
    ("tee", runTee), ("sort", runSort),
    ("uniq", runUniq), ("comm", runComm), ("cmp", runCmp), ("diff", runDiff), ("join", runJoin),
    ("shuf", runShuf), ("md5sum", runDigest BlockMethod.md5 "MD5"),
    ("sha1sum", runDigest BlockMethod.sha1 "SHA1"),
    ("sha224sum", runDigest BlockMethod.sha224 "SHA224"),
    ("sha256sum", runDigest BlockMethod.sha256 "SHA256"),
    ("sha384sum", runDigest BlockMethod.sha384 "SHA384"),
    ("sha512sum", runDigest BlockMethod.sha512 "SHA512"), ("sum", runSum), ("cksum", runCksum),
    ("tr", runTr), ("od", runOd),
    ("base64", runBase64), ("base32", runBase32), ("mkdir", runMkdir), ("rmdir", runRmdir),
    ("rm", runRm), ("cp", runCp),
    ("mv", runMv), ("install", runInstall), ("link", runLink), ("unlink", runUnlink),
    ("split", runSplit), ("ln", runLn), ("touch", runTouch), ("chmod", runChmod),
    ("readlink", runReadlink),
    ("realpath", runRealpath), ("stat", runStat), ("mktemp", runMktemp), ("ls", runLs),
    ("dir", runLs),
    ("dd", runDd), ("truncate", runTruncate), ("grep", runGrep 'G'), ("egrep", runGrep 'E'),
    ("fgrep", runGrep 'F'), ("sed", runSed), ("which", runWhich),
    ("date", runDate), ("sync", runQuietly), ("chown", runQuietly), ("chgrp", runQuietly),
    ("hostname", runHostname)]

/-- The program with a name. -/
def ofName? (name : String) : Option Utility := all.lookup name

/-- The names of the programs that start others. -/
def starters : List String :=
  ["awk", "bash", "dash", "env", "find", "mawk", "nice", "nohup", "setsid", "stdbuf", "timeout",
    "xargs"]

/-- The users that a system knows from the start. -/
def users : String := Octets.unlines
  ["root:x:0:0:root:/root:/bin/bash", "daemon:x:1:1:daemon:/usr/sbin:/usr/sbin/nologin",
    "bin:x:2:2:bin:/bin:/usr/sbin/nologin", "sys:x:3:3:sys:/dev:/usr/sbin/nologin",
    "sync:x:4:65534:sync:/bin:/bin/sync", "games:x:5:60:games:/usr/games:/usr/sbin/nologin",
    "man:x:6:12:man:/var/cache/man:/usr/sbin/nologin",
    "lp:x:7:7:lp:/var/spool/lpd:/usr/sbin/nologin",
    "mail:x:8:8:mail:/var/mail:/usr/sbin/nologin",
    "news:x:9:9:news:/var/spool/news:/usr/sbin/nologin",
    "uucp:x:10:10:uucp:/var/spool/uucp:/usr/sbin/nologin",
    "proxy:x:13:13:proxy:/bin:/usr/sbin/nologin",
    "www-data:x:33:33:www-data:/var/www:/usr/sbin/nologin",
    "backup:x:34:34:backup:/var/backups:/usr/sbin/nologin",
    "list:x:38:38:Mailing List Manager:/var/list:/usr/sbin/nologin",
    "irc:x:39:39:ircd:/run/ircd:/usr/sbin/nologin",
    "_apt:x:42:65534::/nonexistent:/usr/sbin/nologin",
    "nobody:x:65534:65534:nobody:/nonexistent:/usr/sbin/nologin"]

/-- What a shell runs first that is started at a login. -/
def loginScript : String := Octets.unlines
  ["if [ \"$(id -u)\" -eq 0 ]; then",
    "  PATH=\"/usr/local/sbin:/usr/local/bin:/usr/sbin:/usr/bin:/sbin:/bin\"", "else",
    "  PATH=\"/usr/local/bin:/usr/bin:/bin:/usr/local/games:/usr/games\"", "fi", "export PATH"]

end CiHarness.Tool

namespace CiHarness.FileTree

/-- The directories of a system. -/
def directories : List Place :=
  [["usr"], ["usr", "bin"], ["usr", "sbin"], ["usr", "lib"], ["usr", "lib64"], ["usr", "local"],
    ["usr", "local", "bin"], ["usr", "local", "sbin"], ["usr", "local", "lib"], ["usr", "share"],
    ["usr", "include"], ["usr", "src"], ["usr", "games"], ["boot"], ["dev"], ["dev", "fd"],
    ["dev", "shm"],
    ["etc"], ["home"], ["media"], ["mnt"], ["opt"], ["proc"], ["root"], ["run"], ["srv"], ["sys"],
    ["tmp"], ["var"], ["var", "lib"], ["var", "log"], ["var", "cache"], ["var", "tmp"],
      ["var", "spool"]]

/-- The links of a system, each with its target. -/
def links : List (Place × String) :=
  [(["bin"], "usr/bin"), (["sbin"], "usr/sbin"), (["lib"], "usr/lib"), (["lib64"], "usr/lib64"),
    (["usr", "bin", "sh"], "dash"), (["var", "run"], "/run"), (["var", "lock"], "/run/lock"),
    (["etc", "mtab"], "/proc/mounts")]

/-- The files of a system. -/
def systemFiles : List (Place × String) :=
  [(["etc", "passwd"], Tool.users), (["etc", "profile"], Tool.loginScript),
    (["etc", "group"], "root:x:0:\n"), (["etc", "hostname"], "localhost\n"),
    (["etc", "hosts"], "127.0.0.1\tlocalhost\n"), (["etc", "shells"], "/bin/sh\n/bin/bash\n"),
    (["etc", "os-release"], "PRETTY_NAME=\"Linux\"\n")]

/-- The file tree of a system. -/
def standard : FileTree where
  entries :=
    ([(["dev", "null"], Content.void), (["dev", "zero"], .zeros), (["dev", "full"], .full)].map
      fun (here, c) => (here, ⟨c, 0o666, 0⟩)) ++
    ((Tool.all.map (·.1) ++ Tool.starters).map fun name =>
      (["usr", "bin", name], ⟨.tool name, 0o755, 0⟩)) ++
    (links.map fun (here, target) => (here, Entry.ofTarget target)) ++
    (systemFiles.map fun (here, text) => (here, Entry.ofText text false)) ++
    (directories.map fun here =>
      (here, if here = ["tmp"] ∨ here = ["var", "tmp"] then ⟨.directory, 0o1777, 0⟩
        else .directory))

end CiHarness.FileTree
