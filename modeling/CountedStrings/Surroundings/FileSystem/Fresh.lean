import CountedStrings.Surroundings.FileSystem.Basic

/-!
# The files at the start

A process starts in an empty directory.  Around it stand the directories and devices that every
host has, and the programs that commands can name.

A program is a file that may be run.  Its content tells which program it is: `programImage` writes
it and `programOf?` reads it, so a copy of a program is that program under another name.
-/

namespace CountedStrings

namespace FileSystem

/-- The four bytes that the image of a program begins with. -/
def imageMark : Bytes := [0x7F, 0x45, 0x4C, 0x46]

/-- The content of the file of a program. -/
def programImage (name : String) : ByteArray := ⟨(imageMark ++ Bytes.ofByteText name).toArray⟩

/-- The program whose image a content is. -/
def programOf? (content : ByteArray) : Option String :=
  let start := imageMark.length
  if (content.extract 0 start).toList = imageMark then
    some (Bytes.toByteText (content.extract start content.size).toList)
  else none

/-- The programs that are installed. -/
def programs : List String :=
  ["[", "arch", "b2sum", "base32", "base64", "basename", "basenc", "cat", "chgrp", "chmod",
    "chown", "chroot", "cksum", "comm", "cp", "csplit", "cut", "dash", "date", "dd", "df", "dir",
    "dirname", "du", "echo", "env", "expand", "expr", "factor", "false", "fmt", "fold", "groups",
    "head", "hostid", "id", "install", "join", "link", "ln", "logname", "ls", "md5sum", "mkdir",
    "mkfifo", "mknod", "mktemp", "mv", "nice", "nl", "nohup", "nproc", "numfmt", "od", "paste",
    "pathchk", "pr", "printenv", "printf", "ptx", "pwd", "readlink", "realpath", "rm", "rmdir",
    "seq", "sh", "sha1sum", "sha224sum", "sha256sum", "sha384sum", "sha512sum", "shred", "shuf",
    "sleep", "sort", "split", "stat", "stdbuf", "stty", "sum", "sync", "tac", "tail", "tee",
    "test", "timeout", "touch", "tr", "true", "truncate", "tsort", "tty", "uname", "unexpand",
    "uniq", "unlink", "users", "vdir", "wc", "who", "whoami", "yes"]

/-- A directory of names for nodes. -/
def directoryOf (parent : Nat) (clock : Int) (entries : List (String × Nat)) : Node :=
  .directory parent (.ofList (entries.map fun (name, id) => (Bytes.ofByteText name, id)))
    ⟨0o755, clock, 0, 0⟩

/-- The number of the empty directory in which a process starts. -/
def startDirectory : Nat := 3

/-- The files around an empty working directory. -/
def fresh : FileSystem where
  nodes :=
    let directory := fun parent entries => directoryOf parent startClock entries
    let standing : List Node :=
      [directory 0 [("dev", 1), ("tmp", 2), ("usr", 4), ("bin", 7), ("sbin", 8), ("etc", 9),
          ("root", 10), ("home", 11), ("var", 12)],
        directory 0 [("null", 13), ("zero", 14), ("full", 15), ("stdin", 16), ("stdout", 17),
          ("stderr", 18)],
        .directory 0 (.ofList [(Bytes.ofByteText "work", startDirectory)]) ⟨0o1777, startClock, 0, 0⟩,
        directory 2 [], directory 0 [("bin", 5), ("sbin", 6)],
        directory 4 (programs.zipIdx 19), directory 4 [], .link (Bytes.ofByteText "usr/bin"),
        .link (Bytes.ofByteText "usr/sbin"), directory 0 [], directory 0 [], directory 0 [],
        directory 0 [], .device .null, .device .zero, .device .full, .device (.descriptor 0),
        .device (.descriptor 1), .device (.descriptor 2)]
    let images := programs.map fun name =>
      if name = "sh" then Node.link (Bytes.ofByteText "dash")
      else Node.file (programImage name) ⟨0o755, startClock, 0, 0⟩
    (standing ++ images).toArray
  working := startDirectory
  clock := startClock
  mask := 0o022

end FileSystem

end CountedStrings
