import CountedStrings.Surroundings.Shell.Utility.Arrangement
import CountedStrings.Surroundings.Shell.Utility.Blocks
import CountedStrings.Surroundings.Shell.Utility.Calculation
import CountedStrings.Surroundings.Shell.Utility.Calendar
import CountedStrings.Surroundings.Shell.Utility.Checksum
import CountedStrings.Surroundings.Shell.Utility.Columns
import CountedStrings.Surroundings.Shell.Utility.Comparison
import CountedStrings.Surroundings.Shell.Utility.Content
import CountedStrings.Surroundings.Shell.Utility.Creation
import CountedStrings.Surroundings.Shell.Utility.Dump
import CountedStrings.Surroundings.Shell.Utility.Facts
import CountedStrings.Surroundings.Shell.Utility.Filling
import CountedStrings.Surroundings.Shell.Utility.Identity
import CountedStrings.Surroundings.Shell.Utility.Installing
import CountedStrings.Surroundings.Shell.Utility.Listing
import CountedStrings.Surroundings.Shell.Utility.Path
import CountedStrings.Surroundings.Shell.Utility.Permission
import CountedStrings.Surroundings.Shell.Utility.Printing
import CountedStrings.Surroundings.Shell.Utility.Scaling
import CountedStrings.Surroundings.Shell.Utility.Sections
import CountedStrings.Surroundings.Shell.Utility.Shredding
import CountedStrings.Surroundings.Shell.Utility.Sorting
import CountedStrings.Surroundings.Shell.Utility.Splitting
import CountedStrings.Surroundings.Shell.Utility.Testing
import CountedStrings.Surroundings.Shell.Utility.Transfer
import CountedStrings.Surroundings.Shell.Utility.Translation
import CountedStrings.Surroundings.Shell.Utility.Usage

/-!
# All utilities

The utilities by their names.
-/

namespace CountedStrings.Shell.Utility

/-- The utilities that read text and print text. -/
def textUtilities : List (String × Body) :=
  [("b2sum", b2sum), ("base32", encoded .base32), ("base64", encoded .base64), ("basenc", basenc),
    ("cat", cat), ("cksum", cksum), ("comm", comm), ("csplit", csplit), ("cut", cut), ("dd", dd),
    ("expand", expand), ("fmt", fmt), ("fold", fold), ("head", head), ("join", join),
    ("md5sum", digestOf "MD5" md5), ("nl", nl), ("numfmt", numfmt), ("od", od), ("paste", paste),
    ("sha1sum", digestOf "SHA1" sha1), ("sha224sum", digestOf "SHA224" sha224),
    ("sha256sum", digestOf "SHA256" sha256), ("sha384sum", digestOf "SHA384" sha384),
    ("sha512sum", digestOf "SHA512" sha512), ("shuf", shuf), ("sort", sort), ("split", split),
    ("sum", sum), ("tac", tac), ("tail", tail), ("tee", tee), ("tr", tr), ("tsort", tsort),
    ("unexpand", unexpand), ("uniq", uniq), ("wc", wc)]

/-- The utilities that look at files and change them. -/
def fileUtilities : List (String × Body) :=
  [("chgrp", chgrp), ("chmod", chmod), ("chown", chown), ("cp", cp), ("df", df), ("dir", dir),
    ("du", du), ("install", install), ("link", link), ("ln", ln), ("ls", ls), ("mkdir", mkdir),
    ("mkfifo", mkfifo), ("mknod", mknod), ("mktemp", mktemp), ("mv", mv), ("pathchk", pathchk),
    ("readlink", readlink), ("realpath", realpath), ("rm", rm), ("rmdir", rmdir), ("shred", shred),
    ("stat", stat), ("touch", touch), ("truncate", truncate), ("unlink", unlink), ("vdir", vdir)]

/-- The utilities that work with their arguments alone. -/
def argumentUtilities : List (String × Body) :=
  [("[", bracket), ("basename", basename), ("dirname", dirname), ("echo", echo), ("expr", expr),
    ("factor", factor), ("false", giveStatus 1), ("printf", printf), ("pwd", pwd), ("seq", seq),
    ("test", test), ("true", giveStatus 0), ("yes", yes)]

/-- The utilities that know the users, the host and the time. -/
def hostUtilities : List (String × Body) :=
  [("arch", arch), ("date", date), ("groups", groups), ("hostid", hostid), ("id", identity),
    ("logname", logname), ("nproc", nproc), ("printenv", printenv), ("sleep", sleep),
    ("stty", stty), ("sync", sync), ("tty", tty), ("uname", uname), ("users", users),
    ("who", users), ("whoami", whoami)]

/-- The utilities by name. -/
def all : List (String × Body) :=
  textUtilities ++ fileUtilities ++ argumentUtilities ++ hostUtilities

/-- The utility of a name. -/
def find? (name : String) : Option Body := all.lookup name

end CountedStrings.Shell.Utility
