import SwiftExistential.Utility.Amounts
import SwiftExistential.Utility.Awk
import SwiftExistential.Utility.Backup
import SwiftExistential.Utility.Batches
import SwiftExistential.Utility.BlockCopy
import SwiftExistential.Utility.Bytes
import SwiftExistential.Utility.Calculate
import SwiftExistential.Utility.Characters
import SwiftExistential.Utility.Checksum
import SwiftExistential.Utility.Columns
import SwiftExistential.Utility.Content
import SwiftExistential.Utility.Copy
import SwiftExistential.Utility.Counts
import SwiftExistential.Utility.Difference
import SwiftExistential.Utility.Dump
import SwiftExistential.Utility.Encoding
import SwiftExistential.Utility.Ends
import SwiftExistential.Utility.Environment
import SwiftExistential.Utility.Fill
import SwiftExistential.Utility.Find
import SwiftExistential.Utility.Getopt
import SwiftExistential.Utility.Identity
import SwiftExistential.Utility.Launching
import SwiftExistential.Utility.Listing
import SwiftExistential.Utility.Merging
import SwiftExistential.Utility.Modes
import SwiftExistential.Utility.Move
import SwiftExistential.Utility.NewFiles
import SwiftExistential.Utility.Numbering
import SwiftExistential.Utility.Numbers
import SwiftExistential.Utility.Options
import SwiftExistential.Utility.Order
import SwiftExistential.Utility.Pages
import SwiftExistential.Utility.Pieces
import SwiftExistential.Utility.Reconcile
import SwiftExistential.Utility.Search
import SwiftExistential.Utility.Shuffle
import SwiftExistential.Utility.Status
import SwiftExistential.Utility.Stream.Run
import SwiftExistential.Utility.Times
import SwiftExistential.Utility.Truth
import SwiftExistential.Utility.Usage
import SwiftExistential.Utility.Writing

/-!
# The programs of the system

The names of the programs that a shell finds in the directories of the system, each with what runs
under it. Everything above this module speaks of programs by their names only.

There are three kinds: programs that end with a status, programs in whose place another one may
start, and the shell itself. `names` has all of them, and the tree that a shell starts with has a
file for each.
-/

set_option autoImplicit false

namespace SwiftExistential.Utility

open Process

def table : List (String × Utility) :=
  [("[", testAs "["), ("arch", answers "arch" processorName), ("awk", awk),
    ("b2sum", sumAs "b2sum" .blake2b), ("base32", encodeAs "base32" Encoding.usual32),
    ("base64", encodeAs "base64" Encoding.usual64), ("basename", basename), ("basenc", basenc),
    ("cat", cat), ("chgrp", chownAs "chgrp" true), ("chmod", chmod), ("chown", chownAs "chown" false),
    ("cksum", cksum), ("cmp", cmp), ("comm", comm), ("cp", cp), ("csplit", csplit), ("cut", cut),
    ("date", date), ("dd", dd), ("diff", diff), ("diff3", diff3), ("dir", lsAs "dir" .columns (some .escape)),
    ("dirname", dirname), ("du", du), ("echo", echo), ("egrep", grepAs 'E'), ("expand", expand),
    ("expr", expr), ("factor", factor), ("false", justEnds "false" 1), ("fgrep", grepAs 'F'),
    ("find", find), ("fmt", fmt), ("fold", fold), ("getconf", getconf), ("getopt", getopt),
    ("grep", grepAs 'G'), ("groups", groups), ("head", head), ("hostid", answers "hostid" "007f0100"),
    ("hostname", hostname), ("id", id'), ("install", install), ("join", join), ("link", link),
    ("ln", ln), ("logname", logname), ("ls", lsAs "ls" .single none), ("mawk", awk),
    ("md5sum", sumAs "md5sum" .md5), ("mkdir", mkdir), ("mktemp", mktemp), ("mv", mv), ("nawk", awk),
    ("nl", nl), ("nproc", nproc), ("numfmt", numfmt), ("od", od), ("paste", paste),
    ("pathchk", pathchk), ("pr", pr), ("printenv", printenv), ("printf", printf), ("pwd", pwd),
    ("readlink", readlink), ("realpath", realpath), ("rev", rev), ("rm", rm), ("rmdir", rmdir),
    ("sdiff", sdiff), ("sed", Stream.sed), ("seq", seq), ("sha1sum", sumAs "sha1sum" .sha1),
    ("sha224sum", sumAs "sha224sum" .sha224), ("sha256sum", sumAs "sha256sum" .sha256),
    ("sha384sum", sumAs "sha384sum" .sha384), ("sha512sum", sumAs "sha512sum" .sha512), ("shuf", shuf),
    ("sleep", sleep), ("sort", sort), ("split", split), ("stat", stat), ("sum", sum), ("sync", sync),
    ("tac", tac), ("tail", tail), ("tee", tee), ("test", testAs "test"), ("touch", touch), ("tr", tr),
    ("true", justEnds "true" 0), ("truncate", truncate), ("tsort", tsort), ("tty", tty),
    ("uname", uname), ("unexpand", unexpand), ("uniq", uniq), ("unlink", unlink), ("users", users),
    ("vdir", lsAs "vdir" .long (some .escape)), ("wc", wc), ("which", which), ("whoami", whoami),
    ("xargs", xargs), ("yes", yes)]

def shellNames : List String := ["sh", "dash", "bash"]

/-- The programs that another one may take the place of. -/
def starters : List (String × Starter) :=
  [("env", env), ("nice", nice), ("nohup", nohup), ("setsid", setsid), ("stdbuf", stdbuf),
    ("timeout", timeout)]

def names : List String := shellNames ++ starters.map Prod.fst ++ table.map Prod.fst

def find? (name : Text) : Option Starter :=
  let key := String.ofList name
  match starters.lookup key with
  | some starter => some starter
  | none => (table.lookup key).map Utility.starter

end SwiftExistential.Utility
