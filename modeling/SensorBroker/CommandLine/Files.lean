/-
# Where files are found

Files are given as a function from paths to what is found there. A directory
that holds nothing but files gives such a function: dots and doubled slashes in
front of a name do not matter, a path that leads nowhere but up or down to a
directory finds that directory, and what starts at the root is not here.

Key definitions: `Files`, `Files.only`, `Files.inDirectory`.
-/
import SensorBroker.Config.Load

namespace SensorBroker.CommandLine

/-- What is found under each path. -/
abbrev Files := String → FileContent

namespace Files

/-- One file and nothing else. -/
def only (path : String) (content : FileContent) : Files :=
  fun p => if p = path then content else .missing

/-- Whether a part of a path leads to where one is already. -/
def staysHere (part : String) : Bool :=
  part = "" || part = "."

/-- What is found from within a directory that holds the files under the given
names. A name behind which the path goes on is no directory. -/
def inDirectory (named : Files) : Files := fun path =>
  let parts := path.splitOn "/"
  if path = "" then .missing
  else if parts.all fun part => staysHere part || part = ".." then
    .unreadable "Is a directory (os error 21)"
  else if path.startsWith "/" then .missing
  else
    match parts.dropWhile staysHere with
    | [name] => named name
    | _ => named path

end Files
end SensorBroker.CommandLine
