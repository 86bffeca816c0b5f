/-!
# Hosts

What a command sees of the place where it runs: variables, and the texts of files.

* `Host` — the questions that a command asks;
* `Folder` — a host in memory.
-/

namespace Tickwise

/-- Where a command runs. -/
class Host (m : Type → Type) where
  /-- The value of a variable, if it is set. -/
  lookUp (name : String) : m (Option String)
  /-- The text of a file, if it can be read. -/
  textOf (path : String) : m (Option String)

/-- The variables and the files of a host in memory. -/
structure Folder where
  environment : List (String × String)
  files : List (String × String)

namespace Folder

/-- The steps of a path, without those that lead nowhere. -/
def steps (path : String) : List (List Char) :=
  (path.toList.splitOn '/').filter fun step => step ≠ [] && step ≠ ['.']

/-- The text of the file at a path within the folder. -/
def textAt? (folder : Folder) (path : String) : Option String :=
  if path.startsWith "/" ∨ path.endsWith "/" then none
  else (folder.files.find? fun file => steps file.1 = steps path).map Prod.snd

instance : Host (ReaderM Folder) where
  lookUp name := do return (← read).environment.lookup name
  textOf path := do return (← read).textAt? path

end Folder

end Tickwise
