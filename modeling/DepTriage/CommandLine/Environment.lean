import DepTriage.Git.Checkout
import DepTriage.Http.Client
import DepTriage.JavaScript.Analysis
import DepTriage.Time.Timestamp

/-! # The surroundings of the program

What the program asks of the machine it runs on: files, two streams of output, a clock, the network
and `git`. All of it answers in some monad, so that the program is the same on recorded answers. -/

namespace DepTriage

/-- What stands under a path. -/
inductive FileTree where
  | file
  | directory (entries : List (String × FileTree))
  /-- What is neither, such as a symbolic link. -/
  | other
  /-- What cannot be read, and why. -/
  | broken (cause : String)
deriving Inhabited

namespace FileTree

/-- The path of an entry of a directory. -/
def join (directory name : String) : String :=
  if directory.endsWith "/" then directory ++ name else directory ++ "/" ++ name

/-- Puts an entry in its place among others that are in ascending order of their names. -/
def insertNamed {α : Type} (entry : String × α) : List (String × α) → List (String × α)
  | [] => [entry]
  | next :: entries =>
    if entry.1 < next.1 then entry :: next :: entries else next :: insertNamed entry entries

mutual

/-- The paths of the files of a tree that stands under a path. A directory's entries come in
ascending order of their names; if something cannot be read, there is only the cause. -/
def files (path : String) : FileTree → Except String (List String)
  | file => .ok [path]
  | directory entries => do
    return ((← entryFiles path entries).foldr insertNamed []).flatMap (·.2)
  | other => .ok []
  | broken cause => .error cause

/-- The files of each entry of a directory, with the entry's name. -/
def entryFiles (path : String) :
    List (String × FileTree) → Except String (List (String × List String))
  | [] => .ok []
  | (name, tree) :: entries => do
    return (name, ← files (join path name) tree) :: (← entryFiles path entries)

end

end FileTree

/-- The machine that the program runs on. Where something fails, a text says why. -/
structure Environment (m : Type → Type) where
  now : m Timestamp
  /-- Where the configuration file belongs. -/
  configPath : String
  /-- The token for GitHub that the environment holds. -/
  token : Option String
  /-- Whether anything stands under a path. -/
  pathExists : (path : String) → m Bool
  isFile : (path : String) → m Bool
  content : (path : String) → m (Except String ByteArray)
  /-- The tree that stands under a path, or a broken one. -/
  tree : (path : String) → m FileTree
  save : (path text : String) → m (Except String Unit)
  /-- Creates the directory that a path stands in, if there is none. -/
  createParents : (path : String) → m (Except String Unit)
  print : (text : String) → m Unit
  /-- Tells the user of a file that was skipped. -/
  tellSkipped : SkippedFile → m Unit
  http : Http.Transport m
  git : Git.Program m

end DepTriage
