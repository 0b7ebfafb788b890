import CaseSheet.Fields
import CaseSheet.Path
/-!
# Files

The files that the program sees: a tree of directories and files, and the directory from which
paths are followed. Reading and writing are functions on this value; what an operation does to the
world is the difference between the tree before and after it.
-/

namespace CaseSheet

/-- A file or a directory. -/
inductive FileTree where
  /-- A file with its text; none if its bytes are not the UTF-8 form of a text. -/
  | file (text : Option String)
  /-- A directory, its entries in increasing order of their names. -/
  | directory (entries : List (String × FileTree))
deriving Inhabited, Repr

/-- Why an operation on a file fails. -/
inductive FileProblem where
  | notFound
  | alreadyExists
  | notADirectory
  | isADirectory
  | notText
deriving DecidableEq, Repr

/-- The wording of a problem. -/
def FileProblem.message : FileProblem → String
  | .notFound => "No such file or directory (os error 2)"
  | .alreadyExists => "File exists (os error 17)"
  | .notADirectory => "Not a directory (os error 20)"
  | .isADirectory => "Is a directory (os error 21)"
  | .notText => "stream did not contain valid UTF-8"

namespace FileTree

def empty : FileTree := .directory []

def isFile : FileTree → Bool
  | .file _ => true
  | .directory _ => false

/-- The entry of a directory. -/
def child? (t : FileTree) (name : String) : Option FileTree :=
  match t with
  | .directory entries => Fields.get? entries name
  | .file _ => none

/-- What stands under names, from the top down. -/
def at? : FileTree → List String → Option FileTree
  | t, [] => some t
  | t, n :: ns => (t.child? n).bind fun c => at? c ns

/-- Puts something under names, with the directories that lead to it; nothing can be put below a
file. -/
def putAt : FileTree → List String → FileTree → FileTree
  | _, [], new => new
  | .directory entries, n :: ns, new =>
    .directory (Fields.put n (putAt ((Fields.get? entries n).getD empty) ns new) entries)
  | .file text, _ :: _, _ => .file text

mutual

/-- Everything below a place, each with its names from the place down; what stands inside a
directory follows it. -/
def listing : List String → FileTree → List (List String × FileTree)
  | _, .file _ => []
  | loc, .directory entries => listingAll loc entries

/-- The entries of a directory with everything below them. -/
def listingAll : List String → List (String × FileTree) → List (List String × FileTree)
  | _, [] => []
  | loc, (n, t) :: rest => (loc ++ [n], t) :: (listing (loc ++ [n]) t ++ listingAll loc rest)

end

/-- Follows the pieces of a path from a directory. -/
def walk (t : FileTree) : List String → List (List Char) → Except FileProblem (List String)
  | loc, [] => .ok loc
  | loc, p :: ps =>
    match t.at? loc with
    | none => .error .notFound
    | some (.file _) => .error .notADirectory
    | some (.directory entries) =>
      if Path.isIdle p then walk t loc ps
      else if p = ['.', '.'] then walk t loc.dropLast ps
      else if (Fields.get? entries (String.ofList p)).isSome then
        walk t (loc ++ [String.ofList p]) ps
      else .error .notFound

/-- Why no directories are made behind a file. A path is tried from its end towards its front, until
one directory is made, and from there to its end again. -/
def inTheWay (made : Bool) (rest : List (List Char)) : FileProblem :=
  if rest.all (·.isEmpty) || (made && !rest.all Path.isIdle) then .alreadyExists
  else .notADirectory

/-- Follows the pieces of a path from a directory, with a new directory for each name that is not
there; `made` says whether there has been one. A failure leaves what has been made until then. A
name with only idle pieces behind it is not made if one of these is a dot. -/
def makeDirs : FileTree → (made : Bool) → List String → List (List Char) →
    Except (FileProblem × FileTree) FileTree
  | t, _, _, [] => .ok t
  | t, made, loc, p :: ps =>
    if Path.isIdle p then makeDirs t made loc ps
    else if p = ['.', '.'] then makeDirs t made loc.dropLast ps
    else
      let loc := loc ++ [String.ofList p]
      match t.at? loc with
      | some (.directory _) => makeDirs t made loc ps
      | some (.file _) => .error (inTheWay made ps, t)
      | none =>
        if ps.all Path.isIdle && ps.contains ['.'] then .error (.notFound, t)
        else makeDirs (t.putAt loc empty) true loc ps

end FileTree

/-- The files, with the directory from which paths are followed. -/
structure FileStore where
  tree : FileTree
  workingDir : List String

namespace FileStore

/-- The place from which a path is followed. -/
def origin (s : FileStore) (path : String) : List String :=
  if Path.isAbsolute path then [] else s.workingDir

/-- The place that a path leads to. -/
def resolve (s : FileStore) (path : String) : Except FileProblem (List String) :=
  if path.isEmpty then .error .notFound
  else s.tree.walk (s.origin path) (Path.pieces path.toList)

/-- What a path leads to. -/
def find (s : FileStore) (path : String) : Except FileProblem FileTree := do
  let loc ← s.resolve path
  match s.tree.at? loc with
  | some t => .ok t
  | none => .error .notFound

/-- Whether there is anything at a path. -/
def holds (s : FileStore) (path : String) : Bool := (s.find path).toOption.isSome

/-- Whether there is a file at a path. -/
def isFile (s : FileStore) (path : String) : Bool :=
  ((s.find path).toOption.map FileTree.isFile).getD false

/-- The text of the file at a path. -/
def readText (s : FileStore) (path : String) : Except FileProblem String :=
  match s.find path with
  | .error e => .error e
  | .ok (.directory _) => .error .isADirectory
  | .ok (.file none) => .error .notText
  | .ok (.file (some text)) => .ok text

/-- Makes the directories of a path that are not there. A failure leaves those that have been made
until then. -/
def createDirs (s : FileStore) (path : String) : Except (FileProblem × FileStore) FileStore :=
  match s.tree.makeDirs false (s.origin path) (Path.pieces path.toList) with
  | .ok tree => .ok { s with tree }
  | .error (e, tree) => .error (e, { s with tree })

/-- The place of the file that is written at a path: its directory must be there, and nothing may
stand behind its name. -/
def target (s : FileStore) (path : String) : Except FileProblem (List String) :=
  let pieces := Path.pieces path.toList
  let named := Text.dropEndWhile Path.isIdle pieces
  match named.getLast? with
  | none => .error (if path.isEmpty then .notFound else .isADirectory)
  | some last => do
    let loc ← s.tree.walk (s.origin path) named.dropLast
    match s.tree.at? loc with
    | none => .error .notFound
    | some (.file _) => .error .notADirectory
    | some (.directory _) =>
      if last = ['.', '.'] then .error .isADirectory
      else
        let loc := loc ++ [String.ofList last]
        let behind := pieces.drop named.length
        match s.tree.at? loc with
        | some (.directory _) => .error .isADirectory
        | some (.file _) =>
          if behind.isEmpty then .ok loc
          else .error (if behind.contains ['.'] then .notADirectory else .isADirectory)
        | none =>
          if behind.isEmpty then .ok loc
          else .error (if behind.contains ['.'] then .notFound else .isADirectory)

/-- Writes the text of the file at a path, in place of what it held. -/
def writeText (s : FileStore) (path text : String) : Except FileProblem FileStore :=
  (s.target path).map fun loc => { s with tree := s.tree.putAt loc (.file (some text)) }

end FileStore
end CaseSheet
