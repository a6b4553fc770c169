import WidgetStage.Image.Picture
import WidgetStage.Status
import WidgetStage.Text.Blank

/-!
# Files

A table of files stands for the directory in which a stage runs. A path is walked from there,
component by component: a single dot stays, two dots go up, and every component but the last has
to name a directory. What lies above the directory is known to be there, and to hold nothing
else.

* `Files.lookup` — what a path names.
* `Files.write` — makes the directories on the way as it walks, also those left by two dots.
* `Files.remove` — takes away a file, but no directory.
* `Files.decode` — the picture that a path names.
-/

namespace WidgetStage

/-- What a file holds. -/
inductive FileContent where
  /-- A text. -/
  | text (s : String)
  /-- Bytes that are not a text. -/
  | binary
  /-- A picture. -/
  | picture (p : Picture)
  /-- A picture that cannot be decoded, perhaps for lack of memory. -/
  | broken (outOfMemory : Bool)
  /-- A directory. -/
  | directory

/-- Why a file could not be used. -/
inductive FileFault where
  | missing
  | notDirectory
  | isDirectory
  | nameTooLong
  | zeroByte
  | notText
  | outOfMemory
  | notFound
  | permissionDenied
  | unexpectedEnd
  deriving DecidableEq, Repr

/-- The text of the fault. -/
def FileFault.message : FileFault → String
  | .missing => "No such file or directory (os error 2)"
  | .notDirectory => "Not a directory (os error 20)"
  | .isDirectory => "Is a directory (os error 21)"
  | .nameTooLong => "File name too long (os error 36)"
  | .zeroByte => "file name contained an unexpected NUL byte"
  | .notText => "stream did not contain valid UTF-8"
  | .outOfMemory => "out of memory"
  | .notFound => "entity not found"
  | .permissionDenied => "permission denied"
  | .unexpectedEnd => "unexpected end of file"

/-- Why there is no picture. -/
inductive PictureError where
  /-- The file could not be read. -/
  | io (path : String) (fault : FileFault)
  /-- What was read is no picture, or too large a one. -/
  | decode (path : String) (outOfMemory : Bool)
  deriving DecidableEq, Repr

namespace PictureError

/-- The path that was asked for. -/
def path : PictureError → String
  | .io path _ => path
  | .decode path _ => path

/-- The text of the error. -/
def message : PictureError → String
  | .io path fault => "cannot read " ++ path ++ ": " ++ fault.message
  | .decode path _ => "cannot decode " ++ path

/-- Whether there was not enough memory. -/
def isOutOfMemory : PictureError → Bool
  | .io _ fault => fault == .outOfMemory
  | .decode _ outOfMemory => outOfMemory

/-- The error of the command that asked for the picture. -/
def toStageError (e : PictureError) : StageError :=
  if e.isOutOfMemory then .outOfMemory e.message else .io e.path e.message

end PictureError

/-- The files by the components of their paths. -/
structure Files where
  entries : List (List String × FileContent)

namespace Files

/-- A directory without files. -/
def empty : Files :=
  ⟨[]⟩

/-- The components of a path, some of which may be empty. -/
def components (path : String) : List String :=
  (Text.cut (· == '/') path.toList).map String.ofList

/-- The content under a path of components. -/
def find? (f : Files) (place : List String) : Option FileContent :=
  (f.entries.find? (fun e => e.1 == place)).map Prod.snd

/-- The greatest length of a component in bytes. -/
def nameMax : Nat := 255

/-- The least length of a path in bytes that is too long. -/
def pathMax : Nat := 4096

/-- The place of a file or a directory: its components, or `none` for a directory above that of
the table. -/
abbrev Place := Option (List String)

/-- The directory around a directory. -/
def parent : Place → Place
  | none => none
  | some [] => none
  | some d => some d.dropLast

/-- Walks on from a directory, and gives the place and the content of what is found. -/
def walk (f : Files) : Place → List String → Except FileFault (Place × FileContent)
  | dir, [] => .ok (dir, .directory)
  | dir, c :: cs =>
    if c = "" ∨ c = "." then walk f dir cs
    else if c = ".." then walk f (parent dir) cs
    else if nameMax < c.utf8ByteSize then .error .nameTooLong
    else
      match dir with
      | none => .error .missing
      | some d =>
        match f.find? (d ++ [c]) with
        | none => .error .missing
        | some .directory => walk f (some (d ++ [c])) cs
        | some content => if cs = [] then .ok (some (d ++ [c]), content) else .error .notDirectory

/-- What a path names, and its place. -/
def locate (f : Files) (path : String) : Except FileFault (Place × FileContent) :=
  if path.toList.contains '\x00' then .error .zeroByte
  else if pathMax ≤ path.utf8ByteSize then .error .nameTooLong
  else
    match components path with
    | [""] => .error .missing
    | "" :: cs => walk f none cs
    | cs => walk f (some []) cs

/-- What a path names. -/
def lookup (f : Files) (path : String) : Except FileFault FileContent :=
  (f.locate path).map Prod.snd

/-- Whether a component is the name of something, and not a step to where one is or goes back. -/
def isName (c : String) : Bool :=
  c ≠ "" && c ≠ "." && c ≠ ".." && c.utf8ByteSize ≤ nameMax && !c.toList.contains '\x00'

/-- Puts a content in a place. -/
def put (f : Files) (place : List String) (content : FileContent) : Files :=
  ⟨f.entries.filter (fun e => e.1 ≠ place) ++ [(place, content)]⟩

/-- Walks on from a directory, and makes directories where they are missing. The second part is
the directory in which the walk ends, or `none` if it cannot be made. -/
def makeDirectories (f : Files) : Place → List String → Files × Place
  | dir, [] => (f, dir)
  | dir, c :: cs =>
    if c = "" ∨ c = "." then makeDirectories f dir cs
    else if c = ".." then makeDirectories f (parent dir) cs
    else
      match dir with
      | none => (f, none)
      | some d =>
        match isName c, f.find? (d ++ [c]) with
        | true, none => makeDirectories (f.put (d ++ [c]) .directory) (some (d ++ [c])) cs
        | true, some .directory => makeDirectories f (some (d ++ [c])) cs
        | _, _ => (f, none)

/-- Puts a file into a directory, in the place of a file of its name but not of a directory. -/
def putInto (f : Files) (dir : Place) (name : String) (content : FileContent) : Files :=
  match dir with
  | none => f
  | some d =>
    match isName name, f.find? (d ++ [name]) with
    | false, _ => f
    | true, some .directory => f
    | true, _ => f.put (d ++ [name]) content

/-- Writes a file, or makes a directory, where a path leads, and makes the directories on the
way. The path to a file has to end in its name, without a slash or a dot after it; a dot at the
end of the path to a directory asks for one that is there already. -/
def write (f : Files) (path : String) (content : FileContent) : Files :=
  let cs := components path
  let start : Place := if cs.head? = some "" then none else some []
  let steps := cs.filter fun c => c ≠ "" && c ≠ "."
  match content with
  | .directory =>
    let toBeThere := (cs.filter (· ≠ "")).getLast? = some "."
    (f.makeDirectories start (if toBeThere then steps.dropLast else steps)).1
  | content =>
    let (g, dir) := f.makeDirectories start steps.dropLast
    g.putInto dir (cs.getLastD "") content

/-- Takes away the file that a path names, if it names one. -/
def remove (f : Files) (path : String) : Files :=
  match f.locate path with
  | .error _ => f
  | .ok (none, _) => f
  | .ok (some _, .directory) => f
  | .ok (some place, _) => ⟨f.entries.filter fun e => e.1 ≠ place⟩

/-- Whether a path names something that can be opened. -/
def isReadable (f : Files) (path : String) : Bool :=
  match f.lookup path with
  | .ok _ => true
  | .error _ => false

/-- The text that a path names. -/
def readText (f : Files) (path : String) : Except FileFault String :=
  match f.lookup path with
  | .error e => .error e
  | .ok .directory => .error .isDirectory
  | .ok (.text s) => .ok s
  | .ok _ => .error .notText

/-- The picture that a path names, turned upright if that is asked for. -/
def decode (f : Files) (path : String) (orient : Bool) : Except PictureError Pixmap :=
  match f.lookup path with
  | .error e => .error (.io path e)
  | .ok .directory => .error (.io path .isDirectory)
  | .ok (.picture p) => .ok (p.decode orient)
  | .ok (.broken outOfMemory) => .error (.decode path outOfMemory)
  | .ok (.text _) => .error (.decode path false)
  | .ok .binary => .error (.decode path false)

end Files

end WidgetStage
