import SqlConsole.Keyed
import SqlConsole.Layout.Width
import SqlConsole.Shell.Size
import SqlConsole.Text.Blank
import SqlConsole.Text.Lowercase

/-!
# The terminal

The commands of the shell over a fixed list of files.
-/

namespace SqlConsole.Shell

structure Terminal where
  files : List Text := ["secret.png", "profile.png"]
  sizes : List (Text × Int) :=
    [(".", 4096), ("..", 4096), ("secret.png", 245760), ("profile.png", 153600)]
  deriving DecidableEq

structure Outcome where
  output : Text := ""
  image : Option Text := none
  clear : Bool := false
  enterSql : Bool := false
  deriving DecidableEq

namespace Terminal

def imageRoot : Text := "/data/images/"

def entryLine (t : Terminal) (human : Bool) (entry : Text) : Text :=
  let size := (Keyed.get? t.sizes entry).getD 0
  List.intercalate " " [
    if entry = "." ∨ entry = ".." then "drwxr-xr-x" else "-rw-r--r--",
    Layout.padLeft "1" 2,
    Layout.padRight "user" 6,
    Layout.padRight "user" 6,
    Layout.padLeft (if human then humanize (.integer size) else Text.integer size) 8,
    "Nov 19 11:34",
    entry]

/-- The files: with `a` the directories too, with `l` a line for each, with `h` sizes in units. -/
def list (t : Terminal) (options : Text) : Text :=
  let entries : List Text := if .char 'a' ∈ options then "." :: ".." :: t.files else t.files
  if .char 'l' ∈ options then
    List.intercalate "\n" ("total 456" :: entries.map (t.entryLine (.char 'h' ∈ options)))
  else List.intercalate "    " entries

def showImage (t : Terminal) (command : Text) : (arguments : List Text) → Outcome
  | [] => { output := "Error: " ++ command ++ " requires a filename argument" }
  | file :: _ =>
    if file ∈ t.files then { output := imageRoot ++ file, image := some (imageRoot ++ file) }
    else { output := "Error: Image \"" ++ file ++ "\" not found" }

/-- The options among arguments: the code points of those that start with a hyphen. -/
def optionsOf (arguments : List Text) : Text :=
  (arguments.filter fun argument => argument.head? == some (.char '-')).flatten.filter (· != '-')

def execute (t : Terminal) (line : Text) : Outcome :=
  match line.words with
  | [] => {}
  | name :: arguments =>
    if name.lower = "ls" then { output := t.list (optionsOf arguments) }
    else if name.lower = "imgcat" ∨ name.lower = "img2sixel" then t.showImage name arguments
    else if name.lower = "clear" then { clear := true }
    else if name.lower = "sql" then { clear := true, enterSql := true }
    else { output := "command not found: " ++ name }

end Terminal

end SqlConsole.Shell
