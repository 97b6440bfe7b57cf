import PerlSymbols.Text.Search

/-!
# Destinations of log records

A destination is a standard stream or the absolute path of a file. Paths are brought to a normal
form: single slashes, no dots, no slash at the end. Two slashes in front stay two. A tilde in front
of the first name stands for the home directory of the user of that name, and a tilde alone for the
own one.
-/

namespace PerlSymbols.Settings

/-- A path: the slashes in front, and the names. -/
structure Path where
  root : Nat
  names : List (List Char)
  deriving DecidableEq

/-- Why a text is no destination. -/
inductive DestinationError where
  | relative
  /-- Nobody can have the name of the user. -/
  | nullInName
  | unknownHome
  deriving DecidableEq

/-- The home directories that are known, by the names of their users. The own one has no name. -/
structure Homes where
  find? : String → Option String

def Homes.only (home : String) : Homes where
  find? user := if user = "" then some home else none

instance : Coe String Homes := ⟨Homes.only⟩

namespace Path

/-- How many slashes a path with so many in front has in its normal form. -/
def rootOf (slashes : Nat) : Nat :=
  if slashes == 2 then 2 else min slashes 1

def isName (cs : List Char) : Bool :=
  !cs.isEmpty && cs != ['.']

def ofChars (cs : List Char) : Path where
  root := rootOf (cs.takeWhile (· == '/')).length
  names := (Text.pieces '/' cs).filter isName

def toChars (p : Path) : List Char :=
  List.replicate p.root '/' ++ ['/'].intercalate p.names

def isAbsolute (p : Path) : Bool :=
  p.root != 0

/-- A home directory; one that is not set is the root. -/
def ofHome (cs : List Char) : Path :=
  if cs.all (· == '/') then ⟨1, []⟩ else .ofChars cs

end Path

/-- The home directory of a user; it must not stand for another one itself. -/
def Homes.locate (homes : Homes) (user : List Char) : Except DestinationError Path :=
  if user.contains '\x00' then .error .nullInName
  else match homes.find? (String.ofList user) with
    | some home =>
      if home.toList.head? == some '~' then .error .unknownHome else .ok (.ofHome home.toList)
    | none => .error .unknownHome

/-- Puts a home directory in the place of a tilde. -/
def Path.expand (homes : Homes) (p : Path) : Except DestinationError Path :=
  match p.root, p.names with
  | 0, ('~' :: user) :: names => do
    let home ← homes.locate user
    return { home with names := home.names ++ names }
  | _, _ => .ok p

/-- The destination that a text names. -/
def destination (homes : Homes) (text : String) : Except DestinationError String :=
  if text == "stderr" || text == "stdout" then .ok text
  else do
    let path ← Path.expand homes (.ofChars text.toList)
    if path.isAbsolute then return String.ofList path.toChars else throw .relative

end PerlSymbols.Settings
