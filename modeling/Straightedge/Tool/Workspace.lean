import Straightedge.Write
import Straightedge.Parse.Reading
import Straightedge.Tool.Path

namespace Straightedge

inductive Failure where
  | unknownFormat (name : Option String)
  | blankSeed
  | badPath (fault : PathFault) (path : String)
  | undecodable
  | unreadable (fault : Fault)
  | unwritable (error : WriteError)

def Fault.message : Fault → String
  | .violation error => error.message
  | .overflow cause => cause.message

def PathFault.message (path : String) : PathFault → String
  | .missing => "[Errno 2] No such file or directory: " ++ Text.quoted path
  | .notDirectory => "[Errno 20] Not a directory: " ++ Text.quoted path
  | .isDirectory => "[Errno 21] Is a directory: " ++ Text.quoted path
  | .tooLong => "[Errno 36] File name too long: " ++ Text.quoted path
  | .nullCharacter => "embedded null byte"

def Failure.message : Failure → String
  | .unknownFormat name => "Unknown output format: " ++ (name.map Text.quoted).getD "[]"
  | .blankSeed =>
      "The only supported seed types are: None,\nint, float, str, bytes, and bytearray."
  | .badPath fault path => fault.message path
  | .undecodable => "invalid UTF-8"
  | .unreadable fault => fault.message
  | .unwritable error => error.message

def unifyLineEnds : List Char → List Char
  | [] => []
  | '\r' :: '\n' :: rest => '\n' :: unifyLineEnds rest
  | '\r' :: rest => '\n' :: unifyLineEnds rest
  | c :: rest => c :: unifyLineEnds rest

def decode (bytes : ByteArray) : Except Failure String :=
  match String.fromUTF8? bytes with
  | some text => .ok (String.ofList (unifyLineEnds text.toList))
  | none => .error .undecodable

structure Workspace where
  files : List (Place × ByteArray)
  directories : List Place
  input : ByteArray

namespace Workspace

def file? (workspace : Workspace) (place : Place) : Option ByteArray := workspace.files.lookup place

-- The root, the working directory and all directories above it are always there.
def isDirectory (workspace : Workspace) (place : Place) : Bool :=
  place == Place.root || place.all (· = Place.up) || workspace.directories.contains place

def checkDirectory (workspace : Workspace) (place : Place) : Except PathFault Unit :=
  if workspace.isDirectory place then .ok ()
  else if (workspace.file? place).isSome then .error .notDirectory
  else .error .missing

-- The last name need not stand for anything.
def follow (workspace : Workspace) : Place → List String → Except PathFault Place
  | place, [] => .ok place
  | place, name :: rest => do
      workspace.checkDirectory place
      if Place.longestName < name.utf8ByteSize then .error .tooLong
      else workspace.follow (place.enter name) rest

def contents (workspace : Workspace) (path : String) : Except PathFault ByteArray := do
  checkPath path
  let (start, names) := Place.route path
  let place ← workspace.follow start names
  match workspace.file? place with
  | some bytes => return bytes
  | none => if workspace.isDirectory place then .error .isDirectory else .error .missing

def readFile (workspace : Workspace) (path : String) : Except Failure String :=
  match workspace.contents path with
  | .ok bytes => decode bytes
  | .error fault => .error (.badPath fault path)

-- A path that ends with a slash or with dots can only be a directory.
def target (workspace : Workspace) (path : String) : Except PathFault Place := do
  checkPath path
  let (start, names) := Place.route path
  let named := (names.reverse.dropWhile (· = "")).reverse
  let directory ← workspace.follow start named.dropLast
  workspace.checkDirectory directory
  let last := named.getLast?.getD ""
  if named.length < names.length ∨ last = "" ∨ last = "." ∨ last = Place.up then .error .isDirectory
  else if Place.longestName < last.utf8ByteSize then .error .tooLong
  else if workspace.isDirectory (directory.enter last) then .error .isDirectory
  else return directory.enter last

end Workspace

end Straightedge
