namespace Straightedge

inductive PathFault where
  | missing
  | notDirectory
  | isDirectory
  | tooLong
  | nullCharacter
deriving DecidableEq

-- The names on the way from the working directory, or from the root if the first name is empty.
abbrev Place := List String

namespace Place

def root : Place := [""]

def up : String := ".."

def parent (place : Place) : Place :=
  if place = root then root
  else if place.all (· = up) then place ++ [up]
  else place.dropLast

def enter (place : Place) (name : String) : Place :=
  if name = "" ∨ name = "." then place
  else if name = up then place.parent
  else place ++ [name]

-- Names and paths are measured in bytes.
def longestName : Nat := 255

def pathBound : Nat := 4096

def spelling (place : Place) : String :=
  if place = root then "/" else if place = [] then "." else "/".intercalate place

def route (path : String) : Place × List String :=
  match path.splitOn "/" with
  | "" :: name :: names => (root, name :: names)
  | names => ([], names)

-- The places on the way, with the last one first.
def visited (path : String) : List Place :=
  let (start, names) := route path
  names.foldl (fun places name => (places.headD start).enter name :: places) [start]

end Place

def checkPath (path : String) : Except PathFault Unit :=
  if path.toList.contains '\x00' then .error .nullCharacter
  else if path = "" then .error .missing
  else if Place.pathBound ≤ path.utf8ByteSize then .error .tooLong
  else .ok ()

end Straightedge
