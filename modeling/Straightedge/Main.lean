import Straightedge.Tool.Transcript

namespace Straightedge.Tool

def existingFile (place : Place) : IO (List (Place × ByteArray)) := do
  try
    let bytes ← IO.FS.readBinFile place.spelling
    return [(place, bytes)]
  catch _ => return []

-- Only a directory holds an entry for itself.
def existingDirectory (place : Place) : IO (List Place) := do
  try
    let _ ← IO.FS.Handle.mk (place.spelling ++ "/.") .read
    return [place]
  catch _ => return []

-- Only the places that the paths of the request lead through are looked at.
def gather (request : Request) : IO Workspace := do
  let fromInput := !request.literal && request.source == "-"
  let input ← if fromInput then (← IO.getStdin).readBinToEnd else pure ByteArray.empty
  let sources := if request.literal || fromInput then [] else Place.visited request.source
  let places := sources ++ request.outputFile?.toList.flatMap Place.visited
  let directories ← places.mapM existingDirectory
  let files ← places.mapM existingFile
  return ⟨files.flatten, directories.flatten, input⟩

def gatherFor (words : List String) : IO Workspace :=
  match parseArguments words with
  | .ok (request, _) => gather request
  | .error _ => return ⟨[], [], ByteArray.empty⟩

def unseededJitter : IO Jitter := do
  let bytes ← IO.getRandomBytes 8
  return .seeded (bytes.toList.foldl (fun n byte => 256 * n + byte.toNat) 0)

def perform (transcript : Transcript) : IO UInt32 := do
  if let some (path, text) := transcript.written then IO.FS.writeFile path text
  IO.print transcript.output
  IO.eprint transcript.errors
  if let some failure := transcript.failure then IO.eprintln failure.message
  return UInt32.ofNat (transcript.exit.getD 1)

end Straightedge.Tool

open Straightedge.Tool in
def main (words : List String) : IO UInt32 := do
  let workspace ← gatherFor words
  perform (call workspace (← unseededJitter) words)
