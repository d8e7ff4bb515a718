/-!
# Files

What stands at paths, as the program finds it when it starts.
-/

namespace Gatehouse

/-- What stands at a path. -/
inductive FileEntry
  | content (bytes : List UInt8)
  | directory

/-- The entries by their paths; elsewhere there is nothing. -/
structure Files where
  entry : String → Option FileEntry

namespace Files

/-- The content of a file; a directory is none. -/
def content? (files : Files) (path : String) : Option (List UInt8) :=
  match files.entry path with
  | some (.content bytes) => some bytes
  | _ => none

/-- The files of a list; of several entries for one path the first counts. -/
def ofList (entries : List (String × FileEntry)) : Files := ⟨fun path => List.lookup path entries⟩

end Files

end Gatehouse
