import PathTemplate.Failure

/-!
A directory of plain files, as far as reading files by path sees it.
-/

namespace PathTemplate

structure Directory where
  files : List (String × String)

namespace Directory

/-- The segments of a path that lead anywhere. -/
def segments (path : String) : List String :=
  (path.splitOn "/").filter (fun s => s ≠ "" && s ≠ ".")

/-- Read a file, given its path from the directory.  There is nothing to read outside of it. -/
def read (d : Directory) (path : String) : Except FileFault String :=
  if path.toList.contains '\x00' then .error .invalidName
  else if path = "" then .error .notFound
  else
    match segments path with
    | [] => .error .isADirectory
    | name :: rest =>
        if 255 < name.utf8ByteSize then .error .nameTooLong
        else if name = ".." && rest.all (· == "..") then .error .isADirectory
        else if path.startsWith "/" then .error .notFound
        else
          match d.files.lookup name with
          | none => .error .notFound
          | some text =>
              if rest = [] && path.endsWith name then .ok text else .error .notADirectory

end Directory
end PathTemplate
