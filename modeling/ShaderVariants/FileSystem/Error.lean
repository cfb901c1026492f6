/-!
Why an access to the system can fail.
-/
namespace ShaderVariants

inductive SystemError where
  | notFound
  | permissionDenied
  | alreadyExists
  | notADirectory
  | isADirectory
  | invalidArgument
  | nameTooLong
  | directoryNotEmpty
  | notUtf8
  | nulInFileName
  | nulInArgument
  | noParent
  | described (text : String)
deriving DecidableEq, Repr

def SystemError.message : SystemError → String
  | .notFound => "No such file or directory (os error 2)"
  | .permissionDenied => "Permission denied (os error 13)"
  | .alreadyExists => "File exists (os error 17)"
  | .notADirectory => "Not a directory (os error 20)"
  | .isADirectory => "Is a directory (os error 21)"
  | .invalidArgument => "Invalid argument (os error 22)"
  | .nameTooLong => "File name too long (os error 36)"
  | .directoryNotEmpty => "Directory not empty (os error 39)"
  | .notUtf8 => "stream did not contain valid UTF-8"
  | .nulInFileName => "file name contained an unexpected NUL byte"
  | .nulInArgument => "nul byte found in provided data"
  | .noParent => "failed to create whole tree"
  | .described text => text

end ShaderVariants
