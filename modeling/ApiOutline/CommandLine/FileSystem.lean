/-!
File systems, as far as a run of the command line has to do with them: a file is read as a whole,
and written as a whole or not at all.
-/

set_option autoImplicit false

namespace ApiOutline.CommandLine

/-- Why a file cannot be read as text, or written. -/
inductive FileFault where
  | notFound
  | notDirectory
  | isDirectory
  | nameTooLong
  | notText
  | other (message : String)

def FileFault.message : FileFault → String
  | .notFound => "No such file or directory (os error 2)"
  | .notDirectory => "Not a directory (os error 20)"
  | .isDirectory => "Is a directory (os error 21)"
  | .nameTooLong => "File name too long (os error 36)"
  | .notText => "stream did not contain valid UTF-8"
  | .other message => message

/-- Reading and writing at a path, where `σ` is what there is in the way of files. A write that
fails leaves it as it was. -/
structure FileSystem (σ : Type) where
  read : σ → String → Except FileFault ByteArray
  write : σ → String → ByteArray → Except FileFault σ

end ApiOutline.CommandLine
