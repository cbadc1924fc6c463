import WirelessSelection.Codec.Format

namespace WirelessSelection.CommandLine

inductive FileError
  | notFound
  | notDirectory
  | isDirectory
  | nameTooLong
  | other (message : String)
  deriving DecidableEq, Repr

def FileError.message : FileError → String
  | notFound => "No such file or directory (os error 2)"
  | notDirectory => "Not a directory (os error 20)"
  | isDirectory => "Is a directory (os error 21)"
  | nameTooLong => "File name too long (os error 36)"
  | other message => message

structure Host (m : Type → Type) where
  read : String → m (Except FileError Bytes)
  isPresent : String → m Bool
  write : String → Bytes → m (Except FileError Unit)
  print : String → m Unit

end WirelessSelection.CommandLine
