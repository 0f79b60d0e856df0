import HeaderNotes.Text.Utf8

/-!
Why a file cannot be read or written: the system refuses it, its content is not text, or the way of
writing has a reason of its own.
-/

namespace HeaderNotes

inductive SystemError
  | notFound
  | notDirectory
  | isDirectory
  | nameTooLong
  | nulInName
deriving DecidableEq, Repr

def SystemError.message : SystemError → String
  | notFound => "No such file or directory (os error 2)"
  | notDirectory => "Not a directory (os error 20)"
  | isDirectory => "Is a directory (os error 21)"
  | nameTooLong => "File name too long (os error 36)"
  | nulInName => "file name contained an unexpected NUL byte"

inductive Cause
  | system (error : SystemError)
  | notText (fault : Text.Utf8.Fault)
  | other (text : String)
deriving DecidableEq, Repr

def Cause.message : Cause → String
  | system error => error.message
  | notText fault => fault.message
  | other text => text

end HeaderNotes
