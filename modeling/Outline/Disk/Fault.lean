namespace Outline

inductive DiskFault where
  | missing
  | exists
  | notDirectory
  | isDirectory
  | nameTooLong
  | zeroByte
  | notText
  | other (text : String)
deriving Repr, DecidableEq

def DiskFault.message : DiskFault → String
  | .missing => "No such file or directory (os error 2)"
  | .exists => "File exists (os error 17)"
  | .notDirectory => "Not a directory (os error 20)"
  | .isDirectory => "Is a directory (os error 21)"
  | .nameTooLong => "File name too long (os error 36)"
  | .zeroByte => "file name contained an unexpected NUL byte"
  | .notText => "stream did not contain valid UTF-8"
  | .other text => text

end Outline
