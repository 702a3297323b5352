/-! The reasons for which the operating system refuses a request, with their numbers and texts. -/

namespace Wakeful

/-- A reason that the operating system gives for a refusal. -/
inductive Errno where
  /-- The operation is reserved. -/
  | notPermitted
  /-- A name on the way does not exist. -/
  | notFound
  /-- What lies there cannot be opened. -/
  | notOpenable
  /-- What is to be handed over to a program is too long. -/
  | argumentsTooLong
  /-- A file is no program. -/
  | notExecutable
  /-- The descriptor is not open. -/
  | badDescriptor
  /-- Resources are short for the moment. -/
  | tryAgain
  /-- The permissions forbid it. -/
  | permissionDenied
  /-- The object is in use. -/
  | busy
  /-- The name is taken. -/
  | alreadyExists
  /-- The two names lie on different volumes. -/
  | crossesDevices
  /-- A name that has to be a directory is something else. -/
  | notADirectory
  /-- A directory stands where none is wanted. -/
  | isADirectory
  /-- The request makes no sense. -/
  | invalid
  /-- No space is left for what is written. -/
  | noSpace
  /-- The reader of a channel is gone. -/
  | brokenPipe
  /-- A name or a whole path is too long. -/
  | nameTooLong
  /-- The directory still has entries. -/
  | notEmpty
  /-- Too many links were followed. -/
  | tooManyLinks
  /-- A socket takes connections of another kind. -/
  | wrongProtocol
  /-- The address is taken. -/
  | addressInUse
  /-- The peer dropped the connection. -/
  | connectionReset
  /-- Nobody listens. -/
  | connectionRefused
  deriving DecidableEq, Repr

namespace Errno

/-- The number by which the system names a reason. -/
def number : Errno → Nat
  -- These are the numbers of the system's own tables.
  | notPermitted => 1
  | notFound => 2
  | notOpenable => 6
  | argumentsTooLong => 7
  | notExecutable => 8
  | badDescriptor => 9
  | tryAgain => 11
  | permissionDenied => 13
  | busy => 16
  | alreadyExists => 17
  | crossesDevices => 18
  | notADirectory => 20
  | isADirectory => 21
  | invalid => 22
  | noSpace => 28
  | brokenPipe => 32
  | nameTooLong => 36
  | notEmpty => 39
  | tooManyLinks => 40
  | wrongProtocol => 91
  | addressInUse => 98
  | connectionReset => 104
  | connectionRefused => 111

/-- The system's own words for a reason. -/
def text : Errno → String
  -- These are the words of the system's library.
  | notPermitted => "Operation not permitted"
  | notFound => "No such file or directory"
  | notOpenable => "No such device or address"
  | argumentsTooLong => "Argument list too long"
  | notExecutable => "Exec format error"
  | badDescriptor => "Bad file descriptor"
  | tryAgain => "Resource temporarily unavailable"
  | permissionDenied => "Permission denied"
  | busy => "Device or resource busy"
  | alreadyExists => "File exists"
  | crossesDevices => "Invalid cross-device link"
  | notADirectory => "Not a directory"
  | isADirectory => "Is a directory"
  | invalid => "Invalid argument"
  | noSpace => "No space left on device"
  | brokenPipe => "Broken pipe"
  | nameTooLong => "File name too long"
  | notEmpty => "Directory not empty"
  | tooManyLinks => "Too many levels of symbolic links"
  | wrongProtocol => "Protocol wrong type for socket"
  | addressInUse => "Address already in use"
  | connectionReset => "Connection reset by peer"
  | connectionRefused => "Connection refused"

end Errno

/-- Why an operation on files, sockets or programs failed. -/
inductive IoError where
  /-- The system refused. -/
  | refused (reason : Errno)
  /-- A path held the octet that ends names. -/
  | nulInPath
  /-- A program, argument or variable held the octet that ends them. -/
  | nulInData
  /-- A socket path held the octet that ends names. -/
  | nulInSocketPath
  /-- A socket path does not fit into an address. -/
  | socketPathTooLong
  /-- A socket name outside the tree does not fit into an address. -/
  | socketNameTooLong
  /-- A file to be read as text is not text. -/
  | notText
  deriving DecidableEq, Repr

/-- The words for a failed operation. -/
def IoError.message : IoError → String
  -- A refusal is followed by its number.
  | refused reason => reason.text ++ " (os error " ++ toString reason.number ++ ")"
  | nulInPath => "file name contained an unexpected NUL byte"
  | nulInData => "nul byte found in provided data"
  | nulInSocketPath => "paths must not contain interior null bytes"
  | socketPathTooLong => "path must be shorter than SUN_LEN"
  | socketNameTooLong => "abstract socket name must be shorter than SUN_LEN"
  | notText => "stream did not contain valid UTF-8"

end Wakeful
