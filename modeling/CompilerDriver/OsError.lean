/-!
# Errors of the operating system

Why the operating system refuses a request, with its number and its text. The driver shows both:
`No such file or directory (os error 2)`.
-/

namespace CompilerDriver

/-- A reason for which the operating system refuses a request. -/
inductive OsError where
  | notPermitted
  | notFound
  | noSuchProcess
  | inputOutput
  | argumentsTooLong
  | execFormat
  | badDescriptor
  | outOfMemory
  | permissionDenied
  | busy
  | alreadyExists
  | crossDevice
  | notDirectory
  | isDirectory
  | invalidArgument
  | tooManyFiles
  | textBusy
  | noSpace
  | readOnly
  | nameTooLong
  | notEmpty
  | tooManyLinks
  /-- Any other number. -/
  | other (code : Int)
deriving DecidableEq, Repr

namespace OsError

/-- The number of an error. -/
def code : OsError → Int
  | notPermitted => 1
  | notFound => 2
  | noSuchProcess => 3
  | inputOutput => 5
  | argumentsTooLong => 7
  | execFormat => 8
  | badDescriptor => 9
  | outOfMemory => 12
  | permissionDenied => 13
  | busy => 16
  | alreadyExists => 17
  | crossDevice => 18
  | notDirectory => 20
  | isDirectory => 21
  | invalidArgument => 22
  | tooManyFiles => 24
  | textBusy => 26
  | noSpace => 28
  | readOnly => 30
  | nameTooLong => 36
  | notEmpty => 39
  | tooManyLinks => 40
  | other code => code

/-- The errors that have a name here. -/
def named : List OsError :=
  [notPermitted, notFound, noSuchProcess, inputOutput, argumentsTooLong, execFormat, badDescriptor,
    outOfMemory, permissionDenied, busy, alreadyExists, crossDevice, notDirectory, isDirectory,
    invalidArgument, tooManyFiles, textBusy, noSpace, readOnly, nameTooLong, notEmpty, tooManyLinks]

/-- The error of a number. -/
def ofCode (n : Int) : OsError := (named.find? fun e => e.code = n).getD (other n)

/-- What the operating system says about the errors it knows, in the order of their numbers. Two
numbers are not in use. -/
def texts : List String :=
  ["Success", "Operation not permitted", "No such file or directory", "No such process",
    "Interrupted system call", "Input/output error", "No such device or address",
    "Argument list too long", "Exec format error", "Bad file descriptor", "No child processes",
    "Resource temporarily unavailable", "Cannot allocate memory", "Permission denied",
    "Bad address", "Block device required", "Device or resource busy", "File exists",
    "Invalid cross-device link", "No such device", "Not a directory", "Is a directory",
    "Invalid argument", "Too many open files in system", "Too many open files",
    "Inappropriate ioctl for device", "Text file busy", "File too large", "No space left on device",
    "Illegal seek", "Read-only file system", "Too many links", "Broken pipe",
    "Numerical argument out of domain", "Numerical result out of range",
    "Resource deadlock avoided", "File name too long", "No locks available",
    "Function not implemented", "Directory not empty", "Too many levels of symbolic links",
    "Unknown error 41", "No message of desired type", "Identifier removed",
    "Channel number out of range", "Level 2 not synchronized", "Level 3 halted", "Level 3 reset",
    "Link number out of range", "Protocol driver not attached", "No CSI structure available",
    "Level 2 halted", "Invalid exchange", "Invalid request descriptor", "Exchange full", "No anode",
    "Invalid request code", "Invalid slot", "Unknown error 58", "Bad font file format",
    "Device not a stream", "No data available", "Timer expired", "Out of streams resources",
    "Machine is not on the network", "Package not installed", "Object is remote",
    "Link has been severed", "Advertise error", "Srmount error", "Communication error on send",
    "Protocol error", "Multihop attempted", "RFS specific error", "Bad message",
    "Value too large for defined data type", "Name not unique on network",
    "File descriptor in bad state", "Remote address changed",
    "Can not access a needed shared library", "Accessing a corrupted shared library",
    ".lib section in a.out corrupted", "Attempting to link in too many shared libraries",
    "Cannot exec a shared library directly", "Invalid or incomplete multibyte or wide character",
    "Interrupted system call should be restarted", "Streams pipe error", "Too many users",
    "Socket operation on non-socket", "Destination address required", "Message too long",
    "Protocol wrong type for socket", "Protocol not available", "Protocol not supported",
    "Socket type not supported", "Operation not supported", "Protocol family not supported",
    "Address family not supported by protocol", "Address already in use",
    "Cannot assign requested address", "Network is down", "Network is unreachable",
    "Network dropped connection on reset", "Software caused connection abort",
    "Connection reset by peer", "No buffer space available",
    "Transport endpoint is already connected", "Transport endpoint is not connected",
    "Cannot send after transport endpoint shutdown", "Too many references: cannot splice",
    "Connection timed out", "Connection refused", "Host is down", "No route to host",
    "Operation already in progress", "Operation now in progress", "Stale file handle",
    "Structure needs cleaning", "Not a XENIX named type file", "No XENIX semaphores available",
    "Is a named type file", "Remote I/O error", "Disk quota exceeded", "No medium found",
    "Wrong medium type", "Operation canceled", "Required key not available", "Key has expired",
    "Key has been revoked", "Key was rejected by service", "Owner died", "State not recoverable",
    "Operation not possible due to RF-kill", "Memory page has hardware error"]

/-- What the operating system says about an error. -/
def text (e : OsError) : String :=
  match e.code with
  | .ofNat n => texts[n]?.getD s!"Unknown error {n}"
  | .negSucc n => s!"Unknown error {Int.negSucc n}"

/-- The error as the driver shows it. -/
def message (e : OsError) : String := s!"{e.text} (os error {e.code})"

/-- A number names an error with that number. -/
theorem code_ofCode (n : Int) : (ofCode n).code = n := by
  unfold ofCode
  cases h : named.find? fun e => e.code = n with
  | none => rfl
  | some e => simpa using List.find?_some h

example : notFound.text = "No such file or directory" := rfl

example : (ofCode (-1)).text = "Unknown error -1" := rfl

end OsError

end CompilerDriver
