import RunMeter.Text.Decimal

/-!
# RunMeter.System.Errno — error numbers of the system

An error number has a symbol and a description, and the system has a message of its own for it.  The three
texts are in one table; a number that the table does not hold has none of them.
-/

namespace RunMeter

/-- An error number of the system. -/
structure Errno where
  number : Int32
  deriving DecidableEq

namespace Errno

/-- What is known of one error number. -/
structure Entry where
  number : Nat
  symbol : String
  description : String
  message : String

/-- The error numbers of the system, in order. -/
def table : List Entry :=
  [⟨1, "EPERM", "Operation not permitted", "Operation not permitted"⟩,
   ⟨2, "ENOENT", "No such file or directory", "No such file or directory"⟩,
   ⟨3, "ESRCH", "No such process", "No such process"⟩,
   ⟨4, "EINTR", "Interrupted system call", "Interrupted system call"⟩,
   ⟨5, "EIO", "I/O error", "Input/output error"⟩,
   ⟨6, "ENXIO", "No such device or address", "No such device or address"⟩,
   ⟨7, "E2BIG", "Argument list too long", "Argument list too long"⟩,
   ⟨8, "ENOEXEC", "Exec format error", "Exec format error"⟩,
   ⟨9, "EBADF", "Bad file number", "Bad file descriptor"⟩,
   ⟨10, "ECHILD", "No child processes", "No child processes"⟩,
   ⟨11, "EAGAIN", "Try again", "Resource temporarily unavailable"⟩,
   ⟨12, "ENOMEM", "Out of memory", "Cannot allocate memory"⟩,
   ⟨13, "EACCES", "Permission denied", "Permission denied"⟩,
   ⟨14, "EFAULT", "Bad address", "Bad address"⟩,
   ⟨15, "ENOTBLK", "Block device required", "Block device required"⟩,
   ⟨16, "EBUSY", "Device or resource busy", "Device or resource busy"⟩,
   ⟨17, "EEXIST", "File exists", "File exists"⟩,
   ⟨18, "EXDEV", "Cross-device link", "Invalid cross-device link"⟩,
   ⟨19, "ENODEV", "No such device", "No such device"⟩,
   ⟨20, "ENOTDIR", "Not a directory", "Not a directory"⟩,
   ⟨21, "EISDIR", "Is a directory", "Is a directory"⟩,
   ⟨22, "EINVAL", "Invalid argument", "Invalid argument"⟩,
   ⟨23, "ENFILE", "File table overflow", "Too many open files in system"⟩,
   ⟨24, "EMFILE", "Too many open files", "Too many open files"⟩,
   ⟨25, "ENOTTY", "Not a typewriter", "Inappropriate ioctl for device"⟩,
   ⟨26, "ETXTBSY", "Text file busy", "Text file busy"⟩,
   ⟨27, "EFBIG", "File too large", "File too large"⟩,
   ⟨28, "ENOSPC", "No space left on device", "No space left on device"⟩,
   ⟨29, "ESPIPE", "Illegal seek", "Illegal seek"⟩,
   ⟨30, "EROFS", "Read-only file system", "Read-only file system"⟩,
   ⟨31, "EMLINK", "Too many links", "Too many links"⟩,
   ⟨32, "EPIPE", "Broken pipe", "Broken pipe"⟩,
   ⟨33, "EDOM", "Math argument out of domain of func", "Numerical argument out of domain"⟩,
   ⟨34, "ERANGE", "Math result not representable", "Numerical result out of range"⟩,
   ⟨35, "EDEADLK", "Resource deadlock would occur", "Resource deadlock avoided"⟩,
   ⟨36, "ENAMETOOLONG", "File name too long", "File name too long"⟩,
   ⟨37, "ENOLCK", "No record locks available", "No locks available"⟩,
   ⟨38, "ENOSYS", "Function not implemented", "Function not implemented"⟩,
   ⟨39, "ENOTEMPTY", "Directory not empty", "Directory not empty"⟩,
   ⟨40, "ELOOP", "Too many symbolic links encountered", "Too many levels of symbolic links"⟩,
   ⟨42, "ENOMSG", "No message of desired type", "No message of desired type"⟩,
   ⟨43, "EIDRM", "Identifier removed", "Identifier removed"⟩,
   ⟨44, "ECHRNG", "Channel number out of range", "Channel number out of range"⟩,
   ⟨45, "EL2NSYNC", "Level 2 not synchronized", "Level 2 not synchronized"⟩,
   ⟨46, "EL3HLT", "Level 3 halted", "Level 3 halted"⟩,
   ⟨47, "EL3RST", "Level 3 reset", "Level 3 reset"⟩,
   ⟨48, "ELNRNG", "Link number out of range", "Link number out of range"⟩,
   ⟨49, "EUNATCH", "Protocol driver not attached", "Protocol driver not attached"⟩,
   ⟨50, "ENOCSI", "No CSI structure available", "No CSI structure available"⟩,
   ⟨51, "EL2HLT", "Level 2 halted", "Level 2 halted"⟩,
   ⟨52, "EBADE", "Invalid exchange", "Invalid exchange"⟩,
   ⟨53, "EBADR", "Invalid request descriptor", "Invalid request descriptor"⟩,
   ⟨54, "EXFULL", "Exchange full", "Exchange full"⟩,
   ⟨55, "ENOANO", "No anode", "No anode"⟩,
   ⟨56, "EBADRQC", "Invalid request code", "Invalid request code"⟩,
   ⟨57, "EBADSLT", "Invalid slot", "Invalid slot"⟩,
   ⟨59, "EBFONT", "Bad font file format", "Bad font file format"⟩,
   ⟨60, "ENOSTR", "Device not a stream", "Device not a stream"⟩,
   ⟨61, "ENODATA", "No data available", "No data available"⟩,
   ⟨62, "ETIME", "Timer expired", "Timer expired"⟩,
   ⟨63, "ENOSR", "Out of streams resources", "Out of streams resources"⟩,
   ⟨64, "ENONET", "Machine is not on the network", "Machine is not on the network"⟩,
   ⟨65, "ENOPKG", "Package not installed", "Package not installed"⟩,
   ⟨66, "EREMOTE", "Object is remote", "Object is remote"⟩,
   ⟨67, "ENOLINK", "Link has been severed", "Link has been severed"⟩,
   ⟨68, "EADV", "Advertise error", "Advertise error"⟩,
   ⟨69, "ESRMNT", "Srmount error", "Srmount error"⟩,
   ⟨70, "ECOMM", "Communication error on send", "Communication error on send"⟩,
   ⟨71, "EPROTO", "Protocol error", "Protocol error"⟩,
   ⟨72, "EMULTIHOP", "Multihop attempted", "Multihop attempted"⟩,
   ⟨73, "EDOTDOT", "RFS specific error", "RFS specific error"⟩,
   ⟨74, "EBADMSG", "Not a data message", "Bad message"⟩,
   ⟨75, "EOVERFLOW", "Value too large for defined data type", "Value too large for defined data type"⟩,
   ⟨76, "ENOTUNIQ", "Name not unique on network", "Name not unique on network"⟩,
   ⟨77, "EBADFD", "File descriptor in bad state", "File descriptor in bad state"⟩,
   ⟨78, "EREMCHG", "Remote address changed", "Remote address changed"⟩,
   ⟨79, "ELIBACC", "Can not access a needed shared library", "Can not access a needed shared library"⟩,
   ⟨80, "ELIBBAD", "Accessing a corrupted shared library", "Accessing a corrupted shared library"⟩,
   ⟨81, "ELIBSCN", ".lib section in a.out corrupted", ".lib section in a.out corrupted"⟩,
   ⟨82, "ELIBMAX", "Attempting to link in too many shared libraries", "Attempting to link in too many shared libraries"⟩,
   ⟨83, "ELIBEXEC", "Cannot exec a shared library directly", "Cannot exec a shared library directly"⟩,
   ⟨84, "EILSEQ", "Illegal byte sequence", "Invalid or incomplete multibyte or wide character"⟩,
   ⟨85, "ERESTART", "Interrupted system call should be restarted", "Interrupted system call should be restarted"⟩,
   ⟨86, "ESTRPIPE", "Streams pipe error", "Streams pipe error"⟩,
   ⟨87, "EUSERS", "Too many users", "Too many users"⟩,
   ⟨88, "ENOTSOCK", "Socket operation on non-socket", "Socket operation on non-socket"⟩,
   ⟨89, "EDESTADDRREQ", "Destination address required", "Destination address required"⟩,
   ⟨90, "EMSGSIZE", "Message too long", "Message too long"⟩,
   ⟨91, "EPROTOTYPE", "Protocol wrong type for socket", "Protocol wrong type for socket"⟩,
   ⟨92, "ENOPROTOOPT", "Protocol not available", "Protocol not available"⟩,
   ⟨93, "EPROTONOSUPPORT", "Protocol not supported", "Protocol not supported"⟩,
   ⟨94, "ESOCKTNOSUPPORT", "Socket type not supported", "Socket type not supported"⟩,
   ⟨95, "EOPNOTSUPP", "Operation not supported on transport endpoint", "Operation not supported"⟩,
   ⟨96, "EPFNOSUPPORT", "Protocol family not supported", "Protocol family not supported"⟩,
   ⟨97, "EAFNOSUPPORT", "Address family not supported by protocol", "Address family not supported by protocol"⟩,
   ⟨98, "EADDRINUSE", "Address already in use", "Address already in use"⟩,
   ⟨99, "EADDRNOTAVAIL", "Cannot assign requested address", "Cannot assign requested address"⟩,
   ⟨100, "ENETDOWN", "Network is down", "Network is down"⟩,
   ⟨101, "ENETUNREACH", "Network is unreachable", "Network is unreachable"⟩,
   ⟨102, "ENETRESET", "Network dropped connection because of reset", "Network dropped connection on reset"⟩,
   ⟨103, "ECONNABORTED", "Software caused connection abort", "Software caused connection abort"⟩,
   ⟨104, "ECONNRESET", "Connection reset by peer", "Connection reset by peer"⟩,
   ⟨105, "ENOBUFS", "No buffer space available", "No buffer space available"⟩,
   ⟨106, "EISCONN", "Transport endpoint is already connected", "Transport endpoint is already connected"⟩,
   ⟨107, "ENOTCONN", "Transport endpoint is not connected", "Transport endpoint is not connected"⟩,
   ⟨108, "ESHUTDOWN", "Cannot send after transport endpoint shutdown", "Cannot send after transport endpoint shutdown"⟩,
   ⟨109, "ETOOMANYREFS", "Too many references: cannot splice", "Too many references: cannot splice"⟩,
   ⟨110, "ETIMEDOUT", "Connection timed out", "Connection timed out"⟩,
   ⟨111, "ECONNREFUSED", "Connection refused", "Connection refused"⟩,
   ⟨112, "EHOSTDOWN", "Host is down", "Host is down"⟩,
   ⟨113, "EHOSTUNREACH", "No route to host", "No route to host"⟩,
   ⟨114, "EALREADY", "Operation already in progress", "Operation already in progress"⟩,
   ⟨115, "EINPROGRESS", "Operation now in progress", "Operation now in progress"⟩,
   ⟨116, "ESTALE", "Stale file handle", "Stale file handle"⟩,
   ⟨117, "EUCLEAN", "Structure needs cleaning", "Structure needs cleaning"⟩,
   ⟨118, "ENOTNAM", "Not a XENIX named type file", "Not a XENIX named type file"⟩,
   ⟨119, "ENAVAIL", "No XENIX semaphores available", "No XENIX semaphores available"⟩,
   ⟨120, "EISNAM", "Is a named type file", "Is a named type file"⟩,
   ⟨121, "EREMOTEIO", "Remote I/O error", "Remote I/O error"⟩,
   ⟨122, "EDQUOT", "Quota exceeded", "Disk quota exceeded"⟩,
   ⟨123, "ENOMEDIUM", "No medium found", "No medium found"⟩,
   ⟨124, "EMEDIUMTYPE", "Wrong medium type", "Wrong medium type"⟩,
   ⟨125, "ECANCELED", "Operation canceled", "Operation canceled"⟩,
   ⟨126, "ENOKEY", "Required key not available", "Required key not available"⟩,
   ⟨127, "EKEYEXPIRED", "Key has expired", "Key has expired"⟩,
   ⟨128, "EKEYREVOKED", "Key has been revoked", "Key has been revoked"⟩,
   ⟨129, "EKEYREJECTED", "Key was rejected by service", "Key was rejected by service"⟩,
   ⟨130, "EOWNERDEAD", "Owner died", "Owner died"⟩,
   ⟨131, "ENOTRECOVERABLE", "State not recoverable", "State not recoverable"⟩,
   ⟨132, "ERFKILL", "Operation not possible due to RF-kill", "Operation not possible due to RF-kill"⟩,
   ⟨133, "EHWPOISON", "Memory page has hardware error", "Memory page has hardware error"⟩]

/-- The table's entry for a number. -/
def row? (e : Errno) : Option Entry :=
  table.find? fun entry => e.number.toInt == (entry.number : Int)

/-- The symbol and the description of an error number. -/
def describe (e : Errno) : String :=
  match e.row? with
  | some entry => entry.symbol ++ ": " ++ entry.description
  | none => "UnknownErrno: Unknown errno"

/-- The system's message for an error number. -/
def message (e : Errno) : String :=
  if e.number = 0 then "Success"
  else match e.row? with
    | some entry => entry.message
    | none => "Unknown error " ++ Decimal.ofInt e.number.toInt

/-- The operation is not permitted. -/
def notPermitted : Errno := ⟨1⟩

/-- There is no such file or directory. -/
def noEntry : Errno := ⟨2⟩

/-- There is no such process. -/
def noProcess : Errno := ⟨3⟩

/-- A caught signal came in between. -/
def interrupted : Errno := ⟨4⟩

/-- There is no such device or address. -/
def noDevice : Errno := ⟨6⟩

/-- The words of a command are too many or too long. -/
def tooBig : Errno := ⟨7⟩

/-- The program's file is in no executable format. -/
def execFormat : Errno := ⟨8⟩

/-- The descriptor is not open, or not for this use. -/
def badDescriptor : Errno := ⟨9⟩

/-- There is no child to wait for. -/
def noChild : Errno := ⟨10⟩

/-- The resource is used up for now. -/
def again : Errno := ⟨11⟩

/-- Access is denied. -/
def access : Errno := ⟨13⟩

/-- The file is in use. -/
def busy : Errno := ⟨16⟩

/-- The file is there already. -/
def fileExists : Errno := ⟨17⟩

/-- A part of the path that should be a directory is none. -/
def notDirectory : Errno := ⟨20⟩

/-- The file is a directory. -/
def isDirectory : Errno := ⟨21⟩

/-- An argument is invalid. -/
def invalid : Errno := ⟨22⟩

/-- The device is full. -/
def noSpace : Errno := ⟨28⟩

/-- There is no place to move to in a stream. -/
def illegalSeek : Errno := ⟨29⟩

/-- Nobody reads what is written. -/
def brokenPipe : Errno := ⟨32⟩

/-- A file name is too long. -/
def nameTooLong : Errno := ⟨36⟩

/-- The directory is not empty. -/
def notEmpty : Errno := ⟨39⟩

/-- Links or interpreters name one another without end. -/
def loop : Errno := ⟨40⟩

end Errno
end RunMeter
