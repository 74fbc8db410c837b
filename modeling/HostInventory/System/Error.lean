import HostInventory.Text.Decimal

/-!
# Errors of the operating system

An operation on files or processes fails with a number from the system, with a kind alone, or with
a text of its own. Numbers have a fixed text and fall into kinds, so that a caller can react to a
kind without knowing numbers.
-/

namespace HostInventory

inductive SystemError.Kind where
  | addrInUse
  | addrNotAvailable
  | alreadyExists
  | argumentListTooLong
  | brokenPipe
  | connectionAborted
  | connectionRefused
  | connectionReset
  | crossesDevices
  | deadlock
  | directoryNotEmpty
  | executableFileBusy
  | fileTooLarge
  | filesystemLoop
  | hostUnreachable
  | inProgress
  | interrupted
  | invalidData
  | invalidFilename
  | invalidInput
  | isADirectory
  | networkDown
  | networkUnreachable
  | notADirectory
  | notConnected
  | notFound
  | notSeekable
  | other
  | outOfMemory
  | permissionDenied
  | quotaExceeded
  | readOnlyFilesystem
  | resourceBusy
  | staleNetworkFileHandle
  | storageFull
  | timedOut
  | tooManyLinks
  | uncategorized
  | unexpectedEof
  | unsupported
  | wouldBlock
  | writeZero
deriving Repr, DecidableEq

inductive SystemError where
  | number (n : Nat)
  /-- A kind alone. -/
  | bare (kind : SystemError.Kind)
  /-- A kind with a text of its own. -/
  | described (kind : SystemError.Kind) (text : String)
deriving Repr, DecidableEq

namespace SystemError

/-- Each kind with its name and the text of a failure that has no other text. -/
def Kind.table : List (Kind × String × String) := [
  (.addrInUse, "AddrInUse", "address in use"),
  (.addrNotAvailable, "AddrNotAvailable", "address not available"),
  (.alreadyExists, "AlreadyExists", "entity already exists"),
  (.argumentListTooLong, "ArgumentListTooLong", "argument list too long"),
  (.brokenPipe, "BrokenPipe", "broken pipe"),
  (.connectionAborted, "ConnectionAborted", "connection aborted"),
  (.connectionRefused, "ConnectionRefused", "connection refused"),
  (.connectionReset, "ConnectionReset", "connection reset"),
  (.crossesDevices, "CrossesDevices", "cross-device link or rename"),
  (.deadlock, "Deadlock", "deadlock"),
  (.directoryNotEmpty, "DirectoryNotEmpty", "directory not empty"),
  (.executableFileBusy, "ExecutableFileBusy", "executable file busy"),
  (.fileTooLarge, "FileTooLarge", "file too large"),
  (.filesystemLoop, "FilesystemLoop", "filesystem loop or indirection limit (e.g. symlink loop)"),
  (.hostUnreachable, "HostUnreachable", "host unreachable"),
  (.inProgress, "InProgress", "in progress"),
  (.interrupted, "Interrupted", "operation interrupted"),
  (.invalidData, "InvalidData", "invalid data"),
  (.invalidFilename, "InvalidFilename", "invalid filename"),
  (.invalidInput, "InvalidInput", "invalid input parameter"),
  (.isADirectory, "IsADirectory", "is a directory"),
  (.networkDown, "NetworkDown", "network down"),
  (.networkUnreachable, "NetworkUnreachable", "network unreachable"),
  (.notADirectory, "NotADirectory", "not a directory"),
  (.notConnected, "NotConnected", "not connected"),
  (.notFound, "NotFound", "entity not found"),
  (.notSeekable, "NotSeekable", "seek on unseekable file"),
  (.other, "Other", "other error"),
  (.outOfMemory, "OutOfMemory", "out of memory"),
  (.permissionDenied, "PermissionDenied", "permission denied"),
  (.quotaExceeded, "QuotaExceeded", "quota exceeded"),
  (.readOnlyFilesystem, "ReadOnlyFilesystem", "read-only filesystem or storage medium"),
  (.resourceBusy, "ResourceBusy", "resource busy"),
  (.staleNetworkFileHandle, "StaleNetworkFileHandle", "stale network file handle"),
  (.storageFull, "StorageFull", "no storage space"),
  (.timedOut, "TimedOut", "timed out"),
  (.tooManyLinks, "TooManyLinks", "too many links"),
  (.uncategorized, "Uncategorized", "uncategorized error"),
  (.unexpectedEof, "UnexpectedEof", "unexpected end of file"),
  (.unsupported, "Unsupported", "unsupported"),
  (.wouldBlock, "WouldBlock", "operation would block"),
  (.writeZero, "WriteZero", "write zero")]

def Kind.name (k : Kind) : String :=
  ((Kind.table.lookup k).map (·.1)).getD ""

def Kind.text (k : Kind) : String :=
  ((Kind.table.lookup k).map (·.2)).getD ""

def Kind.ofName? (name : String) : Option Kind :=
  (Kind.table.find? (·.2.1 == name)).map (·.1)

/-- The numbers that fall into a kind; all others are uncategorized. -/
def numberKinds : List (Nat × Kind) := [
  (1, .permissionDenied), (2, .notFound), (4, .interrupted), (7, .argumentListTooLong),
  (11, .wouldBlock), (12, .outOfMemory), (13, .permissionDenied), (16, .resourceBusy),
  (17, .alreadyExists), (18, .crossesDevices), (20, .notADirectory), (21, .isADirectory),
  (22, .invalidInput), (26, .executableFileBusy), (27, .fileTooLarge), (28, .storageFull),
  (29, .notSeekable), (30, .readOnlyFilesystem), (31, .tooManyLinks), (32, .brokenPipe),
  (35, .deadlock), (36, .invalidFilename), (38, .unsupported), (39, .directoryNotEmpty),
  (40, .filesystemLoop), (95, .unsupported), (98, .addrInUse), (99, .addrNotAvailable),
  (100, .networkDown), (101, .networkUnreachable), (103, .connectionAborted),
  (104, .connectionReset), (107, .notConnected), (110, .timedOut), (111, .connectionRefused),
  (113, .hostUnreachable), (115, .inProgress), (116, .staleNetworkFileHandle),
  (122, .quotaExceeded)]

def numberTexts : List (Nat × String) := [
  (1, "Operation not permitted"), (2, "No such file or directory"), (3, "No such process"),
  (4, "Interrupted system call"), (5, "Input/output error"), (6, "No such device or address"),
  (7, "Argument list too long"), (8, "Exec format error"), (9, "Bad file descriptor"),
  (10, "No child processes"), (11, "Resource temporarily unavailable"),
  (12, "Cannot allocate memory"), (13, "Permission denied"), (14, "Bad address"),
  (15, "Block device required"), (16, "Device or resource busy"), (17, "File exists"),
  (18, "Invalid cross-device link"), (19, "No such device"), (20, "Not a directory"),
  (21, "Is a directory"), (22, "Invalid argument"), (23, "Too many open files in system"),
  (24, "Too many open files"), (25, "Inappropriate ioctl for device"), (26, "Text file busy"),
  (27, "File too large"), (28, "No space left on device"), (29, "Illegal seek"),
  (30, "Read-only file system"), (31, "Too many links"), (32, "Broken pipe"),
  (33, "Numerical argument out of domain"), (34, "Numerical result out of range"),
  (35, "Resource deadlock avoided"), (36, "File name too long"), (37, "No locks available"),
  (38, "Function not implemented"), (39, "Directory not empty"),
  (40, "Too many levels of symbolic links"), (42, "No message of desired type"),
  (43, "Identifier removed"), (44, "Channel number out of range"),
  (45, "Level 2 not synchronized"), (46, "Level 3 halted"), (47, "Level 3 reset"),
  (48, "Link number out of range"), (49, "Protocol driver not attached"),
  (50, "No CSI structure available"), (51, "Level 2 halted"), (52, "Invalid exchange"),
  (53, "Invalid request descriptor"), (54, "Exchange full"), (55, "No anode"),
  (56, "Invalid request code"), (57, "Invalid slot"), (59, "Bad font file format"),
  (60, "Device not a stream"), (61, "No data available"), (62, "Timer expired"),
  (63, "Out of streams resources"), (64, "Machine is not on the network"),
  (65, "Package not installed"), (66, "Object is remote"), (67, "Link has been severed"),
  (68, "Advertise error"), (69, "Srmount error"), (70, "Communication error on send"),
  (71, "Protocol error"), (72, "Multihop attempted"), (73, "RFS specific error"),
  (74, "Bad message"), (75, "Value too large for defined data type"),
  (76, "Name not unique on network"), (77, "File descriptor in bad state"),
  (78, "Remote address changed"), (79, "Can not access a needed shared library"),
  (80, "Accessing a corrupted shared library"), (81, ".lib section in a.out corrupted"),
  (82, "Attempting to link in too many shared libraries"),
  (83, "Cannot exec a shared library directly"),
  (84, "Invalid or incomplete multibyte or wide character"),
  (85, "Interrupted system call should be restarted"), (86, "Streams pipe error"),
  (87, "Too many users"), (88, "Socket operation on non-socket"),
  (89, "Destination address required"), (90, "Message too long"),
  (91, "Protocol wrong type for socket"), (92, "Protocol not available"),
  (93, "Protocol not supported"), (94, "Socket type not supported"),
  (95, "Operation not supported"), (96, "Protocol family not supported"),
  (97, "Address family not supported by protocol"), (98, "Address already in use"),
  (99, "Cannot assign requested address"), (100, "Network is down"),
  (101, "Network is unreachable"), (102, "Network dropped connection on reset"),
  (103, "Software caused connection abort"), (104, "Connection reset by peer"),
  (105, "No buffer space available"), (106, "Transport endpoint is already connected"),
  (107, "Transport endpoint is not connected"),
  (108, "Cannot send after transport endpoint shutdown"),
  (109, "Too many references: cannot splice"), (110, "Connection timed out"),
  (111, "Connection refused"), (112, "Host is down"), (113, "No route to host"),
  (114, "Operation already in progress"), (115, "Operation now in progress"),
  (116, "Stale file handle"), (117, "Structure needs cleaning"),
  (118, "Not a XENIX named type file"), (119, "No XENIX semaphores available"),
  (120, "Is a named type file"), (121, "Remote I/O error"), (122, "Disk quota exceeded"),
  (123, "No medium found"), (124, "Wrong medium type"), (125, "Operation canceled"),
  (126, "Required key not available"), (127, "Key has expired"), (128, "Key has been revoked"),
  (129, "Key was rejected by service"), (130, "Owner died"), (131, "State not recoverable"),
  (132, "Operation not possible due to RF-kill"), (133, "Memory page has hardware error")]

def kind : SystemError → Kind
  | number n => (numberKinds.lookup n).getD .uncategorized
  | bare k => k
  | described k _ => k

/-- The failure as text; a number is shown behind its text. -/
def message : SystemError → String
  | number n =>
    let text := (numberTexts.lookup n).getD ("Unknown error " ++ Decimal.text n)
    text ++ " (os error " ++ Decimal.text n ++ ")"
  | bare k => k.text
  | described _ text => text

/-! ## The failures that file operations meet -/

def noEntry : SystemError :=
  .number 2

def accessDenied : SystemError :=
  .number 13

/-- A special entry that cannot be replaced. -/
def busy : SystemError :=
  .number 16

def entryExists : SystemError :=
  .number 17

/-- Something on the way is no directory. -/
def notDirectory : SystemError :=
  .number 20

def isDirectory : SystemError :=
  .number 21

/-- A name is longer than the system allows. -/
def nameTooLong : SystemError :=
  .number 36

def tooManyLinks : SystemError :=
  .number 40

/-- A path that the system cannot be given at all. -/
def nulInPath : SystemError :=
  .described .invalidInput "file name contained an unexpected NUL byte"

def notText : SystemError :=
  .described .invalidData "stream did not contain valid UTF-8"

end SystemError

end HostInventory
