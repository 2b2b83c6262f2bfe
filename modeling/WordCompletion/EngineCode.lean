/-! # Result codes of the engine

The store's engine reports how a call ended by a number of 32 bits. Its lowest byte is the primary code
and the rest is a detail, zero when there is none. The table gives the descriptions; a number that it
does not list is unknown, and so is every negative one.
-/

namespace WordCompletion

/-- A result code of the engine. -/
structure EngineCode where
  value : Int32
deriving DecidableEq, Repr

namespace EngineCode

/-- The descriptions of the result codes by primary code and detail. -/
def descriptions : List ((Nat × Nat) × String) := [
    ((0, 0), "Successful result"),
    ((1, 0), "SQL error or missing database"),
    ((1, 1), "SQLITE_ERROR_MISSING_COLLSEQ"),
    ((1, 2), "SQLITE_ERROR_RETRY"),
    ((1, 3), "SQLITE_ERROR_SNAPSHOT"),
    ((2, 0), "Internal logic error in SQLite"),
    ((3, 0), "Access permission denied"),
    ((4, 0), "Callback routine requested an abort"),
    ((4, 2), "Transaction was rolled back"),
    ((5, 0), "The database file is locked"),
    ((5, 1), "Another process is recovering a WAL mode database file"),
    ((5, 2),
      "Cannot promote read transaction to write transaction because of writes by another connection"),
    ((5, 3), "SQLITE_BUSY_TIMEOUT"),
    ((6, 0), "A table in the database is locked"),
    ((6, 1), "Locking conflict due to another connection with a shared cache"),
    ((6, 2), "SQLITE_LOCKED_VTAB"),
    ((7, 0), "A malloc() failed"),
    ((8, 0), "Attempt to write a readonly database"),
    ((8, 1), "WAL mode database file needs recovery (requires write access)"),
    ((8, 2), "Shared-memory file associated with WAL mode database is read-only"),
    ((8, 3), "Database has hot journal that must be rolled back (requires write access)"),
    ((8, 4), "Database cannot be modified because database file has moved"),
    ((8, 5), "SQLITE_READONLY_CANTINIT"),
    ((8, 6), "SQLITE_READONLY_DIRECTORY"),
    ((9, 0), "Operation terminated by sqlite3_interrupt()"),
    ((10, 0), "Some kind of disk I/O error occurred"),
    ((10, 1), "Error reading from disk"),
    ((10, 2), "Unable to obtain number of requested bytes (file truncated?)"),
    ((10, 3), "Error writing to disk"),
    ((10, 4), "Error flushing data to persistent storage (fsync)"),
    ((10, 5), "Error calling fsync on a directory"),
    ((10, 6), "Error attempting to truncate file"),
    ((10, 7), "Error invoking fstat to get file metadata"),
    ((10, 8), "I/O error within xUnlock of a VFS object"),
    ((10, 9), "I/O error within xLock of a VFS object (trying to obtain a read lock)"),
    ((10, 10), "I/O error within xDelete of a VFS object"),
    ((10, 11), "SQLITE_IOERR_BLOCKED"),
    ((10, 12), "Out of memory in I/O layer"),
    ((10, 13), "I/O error within xAccess of a VFS object"),
    ((10, 14), "I/O error within then xCheckReservedLock method"),
    ((10, 15), "I/O error in the advisory file locking layer"),
    ((10, 16), "I/O error within the xClose method"),
    ((10, 17), "SQLITE_IOERR_DIR_CLOSE"),
    ((10, 18), "I/O error within the xShmMap method (trying to open a new shared-memory segment)"),
    ((10, 19),
      "I/O error within the xShmMap method (trying to resize an existing shared-memory segment)"),
    ((10, 20), "SQLITE_IOERR_SHMLOCK"),
    ((10, 21),
      "I/O error within the xShmMap method (trying to map a shared-memory segment into process address space)"),
    ((10, 22), "I/O error within the xRead or xWrite (trying to seek within a file)"),
    ((10, 23), "File being deleted does not exist"),
    ((10, 24),
      "I/O error while trying to map or unmap part of the database file into process address space"),
    ((10, 25), "VFS is unable to determine a suitable directory for temporary files"),
    ((10, 26), "cygwin_conv_path() system call failed"),
    ((10, 27), "SQLITE_IOERR_VNODE"),
    ((10, 28), "SQLITE_IOERR_AUTH"),
    ((10, 29), "SQLITE_IOERR_BEGIN_ATOMIC"),
    ((10, 30), "SQLITE_IOERR_COMMIT_ATOMIC"),
    ((10, 31), "SQLITE_IOERR_ROLLBACK_ATOMIC"),
    ((10, 32), "SQLITE_IOERR_DATA"),
    ((10, 33), "SQLITE_IOERR_CORRUPTFS"),
    ((10, 34), "SQLITE_IOERR_IN_PAGE"),
    ((11, 0), "The database disk image is malformed"),
    ((11, 1), "Content in the virtual table is corrupt"),
    ((11, 2), "SQLITE_CORRUPT_SEQUENCE"),
    ((11, 3), "SQLITE_CORRUPT_INDEX"),
    ((12, 0), "Unknown opcode in sqlite3_file_control()"),
    ((13, 0), "Insertion failed because database is full"),
    ((14, 0), "Unable to open the database file"),
    ((14, 1), "SQLITE_CANTOPEN_NOTEMPDIR"),
    ((14, 2), "Attempted to open directory as file"),
    ((14, 3), "Unable to convert filename into full pathname"),
    ((14, 4), "cygwin_conv_path() system call failed"),
    ((14, 6), "SQLITE_CANTOPEN_SYMLINK"),
    ((15, 0), "Database lock protocol error"),
    ((16, 0), "Database is empty"),
    ((17, 0), "The database schema changed"),
    ((18, 0), "String or BLOB exceeds size limit"),
    ((19, 0), "Abort due to constraint violation"),
    ((19, 1), "A CHECK constraint failed"),
    ((19, 2), "Commit hook caused rollback"),
    ((19, 3), "Foreign key constraint failed"),
    ((19, 4), "Error returned from extension function"),
    ((19, 5), "A NOT NULL constraint failed"),
    ((19, 6), "A PRIMARY KEY constraint failed"),
    ((19, 7), "A RAISE function within a trigger fired"),
    ((19, 8), "A UNIQUE constraint failed"),
    ((19, 9), "An application-defined virtual table error occurred"),
    ((19, 10), "A non-unique rowid occurred"),
    ((19, 11), "SQLITE_CONSTRAINT_PINNED"),
    ((19, 12), "SQLITE_CONSTRAINT_DATATYPE"),
    ((20, 0), "Data type mismatch"),
    ((21, 0), "Library used incorrectly"),
    ((22, 0), "Uses OS features not supported on host"),
    ((23, 0), "Authorization denied"),
    ((23, 1), "SQLITE_AUTH_USER"),
    ((24, 0), "Auxiliary database format error"),
    ((25, 0), "2nd parameter to sqlite3_bind out of range"),
    ((26, 0), "File opened that is not a database file"),
    ((27, 0), "Notifications from sqlite3_log()"),
    ((27, 1), "A WAL mode database file was recovered"),
    ((27, 2), "Hot journal was rolled back"),
    ((28, 0), "Warnings from sqlite3_log()"),
    ((28, 1), "Automatic indexing used - database might benefit from additional indexes"),
    ((100, 0), "sqlite3_step() has another row ready"),
    ((101, 0), "sqlite3_step() has finished executing")]

/-- The description of a result code. -/
def describe (code : EngineCode) : String :=
  let found := match code.value.toInt with
    | .ofNat value => descriptions.lookup (value % 256, value / 256)
    | .negSucc _ => none
  found.getD "Unknown error code"

/-- A statement failed for a reason that has a text of its own. -/
def failed : EngineCode := ⟨1⟩

end EngineCode

end WordCompletion
