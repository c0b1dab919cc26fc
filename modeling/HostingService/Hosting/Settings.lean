import HostingService.Text.Uuid
import HostingService.Text.Url
import HostingService.Storage.Disk

/-! Settings of the service, the errors its code raises, and the third-party
code it calls: the `tarfile` module and the Unicode tables behind `str`. -/

namespace HostingService

open Text Storage

/-- What `tarfile` may raise. -/
inductive LibraryError where
  | tarError
  | eofError
  | zlibError
  | osError
  deriving DecidableEq

inductive Error where
  | hostingError (message : PyStr) (status : Nat) (code : String)
  | extractError (message : PyStr)
  | library (error : LibraryError)
  | fileNotFound (message : PyStr)
  | isADirectory
  | osError
  /-- Any other exception of the storage client. -/
  | clientError
  | valueError (message : PyStr)
  | artifactTooLarge (message : PyStr)
  | runtimeError (message : PyStr)
  | http404 (message : PyStr)
  | integrityError
  | databaseError
  | doesNotExist
  deriving DecidableEq

/-- Caught by `except ExtractError`. -/
def Error.isExtractError : Error → Bool
  | .extractError _ => true
  | _ => false

/-- Caught by `except OSError`. -/
def Error.isOSError : Error → Bool
  | .fileNotFound _ | .isADirectory | .osError | .library .osError => true
  | _ => false

/-- How the storage backend turns a name away: a name that the operating system does not
take, one with a NUL, or any other one. -/
inductive NameRefusal where
  | osError
  | valueError
  | clientError
  deriving DecidableEq

def NameRefusal.error : NameRefusal → Error
  | .osError => .osError
  | .valueError => .valueError []
  | .clientError => .clientError

theorem NameRefusal.not_extractError (refusal : NameRefusal) :
    refusal.error.isExtractError = false := by
  cases refusal <;> rfl

inductive HostingBackend where
  | filesystem
  | s3
  deriving DecidableEq

/-- The settings that are read, and the names that the storage they configure does not take. -/
structure Settings where
  hostingBackend : HostingBackend
  storageRefuses : PyStr → Option NameRefusal
  hostingKeyPrefix : PyStr
  hostingDebugOpen : Bool
  hostingMaxAppsPerCompany : Int
  hostingMaxDeploymentsPerApp : Int
  hostingMaxUploadBytes : Nat
  hostingMaxExtractFiles : Int
  hostingMaxExtractBytes : Nat
  hostingMaxExtractFileBytes : Nat
  hostingPreviewTtlDays : Int
  hostingServeCacheTtlSeconds : Int

/-- The settings without any environment variable. -/
def defaultSettings : Settings where
  hostingBackend := .filesystem
  storageRefuses _ := none
  hostingKeyPrefix := lit "hosting"
  hostingDebugOpen := false
  hostingMaxAppsPerCompany := 5
  hostingMaxDeploymentsPerApp := 20
  hostingMaxUploadBytes := 100 * 1024 ^ 2
  hostingMaxExtractFiles := 5000
  hostingMaxExtractBytes := 500 * 1024 ^ 2
  hostingMaxExtractFileBytes := 100 * 1024 ^ 2
  hostingPreviewTtlDays := 7
  hostingServeCacheTtlSeconds := 45

/-- A file object: the results of its `read` calls, and the error of the next one.
Without an error the next read is empty. -/
structure Stream (Failure : Type) where
  chunks : List Bytes
  failure : Option Failure

/-- A member of an archive; `extractfile` gives no stream for what is not a file. -/
structure TarMember where
  name : PyStr
  isfile : Bool
  size : Nat
  extractfile : Except LibraryError (Option (Stream LibraryError))

structure TarFile where
  getmembers : Except LibraryError (List TarMember)

/-- Code outside the repository: `tarfile.open`, the Unicode tables, `repr`, and the error of
Django's `FileResponse` for an open file and the path that its type is guessed from. -/
structure Library where
  tarOpen : Bytes → Except LibraryError TarFile
  tables : Unicode
  reprStr : PyStr → PyStr
  headerRefusal : PyStr → PyStr → Option PyStr

def Library.lower (library : Library) : PyStr → PyStr := library.tables.lower

/-- A library that knows the members of one archive and ASCII only, and takes every header. -/
def Library.knowing (archive : Bytes) (members : List TarMember) : Library where
  tarOpen data := if data = archive then .ok ⟨.ok members⟩ else .error .tarError
  tables := asciiTables
  reprStr text := lit "'" ++ text ++ lit "'"
  headerRefusal _ _ := none

/-- The decimal text of a number. -/
def digits (number : Int) : PyStr := lit (toString number)

theorem digits_decimal (number : Nat) {c : Nat} (member : c ∈ digits number) :
    0x30 ≤ c ∧ c ≤ 0x39 := by
  rw [digits, lit_eq] at member
  obtain ⟨char, listed, rfl⟩ := List.mem_map.mp member
  have text : (toString (number : Int)).toList = Nat.toDigits 10 number := Nat.toList_repr
  rw [text] at listed
  have digit := Nat.isDigit_of_mem_toDigits (by decide) (by decide) listed
  simp only [Char.isDigit, Bool.and_eq_true, decide_eq_true_eq, ge_iff_le] at digit
  exact digit

theorem digits_ne_nil (number : Nat) : digits number ≠ [] := by
  have text : (toString (number : Int)).toList = Nat.toDigits 10 number := Nat.toList_repr
  rw [digits, lit_eq, text]
  exact mt List.map_eq_nil_iff.mp Nat.toDigits_ne_nil

end HostingService
