import HostingService.Hosting.Models
import Mathlib.Data.List.Sort

/-! Deployment artifact storage helpers. -/

namespace HostingService

open Program Text Storage

abbrev StorageProg := Prog StorageCall Error

def isS3Backend (settings : Settings) : Bool := settings.hostingBackend = .s3

/-- How the configured storage backend answers. -/
def storageBackend (settings : Settings) : Backend Error where
  folders := !isS3Backend settings
  missing key := .fileNotFound (lit "File does not exist: " ++ key)
  directory := .isADirectory
  misplaced := .osError
  refuses key := (settings.storageRefuses key).map NameRefusal.error

def buildStorageKey (settings : Settings) (relative : PyStr) : PyStr :=
  let root := stripSlash (strip settings.hostingKeyPrefix)
  let relative := stripSlash (strip relative)
  if root = [] then relative else root ++ slash :: relative

def artifactKey (settings : Settings) (deployment : Deployment) : PyStr :=
  buildStorageKey settings (deployment.storagePrefix ++ lit "artifact.tar.gz")

def extractedPrefix (storagePrefix : PyStr) : PyStr :=
  rstripSlash storagePrefix ++ lit "/extracted/"

def extractedFileKey (settings : Settings) (deployment : Deployment) (relativePath : PyStr) :
    PyStr :=
  buildStorageKey settings (extractedPrefix deployment.storagePrefix ++ lstripSlash relativePath)

/-- `target.exists()`: `False` also when the look fails. -/
def targetExists (key : PyStr) : StorageProg Bool :=
  Prog.tryCatch (.perform (.hasKey key)) fun _ => pure false

/-- The files are removed in descending order of their path parts. -/
def deleteFilesystemTree (normalizedKey : PyStr) : StorageProg Unit := do
  let found ← targetExists normalizedKey
  .when found do
    let paths ← .perform (.walk normalizedKey)
    .forEach (fun rel => .perform (.delete (normalizedKey ++ slash :: rel)))
      (paths.insertionSort fun first second => segments second ≤ segments first)

/-- One level of the S3 clean-up: the files of a folder, then its sub-folders. -/
def deleteListing (root : PyStr) (deleteFolder : PyStr → StorageProg Unit) : StorageProg Unit :=
  Prog.tryCatch
    (do
      let (dirs, files) ← .perform (.listdir root)
      .forEach (fun name => .perform (.delete (root ++ slash :: name))) files
      .forEach deleteFolder dirs)
    fun _ => pure ()

/-- `f'{storage_prefix.rstrip("/")}/extracted/{name}'` -/
def nestedPrefix (storagePrefix name : PyStr) : PyStr :=
  rstripSlash storagePrefix ++ lit "/extracted/" ++ name

/-- `delete_extracted_prefix` on S3, to the given depth. Every recursion adds
`/extracted/` once more, so a folder is cleaned at its own `extracted/`. -/
def deleteExtractedListing (settings : Settings) : Nat → PyStr → StorageProg Unit
  | 0, _ => pure ()
  | depth + 1, storagePrefix =>
    deleteListing (buildStorageKey settings (extractedPrefix storagePrefix)) fun name =>
      deleteExtractedListing settings depth (nestedPrefix storagePrefix name)

def deleteExtractedPrefix (settings : Settings) (storagePrefix : PyStr) : StorageProg Unit :=
  if isS3Backend settings then do
    let depth ← .perform .longestKey
    deleteExtractedListing settings (depth + 1) storagePrefix
  else deleteFilesystemTree (buildStorageKey settings (extractedPrefix storagePrefix))

/-- `None` for any `OSError` of the storage. -/
def openExtractedFile (settings : Settings) (deployment : Deployment) (relativePath : PyStr) :
    StorageProg (Option Bytes) :=
  Prog.tryCatch
    (do return some (← .perform (.read (extractedFileKey settings deployment relativePath))))
    fun error => if error.isOSError then return none else throw error

def extractedIndexExists (settings : Settings) (deployment : Deployment) : StorageProg Bool :=
  .perform (.hasKey (extractedFileKey settings deployment (lit "index.html")))

/-- The chunks up to the first empty one; `beyond` once they are over the limit. -/
def readUpTo (limit : Nat) (beyond : Error) (failure : Option Error) :
    List Bytes → Bytes → Except Error Bytes
  | [], content => failure.elim (.ok content) .error
  | chunk :: chunks, content =>
    if chunk = [] then .ok content
    else if (content ++ chunk).length > limit then .error beyond
    else readUpTo limit beyond failure chunks (content ++ chunk)

/-- The loop of `save_artifact` that fills the temporary file. -/
def spool (maxBytes : Nat) (fileobj : Stream Error) : Except Error Bytes :=
  readUpTo maxBytes
    (.artifactTooLarge
      (lit "Artifact exceeds maximum upload size (" ++ digits maxBytes ++ lit " bytes)."))
    fileobj.failure fileobj.chunks []

/-- `if exists(key): delete(key)`, then `save(key, content)`. -/
def replaceFile (key : PyStr) (content : Bytes) : StorageProg Unit := do
  let stored ← .perform (.hasKey key)
  .when stored (.perform (.delete key))
  .perform (.save key content)

def saveArtifact (key : PyStr) (fileobj : Stream Error) (maxBytes : Nat) : StorageProg Nat := do
  let content ← .ofExcept (spool maxBytes fileobj)
  replaceFile key content
  return content.length

/-- `delete_artifact_prefix` on S3, to the given depth. -/
def deleteArtifactListing (settings : Settings) : Nat → PyStr → StorageProg Unit
  | 0, _ => pure ()
  | depth + 1, root =>
    deleteListing (buildStorageKey settings root) fun name =>
      deleteArtifactListing settings depth (rstripSlash root ++ slash :: name)

def deleteArtifactPrefix (settings : Settings) (root : PyStr) : StorageProg Unit :=
  if isS3Backend settings then do
    let depth ← .perform .longestKey
    deleteArtifactListing settings (depth + 1) root
  else pure ()

end HostingService
