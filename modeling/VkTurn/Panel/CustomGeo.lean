import Mathlib.Data.List.DropRight
import Mathlib.Logic.Function.Basic
import VkTurn.Store.Transaction

/-! # Custom geo resources

`CustomGeoService` keeps rows for geo files and downloads the files into Xray's folder.  `Create`
and `Update` check a request, download its file into place and write its row.

A file is its bytes: modification times go into the header of a request and nowhere else.  Every
step that the machine or the network decides is an argument here.
-/

namespace VkTurn.Panel

open VkTurn.Store

/-! ## Rows and files -/

/-- The columns that are not GORM's own times. -/
structure CustomGeoResource where
  id : Int
  geoType : String
  geoAlias : String
  url : String
  localPath : String := ""
  lastUpdatedAt : Int := 0
  lastModified : String := ""
  deriving DecidableEq

/-- `id` and the index `idx_custom_geo_type_alias`. -/
def UniqueResources (rows : List CustomGeoResource) : Prop :=
  (rows.map (·.id)).Nodup ∧ (rows.map fun row => (row.geoType, row.geoAlias)).Nodup

instance : DecidablePred UniqueResources := fun _ => inferInstanceAs (Decidable (_ ∧ _))

abbrev GeoFile := List UInt8

/-- The files by their real paths. -/
abbrev GeoFiles := String → Option GeoFile

structure GeoStore where
  rows : Table CustomGeoResource UniqueResources
  files : GeoFiles

/-! ## What a call meets -/

/-- The functions of `path/filepath`; what they give for the links on the disk. -/
structure PathFunctions where
  abs : String → Except String String
  evalSymlinks : String → Option String
  dir : String → String
  base : String → String
  join : String → String → String

namespace PathFunctions

variable (paths : PathFunctions)

def resolveDir (path : String) : String :=
  match paths.evalSymlinks (paths.dir path) with
  | some resolved => paths.join resolved (paths.base path)
  | none => path

/-- Where a path leads when the links of its directory are followed. -/
def realPath (path : String) : Except String String := (paths.abs path).map paths.resolveDir

end PathFunctions

/-- A path that was followed to its end leads to itself. -/
structure FilePaths extends PathFunctions where
  settled : ∀ path real, toPathFunctions.realPath path = .ok real →
    toPathFunctions.realPath real = .ok real

structure ParsedURL where
  scheme : String
  host : String
  hostname : String
  /-- The URL put together again from its components. -/
  clean : String

structure GeoResponse where
  status : Nat
  lastModified : String
  body : GeoFile
  copied : Except String Unit

/-- What one `downloadToPathOnce` meets. -/
structure DownloadAttempt where
  checkSSRF : String → Except String Unit
  response : Except String GeoResponse
  dirMade : Except String Unit
  created : Except String Unit
  closed : Except String Unit
  renamed : Except String Unit
  /-- The temporary file can be removed. -/
  discards : Bool

structure GeoSite where
  paths : FilePaths
  binFolder : String
  parseURL : String → Option ParsedURL
  parsesTime : String → Bool
  now : Int
  nextID : Int
  checkSSRF : String → Except String Unit
  findFails : Bool
  countFails : Bool
  writeFails : Bool
  /-- A geo file can be removed. -/
  removes : Bool
  attempt : Bool → DownloadAttempt

/-! ## Checks -/

def customGeoTypeGeosite : String := "geosite"
def customGeoTypeGeoip : String := "geoip"
def minDatBytes : Nat := 64

def reservedCustomAliases : List String :=
  ["geoip", "geosite", "geoip_ir", "geosite_ir", "geoip_ru", "geosite_ru"]

def normalizeAliasKey (geoAlias : String) : String :=
  String.ofList (geoAlias.toList.map fun char => if char = '-' then '_' else char.toLower)

def isAliasChar (char : Char) : Bool :=
  ('a' ≤ char ∧ char ≤ 'z') ∨ ('0' ≤ char ∧ char ≤ '9') ∨ char = '_' ∨ char = '-'

def fileNameFor (geoType geoAlias : String) : String :=
  if geoType = customGeoTypeGeoip then "geoip_" ++ geoAlias ++ ".dat"
  else "geosite_" ++ geoAlias ++ ".dat"

def validateType (geoType : String) : Except String Unit :=
  if geoType ≠ customGeoTypeGeosite ∧ geoType ≠ customGeoTypeGeoip then
    .error "custom_geo_invalid_type"
  else .ok ()

def validateAlias (geoAlias : String) : Except String Unit :=
  if geoAlias = "" then .error "custom_geo_alias_required"
  else if ¬geoAlias.toList.all isAliasChar then .error "custom_geo_alias_pattern"
  else if normalizeAliasKey geoAlias ∈ reservedCustomAliases then .error "custom_geo_alias_reserved"
  else .ok ()

namespace GeoSite

variable (site : GeoSite)

def sanitizeURL (checkSSRF : String → Except String Unit) (raw : String) : Except String String :=
  if raw = "" then .error "custom_geo_url_required"
  else match site.parseURL raw with
    | none => .error "custom_geo_invalid_url"
    | some url =>
      if url.scheme ≠ "http" ∧ url.scheme ≠ "https" then .error "custom_geo_url_scheme"
      else if url.host = "" then .error "custom_geo_url_host"
      else (checkSSRF url.hostname).map fun _ => url.clean

def baseDir : Except String String :=
  (site.paths.abs site.binFolder).map fun base => (site.paths.evalSymlinks base).getD base

def sanitizeDestPath (destPath : String) : Except String String :=
  match do return (← site.baseDir, ← site.paths.realPath destPath) with
  | .error error => .error ("custom_geo_path_traversal: " ++ error)
  | .ok (baseDirAbs, destPathAbs) =>
    if (baseDirAbs ++ "/").toList.isPrefixOf destPathAbs.toList then .ok destPathAbs
    else .error "custom_geo_path_traversal"

def geoPath (geoType geoAlias : String) : String :=
  site.paths.join site.binFolder (fileNameFor geoType geoAlias)

def resolveDestPath (row : CustomGeoResource) : String :=
  if row.localPath ≠ "" then row.localPath else site.geoPath row.geoType row.geoAlias

def syncAndSanitizeLocalPath (row : CustomGeoResource) : Except String CustomGeoResource :=
  (site.sanitizeDestPath (site.geoPath row.geoType row.geoAlias)).map fun safePath =>
    { row with localPath := safePath }

/-! ## Files -/

def localDatFileNeedsRepair (files : GeoFiles) (path : String) : Bool :=
  match site.sanitizeDestPath path with
  | .error _ => true
  | .ok safePath =>
    match files safePath with
    | none => true
    | some file => file.length < minDatBytes

def removeSafePathIfExists (files : GeoFiles) (path : String) : GeoFiles :=
  match site.sanitizeDestPath path with
  | .error _ => files
  | .ok safePath =>
    if (files safePath).isSome && site.removes then Function.update files safePath none else files

/-- An error of the download. -/
def asDownload {Value : Type} : Except String Value → Except String Value
  | .error error => .error ("custom_geo_download: " ++ error)
  | .ok value => .ok value

/-- What `downloadToPathOnce` asks for, and where the answer goes. -/
def ask (resourceURL destPath : String) (forceFull : Bool) :
    Except String (String × GeoResponse) := do
  let safeDestPath ← site.sanitizeDestPath destPath
  let _ ← site.sanitizeURL (site.attempt forceFull).checkSSRF resourceURL
  let response ← (site.attempt forceFull).response
  return (safeDestPath, response)

/-- What comes before the temporary file is opened: its path. -/
def stage (forceFull : Bool) (response : GeoResponse) (safeDestPath : String) :
    Except String String := do
  if response.status ≠ 200 then throw ("unexpected status " ++ toString response.status)
  (site.attempt forceFull).dirMade
  let safeTmpPath ← site.sanitizeDestPath (safeDestPath ++ ".tmp")
  (site.attempt forceFull).created
  return safeTmpPath

/-- What has to go well for the temporary file to come into place. -/
def place (forceFull : Bool) (response : GeoResponse) : Except String Unit := do
  response.copied
  (site.attempt forceFull).closed
  if response.body.length < minDatBytes then throw "file too small"
  (site.attempt forceFull).renamed

def downloadToPathOnce (resourceURL destPath : String) (forceFull : Bool) (files : GeoFiles) :
    Except String (Bool × String) × GeoFiles :=
  match asDownload (site.ask resourceURL destPath forceFull) with
  | .error error => (.error error, files)
  | .ok (safeDestPath, response) =>
    if response.status = 304 then
      if forceFull then (.error "custom_geo_download: unexpected 304 on unconditional get", files)
      else (.ok (true,
        if site.parsesTime response.lastModified then response.lastModified else ""), files)
    else match asDownload (site.stage forceFull response safeDestPath) with
      | .error error => (.error error, files)
      | .ok safeTmpPath =>
        match asDownload (site.place forceFull response) with
        | .error error =>
          (.error error, Function.update files safeTmpPath
            (if (site.attempt forceFull).discards then none else some response.body))
        | .ok () =>
          (.ok (false, response.lastModified), Function.update
            (Function.update files safeTmpPath none) safeDestPath (some response.body))

def downloadToPath (resourceURL destPath : String) (files : GeoFiles) :
    Except String (Bool × String) × GeoFiles :=
  match asDownload (site.sanitizeDestPath destPath) with
  | .error error => (.error error, files)
  | .ok safeDestPath =>
    match site.downloadToPathOnce resourceURL safeDestPath false files with
    | (.ok (true, lastModified), files) =>
      if site.localDatFileNeedsRepair files safeDestPath then
        site.downloadToPathOnce resourceURL safeDestPath true files
      else (.ok (true, lastModified), files)
    | result => result

/-! ## Create and Update -/

/-- The checks of the request itself. -/
def checkRequest (request : CustomGeoResource) : Except String CustomGeoResource := do
  validateType request.geoType
  validateAlias request.geoAlias
  let url ← site.sanitizeURL site.checkSSRF request.url
  return { request with url }

/-- The count of other rows with the type and the alias; its error is not looked at. -/
def count (rows : List CustomGeoResource) (counted : CustomGeoResource → Bool) : Nat :=
  if site.countFails then 0 else rows.countP counted

def checkCreate (rows : List CustomGeoResource) (request : CustomGeoResource) :
    Except String CustomGeoResource := do
  let request ← site.checkRequest request
  if 0 < site.count rows fun row =>
      row.geoType = request.geoType && row.geoAlias = request.geoAlias then
    throw "custom_geo_duplicate_alias"
  site.syncAndSanitizeLocalPath request

/-- The row of a request after its download. -/
def downloaded (request : CustomGeoResource) (lastModified : String) : CustomGeoResource :=
  { request with lastUpdatedAt := site.now, lastModified }

/-- `Create` of GORM, which numbers a row without an id. -/
def inserted (rows : List CustomGeoResource) (row : CustomGeoResource) : List CustomGeoResource :=
  rows ++ [{ row with id := if row.id = 0 then site.nextID else row.id }]

/-- `Updates` of GORM. -/
def updated (rows : List CustomGeoResource) (id : Int) (row : CustomGeoResource) :
    List CustomGeoResource :=
  rows.map fun other => if other.id = id then row else other

def writeRows (rows : List CustomGeoResource) :
    Except String (Table CustomGeoResource UniqueResources) :=
  if site.writeFails then .error "database error" else Table.write rows

def create (stored : GeoStore) (request : CustomGeoResource) : Except String Unit × GeoStore :=
  match site.checkCreate stored.rows.rows request with
  | .error error => (.error error, stored)
  | .ok request =>
    match site.downloadToPath request.url request.localPath stored.files with
    | (.error error, files) => (.error error, { stored with files })
    | (.ok (_, lastModified), files) =>
      let row := site.downloaded request lastModified
      match site.writeRows (site.inserted stored.rows.rows row) with
      | .error error =>
        (.error error, { stored with files := site.removeSafePathIfExists files row.localPath })
      | .ok rows => (.ok (), ⟨rows, files⟩)

/-- The current row and the request, once both are fit for an update. -/
def checkUpdate (rows : List CustomGeoResource) (id : Int) (request : CustomGeoResource) :
    Except String (CustomGeoResource × CustomGeoResource) := do
  if site.findFails then throw "database error"
  match rows.find? (·.id = id) with
  | none => throw "custom_geo_not_found"
  | some current =>
    let request ← site.checkRequest request
    if current.geoType ≠ request.geoType ∨ current.geoAlias ≠ request.geoAlias then
      if 0 < site.count rows fun row =>
          row.geoType = request.geoType && row.geoAlias = request.geoAlias && row.id ≠ id then
        throw "custom_geo_duplicate_alias"
    let request ← site.syncAndSanitizeLocalPath { request with id }
    return (current, request)

/-- The old file is removed when its path is not the new one. -/
def removeOld (files : GeoFiles) (oldPath newPath : String) : GeoFiles :=
  if oldPath ≠ newPath ∧ oldPath ≠ "" then site.removeSafePathIfExists files oldPath else files

def update (stored : GeoStore) (id : Int) (request : CustomGeoResource) :
    Except String Unit × GeoStore :=
  match site.checkUpdate stored.rows.rows id request with
  | .error error => (.error error, stored)
  | .ok (current, request) =>
    let files := site.removeOld stored.files (site.resolveDestPath current) request.localPath
    match site.downloadToPath request.url request.localPath files with
    | (.error error, files) => (.error error, { stored with files })
    | (.ok (_, lastModified), files) =>
      let row := site.downloaded request lastModified
      match site.writeRows (updated stored.rows.rows id row) with
      | .error error => (.error error, { stored with files })
      | .ok rows => (.ok (), ⟨rows, files⟩)

end GeoSite


/-! ## Changes of files -/

/-- Files after some of them are set, one after the other. -/
def applyChanges (files : GeoFiles) (changes : List (String × Option GeoFile)) : GeoFiles :=
  changes.foldl (fun files change => Function.update files change.1 change.2) files

theorem applyChanges_append {files : GeoFiles} {first second : List (String × Option GeoFile)} :
    applyChanges files (first ++ second) = applyChanges (applyChanges files first) second :=
  List.foldl_append

/-- The last change of a path is what counts. -/
theorem applyChanges_apply (files : GeoFiles) (changes : List (String × Option GeoFile))
    (path : String) :
    applyChanges files changes path = (changes.reverse.lookup path).getD (files path) := by
  induction changes generalizing files with
  | nil => rfl
  | cons change changes inductionHypothesis =>
    obtain ⟨changed, file⟩ := change
    have step : applyChanges files ((changed, file) :: changes) =
        applyChanges (Function.update files changed file) changes := rfl
    rw [step, inductionHypothesis, List.reverse_cons, List.lookup_append]
    cases changes.reverse.lookup path with
    | some file => rfl
    | none =>
      by_cases same : path = changed
      · subst same
        simp
      · have differs : (path == changed) = false := by simpa using same
        simp [List.lookup_cons, same, differs]

/-! ## What a download comes to -/

inductive DownloadOutcome where
  /-- An error before the temporary file is open. -/
  | refused
  /-- The server has nothing newer than the file in place. -/
  | kept
  | discarded (tmpPath : String) (body : GeoFile)
  | placed (tmpPath : String) (body : GeoFile)

namespace GeoSite

variable (site : GeoSite)

def outcomeOnce (resourceURL destPath : String) (forceFull : Bool) : DownloadOutcome :=
  match site.ask resourceURL destPath forceFull with
  | .error _ => .refused
  | .ok (safeDestPath, response) =>
    if response.status = 304 then if forceFull then .refused else .kept
    else match site.stage forceFull response safeDestPath with
      | .error _ => .refused
      | .ok safeTmpPath =>
        match site.place forceFull response with
        | .error _ => .discarded safeTmpPath response.body
        | .ok () => .placed safeTmpPath response.body

/-- Whether the file in place makes a second attempt after a 304. -/
def again (files : GeoFiles) (resourceURL destPath : String) : Bool :=
  match site.outcomeOnce resourceURL destPath false with
  | .kept => site.localDatFileNeedsRepair files destPath
  | _ => false

def outcome (files : GeoFiles) (resourceURL destPath : String) : DownloadOutcome :=
  site.outcomeOnce resourceURL destPath (site.again files resourceURL destPath)

/-- What is left of a temporary file that does not come into place. -/
def leftover (forceFull : Bool) (body : GeoFile) : Option GeoFile :=
  if (site.attempt forceFull).discards then none else some body

def outcomeChanges (destPath : String) (forceFull : Bool) :
    DownloadOutcome → List (String × Option GeoFile)
  | .refused => []
  | .kept => []
  | .discarded tmpPath body => [(tmpPath, site.leftover forceFull body)]
  | .placed tmpPath body => [(tmpPath, none), (destPath, some body)]

def downloadChanges (files : GeoFiles) (resourceURL destPath : String) :
    List (String × Option GeoFile) :=
  site.outcomeChanges destPath (site.again files resourceURL destPath)
    (site.outcome files resourceURL destPath)

/-- The removal of a file that is there. -/
def removalChanges (files : GeoFiles) (path : String) : List (String × Option GeoFile) :=
  match site.sanitizeDestPath path with
  | .error _ => []
  | .ok safePath =>
    if (files safePath).isSome && site.removes then [(safePath, none)] else []

def oldChanges (files : GeoFiles) (oldPath newPath : String) : List (String × Option GeoFile) :=
  if oldPath ≠ newPath ∧ oldPath ≠ "" then site.removalChanges files oldPath else []

end GeoSite

def DownloadOutcome.delivers : DownloadOutcome → Bool
  | refused => false
  | kept => true
  | discarded _ _ => false
  | placed _ _ => true

section Download

variable {site : GeoSite} {path real : String} {resourceURL : String} {files : GeoFiles}

theorem sanitizeDestPath_eq_ok : site.sanitizeDestPath path = .ok real ↔
    ∃ base, site.baseDir = .ok base ∧ site.paths.realPath path = .ok real ∧
      (base ++ "/").toList.isPrefixOf real.toList = true := by
  unfold GeoSite.sanitizeDestPath
  cases base : site.baseDir with
  | error error => simp [bind, Except.bind]
  | ok base =>
    cases follows : site.paths.realPath path with
    | error error => simp [bind, Except.bind]
    | ok other =>
      simp only [bind, Except.bind, pure, Except.pure]
      split
      · rename_i within
        constructor
        · intro same
          cases same
          exact ⟨_, rfl, rfl, within⟩
        · rintro ⟨_, same, isReal, _⟩
          cases isReal
          rfl
      · rename_i outside
        constructor
        · intro same
          cases same
        · rintro ⟨_, same, isReal, within⟩
          cases same
          cases isReal
          exact absurd within outside

/-- A path that was sanitized is its own. -/
theorem sanitizeDestPath_idem (sanitized : site.sanitizeDestPath path = .ok real) :
    site.sanitizeDestPath real = .ok real := by
  obtain ⟨base, isBase, follows, within⟩ := sanitizeDestPath_eq_ok.mp sanitized
  exact sanitizeDestPath_eq_ok.mpr ⟨base, isBase, site.paths.settled path real follows, within⟩

theorem ask_path (safe : site.sanitizeDestPath path = .ok path) {forceFull : Bool}
    {safePath : String} {response : GeoResponse}
    (asked : site.ask resourceURL path forceFull = .ok (safePath, response)) : safePath = path := by
  unfold GeoSite.ask at asked
  obtain ⟨other, isSafe, asked⟩ := bind_eq_ok.mp asked
  obtain ⟨_, _, asked⟩ := bind_eq_ok.mp asked
  obtain ⟨_, _, asked⟩ := bind_eq_ok.mp asked
  rw [safe] at isSafe
  cases isSafe
  cases asked
  rfl

/-- What an attempt gives and leaves when it comes to an outcome. -/
def Comes (site : GeoSite) (destPath : String) (forceFull : Bool) (files : GeoFiles)
    (result : Except String (Bool × String) × GeoFiles) (outcome : DownloadOutcome) : Prop :=
  result.2 = applyChanges files (site.outcomeChanges destPath forceFull outcome) ∧
    match outcome with
    | .refused => ∃ error, result.1 = .error error
    | .kept => ∃ lastModified, result.1 = .ok (true, lastModified)
    | .discarded _ _ => ∃ error, result.1 = .error error
    | .placed _ _ => ∃ lastModified, result.1 = .ok (false, lastModified)

theorem downloadToPathOnce_comes (safe : site.sanitizeDestPath path = .ok path)
    (forceFull : Bool) : Comes site path forceFull files
      (site.downloadToPathOnce resourceURL path forceFull files)
      (site.outcomeOnce resourceURL path forceFull) := by
  unfold GeoSite.downloadToPathOnce GeoSite.outcomeOnce
  cases asked : site.ask resourceURL path forceFull with
  | error error => exact ⟨rfl, _, rfl⟩
  | ok answer =>
    obtain ⟨safePath, response⟩ := answer
    have samePath := ask_path safe asked
    subst samePath
    simp only [GeoSite.asDownload]
    by_cases notModified : response.status = 304
    · cases forceFull with
      | false => exact ⟨by simp [notModified]; rfl, by simp [notModified]⟩
      | true => exact ⟨by simp [notModified]; rfl, by simp [notModified]⟩
    · simp only [if_neg notModified]
      cases staged : site.stage forceFull response safePath with
      | error error => exact ⟨rfl, _, rfl⟩
      | ok tmpPath =>
        cases placed : site.place forceFull response with
        | error error => exact ⟨rfl, _, rfl⟩
        | ok _ => exact ⟨rfl, _, rfl⟩

theorem downloadToPath_comes (safe : site.sanitizeDestPath path = .ok path) :
    Comes site path (site.again files resourceURL path) files
      (site.downloadToPath resourceURL path files) (site.outcome files resourceURL path) := by
  have first := @downloadToPathOnce_comes site path resourceURL files safe false
  have second := @downloadToPathOnce_comes site path resourceURL files safe true
  unfold GeoSite.downloadToPath GeoSite.outcome GeoSite.again
  rw [safe]
  simp only [GeoSite.asDownload]
  generalize site.downloadToPathOnce resourceURL path false files = result at first
  obtain ⟨result, after⟩ := result
  cases came : site.outcomeOnce resourceURL path false with
  | refused =>
    rw [came] at first
    obtain ⟨left, error, rfl⟩ := first
    simp only [came]
    exact ⟨left, error, rfl⟩
  | kept =>
    rw [came] at first
    obtain ⟨left, lastModified, rfl⟩ := first
    have same : after = files := left
    subst same
    by_cases repair : site.localDatFileNeedsRepair after path = true
    · simp only [repair]
      exact second
    · simp only [Bool.not_eq_true] at repair
      simp only [repair, came]
      exact ⟨rfl, lastModified, rfl⟩
  | discarded tmpPath body =>
    rw [came] at first
    obtain ⟨left, error, rfl⟩ := first
    simp only [came]
    exact ⟨left, error, rfl⟩
  | placed tmpPath body =>
    rw [came] at first
    obtain ⟨left, lastModified, rfl⟩ := first
    simp only [came]
    exact ⟨left, lastModified, rfl⟩

/-- A download that delivers returns, and no other does. -/
theorem Comes.delivers {destPath : String} {forceFull : Bool}
    {result : Except String (Bool × String) × GeoFiles} {outcome : DownloadOutcome}
    (comes : Comes site destPath forceFull files result outcome) :
    (outcome.delivers = true ∧ ∃ value, result.1 = .ok value) ∨
      (outcome.delivers = false ∧ ∃ error, result.1 = .error error) := by
  obtain ⟨_, came⟩ := comes
  cases outcome with
  | refused => exact .inr ⟨rfl, came⟩
  | kept =>
    obtain ⟨lastModified, came⟩ := came
    exact .inl ⟨rfl, _, came⟩
  | discarded tmpPath body => exact .inr ⟨rfl, came⟩
  | placed tmpPath body =>
    obtain ⟨lastModified, came⟩ := came
    exact .inl ⟨rfl, _, came⟩

theorem removeSafePathIfExists_eq : site.removeSafePathIfExists files path =
    applyChanges files (site.removalChanges files path) := by
  unfold GeoSite.removeSafePathIfExists GeoSite.removalChanges
  cases site.sanitizeDestPath path with
  | error error => rfl
  | ok safePath =>
    dsimp only
    split
    · rfl
    · rfl

theorem removalChanges_of_isSome (present : (files path).isSome = true)
    (safe : site.sanitizeDestPath path = .ok path) :
    site.removalChanges files path = if site.removes then [(path, none)] else [] := by
  unfold GeoSite.removalChanges
  rw [safe]
  simp [present]

theorem removeOld_eq {newPath : String} : site.removeOld files path newPath =
    applyChanges files (site.oldChanges files path newPath) := by
  unfold GeoSite.removeOld GeoSite.oldChanges
  split
  · exact removeSafePathIfExists_eq
  · rfl

theorem outcomeOnce_full_ne_kept : site.outcomeOnce resourceURL path true ≠ .kept := by
  unfold GeoSite.outcomeOnce
  cases site.ask resourceURL path true with
  | error error => simp
  | ok answer =>
    obtain ⟨safePath, response⟩ := answer
    dsimp only
    split
    · simp
    · cases site.stage true response safePath with
      | error error => simp
      | ok tmpPath =>
        cases site.place true response <;> simp

/-- A download that delivers leaves a file in its place. -/
theorem isSome_of_delivers (safe : site.sanitizeDestPath path = .ok path)
    (delivers : (site.outcome files resourceURL path).delivers = true) :
    (applyChanges files (site.downloadChanges files resourceURL path) path).isSome = true := by
  unfold GeoSite.downloadChanges
  cases came : site.outcome files resourceURL path with
  | refused => simp [came, DownloadOutcome.delivers] at delivers
  | discarded tmpPath body => simp [came, DownloadOutcome.delivers] at delivers
  | placed tmpPath body => simp [GeoSite.outcomeChanges, applyChanges]
  | kept =>
    -- the second attempt takes no 304, so the file needs no repair
    have noRepair : site.localDatFileNeedsRepair files path = false := by
      have notAgain := came
      unfold GeoSite.outcome at notAgain
      cases second : site.again files resourceURL path with
      | true =>
        rw [second] at notAgain
        exact absurd notAgain outcomeOnce_full_ne_kept
      | false =>
        rw [second] at notAgain
        simpa [GeoSite.again, notAgain] using second
    unfold GeoSite.localDatFileNeedsRepair at noRepair
    rw [safe] at noRepair
    simp only [GeoSite.outcomeChanges, applyChanges, List.foldl_nil]
    cases present : files path with
    | none => simp [present] at noRepair
    | some file => rfl

end Download

/-! ## Atomic calls -/

/-- A call that returns an error leaves the rows and the files of the stored resources. -/
def Atomic (site : GeoSite) (stored : GeoStore) (call : Except String Unit × GeoStore) : Prop :=
  ∀ error, call.1 = .error error → call.2.rows = stored.rows ∧
    ∀ row ∈ stored.rows.rows, ∀ path, site.paths.realPath (site.resolveDestPath row) = .ok path →
      call.2.files path = stored.files path

/-- The last change of a stored resource's file puts there what was there. -/
def Spared (site : GeoSite) (stored : GeoStore) (changes : List (String × Option GeoFile)) : Prop :=
  ∀ row ∈ stored.rows.rows, ∀ path, site.paths.realPath (site.resolveDestPath row) = .ok path →
    ∀ file, changes.reverse.lookup path = some file → file = stored.files path

namespace GeoSite

variable (site : GeoSite)

def WriteFails (rows : List CustomGeoResource) : Prop :=
  site.writeFails = true ∨ ¬UniqueResources rows

/-- The steps before the one that fails change no file of a stored resource, nor does the removal
    after a failing insert. -/
def CreateSpares (stored : GeoStore) (request : CustomGeoResource) : Prop :=
  match site.checkCreate stored.rows.rows request with
  | .error _ => True
  | .ok checked =>
    let changes := site.downloadChanges stored.files checked.url checked.localPath
    if (site.outcome stored.files checked.url checked.localPath).delivers then
      site.WriteFails (site.inserted stored.rows.rows (site.downloaded checked "")) →
        Spared site stored (changes ++ if site.removes then [(checked.localPath, none)] else [])
    else Spared site stored changes

/-- The steps before the one that fails, the removal of the old file among them, change no file of a
    stored resource. -/
def UpdateSpares (stored : GeoStore) (id : Int) (request : CustomGeoResource) : Prop :=
  match site.checkUpdate stored.rows.rows id request with
  | .error _ => True
  | .ok (current, checked) =>
    let removal := site.oldChanges stored.files (site.resolveDestPath current) checked.localPath
    let files := applyChanges stored.files removal
    let changes := removal ++ site.downloadChanges files checked.url checked.localPath
    if (site.outcome files checked.url checked.localPath).delivers then
      site.WriteFails (updated stored.rows.rows id (site.downloaded checked "")) →
        Spared site stored changes
    else Spared site stored changes

end GeoSite

section Calls

variable {site : GeoSite} {stored : GeoStore} {request checked current : CustomGeoResource}
  {id : Int}

theorem atomic_ok {after : GeoStore} : Atomic site stored (.ok (), after) := by
  intro error failed
  cases failed

/-- A failing call that makes some changes. -/
theorem atomic_error_iff {error : String} {changes : List (String × Option GeoFile)} :
    Atomic site stored (.error error, { stored with files := applyChanges stored.files changes }) ↔
      Spared site stored changes := by
  constructor
  · intro atomic row member path leads file changed
    have kept := (atomic error rfl).2 row member path leads
    simpa [applyChanges_apply, changed] using kept
  · intro spared _ _
    refine ⟨rfl, fun row member path leads => ?_⟩
    dsimp only
    rw [applyChanges_apply]
    cases changed : changes.reverse.lookup path with
    | none => rfl
    | some file => exact spared row member path leads file changed

theorem atomic_refused {error : String} : Atomic site stored (.error error, stored) :=
  fun _ _ => ⟨rfl, fun _ _ _ _ => rfl⟩

theorem uniqueResources_inserted {lastModified : String} {rows : List CustomGeoResource} :
    UniqueResources (site.inserted rows (site.downloaded checked lastModified)) ↔
      UniqueResources (site.inserted rows (site.downloaded checked "")) := by
  unfold UniqueResources GeoSite.inserted GeoSite.downloaded
  simp only [List.map_append, List.map_cons, List.map_nil]

theorem uniqueResources_updated {lastModified : String} {rows : List CustomGeoResource} :
    UniqueResources (GeoSite.updated rows id (site.downloaded checked lastModified)) ↔
      UniqueResources (GeoSite.updated rows id (site.downloaded checked "")) := by
  have sameKeys {Key : Type} (key : CustomGeoResource → Key)
      (isKey : key (site.downloaded checked lastModified) = key (site.downloaded checked "")) :
      (GeoSite.updated rows id (site.downloaded checked lastModified)).map key =
        (GeoSite.updated rows id (site.downloaded checked "")).map key := by
    unfold GeoSite.updated
    rw [List.map_map, List.map_map]
    refine List.map_congr_left fun other _ => ?_
    by_cases same : other.id = id
    · simp [same, isKey]
    · simp [same]
  unfold UniqueResources
  rw [sameKeys (·.id) rfl, sameKeys (fun row => (row.geoType, row.geoAlias)) rfl]

theorem writeRows_error {rows : List CustomGeoResource} :
    (∃ error, site.writeRows rows = .error error) ↔ site.WriteFails rows := by
  unfold GeoSite.writeRows GeoSite.WriteFails Table.write
  split
  · rename_i fails
    exact iff_of_true ⟨_, rfl⟩ (.inl fails)
  · rename_i works
    split
    · rename_i unique
      simp [works, unique]
    · rename_i clash
      exact iff_of_true ⟨_, rfl⟩ (.inr clash)

theorem synced_safe {row synced : CustomGeoResource}
    (passed : site.syncAndSanitizeLocalPath row = .ok synced) :
    site.sanitizeDestPath synced.localPath = .ok synced.localPath := by
  unfold GeoSite.syncAndSanitizeLocalPath at passed
  cases sanitized : site.sanitizeDestPath (site.geoPath row.geoType row.geoAlias) with
  | error error => simp [sanitized, Except.map] at passed
  | ok safePath =>
    rw [sanitized] at passed
    cases passed
    exact sanitizeDestPath_idem sanitized

theorem checkCreate_safe (passed : site.checkCreate stored.rows.rows request = .ok checked) :
    site.sanitizeDestPath checked.localPath = .ok checked.localPath := by
  unfold GeoSite.checkCreate at passed
  obtain ⟨own, _, passed⟩ := bind_eq_ok.mp passed
  obtain ⟨_, synced⟩ := refuse_eq_ok.mp passed
  exact synced_safe synced

theorem checkUpdate_safe
    (passed : site.checkUpdate stored.rows.rows id request = .ok (current, checked)) :
    site.sanitizeDestPath checked.localPath = .ok checked.localPath := by
  unfold GeoSite.checkUpdate at passed
  obtain ⟨_, passed⟩ := refuse_eq_ok.mp passed
  cases found : stored.rows.rows.find? (·.id = id) with
  | none => simp [found] at passed
  | some row =>
    simp only [found] at passed
    obtain ⟨own, _, passed⟩ := bind_eq_ok.mp passed
    have synced : ∃ synced, site.syncAndSanitizeLocalPath { own with id } = .ok synced ∧
        (row, synced) = (current, checked) := by
      split at passed
      · obtain ⟨_, passed⟩ := refuse_eq_ok.mp passed
        obtain ⟨synced, isSynced, same⟩ := bind_eq_ok.mp passed
        exact ⟨synced, isSynced, pure_eq_ok.mp same⟩
      · obtain ⟨synced, isSynced, same⟩ := bind_eq_ok.mp passed
        exact ⟨synced, isSynced, pure_eq_ok.mp same⟩
    obtain ⟨synced, isSynced, same⟩ := synced
    cases same
    exact synced_safe isSynced

/-- What a write of the row after a download depends on. -/
theorem writeFails_inserted {lastModified : String} {rows : List CustomGeoResource} :
    site.WriteFails (site.inserted rows (site.downloaded checked lastModified)) ↔
      site.WriteFails (site.inserted rows (site.downloaded checked "")) :=
  or_congr Iff.rfl (not_congr uniqueResources_inserted)

theorem writeFails_updated {lastModified : String} {rows : List CustomGeoResource} :
    site.WriteFails (GeoSite.updated rows id (site.downloaded checked lastModified)) ↔
      site.WriteFails (GeoSite.updated rows id (site.downloaded checked "")) :=
  or_congr Iff.rfl (not_congr uniqueResources_updated)

/-- The end of a call: the write of some rows after changes, with changes after its error. -/
theorem atomic_write_iff {rows : List CustomGeoResource} {fails : Prop}
    {after : GeoFiles} {changes : List (String × Option GeoFile)}
    (exactly : site.WriteFails rows ↔ fails) (undone : after = applyChanges stored.files changes)
    {done : Table CustomGeoResource UniqueResources → GeoStore} :
    Atomic site stored (match site.writeRows rows with
      | .error error => (.error error, { stored with files := after })
      | .ok rows => (.ok (), done rows)) ↔ (fails → Spared site stored changes) := by
  subst undone
  cases written : site.writeRows rows with
  | error error =>
    have failed : fails := exactly.mp (writeRows_error.mp ⟨error, written⟩)
    exact atomic_error_iff.trans ⟨fun spared _ => spared, fun spares => spares failed⟩
  | ok rows =>
    refine iff_of_true atomic_ok fun failed => ?_
    obtain ⟨error, failed⟩ := writeRows_error.mpr (exactly.mpr failed)
    rw [written] at failed
    cases failed

theorem create_atomic_iff :
    Atomic site stored (site.create stored request) ↔ site.CreateSpares stored request := by
  unfold GeoSite.create GeoSite.CreateSpares
  cases passed : site.checkCreate stored.rows.rows request with
  | error error => exact iff_of_true atomic_refused trivial
  | ok checked =>
    have safe := checkCreate_safe passed
    dsimp only
    have comes := @downloadToPath_comes site checked.localPath checked.url stored.files safe
    have left := comes.1
    have present := @isSome_of_delivers site checked.localPath checked.url stored.files safe
    rcases comes.delivers with ⟨delivers, value, returned⟩ | ⟨fails, error, returned⟩
    · generalize site.downloadToPath checked.url checked.localPath stored.files = call
        at left returned ⊢
      obtain ⟨result, after⟩ := call
      cases returned
      have changed : after = applyChanges stored.files
          (site.downloadChanges stored.files checked.url checked.localPath) := left
      subst changed
      simp only [delivers, if_true]
      refine atomic_write_iff writeFails_inserted ?_
      rw [applyChanges_append, removeSafePathIfExists_eq]
      exact congrArg (applyChanges _) (removalChanges_of_isSome (present delivers) safe)
    · generalize site.downloadToPath checked.url checked.localPath stored.files = call
        at left returned ⊢
      obtain ⟨result, after⟩ := call
      cases returned
      have changed : after = applyChanges stored.files
          (site.downloadChanges stored.files checked.url checked.localPath) := left
      subst changed
      rw [if_neg (by simp [fails])]
      exact atomic_error_iff

theorem update_atomic_iff :
    Atomic site stored (site.update stored id request) ↔ site.UpdateSpares stored id request := by
  unfold GeoSite.update GeoSite.UpdateSpares
  cases passed : site.checkUpdate stored.rows.rows id request with
  | error error => exact iff_of_true atomic_refused trivial
  | ok pair =>
    obtain ⟨current, checked⟩ := pair
    have safe := checkUpdate_safe passed
    dsimp only
    rw [removeOld_eq]
    have undone : applyChanges stored.files
        (site.oldChanges stored.files (site.resolveDestPath current) checked.localPath ++
          site.downloadChanges (applyChanges stored.files
            (site.oldChanges stored.files (site.resolveDestPath current) checked.localPath))
            checked.url checked.localPath) = _ := applyChanges_append
    generalize applyChanges stored.files
      (site.oldChanges stored.files (site.resolveDestPath current) checked.localPath) = files
      at undone ⊢
    have comes := @downloadToPath_comes site checked.localPath checked.url files safe
    have left := comes.1
    rcases comes.delivers with ⟨delivers, value, returned⟩ | ⟨fails, error, returned⟩
    · generalize site.downloadToPath checked.url checked.localPath files = call at left returned ⊢
      obtain ⟨result, after⟩ := call
      cases returned
      simp only [delivers, if_true]
      exact atomic_write_iff writeFails_updated (left.trans undone.symm)
    · generalize site.downloadToPath checked.url checked.localPath files = call at left returned ⊢
      obtain ⟨result, after⟩ := call
      cases returned
      have changed : after = _ := left.trans undone.symm
      subst changed
      rw [if_neg (by simp [fails])]
      exact atomic_error_iff

/-- `Create` and `Update` leave everything as it was when they fail exactly when the steps before
    the failing one spare the files of the stored resources. -/
theorem customGeo_atomic_iff :
    (Atomic site stored (site.create stored request) ↔ site.CreateSpares stored request) ∧
    (Atomic site stored (site.update stored id request) ↔ site.UpdateSpares stored id request) :=
  ⟨create_atomic_iff, update_atomic_iff⟩

end Calls

/-! A folder without links. -/

def isElementChar (char : Char) : Bool := char ≠ '/'

def plainPathFunctions : PathFunctions where
  abs path := .ok (if path.toList.head? = some '/' then path else "/x-ui/" ++ path)
  evalSymlinks := some
  dir path := String.ofList (path.toList.rdropWhile isElementChar).dropLast
  base path := String.ofList (path.toList.rtakeWhile isElementChar)
  join directory name := directory ++ "/" ++ name

/-- With no links to follow, a rooted path is put together again from its parts. -/
theorem plain_resolveDir {path : String} (rooted : '/' ∈ path.toList) :
    plainPathFunctions.resolveDir path = path := by
  have parts := @List.rdropWhile_append_rtakeWhile _ isElementChar path.toList
  have present : path.toList.rdropWhile isElementChar ≠ [] := by
    intro absent
    have free := List.rdropWhile_eq_nil_iff.mp absent '/' rooted
    simp [isElementChar] at free
  have slash : (path.toList.rdropWhile isElementChar).getLast present = '/' := by
    have stops := List.rdropWhile_last_not isElementChar path.toList present
    simpa [isElementChar] using stops
  have front := List.dropLast_append_getLast present
  rw [slash] at front
  unfold PathFunctions.resolveDir plainPathFunctions
  refine String.toList_injective ?_
  simp only [String.toList_append, String.toList_ofList]
  rw [← front] at parts
  exact parts

theorem plain_settled (path real : String) (leads : plainPathFunctions.realPath path = .ok real) :
    plainPathFunctions.realPath real = .ok real := by
  have rooted : real.toList.head? = some '/' := by
    have same : plainPathFunctions.resolveDir
        (if path.toList.head? = some '/' then path else "/x-ui/" ++ path) = real :=
      Except.ok.inj leads
    split at same
    · rename_i isRooted
      rw [plain_resolveDir (List.mem_of_head? isRooted)] at same
      rw [← same]
      exact isRooted
    · rw [plain_resolveDir (by simp [String.toList_append])] at same
      rw [← same, String.toList_append]
      rfl
  unfold PathFunctions.realPath
  have absolute : plainPathFunctions.abs real = .ok real := by
    simp [plainPathFunctions, rooted]
  rw [absolute]
  exact congrArg Except.ok (plain_resolveDir (List.mem_of_head? rooted))

def plainPaths : FilePaths := ⟨plainPathFunctions, plain_settled⟩

/-- A server that has no such file. -/
def missingAttempt : DownloadAttempt where
  checkSSRF _ := .ok ()
  response := .ok ⟨404, "", [], .ok ()⟩
  dirMade := .ok ()
  created := .ok ()
  closed := .ok ()
  renamed := .ok ()
  discards := true

def missingSite : GeoSite where
  paths := plainPaths
  binFolder := "bin"
  parseURL text := some ⟨"https", "host", "host", text⟩
  parsesTime _ := true
  now := 100
  nextID := 2
  checkSSRF _ := .ok ()
  findFails := false
  countFails := false
  writeFails := false
  removes := true
  attempt _ := missingAttempt

def oneResource : CustomGeoResource :=
  ⟨1, "geosite", "a", "https://host/a", "/x-ui/bin/geosite_a.dat", 0, ""⟩

theorem uniqueResources_one : UniqueResources [oneResource] := by simp [UniqueResources]

def oneStored : GeoStore :=
  ⟨⟨[oneResource], uniqueResources_one⟩,
    Function.update (fun _ => none) "/x-ui/bin/geosite_a.dat" (some [1, 2, 3])⟩

/-- An update that changes the alias and finds no file at the server has removed the old file. -/
theorem update_loses_file :
    (missingSite.update oneStored 1 { oneResource with geoAlias := "b" }).1 =
      .error "custom_geo_download: unexpected status 404" ∧
    oneStored.files "/x-ui/bin/geosite_a.dat" = some [1, 2, 3] ∧
    (missingSite.update oneStored 1 { oneResource with geoAlias := "b" }).2.files
      "/x-ui/bin/geosite_a.dat" = none ∧
    ¬Atomic missingSite oneStored
      (missingSite.update oneStored 1 { oneResource with geoAlias := "b" }) := by
  have lost : (missingSite.update oneStored 1 { oneResource with geoAlias := "b" }).2.files
      "/x-ui/bin/geosite_a.dat" = none := by
    decide +kernel
  have failed : (missingSite.update oneStored 1 { oneResource with geoAlias := "b" }).1 =
      .error "custom_geo_download: unexpected status 404" := by
    decide +kernel
  refine ⟨failed, rfl, lost, fun atomic => ?_⟩
  have kept := (atomic _ failed).2 oneResource (by decide) "/x-ui/bin/geosite_a.dat" (by decide)
  rw [lost] at kept
  cases kept

end VkTurn.Panel
